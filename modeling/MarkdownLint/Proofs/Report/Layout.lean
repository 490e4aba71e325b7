import MarkdownLint.Report.Html

/-!
How reports are laid out: each line is followed by a line break (`toList_joined`), and entries stand
in the order of their names (`SortedBy`). Entries with one name keep the order in which they stood,
so that the order of a report is determined by its entries.
-/
namespace MarkdownLint

/-! ## Lines -/

/-- The characters of a line and of the line break behind it. -/
def terminated (line : String) : List Char := line.toList ++ ['\n']

theorem toList_joined_cons (line : String) (lines : List String) :
    ("\n".intercalate (line :: lines) ++ "\n").toList = (line :: lines).flatMap terminated := by
  induction lines generalizing line with
  | nil =>
    show (line ++ "\n").toList = terminated line ++ []
    rw [List.append_nil, String.toList_append]
    rfl
  | cons next lines ih =>
    have hbreak : "\n".toList = ['\n'] := rfl
    have hline : (line :: next :: lines).flatMap terminated =
        line.toList ++ (['\n'] ++ (next :: lines).flatMap terminated) := by
      rw [List.flatMap_cons, terminated, List.append_assoc]
    rw [String.intercalate_cons_cons, String.append_assoc, String.append_assoc,
      String.toList_append, String.toList_append, ih, hbreak, hline]

theorem toList_joined {lines : List String} (h : lines ≠ []) :
    ("\n".intercalate lines ++ "\n").toList = lines.flatMap terminated := by
  cases lines with
  | nil => exact absurd rfl h
  | cons line lines => exact toList_joined_cons line lines

/-! ## The order of names -/

variable {α : Type}

/-- One list is another one in the order of a name that each item has; items with one name stand as
they stood before. -/
structure SortedBy (name : α → String) (given sorted : List α) : Prop where
  perm : sorted.Perm given
  ascending : sorted.Pairwise fun a b => name a ≤ name b
  stable : ∀ key, sorted.filter (name · == key) = given.filter (name · == key)

/-- Whether an item may stand before another one. -/
def mayPrecede (name : α → String) (a b : α) : Bool := !(name b < name a)

theorem mayPrecede_iff {name : α → String} {a b : α} :
    mayPrecede name a b = true ↔ name a ≤ name b := by
  rw [mayPrecede, Bool.not_eq_true', decide_eq_false_iff_not]
  exact Iff.rfl

theorem mayPrecede_trans (name : α → String) (a b c : α) (hab : mayPrecede name a b = true)
    (hbc : mayPrecede name b c = true) : mayPrecede name a c = true := by
  rw [mayPrecede_iff] at hab hbc ⊢
  exact String.le_trans hab hbc

theorem mayPrecede_total (name : α → String) (a b : α) :
    (mayPrecede name a b || mayPrecede name b a) = true := by
  rw [Bool.or_eq_true, mayPrecede_iff, mayPrecede_iff]
  exact String.le_total _ _

theorem sortedBy_mergeSort (name : α → String) (items : List α) :
    SortedBy name items (items.mergeSort (mayPrecede name)) where
  perm := List.mergeSort_perm items _
  ascending :=
    (List.pairwise_mergeSort (mayPrecede_trans name) (mayPrecede_total name) items).imp
      mayPrecede_iff.mp
  stable := by
    intro key
    have hperm := (List.mergeSort_perm items (mayPrecede name)).filter (name · == key)
    -- items of one name already stand in order, so that sorting keeps them as they stand
    have hruns : (items.filter (name · == key)).Pairwise
        fun a b => mayPrecede name a b = true := by
      rw [List.pairwise_iff_forall_sublist]
      intro a b hab
      have hname : ∀ c ∈ [a, b], name c = key := by
        intro c hc
        simpa using (List.mem_filter.mp (hab.subset hc)).2
      have heq : name a = name b := (hname a (by simp)).trans (hname b (by simp)).symm
      exact mayPrecede_iff.mpr (heq ▸ String.le_refl (name a))
    have hsub : (items.filter (name · == key)).Sublist
        ((items.mergeSort (mayPrecede name)).filter (name · == key)) := by
      have h := (List.sublist_mergeSort (mayPrecede_trans name) (mayPrecede_total name) hruns
        List.filter_sublist).filter (name · == key)
      rwa [List.filter_filter, List.filter_congr fun a _ => Bool.and_self _] at h
    exact (hsub.eq_of_length hperm.length_eq.symm).symm

/-- Items that their names tell apart come into the same order however they stood before. -/
theorem mergeSort_eq_of_perm (name : α → String) {items items' : List α}
    (hperm : items.Perm items') (hname : ∀ a ∈ items, ∀ b ∈ items, name a = name b → a = b) :
    items.mergeSort (mayPrecede name) = items'.mergeSort (mayPrecede name) := by
  have hsorted := sortedBy_mergeSort name items
  have hsorted' := sortedBy_mergeSort name items'
  refine List.Perm.eq_of_pairwise ?_ hsorted.ascending hsorted'.ascending
    (hsorted.perm.trans (hperm.trans hsorted'.perm.symm))
  intro a b ha hb hab hba
  exact hname a (hsorted.perm.mem_iff.mp ha) b (hperm.mem_iff.mpr (hsorted'.perm.mem_iff.mp hb))
    (String.le_antisymm hab hba)

theorem Checkstyle.sortedBy_sortFiles (files : List Checkstyle.FileItems) :
    SortedBy (·.name) files (Checkstyle.sortFiles files) :=
  sortedBy_mergeSort (·.name) files

end MarkdownLint
