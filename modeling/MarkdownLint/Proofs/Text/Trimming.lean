import MarkdownLint.Text.Blank
import Mathlib.Data.List.DropRight

/-!
Trimming. What is left of a text begins and ends with something that is not blank, and what stood
around it is blank (`trims_trim`), and there is only one such text (`Trims.trim_eq`); nothing is
left exactly of a blank text (`trim_eq_nil_iff`).
-/
namespace MarkdownLint.Text

/-- A text is another one without the blanks around it. -/
structure Trims (cs trimmed : List Char) : Prop where
  around : ∃ before after, cs = before ++ trimmed ++ after ∧ (∀ c ∈ before, isBlank c = true) ∧
    ∀ c ∈ after, isBlank c = true
  first : ∀ c ∈ trimmed.head?, isBlank c = false
  last : ∀ c ∈ trimmed.getLast?, isBlank c = false

variable {p : Char → Bool} {cs : List Char}

/-- What is removed from the end satisfies the condition. -/
theorem exists_dropEndWhile_append (p : Char → Bool) (cs : List Char) :
    ∃ after, cs = dropEndWhile p cs ++ after ∧ ∀ c ∈ after, p c = true := by
  refine ⟨(cs.reverse.takeWhile p).reverse, ?_, ?_⟩
  · rw [dropEndWhile, ← List.reverse_append, List.takeWhile_append_dropWhile, List.reverse_reverse]
  · intro c hc
    exact List.mem_takeWhile_imp (List.mem_reverse.mp hc)

/-- What is left begins with something that is not removed. -/
theorem head?_dropWhile {c : Char} (h : c ∈ (cs.dropWhile p).head?) : p c = false := by
  have hne : cs.dropWhile p ≠ [] := by
    intro hnil
    simp [hnil] at h
  rw [List.head?_eq_some_head hne, Option.mem_some] at h
  rw [← h]
  exact List.head_dropWhile_not p hne

theorem getLast?_dropEndWhile {c : Char} (h : c ∈ (dropEndWhile p cs).getLast?) :
    p c = false := by
  rw [dropEndWhile, List.getLast?_reverse] at h
  exact head?_dropWhile h

theorem trims_trim (cs : List Char) : Trims cs (trim cs) := by
  obtain ⟨after, hafter, hblank⟩ := exists_dropEndWhile_append isBlank (cs.dropWhile isBlank)
  rw [← trim] at hafter
  constructor
  case around =>
    refine ⟨cs.takeWhile isBlank, after, ?_, fun c => List.mem_takeWhile_imp, hblank⟩
    rw [List.append_assoc, ← hafter, List.takeWhile_append_dropWhile]
  case first =>
    intro c hc
    have hfirst : c ∈ (cs.dropWhile isBlank).head? := by
      rw [hafter, List.head?_append, hc]
      rfl
    exact head?_dropWhile hfirst
  case last =>
    intro c hc
    exact getLast?_dropEndWhile hc

theorem trim_eq_nil_iff : trim cs = [] ↔ ∀ c ∈ cs, isBlank c = true := by
  constructor
  · intro h c hc
    obtain ⟨before, after, hcs, hbefore, hafter⟩ := (trims_trim cs).around
    rw [h, List.append_nil] at hcs
    rw [hcs, List.mem_append] at hc
    rcases hc with hc | hc
    · exact hbefore c hc
    · exact hafter c hc
  · intro h
    rw [trim, List.dropWhile_eq_nil_iff.mpr h]
    rfl

theorem dropWhile_append_eq {before cs : List Char} (hbefore : ∀ c ∈ before, p c = true)
    (hfirst : ∀ c ∈ cs.head?, p c = false) : (before ++ cs).dropWhile p = cs := by
  rw [List.dropWhile_append_of_pos hbefore]
  cases cs with
  | nil => rfl
  | cons c cs => exact List.dropWhile_cons_of_neg (by simp [hfirst c rfl])

theorem dropEndWhile_append_eq {cs after : List Char} (hlast : ∀ c ∈ cs.getLast?, p c = false)
    (hafter : ∀ c ∈ after, p c = true) : dropEndWhile p (cs ++ after) = cs := by
  rw [dropEndWhile, List.reverse_append, dropWhile_append_eq (by simpa using hafter),
    List.reverse_reverse]
  intro c hc
  rw [List.head?_reverse] at hc
  exact hlast c hc

theorem Trims.trim_eq {trimmed : List Char} (h : Trims cs trimmed) : trim cs = trimmed := by
  obtain ⟨before, after, rfl, hbefore, hafter⟩ := h.around
  cases trimmed with
  | nil =>
    refine trim_eq_nil_iff.mpr fun c hc => ?_
    rw [List.append_nil, List.mem_append] at hc
    exact hc.elim (hbefore c) (hafter c)
  | cons c trimmed =>
    have hfirst : ∀ e ∈ (c :: trimmed ++ after).head?, isBlank e = false := h.first
    rw [trim, List.append_assoc, dropWhile_append_eq hbefore hfirst,
      dropEndWhile_append_eq h.last hafter]

/-- Trimming once is enough. -/
theorem trim_trim (cs : List Char) : trim (trim cs) = trim cs := by
  have htrims := trims_trim cs
  exact Trims.trim_eq ⟨⟨[], [], by simp⟩, htrims.first, htrims.last⟩

end MarkdownLint.Text
