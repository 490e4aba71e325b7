import MarkdownLint.Text.Line

/-!
Finding marks in a text. A mark is a piece of markup; `behind` gives what stands behind each of its
occurrences. A text that is clear of a mark neither holds it nor ends in a part of it, so that what
is written next to it can make no occurrence (`isClear_append`). Where some items are written one
after the other, each with a mark in it and clear of that mark elsewhere, what is found behind the
marks is what was written there (`map_behind_marked`).
-/
namespace MarkdownLint.Html

/-- The text before the first occurrence of a mark, and the texts behind its occurrences, each up to
the next one. -/
def cut (mark : List Char) : List Char → List Char × List (List Char)
  | [] => ([], [])
  | c :: cs =>
    let rest := cut mark cs
    if mark.isPrefixOf (c :: cs) then ([], (c :: rest.1).drop mark.length :: rest.2)
    else (c :: rest.1, rest.2)

/-- The text before the first occurrence of a mark. -/
def before (mark : String) (text : List Char) : List Char := (cut mark.toList text).1

/-- The texts behind the occurrences of a mark, each up to the next one. -/
def behind (mark : String) (text : List Char) : List (List Char) := (cut mark.toList text).2

/-- Whether no occurrence of a mark can start inside a text, whatever follows the text. -/
def isClear (mark : List Char) : List Char → Bool
  | [] => true
  | c :: cs => !mark.isPrefixOf (c :: cs) && !(c :: cs).isPrefixOf mark && isClear mark cs

theorem isClear_cons {mark : List Char} {c : Char} {cs : List Char} :
    isClear mark (c :: cs) = true ↔
      ¬ mark <+: c :: cs ∧ ¬ c :: cs <+: mark ∧ isClear mark cs = true := by
  simp [isClear, and_assoc, ← List.isPrefixOf_iff_prefix]

theorem isClear_append {mark as bs : List Char} (ha : isClear mark as = true)
    (hb : isClear mark bs = true) : isClear mark (as ++ bs) = true := by
  induction as with
  | nil => exact hb
  | cons c cs ih =>
    obtain ⟨hmark, htext, hcs⟩ := isClear_cons.mp ha
    rw [List.cons_append, isClear_cons]
    refine ⟨fun h => ?_, fun h => htext (.trans ?_ h), ih hcs⟩
    · -- the mark and the text both start what follows, so that one starts the other
      rcases List.prefix_or_prefix_of_prefix h (List.prefix_append (c :: cs) bs) with h | h
      · exact hmark h
      · exact htext h
    · exact List.prefix_append (c :: cs) bs

theorem isClear_flatMap {α : Type} {mark : List Char} {text : α → List Char} {as : List α}
    (h : ∀ a ∈ as, isClear mark (text a) = true) : isClear mark (as.flatMap text) = true := by
  induction as with
  | nil => rfl
  | cons a as ih =>
    rw [List.flatMap_cons]
    exact isClear_append (h a (by simp)) (ih fun b hb => h b (by simp [hb]))

/-- A text that is clear of how a mark starts is clear of the mark. -/
theorem isClear_of_prefix {stem mark cs : List Char} (hstem : stem <+: mark)
    (h : isClear stem cs = true) : isClear mark cs = true := by
  induction cs with
  | nil => rfl
  | cons c cs ih =>
    obtain ⟨hmark, htext, hcs⟩ := isClear_cons.mp h
    refine isClear_cons.mpr ⟨fun h => hmark (hstem.trans h), fun h => ?_, ih hcs⟩
    rcases List.prefix_or_prefix_of_prefix hstem h with h | h
    · exact hmark h
    · exact htext h

theorem isClear_literal {mark cs : List Char} (h : isClear mark cs = true) :
    isClear mark (String.ofList cs).toList = true := by
  rwa [String.toList_ofList]

/-- A text without brackets is clear of what opens with a bracket. -/
theorem isClear_of_not_mem {mark cs : List Char} (hmark : mark.head? = some '<') (h : '<' ∉ cs) :
    isClear mark cs = true := by
  obtain ⟨ms, rfl⟩ := List.head?_eq_some_iff.mp hmark
  induction cs with
  | nil => rfl
  | cons c cs ih =>
    obtain ⟨hc, hcs⟩ : '<' ≠ c ∧ '<' ∉ cs := by simpa using h
    refine isClear_cons.mpr ⟨fun h => hc ?_, fun h => hc ?_, ih hcs⟩
    · exact (List.cons_prefix_cons.mp h).1
    · exact (List.cons_prefix_cons.mp h).1.symm

/-- A mark opens with a bracket and has no other. -/
def IsMark (mark : String) : Prop := ∃ cs, mark.toList = '<' :: cs ∧ '<' ∉ cs

theorem IsMark.isClear_of_not_mem {mark : String} (hmark : IsMark mark) {cs : List Char}
    (h : '<' ∉ cs) : isClear mark.toList cs = true := by
  obtain ⟨ms, hms, -⟩ := hmark
  exact Html.isClear_of_not_mem (by rw [hms]; rfl) h

theorem cut_append {mark as : List Char} (h : isClear mark as = true) (bs : List Char) :
    cut mark (as ++ bs) = (as ++ (cut mark bs).1, (cut mark bs).2) := by
  induction as with
  | nil => rfl
  | cons c cs ih =>
    have hclear := isClear_cons.mp h
    have hfirst : mark.isPrefixOf (c :: (cs ++ bs)) = false := by
      rw [Bool.eq_false_iff]
      intro hp
      rcases List.prefix_or_prefix_of_prefix (List.isPrefixOf_iff_prefix.mp hp)
        (List.prefix_append (c :: cs) bs) with hp | hp
      · exact hclear.1 hp
      · exact hclear.2.1 hp
    rw [List.cons_append, cut, ih hclear.2.2, if_neg (by simp [hfirst])]
    rfl

theorem cut_eq_self {mark cs : List Char} (h : isClear mark cs = true) : cut mark cs = (cs, []) := by
  have hcut := cut_append h []
  rwa [List.append_nil, cut, List.append_nil] at hcut

theorem cut_mark_append {mark : String} (hmark : IsMark mark) (bs : List Char) :
    cut mark.toList (mark.toList ++ bs) =
      ([], (cut mark.toList bs).1 :: (cut mark.toList bs).2) := by
  obtain ⟨ms, hms, hbracket⟩ := id hmark
  have hclear : isClear mark.toList ms = true := hmark.isClear_of_not_mem hbracket
  have hprefix : mark.toList.isPrefixOf (mark.toList ++ bs) = true :=
    List.isPrefixOf_iff_prefix.mpr (List.prefix_append _ _)
  have htext : mark.toList ++ bs = '<' :: (ms ++ bs) := by
    rw [hms]
    rfl
  have hdrop : ∀ cs : List Char, ('<' :: (ms ++ cs)).drop mark.toList.length = cs := by
    intro cs
    rw [← List.cons_append, ← hms, List.drop_left]
  rw [htext] at hprefix ⊢
  rw [cut, cut_append hclear, if_pos hprefix, hdrop]

section

variable {α β : Type} {mark : String}

/-- Items written one after the other, each with a mark between its lead and its body. -/
def marked (mark : String) (lead body : α → List Char) (as : List α) : List Char :=
  as.flatMap fun a => lead a ++ (mark.toList ++ body a)

/-- What is read behind the marks is the value of each item. The text behind a mark may go beyond
the body of its item, up to the next mark: it goes on with a `Tail`. -/
theorem cut_marked (hmark : IsMark mark) (lead body : α → List Char) (stop : List Char)
    (Tail : List Char → Prop) (read : List Char → β) (value : α → β) {as : List α}
    (hlead : ∀ a ∈ as, isClear mark.toList (lead a) = true ∧ Tail (lead a))
    (hbody : ∀ a ∈ as, isClear mark.toList (body a) = true)
    (hstop : isClear mark.toList stop = true ∧ Tail stop)
    (hread : ∀ a ∈ as, ∀ tail, Tail tail → read (body a ++ tail) = value a) :
    Tail (cut mark.toList (marked mark lead body as ++ stop)).1 ∧
      (cut mark.toList (marked mark lead body as ++ stop)).2.map read = as.map value := by
  induction as with
  | nil =>
    rw [marked, List.flatMap_nil, List.nil_append, cut_eq_self hstop.1]
    exact ⟨hstop.2, rfl⟩
  | cons a as ih =>
    obtain ⟨htail, hvalues⟩ := ih (fun b hb => hlead b (by simp [hb]))
      (fun b hb => hbody b (by simp [hb])) (fun b hb => hread b (by simp [hb]))
    -- behind the body comes the lead of the next item, or what stands at the end
    obtain ⟨hclear, hfirst⟩ := hlead a (by simp)
    rw [marked, List.flatMap_cons, ← marked, List.append_assoc, List.append_assoc,
      List.append_assoc, cut_append hclear, cut_mark_append hmark, cut_append (hbody a (by simp))]
    refine ⟨?_, ?_⟩
    · rw [List.append_nil]
      exact hfirst
    · rw [List.map_cons, List.map_cons, hread a (by simp) _ htail, hvalues]

theorem map_behind_marked (hmark : IsMark mark) (lead body : α → List Char) (stop : List Char)
    (Tail : List Char → Prop) (read : List Char → β) (value : α → β) {as : List α}
    (hlead : ∀ a ∈ as, isClear mark.toList (lead a) = true ∧ Tail (lead a))
    (hbody : ∀ a ∈ as, isClear mark.toList (body a) = true)
    (hstop : isClear mark.toList stop = true ∧ Tail stop)
    (hread : ∀ a ∈ as, ∀ tail, Tail tail → read (body a ++ tail) = value a) :
    (behind mark (marked mark lead body as ++ stop)).map read = as.map value :=
  (cut_marked hmark lead body stop Tail read value hlead hbody hstop hread).2

/-- A text that is clear of a mark can be passed over. -/
theorem behind_append {first : List Char} (h : isClear mark.toList first = true)
    (rest : List Char) : behind mark (first ++ rest) = behind mark rest := by
  rw [behind, behind, cut_append h]

theorem behind_eq_nil {text : List Char} (h : isClear mark.toList text = true) :
    behind mark text = [] := by
  rw [behind, cut_eq_self h]

/-- A mark that does not occur again. -/
theorem behind_mark (hmark : IsMark mark) {rest : List Char}
    (hrest : isClear mark.toList rest = true) : behind mark (mark.toList ++ rest) = [rest] := by
  rw [behind, cut_mark_append hmark, cut_eq_self hrest]

theorem before_mark (hmark : IsMark mark) {first : List Char} (rest : List Char)
    (hfirst : isClear mark.toList first = true) :
    before mark (first ++ (mark.toList ++ rest)) = first := by
  rw [before, cut_append hfirst, cut_mark_append hmark, List.append_nil]

theorem isClear_marked {m : List Char} {lead body : α → List Char} {as : List α}
    (hmark : isClear m mark.toList = true) (hlead : ∀ a ∈ as, isClear m (lead a) = true)
    (hbody : ∀ a ∈ as, isClear m (body a) = true) :
    isClear m (marked mark lead body as) = true := by
  apply isClear_flatMap
  intro a ha
  exact isClear_append (hlead a ha) (isClear_append hmark (hbody a ha))

end

end MarkdownLint.Html
