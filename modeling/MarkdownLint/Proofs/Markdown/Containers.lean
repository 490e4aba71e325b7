import MarkdownLint.Proofs.Markdown.Leads
import MarkdownLint.Markdown.Parser

/-!
What is seen of a line inside containers. Inside a quote, and on the first line of a list item, a
line is seen behind the mark of the container and the indentation that follows the mark
(`Scope.slice_insideQuote`, `Scope.exists_lead_item`). So if a scope shows lines of the text behind
what some containers put in front of them (`Scope.Within`), then narrowing it to one container more
shows them behind the lead of that container, too (`Within.list`, `Within.item`, `Within.quote`).
-/
namespace MarkdownLint.Markdown

namespace Scope

variable {s : Scope}

/-! ## Characters of the text -/

theorem slice_eq (a b : Nat) : s.slice a b = (s.text.toList.drop a).take (b - a) := by
  rw [slice, Array.toList_extract, List.extract_eq_take_drop]

theorem slice_append {a b c : Nat} (hab : a ≤ b) (hbc : b ≤ c) :
    s.slice a b ++ s.slice b c = s.slice a c := by
  have hdrop : s.text.toList.drop b = (s.text.toList.drop a).drop (b - a) := by
    rw [List.drop_drop, Nat.add_sub_cancel' hab]
  have hsum : c - a = (b - a) + (c - b) := by omega
  rw [slice_eq, slice_eq, slice_eq, hdrop, hsum, List.take_add]

theorem lt_of_slice_ne_nil {a b : Nat} (h : s.slice a b ≠ []) : a < b := by
  rcases Nat.lt_or_ge a b with hlt | hge
  · exact hlt
  · rw [slice_eq, Nat.sub_eq_zero_of_le hge, List.take_zero] at h
    exact absurd rfl h

theorem mem_slice {a b : Nat} {c : Char} (h : c ∈ s.slice a b) :
    ∃ k, a ≤ k ∧ k < b ∧ s.text[k]? = some c := by
  rw [slice_eq, List.mem_iff_getElem?] at h
  obtain ⟨k, hk⟩ := h
  rw [List.getElem?_take, List.getElem?_drop] at hk
  split at hk
  · exact ⟨a + k, by omega, by omega, by rwa [Array.getElem?_toList] at hk⟩
  · cases hk

theorem slice_cons {a b : Nat} {c : Char} (hc : s.text[a]? = some c) (hab : a < b) :
    s.slice a b = c :: s.slice (a + 1) b := by
  have hlist : s.text.toList[a]? = some c := by rwa [Array.getElem?_toList]
  have hsub : b - a = (b - (a + 1)) + 1 := by omega
  rw [slice_eq, slice_eq, List.drop_eq_getElem?_toList_append, hlist, hsub]
  rfl

theorem slice_drop (a b k : Nat) : (s.slice a b).drop k = s.slice (a + k) b := by
  rw [slice_eq, slice_eq, List.drop_take, List.drop_drop, Nat.sub_sub]

end Scope

/-- Skipping indentation goes over spaces and tabs only. -/
theorem skipIndent_over (text : Array Char) (stop : Nat) (column : Int) (n pos : Nat)
    (width : Int) :
    pos ≤ (skipIndent text stop column n pos width).1 ∧
      ∀ k, pos ≤ k → k < (skipIndent text stop column n pos width).1 →
        ∃ c, text[k]? = some c ∧ Text.isIndent c = true := by
  fun_induction skipIndent text stop column n pos width with
  | case1 | case2 | case5 => exact ⟨Nat.le_refl _, fun k hlow hhigh => by omega⟩
  | case3 n pos width _ hc ih | case4 n pos width _ hc ih =>
    obtain ⟨hle, hall⟩ := ih
    refine ⟨Nat.le_of_succ_le hle, fun k hlow hhigh => ?_⟩
    rcases Nat.eq_or_lt_of_le hlow with rfl | hlt
    · exact ⟨_, hc, rfl⟩
    · exact hall k hlt hhigh

theorem le_skipIndent_width (text : Array Char) (stop : Nat) (column : Int) (n pos : Nat)
    (width : Int) : width ≤ (skipIndent text stop column n pos width).2 := by
  fun_induction skipIndent text stop column n pos width with
  | case1 | case2 | case5 => exact Int.le_refl _
  | case3 n pos width _ _ ih => omega
  | case4 n pos width _ _ ih =>
    have htab : 0 ≤ tabWidth (width + column) := by
      simp only [tabWidth]
      omega
    omega

namespace Scope

variable {s : Scope}

theorem isIndentation_slice {a b : Nat}
    (h : ∀ k, a ≤ k → k < b → ∃ c, s.text[k]? = some c ∧ Text.isIndent c = true) :
    IsIndentation (s.slice a b) := by
  intro c hc
  obtain ⟨k, hlow, hhigh, hk⟩ := mem_slice hc
  obtain ⟨e, he, hindent⟩ := h k hlow hhigh
  obtain rfl : c = e := Option.some.inj (hk.symm.trans he)
  exact hindent

/-! ## Lines -/

theorem lt_size_of_line {j : Nat} (h : (s.line j).text < (s.line j).stop) : j < s.lines.size := by
  rcases Nat.lt_or_ge j s.lines.size with hsize | hge
  · exact hsize
  · simp [line, Array.getElem?_eq_none hge, Line.text] at h

theorem line_set {i j : Nat} {l : Line} (hi : i < s.lines.size) :
    ({ s with lines := s.lines.setIfInBounds i l } : Scope).line j =
      if i = j then l else s.line j := by
  simp only [line, Array.getElem?_setIfInBounds, hi, if_true]
  split <;> rfl

/-- Inside a quote, the text of a line begins behind the mark of the quote, perhaps a space or tab,
and the indentation that is skipped there. -/
theorem insideQuote_ends (l : Line) : ∃ (start : Nat) (column width : Int),
    (start = l.text + 1 ∨ start = l.text + 2 ∧
      ∃ c, s.text[l.text + 1]? = some c ∧ Text.isIndent c = true) ∧
    (s.insideQuote l).stop = l.stop ∧ (s.insideQuote l).text =
      (skipIndent s.text l.stop column (l.stop - start) start width).1 := by
  simp only [insideQuote]
  refine ⟨_, _, _, ?_, trivial, Nat.add_sub_cancel' (skipIndent_over ..).1⟩
  split
  · rename_i hspaced
    simp only [Bool.and_eq_true, Bool.or_eq_true, beq_iff_eq] at hspaced
    refine .inr ⟨rfl, ?_⟩
    rcases hspaced.1 with hc | hc <;> exact ⟨_, hc, rfl⟩
  · exact .inl rfl

theorem slice_insideQuote {l : Line} (hmark : s.text[l.text]? = some '>')
    (hseen : s.slice (s.insideQuote l).text (s.insideQuote l).stop ≠ []) :
    ∃ w, IsIndentation w ∧ s.slice l.text l.stop =
      '>' :: (w ++ s.slice (s.insideQuote l).text (s.insideQuote l).stop) := by
  obtain ⟨start, column, width, hstart, hstop, htext⟩ := s.insideQuote_ends l
  have hle := (skipIndent_over s.text l.stop column (l.stop - start) start width).1
  have hskipped := isIndentation_slice
    (skipIndent_over s.text l.stop column (l.stop - start) start width).2
  have hlt := lt_of_slice_ne_nil hseen
  rw [← htext] at hle hskipped
  rw [hstop] at hlt ⊢
  refine ⟨s.slice (l.text + 1) start ++ s.slice start (s.insideQuote l).text, ?_, ?_⟩
  · refine IsIndentation.append (isIndentation_slice fun k hlow hhigh => ?_) hskipped
    rcases hstart with rfl | ⟨rfl, hspace⟩
    · omega
    · obtain rfl : k = l.text + 1 := by omega
      exact hspace
  · rw [slice_cons hmark (by omega), List.append_assoc, slice_append hle (by omega),
      slice_append (by omega) (by omega)]

/-! ## Marks of list items -/

/-- Nothing, or something set off by a space or tab. -/
def SetOff (rest : List Char) : Prop :=
  rest = [] ∨ ∃ c, rest.head? = some c ∧ Text.isIndent c = true

theorem setOff_of_head? {rest : List Char}
    (h : (rest.isEmpty || rest.head? == some ' ' || rest.head? == some '\t') = true) :
    SetOff rest := by
  simp only [Bool.or_eq_true, List.isEmpty_iff, beq_iff_eq] at h
  rcases h with (hnil | hspace) | htab
  · exact .inl hnil
  · exact .inr ⟨_, hspace, rfl⟩
  · exact .inr ⟨_, htab, rfl⟩

theorem exists_bullet {i length : Nat} (h : s.bulletAt? i = some length) :
    ∃ mark rest, s.lineText i = mark ++ rest ∧ mark.length = length ∧ IsItemMark mark ∧
      SetOff rest := by
  simp only [bulletAt?] at h
  split at h
  · rename_i c rest hline
    split at h
    · rename_i hmark
      cases h
      obtain ⟨hc, hrest⟩ := Bool.and_eq_true_iff.mp hmark
      refine ⟨[c], rest, hline, rfl, .bullet ?_, setOff_of_head? hrest⟩
      simp only [Bool.or_eq_true, beq_iff_eq] at hc
      rcases hc with (rfl | rfl) | rfl <;> decide
    · cases h
  · cases h

theorem exists_number {i length : Nat} (h : s.ordinalAt? i = some length) :
    ∃ mark rest, s.lineText i = mark ++ rest ∧ mark.length = length ∧ IsItemMark mark ∧
      SetOff rest := by
  have htake : (s.lineText i).take ((s.lineText i).takeWhile Char.isDigit).length =
      (s.lineText i).takeWhile Char.isDigit :=
    (List.prefix_iff_eq_take.mp (List.takeWhile_prefix _)).symm
  simp only [ordinalAt?] at h
  split at h
  · rename_i d rest hdrop
    split at h
    · rename_i hmark
      cases h
      simp only [Bool.and_eq_true, decide_eq_true_eq] at hmark
      obtain ⟨⟨⟨hmin, hmax⟩, hd⟩, hrest⟩ := hmark
      have hdelimiter : d ∈ ['.', ')'] := by
        simp only [Bool.or_eq_true, beq_iff_eq] at hd
        rcases hd with rfl | rfl <;> decide
      refine ⟨(s.lineText i).takeWhile Char.isDigit ++ [d], rest, ?_, by simp,
        .number hmin hmax (List.all_eq_true.mp List.all_takeWhile) hdelimiter,
        setOff_of_head? hrest⟩
      conv => lhs; rw [← List.take_append_drop _ (s.lineText i), hdrop, htake]
      simp
    · cases h
  · cases h

/-- A line carries the mark of a list item, of the given length. -/
def HasMark (s : Scope) (i length : Nat) : Prop :=
  s.bulletAt? i = some length ∨ s.ordinalAt? i = some length

theorem exists_mark {i length : Nat} (h : s.HasMark i length) :
    ∃ mark rest, s.lineText i = mark ++ rest ∧ mark.length = length ∧ IsItemMark mark ∧
      SetOff rest := by
  rcases h with hbullet | hordinal
  · exact exists_bullet hbullet
  · exact exists_number hordinal

theorem hasMark_of_itemAt? {i length : Nat} {inParagraph ordered : Bool}
    (h : s.itemAt? i inParagraph = some (length, ordered)) : s.HasMark i length := by
  cases hordinal : s.ordinalAt? i with
  | some found =>
    simp only [itemAt?, hordinal, Option.ite_none_left_eq_some, Option.some.injEq,
      Prod.mk.injEq] at h
    obtain ⟨-, -, rfl, -⟩ := h
    exact .inr hordinal
  | none =>
    cases hbullet : s.bulletAt? i with
    | some found =>
      simp only [itemAt?, hordinal, hbullet, Option.ite_none_left_eq_some, Option.some.injEq,
        Prod.mk.injEq] at h
      obtain ⟨-, -, rfl, -⟩ := h
      exact .inl hbullet
    | none => simp [itemAt?, hordinal, hbullet] at h

theorem hasMark_of_nextItem? {ordered : Bool} {marker : Option Char} {i stop length : Nat}
    (h : s.nextItem? ordered marker i stop = some length) :
    s.HasMark i length ∧ s.indent ≤ (s.line i).indent := by
  simp only [nextItem?] at h
  split at h
  · cases h
  · rename_i hstop
    simp only [Bool.or_eq_true, decide_eq_true_eq, not_or, Int.not_lt] at hstop
    split at h
    · rename_i found hfound
      split at h
      · cases h
        refine ⟨?_, hstop.1.1.2⟩
        split at hfound
        · exact .inr hfound
        · exact .inl hfound
      · cases h
    · cases h

/-- Inside an item, the text of its first line begins behind its mark and the indentation that is
skipped there. -/
theorem itemScope_ends {i : Nat} (length : Nat) (hi : i < s.lines.size) :
    ∃ (n : Nat) (column width : Int), ((s.itemScope i length).1.line i).stop = (s.line i).stop ∧
      ((s.itemScope i length).1.line i).text =
        (skipIndent s.text (s.line i).stop column n ((s.line i).text + length) width).1 := by
  have hline : (s.itemScope i length).1.line i = _ := (line_set hi).trans (if_pos rfl)
  have hstart : (s.line i).start ≤ (s.line i).text + length := by
    rw [Line.text, Nat.add_assoc]
    exact Nat.le_add_right ..
  rw [hline]
  exact ⟨_, _, _, rfl, Nat.add_sub_cancel' (Nat.le_trans hstart (skipIndent_over ..).1)⟩

theorem line_itemScope {i j : Nat} (length : Nat) (hi : i < s.lines.size) (hij : i ≠ j) :
    (s.itemScope i length).1.line j = s.line j :=
  (line_set hi).trans (if_neg hij)

/-! ## What is seen inside containers -/

/-- What a scope inside some containers shows of line `j`, if a block can start there, is what
stands behind the leads of the containers and indentation. -/
def Shows (s : Scope) (lines : List (List Char)) (around : List Label) (j : Nat) : Prop :=
  0 ≤ (s.line j).indent → s.lineText j ≠ [] →
    ∃ line w, lines[j]? = some line ∧ IsIndentation w ∧ Leads j around line (w ++ s.lineText j)

/-- A scope lies inside some containers on the lines from `lo` up to `hi`. -/
structure Within (s : Scope) (lines : List (List Char)) (around : List Label) (lo hi : Nat) :
    Prop where
  indent_nonneg : 0 ≤ s.indent
  shows : ∀ j, lo ≤ j → j < hi → s.Shows lines around j

variable {lines : List (List Char)} {around : List Label} {lo hi i j stop : Nat}

theorem Within.drop (h : s.Within lines around lo hi) (hle : lo ≤ i) : s.Within lines around i hi :=
  ⟨h.indent_nonneg, fun j hij => h.shows j (Nat.le_trans hle hij)⟩

/-- One container more. Whatever indentation stands in front, it and the lead of the container take
a line from what is seen outside to what is seen inside. -/
theorem Shows.narrow {inner : Scope} {container : Label} (h : s.Shows lines around j)
    (hinner : 0 ≤ (inner.line j).indent → inner.lineText j ≠ [] →
      0 ≤ (s.line j).indent ∧ s.lineText j ≠ [] ∧ ∀ v, IsIndentation v →
        ∃ lead w, IsIndentation w ∧ v ++ s.lineText j = lead ++ (w ++ inner.lineText j) ∧
          Lead j container lead (w ++ inner.lineText j)) :
    inner.Shows lines (around ++ [container]) j := by
  intro hindent hseen
  obtain ⟨houter, hseenOuter, hnarrow⟩ := hinner hindent hseen
  obtain ⟨line, v, hline, hv, hleads⟩ := h houter hseenOuter
  obtain ⟨lead, w, hw, hsplit, hlead⟩ := hnarrow v hv
  rw [hsplit] at hleads
  exact ⟨line, w, hline, hw, hleads.concat hlead⟩

theorem Within.list {label : Label} (h : s.Within lines around lo hi)
    (hkind : label.kind = .bulletList ∨ label.kind = .orderedList) :
    s.Within lines (around ++ [label]) lo hi := by
  refine ⟨h.indent_nonneg, fun j hlow hhigh => ?_⟩
  refine (h.shows j hlow hhigh).narrow fun hindent hseen => ?_
  exact ⟨hindent, hseen, fun v hv => ⟨[], v, hv, rfl, .list hkind⟩⟩

/-! ## Items -/

theorem le_indent_itemScope (i length : Nat) :
    (s.line i).indent + length ≤ (s.itemScope i length).1.indent := by
  have hwidth := le_skipIndent_width s.text (s.line i).stop (s.line i).base
    ((s.line i).stop - (s.line i).text) ((s.line i).text + length) ((s.line i).indent + length)
  simp only [itemScope]
  split <;> omega

/-- On its first line, a list item takes the mark from what is seen outside. -/
theorem exists_lead_item {length : Nat} {container : Label} (hmark : s.HasMark i length)
    (hkind : container.kind = .listItem) (hfirst : container.span.first = i)
    (hsize : i < s.lines.size) (hseen : (s.itemScope i length).1.lineText i ≠ [])
    {v : List Char} (hv : IsIndentation v) :
    ∃ lead w, IsIndentation w ∧
      v ++ s.lineText i = lead ++ (w ++ (s.itemScope i length).1.lineText i) ∧
      Lead i container lead (w ++ (s.itemScope i length).1.lineText i) := by
  obtain ⟨mark, rest, hline, hlength, hitem, hrest⟩ := exists_mark hmark
  obtain ⟨n, column, width, hstop, htext⟩ := itemScope_ends length hsize
  have hle := (skipIndent_over s.text (s.line i).stop column n ((s.line i).text + length) width).1
  have hskipped := isIndentation_slice
    (skipIndent_over s.text (s.line i).stop column n ((s.line i).text + length) width).2
  have hlt := lt_of_slice_ne_nil hseen
  rw [← htext] at hle hskipped
  have hinner : (s.itemScope i length).1.lineText i =
      s.slice ((s.itemScope i length).1.line i).text (s.line i).stop := by
    rw [lineText, hstop]
    rfl
  have hsplit : rest = s.slice ((s.line i).text + length) ((s.itemScope i length).1.line i).text ++
      (s.itemScope i length).1.lineText i := by
    rw [hinner, slice_append hle (by omega), ← slice_drop, ← lineText, hline, ← hlength,
      List.drop_left]
  refine ⟨v ++ mark, _, hskipped, by rw [hline, hsplit, List.append_assoc], ?_⟩
  rw [← hsplit]
  rcases hrest with hnil | ⟨c, hc, hindent⟩
  · -- nothing behind the mark would mean that nothing is seen of the line inside the item
    exact absurd (List.append_eq_nil_iff.mp (hsplit.symm.trans hnil)).2 hseen
  · exact .item hkind hfirst hv hitem hc hindent

theorem Within.item {length : Nat} {span : Span} (h : s.Within lines around lo hi)
    (hmark : s.HasMark i length) (hindent : s.indent ≤ (s.line i).indent) (hspan : span.first = i) :
    (s.itemScope i length).1.Within lines (around ++ [⟨.listItem, span⟩]) lo hi := by
  have hseen : s.lineText i ≠ [] := by
    obtain ⟨mark, rest, hline, -, hitem, -⟩ := exists_mark hmark
    rw [hline]
    cases hitem <;> simp
  have hsize := lt_size_of_line (lt_of_slice_ne_nil hseen)
  have hnonneg : 0 ≤ (s.line i).indent := Int.le_trans h.indent_nonneg hindent
  refine ⟨?_, fun j hlow hhigh => (h.shows j hlow hhigh).narrow fun hindentInner hseenInner => ?_⟩
  · have := le_indent_itemScope (s := s) i length
    omega
  · by_cases hij : i = j
    · subst hij
      exact ⟨hnonneg, hseen, fun v hv => exists_lead_item hmark rfl hspan hsize hseenInner hv⟩
    · have hsame := line_itemScope length hsize hij
      have htext : (s.itemScope i length).1.lineText j = s.lineText j := by
        rw [lineText, lineText, hsame]
        rfl
      rw [hsame] at hindentInner
      rw [htext] at hseenInner ⊢
      refine ⟨hindentInner, hseenInner, fun v hv => ⟨[], v, hv, rfl, ?_⟩⟩
      exact .insideItem rfl (by rwa [hspan]) .nil

/-! ## Quotes -/

/-- The outcome `r` of narrowing `inner` to a quote of `s` from line `i` on. Lines before that stay;
those from there to the end of the quote are seen behind the mark of the quote, or only go on with a
paragraph. -/
structure Quoted (s inner : Scope) (stop i : Nat) (r : Scope × Nat) : Prop where
  text : r.1.text = inner.text
  indent : r.1.indent = inner.indent
  before : ∀ j < i, r.1.line j = inner.line j
  quoted : ∀ j, i ≤ j → j < r.2 → j < stop ∧ ((r.1.line j).indent < 0 ∨
    s.indent ≤ (s.line j).indent ∧ s.text[(s.line j).text]? = some '>' ∧
      r.1.line j = s.insideQuote (s.line j))

/-- The quote ends before the line. -/
theorem Quoted.done {inner : Scope} (lineMax : Nat) :
    Quoted s inner stop i ({ inner with lineMax }, i) where
  text := rfl
  indent := rfl
  before := fun _ _ => rfl
  quoted := fun _ hlow hhigh => absurd hhigh (Nat.not_lt.mpr hlow)

/-- The line belongs to the quote. -/
theorem Quoted.step {inner : Scope} {l : Line} {r : Scope × Nat} (hi : i < stop)
    (hsize : i < inner.lines.size)
    (hl : l.indent < 0 ∨ s.indent ≤ (s.line i).indent ∧ s.text[(s.line i).text]? = some '>' ∧
      l = s.insideQuote (s.line i))
    (h : Quoted s { inner with lines := inner.lines.setIfInBounds i l } stop (i + 1) r) :
    Quoted s inner stop i r where
  text := h.text
  indent := h.indent
  before := by
    intro j hj
    rw [h.before j (Nat.lt_succ_of_lt hj), line_set hsize, if_neg (by omega)]
  quoted := by
    intro j hlow hhigh
    rcases Nat.eq_or_lt_of_le hlow with rfl | hlt
    · have hline : r.1.line i = l := by
        rw [h.before i (Nat.lt_succ_self i), line_set hsize, if_pos rfl]
      rw [hline]
      exact ⟨hi, hl⟩
    · exact h.quoted j hlt hhigh

theorem quoted_quoteScope (n : Nat) (inner : Scope) (lastEmpty : Bool)
    (hsize : inner.lines.size = s.lines.size) :
    Quoted s inner stop i (s.quoteScope stop n i inner lastEmpty) := by
  induction n generalizing i inner lastEmpty with
  | zero => exact .done inner.lineMax
  | succ n ih =>
    simp only [quoteScope]
    split
    · exact .done inner.lineMax
    · rename_i hmore
      simp only [Bool.or_eq_true, decide_eq_true_eq, not_or, Nat.not_le, Line.isEmpty] at hmore
      have hin : i < inner.lines.size := by
        rw [hsize]
        exact lt_size_of_line hmore.2
      split
      · rename_i hmark
        simp only [Bool.and_eq_true, beq_iff_eq, decide_eq_true_eq] at hmark
        refine .step hmore.1 hin (.inr ⟨hmark.2, hmark.1, rfl⟩) (ih _ _ ?_)
        simpa using hsize
      · split
        · exact .done inner.lineMax
        · split
          · exact .done i
          · have hlazy : (-1 : Int) < 0 := by decide
            refine .step hmore.1 hin (.inl hlazy) (ih _ _ ?_)
            simpa using hsize

theorem Within.quote {inner : Scope} {r : Scope × Nat} {container : Label}
    (h : s.Within lines around i stop) (hr : Quoted s inner stop i r)
    (htext : inner.text = s.text) (hindent : inner.indent = 0) (hkind : container.kind = .quote) :
    r.1.Within lines (around ++ [container]) i r.2 := by
  refine ⟨Int.le_of_eq (hr.indent.trans hindent).symm, fun j hlow hhigh => ?_⟩
  obtain ⟨hj, hcase⟩ := hr.quoted j hlow hhigh
  refine (h.shows j hlow hj).narrow fun hindentInner hseen => ?_
  rcases hcase with hlazy | ⟨hindentOuter, hmark, hline⟩
  · omega
  · have hinner : r.1.lineText j =
        s.slice (s.insideQuote (s.line j)).text (s.insideQuote (s.line j)).stop := by
      rw [lineText, hline, slice, hr.text, htext]
      rfl
    rw [hinner] at hseen ⊢
    obtain ⟨w, hw, hsplit⟩ := slice_insideQuote hmark hseen
    have houter : s.lineText j = '>' :: (w ++
        s.slice (s.insideQuote (s.line j)).text (s.insideQuote (s.line j)).stop) := hsplit
    refine ⟨Int.le_trans h.indent_nonneg hindentOuter, by simp [houter], fun v hv => ?_⟩
    exact ⟨v ++ ['>'], w, hw, by simp [houter], .quote hkind hv⟩

end Scope

end MarkdownLint.Markdown
