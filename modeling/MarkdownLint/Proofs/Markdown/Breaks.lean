import MarkdownLint.Proofs.Markdown.Containers
import MarkdownLint.Proofs.Markdown.Numbering
import MarkdownLint.Proofs.Markdown.Parsing
import MarkdownLint.Proofs.Markdown.Progress
import MarkdownLint.Proofs.Text.Trimming

/-!
How the breaks that the parser finds are written. Where a scope shows a break, there are three or
more marks (`exists_breakMark`), and the scopes of the parser show lines behind the leads of the
containers around them (`parse_isBreakOf`). The lines are those of the text as it was written,
since nothing is replaced on the line of a break (`Grammar.parser_isBreakOf`).
-/
namespace MarkdownLint.Markdown

/-! ## Breaks of a scope -/

/-- How a break is written: three or more of one character, and spaces and tabs in between. -/
def IsBreakMark (t : List Char) : Prop :=
  ∃ c ∈ ['*', '-', '_'], t.head? = some c ∧ t.getLast? = some c ∧
    (∀ e ∈ t, e = c ∨ Text.isIndent e = true) ∧ 3 ≤ t.count c

/-- A break covers one of some lines. The line carries the leads of the containers around the break,
and behind them, with indentation around it, how the break is written. -/
def IsBreakOf (lines : List (List Char)) (n : Node) : Prop :=
  ∃ line w t w', lines[n.span.first]? = some line ∧ n.span.last = n.span.first + 1 ∧
    Leads n.span.first n.ancestors line (w ++ t ++ w') ∧ IsIndentation w ∧ IsIndentation w' ∧
    IsBreakMark t

/-- The characters that breaks are made of are not blank. -/
theorem not_isBlank_of_mem {c : Char} (h : c ∈ ['*', '-', '_']) : Text.isBlank c = false := by
  simp only [List.mem_cons, List.not_mem_nil, or_false] at h
  rcases h with rfl | rfl | rfl <;> rfl

/-- Marks and indentation, from a mark on, are a break without the indentation at the end. -/
theorem exists_isBreakMark {c : Char} {cs : List Char} (hc : c ∈ ['*', '-', '_'])
    (hall : ∀ e ∈ c :: cs, e = c ∨ Text.isIndent e = true) (hcount : 3 ≤ (c :: cs).count c) :
    ∃ t w, c :: cs = t ++ w ∧ IsIndentation w ∧ IsBreakMark t := by
  have hlast : ∀ e, (Text.dropEndWhile Text.isIndent (c :: cs)).getLast? = some e →
      Text.isIndent e = false := fun e => Text.getLast?_dropEndWhile
  obtain ⟨w, hsplit, hw⟩ := Text.exists_dropEndWhile_append Text.isIndent (c :: cs)
  generalize Text.dropEndWhile Text.isIndent (c :: cs) = t at hsplit hlast
  have hnone : w.count c = 0 := by
    refine List.count_eq_zero.mpr fun hmem => ?_
    have hblank := isBlank_of_isIndent (hw c hmem)
    rw [not_isBlank_of_mem hc] at hblank
    cases hblank
  have hmarks : 3 ≤ t.count c := by
    rw [hsplit, List.count_append] at hcount
    omega
  have hne : t ≠ [] := by
    rintro rfl
    simp at hmarks
  refine ⟨t, w, hsplit, hw, c, hc, ?_, ?_, fun e he => ?_, hmarks⟩
  · rw [← List.head?_append_of_ne_nil t hne, ← hsplit]
    rfl
  · have hend := List.getLast?_eq_some_getLast hne
    rcases hall _ (hsplit ▸ List.mem_append_left w (List.getLast_mem hne)) with hmark | hindent
    · rw [hend, hmark]
    · rw [hlast _ hend] at hindent
      cases hindent
  · exact hall e (hsplit ▸ List.mem_append_left w he)

theorem exists_breakMark {s : Scope} {i : Nat} (h : s.breakAt i = true) :
    ∃ t w, s.lineText i = t ++ w ∧ IsIndentation w ∧ IsBreakMark t := by
  simp only [Scope.breakAt, Bool.and_eq_true] at h
  obtain ⟨-, h⟩ := h
  split at h
  · cases h
  rename_i c cs hline
  simp only [Bool.and_eq_true, Bool.or_eq_true, beq_iff_eq, List.all_eq_true,
    decide_eq_true_eq] at h
  obtain ⟨⟨hc, hall⟩, hcount⟩ := h
  rw [hline]
  refine exists_isBreakMark (by simpa [or_assoc] using hc) (fun e he => ?_) ?_
  · rcases List.mem_cons.mp he with rfl | he
    · exact .inl rfl
    · simpa [Text.isIndent, or_assoc] using hall e he
  · rw [List.count_cons_self]
    omega

theorem isBreakOf_of_breakAt {s : Scope} {lines : List (List Char)} {around : List Label} {i : Nat}
    (hs : s.Shows lines around i) (hindent : 0 ≤ (s.line i).indent) (h : s.breakAt i = true) :
    IsBreakOf lines ⟨⟨.thematicBreak, ⟨i, i + 1⟩⟩, around⟩ := by
  obtain ⟨t, w', htext, hw', hmark⟩ := exists_breakMark h
  have hseen : s.lineText i ≠ [] := by
    obtain ⟨c, -, hfirst, -⟩ := hmark
    rintro hnil
    rw [htext, List.append_eq_nil_iff] at hnil
    simp [hnil.1] at hfirst
  obtain ⟨line, w, hline, hw, hleads⟩ := hs hindent hseen
  rw [htext, ← List.append_assoc] at hleads
  exact ⟨line, w, t, w', hline, rfl, hleads, hw, hw', hmark⟩

/-- The breaks that the parser finds are written on the lines that the scope shows. -/
theorem parse_isBreakOf (lines : List (List Char)) (n : Nat) :
    (∀ (s : Scope) i stop around, s.Within lines around i stop →
      EachBreak (IsBreakOf lines) around (parseBlocks n s i stop).1) ∧
    (∀ (s : Scope) i stop around, s.Within lines around i stop → i < stop →
      s.indent ≤ (s.line i).indent →
      EachBreak (IsBreakOf lines) around (parseBlock n s i stop).1) ∧
    (∀ (s : Scope) ordered marker i length stop around, s.Within lines around i stop → i < stop →
      s.indent ≤ (s.line i).indent → s.HasMark i length →
      EachBreak (IsBreakOf lines) around (parseItems n s ordered marker i length stop).1) := by
  -- the three functions call each other with one step less
  induction n with
  | zero =>
    refine ⟨fun s i stop around _ => ?_, fun s i stop around _ _ _ => ?_,
      fun s ordered marker i length stop around _ _ _ _ => ?_⟩
    · simp only [parseBlocks]
      exact .nil
    · simp only [parseBlock]
      exact .nil
    · simp only [parseItems]
      exact .nil
  | succ n ih =>
    obtain ⟨ihBlocks, ihBlock, ihItems⟩ := ih
    obtain ⟨forward, forwardBlock, -⟩ := parse_progress n
    refine ⟨fun s i stop around hs => ?_, fun s i stop around hs hi hindent => ?_,
      fun s ordered marker i length stop around hs hi hindent hmark => ?_⟩
    · have hskip := Scope.le_skipEmpty (s := s) (s.lineMax - i) i
      simp only [parseBlocks]
      split
      · exact .nil
      · split
        · exact .nil
        · rename_i hnext
          simp only [Bool.or_eq_true, decide_eq_true_eq, not_or, Nat.not_le, Int.not_lt] at hnext
          split
          · exact .nil
          · have hblock := forwardBlock s _ stop hnext.1
            refine .append (ihBlock _ _ _ around (hs.drop hskip) hnext.1 hnext.2)
              (ihBlocks _ _ _ around (hs.drop ?_))
            split <;> omega
    · simp only [parseBlock]
      split
      · rename_i block next hleaf
        exact .of_earlyLeaf? hleaf
      · split
        · exact .cons (by simp)
            (ihBlocks _ _ _ _ (hs.quote (Scope.quoted_quoteScope _ _ _ rfl) rfl rfl rfl)) .nil
        · split
          · rename_i hbreak
            simp only [Bool.and_eq_true] at hbreak
            refine .cons (fun _ => ?_) .nil .nil
            exact isBreakOf_of_breakAt (hs.shows i (Nat.le_refl i) hi)
              (Int.le_trans hs.indent_nonneg hindent) hbreak.2
          · split
            · rename_i length ordered hitem
              split at hitem
              · refine .cons (fun h => ?_) (ihItems _ _ _ _ _ _ _ (hs.list ?_) hi hindent
                  (Scope.hasMark_of_itemAt? hitem)) .nil
                · cases ordered <;> cases h
                · cases ordered
                  · exact .inl rfl
                  · exact .inr rfl
              · cases hitem
            · split
              · exact .nil
              · exact .of_lateLeaf s i stop
    · have hchildren : ∀ inner : Scope, ∀ blank : Bool, ∀ around,
          inner.Within lines around i stop → EachBreak (IsBreakOf lines) around
          (if blank && s.isEmpty (i + 1) then (([] : List Block), min (i + 2) stop)
            else parseBlocks n inner i stop).1 := by
        intro inner blank around hinner
        split
        · exact .nil
        · exact ihBlocks inner i stop around hinner
      simp only [parseItems]
      split
      · rename_i length' hnext
        obtain ⟨hmark', hindent'⟩ := Scope.hasMark_of_nextItem? hnext
        exact .cons (by simp) (hchildren _ _ _ (hs.item hmark hindent rfl))
          (ihItems _ _ _ _ _ _ around (hs.drop (le_itemEnd hi (forward _ _ _) _))
            (Scope.lt_of_nextItem? hnext) hindent' hmark')
      · exact .cons (by simp) (hchildren _ _ _ (hs.item hmark hindent rfl)) .nil


/-! ## The scope of a text -/

/-- The scan for lines has gone over spaces and tabs since the line started, and stands behind them
unless the text of the line has begun. -/
structure Indenting (text : List Char) (pos : Nat) (s : LineScan) : Prop where
  skipped : ∀ k, s.start ≤ k → k < s.start + s.shift →
    ∃ c, text[k]? = some c ∧ Text.isIndent c = true
  behind : s.inText = false → s.start + s.shift = pos

theorem Indenting.newLine (text : List Char) (pos : Nat) :
    Indenting text pos { start := pos } where
  skipped := fun _ hlow hhigh => absurd hhigh (Nat.not_lt.mpr hlow)
  behind := fun _ => rfl

/-- The indentation goes on. -/
theorem Indenting.next {text : List Char} {pos : Nat} {s : LineScan} {c : Char} (width : Int)
    (hs : Indenting text pos s) (hbegun : s.inText = false) (hc : text[pos]? = some c)
    (hindent : Text.isIndent c = true) :
    Indenting text (pos + 1) { s with shift := s.shift + 1, indent := width } where
  skipped := by
    intro k hlow hhigh
    rcases Nat.eq_or_lt_of_le (Nat.le_of_lt_succ hhigh) with hlast | hbefore
    · have hk : k = pos := hlast.trans (hs.behind hbegun)
      rw [hk]
      exact ⟨c, hc, hindent⟩
    · exact hs.skipped k hlow hbefore
  behind := by
    intro _
    have hpos := hs.behind hbegun
    show s.start + (s.shift + 1) = pos + 1
    omega

/-- A line of the table begins with spaces and tabs, as many as its entry says. -/
theorem scanLines_indented {text rest : List Char} {pos : Nat} {s : LineScan}
    (hs : Indenting text pos s) (hrest : text.drop pos = rest) :
    ∀ l ∈ scanLines pos s rest, ∀ k, l.start ≤ k → k < l.text →
      ∃ c, text[k]? = some c ∧ Text.isIndent c = true := by
  have hfirst : ∀ {pos c rest}, text.drop pos = c :: rest →
      text[pos]? = some c ∧ text.drop (pos + 1) = rest := by
    intro pos c rest h
    rw [← List.head?_drop, ← List.tail_drop, h]
    exact ⟨rfl, rfl⟩
  fun_induction scanLines pos s rest with
  | case1 => simp
  | case2 pos s c rest hindent width =>
    rename_i ih
    obtain ⟨hc, hrest⟩ := hfirst hrest
    obtain ⟨hbegun, hindent⟩ : s.inText = false ∧ Text.isIndent c = true := by
      simpa [Text.isIndent] using hindent
    exact ih (hs.next _ hbegun hc hindent) hrest
  | case3 pos s c rest _ _ ih =>
    intro l hl
    rcases List.mem_cons.mp hl with rfl | hl
    · exact hs.skipped
    · exact ih (.newLine text (pos + 1)) (hfirst hrest).2 l hl
  | case4 pos s c rest =>
    intro l hl
    obtain rfl := List.mem_singleton.mp hl
    exact hs.skipped
  | case5 pos s c rest _ _ _ ih =>
    exact ih ⟨hs.skipped, fun hbegun => by cases hbegun⟩ (hfirst hrest).2

theorem Tabulates.getElem?_lines {text : List Char} {table : List Line} {lines : List (List Char)}
    (h : Tabulates text table lines) {j : Nat} {l : Line} (hl : table[j]? = some l) :
    lines[j]? = some (l.within text) := by
  induction h generalizing j with
  | done => cases hl
  | cutShort => cases hl
  | entry hline _ ih =>
    cases j with
    | zero =>
      cases hl
      rw [hline]
      rfl
    | succ j => exact ih hl

/-- The scope in which the parser starts. -/
def rootScope (g : Grammar) (text : List Char) : Scope :=
  let lines := (scanLines 0 {} text).toArray
  { grammar := g, text := text.toArray, lines, lineMax := lines.size }

/-- Outside all containers the scope shows the lines of the text. -/
theorem within_rootScope (g : Grammar) (text : List Char) :
    (rootScope g text).Within (Text.splitAt '\n' text) [] 0 (rootScope g text).lines.size := by
  refine ⟨Int.le_refl 0, fun j _ hj _ hseen => ?_⟩
  have hsize : j < (scanLines 0 {} text).length := hj
  have hline : (rootScope g text).line j = (scanLines 0 {} text)[j] := by
    simp [Scope.line, rootScope, List.getElem?_eq_getElem hsize]
  have hlt := Scope.lt_of_slice_ne_nil hseen
  have htext : (rootScope g text).lineText j =
      (rootScope g text).slice (scanLines 0 {} text)[j].text (scanLines 0 {} text)[j].stop := by
    rw [Scope.lineText, hline]
  rw [hline] at hlt
  have hentry := (tabulates_scanLines text).getElem?_lines (List.getElem?_eq_getElem hsize)
  have hindented := scanLines_indented (.newLine text 0) rfl _ (List.getElem_mem hsize)
  generalize (scanLines 0 {} text)[j] = l at *
  refine ⟨l.within text, (rootScope g text).slice l.start l.text, hentry, ?_, ?_⟩
  · refine Scope.isIndentation_slice fun k hlow hhigh => ?_
    simpa [rootScope] using hindented k hlow hhigh
  · have hstart : l.start ≤ l.text := Nat.le_add_right ..
    have hwhole : (rootScope g text).slice l.start l.stop = l.within text := Scope.slice_eq _ _
    rw [htext, Scope.slice_append hstart (Nat.le_of_lt hlt), hwhole]
    exact .done

theorem parseText_isBreakOf (g : Grammar) (text : List Char) :
    EachBreak (IsBreakOf (Text.splitAt '\n' text)) [] (parseText g text) :=
  (parse_isBreakOf _ _).1 _ _ _ _ (within_rootScope g text)

/-! ## Replaced characters -/

theorem not_mem_of_isIndentation {w : List Char} (hw : IsIndentation w) : '\uFFFD' ∉ w := by
  intro h
  cases hw _ h

theorem not_mem_of_isItemMark {mark : List Char} (h : IsItemMark mark) : '\uFFFD' ∉ mark := by
  cases h with
  | bullet hc =>
    intro hmem
    rw [← List.mem_singleton.mp hmem] at hc
    revert hc
    decide
  | number _ _ hdigits he =>
    intro hmem
    rcases List.mem_append.mp hmem with hmem | hmem
    · cases hdigits _ hmem
    · rw [← List.mem_singleton.mp hmem] at he
      revert he
      decide

/-- No container puts a replaced character in front of a line. -/
theorem Lead.not_mem {i : Nat} {container : Label} {lead rest : List Char}
    (h : Lead i container lead rest) : '\uFFFD' ∉ lead := by
  cases h with
  | quote _ hw => simp [not_mem_of_isIndentation hw]
  | item _ _ hw hmark => simp [not_mem_of_isIndentation hw, not_mem_of_isItemMark hmark]
  | insideItem _ _ hw => exact not_mem_of_isIndentation hw
  | list => exact List.not_mem_nil

theorem Leads.not_mem {i : Nat} {around : List Label} {line rest : List Char}
    (h : Leads i around line rest) (hrest : '\uFFFD' ∉ rest) : '\uFFFD' ∉ line := by
  induction h with
  | done => exact hrest
  | next hlead _ ih =>
    intro hmem
    rcases List.mem_append.mp hmem with hmem | hmem
    · exact hlead.not_mem hmem
    · exact ih hrest hmem

theorem IsBreakMark.not_mem {t : List Char} (h : IsBreakMark t) : '\uFFFD' ∉ t := by
  obtain ⟨c, hc, -, -, hall, -⟩ := h
  intro hmem
  rcases hall _ hmem with rfl | hindent
  · revert hc
    decide
  · cases hindent

/-- A line without replaced characters is as it was written. -/
theorem map_replaceNul_eq {line : List Char} (h : '\uFFFD' ∉ line.map replaceNul) :
    line.map replaceNul = line := by
  have hsame : ∀ c ∈ line, replaceNul c = c := by
    intro c hc
    by_cases hnul : c = '\x00'
    · subst hnul
      exact absurd (List.mem_map_of_mem hc) h
    · exact if_neg hnul
  rw [List.map_congr_left hsame, List.map_id']

/-- Nothing is replaced on the line of a break. -/
theorem IsBreakOf.of_map_replaceNul {lines : List (List Char)} {n : Node}
    (h : IsBreakOf (lines.map (List.map replaceNul)) n) : IsBreakOf lines n := by
  obtain ⟨line, w, t, w', hline, hspan, hleads, hw, hw', hmark⟩ := h
  rw [List.getElem?_map, Option.map_eq_some_iff] at hline
  obtain ⟨written, hwritten, rfl⟩ := hline
  have hnone : '\uFFFD' ∉ written.map replaceNul := by
    refine hleads.not_mem ?_
    simp [not_mem_of_isIndentation hw, not_mem_of_isIndentation hw', hmark.not_mem]
  rw [map_replaceNul_eq hnone] at hleads
  exact ⟨written, w, t, w', hwritten, hspan, hleads, hw, hw', hmark⟩

/-- The breaks that the parser of a grammar finds in a text are written on lines of the text. -/
theorem Grammar.parser_isBreakOf (g : Grammar) {text : List Char} {blocks : List Block}
    (h : g.parser text = .ok blocks) : EachBreak (IsBreakOf (Text.lineTexts text)) [] blocks := by
  simp only [parser, parse] at h
  split at h
  · rename_i found hfound
    cases h
    split at hfound
    · cases hfound
    · cases hfound
      intro n hn hkind
      have hbreak := parseText_isBreakOf g (normalize text) n hn hkind
      rw [splitAt_normalize] at hbreak
      exact hbreak.of_map_replaceNul
  · cases h

end MarkdownLint.Markdown
