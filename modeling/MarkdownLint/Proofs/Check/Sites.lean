import MarkdownLint.Check.Visit
import MarkdownLint.Proofs.Document.Lines
import MarkdownLint.Proofs.Lists

/-!
Where the checks report. A site is a line and a number of characters from its start; a violation
`IsAt` a site when its offsets, its line and its column all say so. Each check that looks at lines
or blocks of a document finds violations at sites in increasing order (`Check.visit_sites`), however
the lines are terminated.
-/
namespace MarkdownLint

namespace Document

variable {d : Document}

theorem collectLines_eq {f : Nat → Except Fault (Option Violation)} {g : Nat → Option Violation}
    (h : ∀ i < d.lineCount, f i = .ok (g i)) :
    d.collectLines f = .ok ((List.range d.lineCount).filterMap g) := by
  have hall : (List.range d.lineCount).mapM f = .ok ((List.range d.lineCount).map g) :=
    mapM_eq_ok fun i hi => h i (List.mem_range.mp hi)
  simp only [collectLines, hall, bind, Except.bind, pure, Except.pure, List.filterMap_map,
    Function.id_comp]

end Document

/-! ## Violations at sites -/

/-- A violation of a check on line `i`, behind the first `k` characters of the line. -/
structure Check.IsAt (c : Check) (d : Document) (i k : Nat) (v : Violation) : Prop where
  line_lt : i < d.lineCount
  column_le : k ≤ (d.textAt i).length
  rule : v.rule = c.name
  severity : v.severity = .error
  start : v.start = d.offset i + k
  start_le_stop : v.start ≤ v.stop
  stop_le : v.stop ≤ d.length
  line : v.line = i + 1
  column : v.column = k + 1

/-- The message of a report: an own one that is not empty, or the description of the check. -/
def Check.messageOf (c : Check) (message : Option String) : String :=
  match message with
  | some m => if m.isEmpty then c.description else m
  | none => c.description

/-- The violation that a check reports at a site. -/
def Check.violationAt (c : Check) (d : Document) (i k stop : Nat) (message : Option String) :
    Violation where
  rule := c.name
  start := d.offset i + k
  stop := stop
  line := i + 1
  column := k + 1
  message := c.messageOf message

namespace Check

variable {c : Check} {d : Document} {i k stop : Nat} {message : Option String}

theorem isAt_violationAt (hi : i < d.lineCount) (hk : k ≤ (d.textAt i).length)
    (hstop : d.offset i + k ≤ stop) (hlen : stop ≤ d.length) :
    c.IsAt d i k (c.violationAt d i k stop message) where
  line_lt := hi
  column_le := hk
  rule := rfl
  severity := rfl
  start := rfl
  start_le_stop := hstop
  stop_le := hlen
  line := rfl
  column := rfl

/-- A report at a site succeeds, whatever its end, as long as that lies in the document. -/
theorem report_eq (c : Check) (message : Option String) (hi : i < d.lineCount)
    (hk : k ≤ (d.textAt i).length) (hstop : d.offset i + k ≤ stop) (hlen : stop ≤ d.length) :
    c.report d ((d.offset i + k : Nat) : Int) stop message =
      .ok (c.violationAt d i k stop message) := by
  have hrange : (0 : Int) ≤ ((d.offset i + k : Nat) : Int) ∧
      ((d.offset i + k : Nat) : Int) ≤ (stop : Int) ∧ (stop : Int) ≤ d.length := by omega
  simp only [report, Document.violation, if_pos hrange, Document.lineNumberOf_offset_add hi hk,
    Document.columnNumberOf_offset_add hi hk, Int.toNat_natCast]
  rfl

/-- A report at a site that ends with the line. -/
theorem report_line (c : Check) (message : Option String) (hi : i < d.lineCount)
    (hk : k ≤ (d.textAt i).length) :
    c.report d ((d.offset i + k : Nat) : Int) ((d.offset i + (d.textAt i).length : Nat) : Int)
      message = .ok (c.violationAt d i k (d.offset i + (d.textAt i).length) message) :=
  report_eq c message hi hk (by omega) (Document.offset_add_length_le i)

/-! ## Checks of lines -/

theorem length_dropEndWhile_le (p : Char → Bool) (cs : List Char) :
    (Text.dropEndWhile p cs).length ≤ cs.length := by
  have h := (List.dropWhile_sublist (l := cs.reverse) p).length_le
  simpa [Text.dropEndWhile] using h

/-- The spaces and tabs at the end of a line. -/
def trailingSpacesOn (d : Document) (i : Nat) : Option Violation :=
  let kept := Text.dropEndWhile Text.isIndent (d.textAt i)
  if kept.length = (d.textAt i).length then none
  else
    some (trailingSpaces.violationAt d i kept.length (d.offset i + (d.textAt i).length) none)

theorem visitTrailingSpaces_eq (d : Document) :
    visitTrailingSpaces d = .ok ((List.range d.lineCount).filterMap (trailingSpacesOn d)) := by
  refine Document.collectLines_eq fun i hi => ?_
  have hk := length_dropEndWhile_le Text.isIndent (d.textAt i)
  have hreport := report_line trailingSpaces none hi hk
  rw [Int.natCast_add] at hreport
  simp only [Document.lineText_eq hi, Document.lineStart_eq hi, Document.lineEnd_eq hi, bind,
    Except.bind, pure, Except.pure, hreport, trailingSpacesOn, beq_iff_eq]
  split <;> rfl

/-- A blank line that follows a blank line, where neither lies in a block of code. -/
def multipleBlanksOn (d : Document) (i : Nat) : Option Violation :=
  if i = 0 ∨ d.isCodeLine i ∨ d.isCodeLine (i - 1) then none
  else if (d.textAt i).all Text.isBlank ∧ (d.textAt (i - 1)).all Text.isBlank then
    some (multipleBlanks.violationAt d i 0 (d.offset i + (d.textAt i).length) none)
  else none

theorem visitMultipleBlanks_eq (d : Document) :
    visitMultipleBlanks d = .ok ((List.range d.lineCount).filterMap (multipleBlanksOn d)) := by
  refine Document.collectLines_eq fun i hi => ?_
  have hprev : i - 1 < d.lineCount := by omega
  have hreport := report_line multipleBlanks none hi (Nat.zero_le _)
  simp only [Nat.add_zero] at hreport
  simp only [Document.isBlank_eq hi, Document.isBlank_eq hprev, Document.lineStart_eq hi,
    Document.lineEnd_eq hi, bind, Except.bind, pure, Except.pure, hreport, multipleBlanksOn,
    Bool.or_eq_true, beq_iff_eq, or_assoc]
  split
  · rfl
  · cases (d.textAt i).all Text.isBlank <;> cases (d.textAt (i - 1)).all Text.isBlank <;> rfl

/-- The part of a line beyond the limit, if a blank character stands there. -/
def lineLengthOn (limit : Nat) (codeBlocks : Bool) (d : Document) (i : Nat) : Option Violation :=
  if !codeBlocks && d.isCodeLine i then none
  else if limit < (d.textAt i).length && ((d.textAt i).drop limit).any Text.isBlank then
    let check := lineLength limit codeBlocks
    some (check.violationAt d i limit (d.offset i + (d.textAt i).length)
      (some (check.description ++ " (> " ++ toString limit ++ ")")))
  else none

theorem visitLineLength_eq (limit : Nat) (codeBlocks : Bool) (d : Document) :
    visitLineLength limit codeBlocks d =
      .ok ((List.range d.lineCount).filterMap (lineLengthOn limit codeBlocks d)) := by
  refine Document.collectLines_eq fun i hi => ?_
  simp only [Document.lineText_eq hi, Document.lineStart_eq hi, Document.lineEnd_eq hi, bind,
    Except.bind, pure, Except.pure, lineLengthOn]
  split
  · rfl
  · split
    · rename_i hlong
      have hk : limit ≤ (d.textAt i).length := by
        simp only [Bool.and_eq_true, decide_eq_true_eq] at hlong
        omega
      rw [← Int.natCast_add, report_line _ _ hi hk]
    · rfl

/-! ## Hard tabs -/

/-- The places of the hard tabs of a text. -/
def tabColumns (cs : List Char) : List Nat := (cs.zipIdx.filter fun p => p.1 == '\t').map (·.2)

theorem tabColumns_append (as bs : List Char) :
    tabColumns (as ++ bs) = tabColumns as ++ (tabColumns bs).map (as.length + ·) := by
  have hshift : bs.zipIdx as.length = bs.zipIdx.map fun p => (p.1, as.length + p.2) := by
    rw [List.zipIdx_eq_map_add]
  simp only [tabColumns, List.zipIdx_append, List.filter_append, List.map_append, Nat.zero_add,
    hshift, List.filter_map, List.map_map]
  rfl

theorem tabColumns_eq_nil {cs : List Char} (h : '\t' ∉ cs) : tabColumns cs = [] := by
  have hnone : cs.zipIdx.filter (fun p => p.1 == '\t') = [] := by
    rw [List.filter_eq_nil_iff]
    intro p hp hc
    have hmem : p.1 ∈ cs := List.fst_mem_of_mem_zipIdx hp
    exact h (beq_iff_eq.mp hc ▸ hmem)
  rw [tabColumns, hnone, List.map_nil]

theorem lt_of_mem_tabColumns {cs : List Char} {k : Nat} (h : k ∈ tabColumns cs) :
    k < cs.length := by
  obtain ⟨p, hp, rfl⟩ := List.mem_map.mp h
  have hlt := List.snd_lt_add_of_mem_zipIdx (List.mem_filter.mp hp).1
  omega

/-- The hard tabs of pieces whose terminators hold none are those of the texts of the pieces. -/
theorem tabColumns_flatMap_whole {ps : List Text.Piece} (h : ∀ p ∈ ps, '\t' ∉ p.terminator) :
    tabColumns (ps.flatMap Text.Piece.whole) = (List.range ps.length).flatMap fun i =>
      (tabColumns ((ps.map Text.Piece.text)[i]?.getD [])).map
        (((ps.take i).flatMap Text.Piece.whole).length + ·) := by
  induction ps with
  | nil => rfl
  | cons p ps ih =>
    have hp : tabColumns p.whole = tabColumns p.text := by
      rw [Text.Piece.whole, tabColumns_append, tabColumns_eq_nil (h p (by simp)), List.map_nil,
        List.append_nil]
    rw [List.flatMap_cons, tabColumns_append, hp, ih fun q hq => h q (by simp [hq]),
      List.length_cons, List.range_succ_eq_map, List.flatMap_cons, List.flatMap_map,
      List.map_flatMap]
    simp [Function.comp_def, Nat.add_assoc]

/-- The places of the hard tabs of a document. -/
def tabSites (d : Document) : List (Nat × Nat) :=
  (List.range d.lineCount).flatMap fun i => (tabColumns (d.textAt i)).map fun k => (i, k)

theorem tabColumns_text (d : Document) :
    tabColumns d.text = (tabSites d).map fun s => d.offset s.1 + s.2 := by
  have hterm : ∀ p ∈ d.pieces, '\t' ∉ p.terminator := by
    intro p hp hc
    have := Text.isTerminator_of_mem_terminator hp '\t' hc
    simp [Text.isTerminator] at this
  have h := tabColumns_flatMap_whole hterm
  rw [Document.length_pieces, Document.pieces, Text.flatMap_whole_pieces] at h
  rw [h, tabSites, List.map_flatMap]
  simp only [List.map_map]
  rfl

theorem visitHardTabs_eq (d : Document) :
    visitHardTabs d = .ok ((tabSites d).map fun s =>
      hardTabs.violationAt d s.1 s.2 (d.offset s.1 + s.2 + 1) none) := by
  have hcolumns : visitHardTabs d =
      (tabColumns d.text).mapM fun (o : Nat) => hardTabs.report d o (o + 1) none := by
    rw [tabColumns, List.mapM_map]
    rfl
  rw [hcolumns, tabColumns_text, List.mapM_map]
  refine mapM_eq_ok fun s hs => ?_
  obtain ⟨i, hi, hs⟩ := List.mem_flatMap.mp hs
  obtain ⟨k, hk, rfl⟩ := List.mem_map.mp hs
  have hi : i < d.lineCount := List.mem_range.mp hi
  have hk : k < (d.textAt i).length := lt_of_mem_tabColumns hk
  have hlen : d.offset i + k + 1 ≤ d.length := by
    have := Document.offset_add_length_le (d := d) i
    omega
  show hardTabs.report d ((d.offset i + k : Nat) : Int) ((d.offset i + k + 1 : Nat) : Int) none = _
  exact report_eq hardTabs none hi (Nat.le_of_lt hk) (Nat.le_succ _) hlen

/-! ## Checks of blocks -/

open Markdown (Node)

/-- The violation on the lines of a block. -/
def violationOn (c : Check) (d : Document) (n : Node) (message : Option String) : Violation :=
  c.violationAt d n.span.first 0 (d.blockStop n.span) message

theorem isAt_violationOn {n : Node} (h : n.span.first < d.lineCount) :
    c.IsAt d n.span.first 0 (c.violationOn d n message) :=
  isAt_violationAt h (Nat.zero_le _) (Document.offset_le_blockStop n.span)
    (Document.blockStop_le_length n.span)

/-- A report on the range of a block succeeds. -/
theorem report_block {n : Node} (h : n.span.first < d.lineCount) :
    c.report d (d.offset n.span.first) (d.blockStop n.span) message =
      .ok (c.violationOn d n message) :=
  report_eq (k := 0) c message h (Nat.zero_le _) (Document.offset_le_blockStop n.span)
    (Document.blockStop_le_length n.span)

theorem reportNode_eq {n : Node} (h : n.span.first < d.lineCount) :
    c.reportNode d n message = .ok (c.violationOn d n message) := by
  simp only [reportNode, Document.blockRange_eq h, bind, Except.bind, report_block h]

theorem reportNode_eq_error {n : Node} (h : d.lineCount ≤ n.span.first) :
    c.reportNode d n message = .error .noSuchLine := by
  simp only [reportNode, Document.blockRange_eq_error h, bind, Except.bind]

/-- The headings of a document start on its lines. -/
def HeadingsInside (d : Document) : Prop := ∀ h ∈ d.headings, h.2.span.first < d.lineCount

theorem visitFirstHeading_eq (level : Level) {d : Document} (hd : HeadingsInside d) :
    visitFirstHeading level d = .ok ((d.headings.take 1).filterMap fun h =>
      if h.1 = level.number then none else some ((firstHeading level).violationOn d h.2 none)) := by
  cases hh : d.headings with
  | nil => simp [visitFirstHeading, hh, pure, Except.pure]
  | cons h rest =>
    have hin : h.2.span.first < d.lineCount := hd h (by simp [hh])
    by_cases hlevel : h.1 = level.number <;>
      simp [visitFirstHeading, hh, hlevel, reportNode_eq hin, bind, Except.bind, pure, Except.pure]

theorem visitSingleHeading_eq (level : Level) {d : Document} (hd : HeadingsInside d) :
    visitSingleHeading level d =
      .ok (((d.headings.filter fun h => h.1 == level.number).drop 1).map fun h =>
        (singleHeading level).violationOn d h.2 none) := by
  refine mapM_eq_ok fun h hh => reportNode_eq (hd h ?_)
  exact (List.mem_filter.mp (List.mem_of_mem_drop hh)).1

/-- Whether the line before some lines is blank; the start of the document counts as blank. -/
def blankBefore (d : Document) (s : Markdown.Span) : Bool :=
  s.first == 0 || (d.textAt (s.first - 1)).all Text.isBlank

/-- Whether the line behind some lines is blank; the end of the document counts as blank. -/
def blankBehind (d : Document) (s : Markdown.Span) : Bool :=
  decide (d.lineCount ≤ s.last) || (d.textAt s.last).all Text.isBlank

/-- A heading that has no blank line before it or behind it. -/
def blanksAroundOn (d : Document) (n : Node) : Option Violation :=
  if blankBefore d n.span && blankBehind d n.span then none
  else some (blanksAroundHeadings.violationOn d n none)

theorem visitBlanksAroundHeadings_eq {d : Document} (hd : HeadingsInside d) :
    visitBlanksAroundHeadings d = .ok ((d.headings.filter fun h => h.2.ancestors.isEmpty).filterMap
      fun h => blanksAroundOn d h.2) := by
  rw [visitBlanksAroundHeadings, mapM_eq_ok (g := fun h => blanksAroundOn d h.2)]
  · simp only [bind, Except.bind, pure, Except.pure, List.filterMap_map, Function.id_comp]
  · intro h hh
    have hin : h.2.span.first < d.lineCount := hd h (List.mem_filter.mp hh).1
    have hprev : h.2.span.first - 1 < d.lineCount := by omega
    simp only [Document.isBlank_eq hprev, reportNode_eq hin, blanksAroundOn, blankBefore,
      blankBehind, bind, Except.bind, pure, Except.pure]
    by_cases hend : d.lineCount ≤ h.2.span.last
    · simp only [if_pos hend, decide_eq_true hend, Bool.true_or, Bool.and_true]
      split <;> split <;> simp_all
    · have hlast : h.2.span.last < d.lineCount := by omega
      simp only [if_neg hend, decide_eq_false hend, Document.isBlank_eq hlast, Bool.false_or]
      split <;> split <;> simp_all

/-! ## Thematic breaks -/

/-- How a break of a document is written. -/
def breakTextOf (d : Document) (n : Node) : String :=
  String.ofList (breakText (d.slice (d.offset n.span.first) (d.blockStop n.span)) n)

/-- A break that is not written as expected. -/
def breakOn (c : Check) (d : Document) (expected : String) (n : Node) : Option Violation :=
  if breakTextOf d n == expected then none
  else
    some (c.violationOn d n (some (c.description ++ " (expected '" ++ expected ++ "')")))

/-- With an expectation each break is looked at for itself. -/
theorem visitBreaks_some_cons (c : Check) (d : Document) (expected : String) {n : Node}
    {ns : List Node} (h : n.span.first < d.lineCount) :
    visitBreaks c d (some expected) (n :: ns) =
      (visitBreaks c d (some expected) ns).map ((breakOn c d expected n).toList ++ ·) := by
  simp only [visitBreaks, Document.blockRange_eq h, bind, Except.bind, pure, Except.pure,
    report_block h]
  by_cases heq : breakTextOf d n == expected
  · have htext := heq
    simp only [breakTextOf] at htext
    rw [if_pos htext, breakOn, if_pos heq]
    cases visitBreaks c d (some expected) ns <;> rfl
  · have htext := heq
    simp only [breakTextOf] at htext
    rw [if_neg htext, breakOn, if_neg heq]
    cases visitBreaks c d (some expected) ns <;> rfl

theorem visitBreaks_some (c : Check) (d : Document) (expected : String) {ns : List Node}
    (h : ∀ n ∈ ns, n.span.first < d.lineCount) :
    visitBreaks c d (some expected) ns = .ok (ns.filterMap (breakOn c d expected)) := by
  induction ns with
  | nil => rfl
  | cons n ns ih =>
    rw [visitBreaks_some_cons c d expected (h n (by simp)), ih fun m hm => h m (by simp [hm])]
    cases hb : breakOn c d expected n <;> simp [hb, Except.map]

/-- Without an expectation the first break sets it. -/
theorem visitBreaks_none_cons (c : Check) (d : Document) {n : Node} {ns : List Node}
    (h : n.span.first < d.lineCount) :
    visitBreaks c d none (n :: ns) = visitBreaks c d (some (breakTextOf d n)) ns := by
  simp only [visitBreaks, Document.blockRange_eq h, bind, Except.bind, breakTextOf]

/-! ## The name of the file -/

theorem visitFilename_eq (d : Document) :
    visitFilename d = .ok (if (basename d.filename).toList.any Text.isBlank then
      [filename.violationAt d 0 0 0 (some (filename.description ++ ": " ++ basename d.filename))]
      else []) := by
  have hreport : ∀ message, filename.report d 0 0 message =
      .ok (filename.violationAt d 0 0 0 message) := fun message =>
    report_eq (i := 0) (k := 0) filename message d.lineCount_pos (Nat.zero_le _) (Nat.le_refl 0)
      (Nat.zero_le _)
  simp only [visitFilename, hreport, bind, Except.bind, pure, Except.pure]
  split <;> rfl

end Check

end MarkdownLint
