import MarkdownLint.Proofs.Check.Sites
import MarkdownLint.Proofs.Markdown.Parsing
import MarkdownLint.Proofs.Rule.Making
import MarkdownLint.Proofs.Text.Utf8
import MarkdownLint.Scan

/-!
How lines are terminated makes no difference to what is reported. Two documents with the same lines
and the same blocks are related by `SameLines`; each check sees the same on both, offsets apart
(`Check.seenVisit_eq`), and so does a list of rules. Under every parser that does not see
terminators and finds breaks of one line, a text and the text with its terminators unified are
therefore linted alike (`seen_lint_universalNewlines`). The parser of a grammar is one of these.
-/
namespace MarkdownLint

open Markdown (Node)

/-- What a report tells of a violation: everything but its offsets. -/
def Violation.seen (v : Violation) : String × Int × Int × String × Severity :=
  (v.rule, v.line, v.column, v.message, v.severity)

/-- Two documents of one name with the same lines and the same blocks, in which every break covers
one line. -/
structure SameLines (d e : Document) : Prop where
  filename : d.filename = e.filename
  blocks : d.blocks = e.blocks
  lines : d.lineTexts = e.lineTexts
  breaks : Markdown.BreaksOnOneLine d.blocks

namespace SameLines

variable {d e : Document}

theorem textAt (h : SameLines d e) (i : Nat) : d.textAt i = e.textAt i := by
  rw [Document.textAt, Document.textAt, h.lines]

theorem lineCount (h : SameLines d e) : d.lineCount = e.lineCount := by
  rw [← Document.length_lineTexts, ← Document.length_lineTexts, h.lines]

theorem nodes (h : SameLines d e) : d.nodes = e.nodes := by
  rw [Document.nodes, Document.nodes, h.blocks]

theorem headings (h : SameLines d e) : d.headings = e.headings := by
  rw [Document.headings, Document.headings, h.nodes]

theorem nodesWhere (h : SameLines d e) (p : Markdown.Kind → Bool) :
    d.nodesWhere p = e.nodesWhere p := by
  rw [Document.nodesWhere, Document.nodesWhere, h.nodes]

theorem isCodeLine (h : SameLines d e) (i : Nat) : d.isCodeLine i = e.isCodeLine i := by
  rw [Document.isCodeLine, Document.isCodeLine, h.nodesWhere]

theorem isBlank (h : SameLines d e) (i : Nat) : d.isBlank i = e.isBlank i := by
  by_cases hi : i < d.lineCount
  · rw [Document.isBlank_eq hi, Document.isBlank_eq (h.lineCount ▸ hi), h.textAt]
  · have hd : d.lineCount ≤ i := Nat.le_of_not_lt hi
    rw [Document.isBlank_eq_error hd, Document.isBlank_eq_error (h.lineCount ▸ hd)]

end SameLines

namespace Check

variable {c : Check} {d e : Document}

/-- What is seen of the violations that a check finds. -/
def seenVisit (c : Check) (d : Document) :
    Except Fault (List (String × Int × Int × String × Severity)) :=
  (c.visit d).map (List.map Violation.seen)

/-- A violation at a site is seen alike in every document, wherever it ends. -/
theorem seen_violationAt (c : Check) (d e : Document) (i k stop stop' : Nat)
    (message : Option String) :
    (c.violationAt d i k stop message).seen = (c.violationAt e i k stop' message).seen :=
  rfl

/-! ## Checks of lines -/

theorem seenVisit_of_lines (h : SameLines d e) {f : Document → Nat → Option Violation}
    (hvisit : ∀ d, c.visit d = .ok ((List.range d.lineCount).filterMap (f d)))
    (hf : ∀ i, (f d i).map Violation.seen = (f e i).map Violation.seen) :
    c.seenVisit d = c.seenVisit e := by
  simp only [seenVisit, hvisit, Except.map, List.map_filterMap, h.lineCount, hf]

theorem seenVisit_trailingSpaces (h : SameLines d e) :
    trailingSpaces.seenVisit d = trailingSpaces.seenVisit e := by
  refine seenVisit_of_lines h visitTrailingSpaces_eq fun i => ?_
  simp only [trailingSpacesOn, h.textAt]
  split
  · rfl
  · exact congrArg some (seen_violationAt ..)

theorem seenVisit_multipleBlanks (h : SameLines d e) :
    multipleBlanks.seenVisit d = multipleBlanks.seenVisit e := by
  refine seenVisit_of_lines h visitMultipleBlanks_eq fun i => ?_
  simp only [multipleBlanksOn, h.textAt, h.isCodeLine]
  split
  · rfl
  · split
    · exact congrArg some (seen_violationAt ..)
    · rfl

theorem seenVisit_lineLength (limit : Nat) (codeBlocks : Bool) (h : SameLines d e) :
    (lineLength limit codeBlocks).seenVisit d = (lineLength limit codeBlocks).seenVisit e := by
  refine seenVisit_of_lines h (visitLineLength_eq limit codeBlocks) fun i => ?_
  simp only [lineLengthOn, h.textAt, h.isCodeLine]
  split
  · rfl
  · split
    · exact congrArg some (seen_violationAt ..)
    · rfl

theorem seenVisit_hardTabs (h : SameLines d e) : hardTabs.seenVisit d = hardTabs.seenVisit e := by
  have hsites : tabSites d = tabSites e := by
    simp only [tabSites, h.lineCount, h.textAt]
  simp only [seenVisit, visit, visitHardTabs_eq, Except.map, hsites, List.map_map]
  rfl

theorem seenVisit_filename (h : SameLines d e) : filename.seenVisit d = filename.seenVisit e := by
  simp only [seenVisit, visit, visitFilename_eq, Except.map, h.filename]
  split <;> rfl

/-! ## Checks of blocks -/

theorem seen_reportNode (c : Check) (h : SameLines d e) (n : Node) (message : Option String) :
    (c.reportNode d n message).map Violation.seen =
      (c.reportNode e n message).map Violation.seen := by
  by_cases hn : n.span.first < d.lineCount
  · rw [reportNode_eq hn, reportNode_eq (h.lineCount ▸ hn)]
    rfl
  · have hd : d.lineCount ≤ n.span.first := Nat.le_of_not_lt hn
    rw [reportNode_eq_error hd, reportNode_eq_error (h.lineCount ▸ hd)]

theorem seenVisit_firstHeading (level : Level) (h : SameLines d e) :
    (firstHeading level).seenVisit d = (firstHeading level).seenVisit e := by
  simp only [seenVisit, visit, visitFirstHeading, h.headings]
  cases e.headings with
  | nil => rfl
  | cons first rest =>
    obtain ⟨number, n⟩ := first
    by_cases hlevel : number == level.number
    · simp only [if_pos hlevel]
    · simp only [if_neg hlevel]
      refine map_bind_of_map_eq (seen_reportNode _ h n none) fun v w hvw => ?_
      exact congrArg (fun s => Except.ok [s]) hvw

theorem seenVisit_singleHeading (level : Level) (h : SameLines d e) :
    (singleHeading level).seenVisit d = (singleHeading level).seenVisit e := by
  simp only [seenVisit, visit, visitSingleHeading, map_mapM, h.headings,
    seen_reportNode _ h]

theorem seenVisit_blanksAroundHeadings (h : SameLines d e) :
    blanksAroundHeadings.seenVisit d = blanksAroundHeadings.seenVisit e := by
  simp only [seenVisit, visit, visitBlanksAroundHeadings, h.headings]
  refine map_bind_of_map_eq (s := List.map (Option.map Violation.seen)) ?_ fun vs ws hvs => ?_
  · -- one heading: both runs look at the same two lines, and report it or not
    rw [map_mapM, map_mapM]
    refine mapM_congr fun heading _ => ?_
    simp only [h.isBlank, h.lineCount]
    have hreport : ∀ blank : Bool,
        ((if blank then pure none else do
            let v ← blanksAroundHeadings.reportNode d heading.2 none
            pure (some v)) : Except Fault (Option Violation)).map (Option.map Violation.seen) =
          ((if blank then pure none else do
            let v ← blanksAroundHeadings.reportNode e heading.2 none
            pure (some v)) : Except Fault (Option Violation)).map (Option.map Violation.seen) := by
      intro blank
      cases blank with
      | true => rfl
      | false =>
        refine map_bind_of_map_eq (seen_reportNode _ h heading.2 none) fun v w hvw => ?_
        exact congrArg (fun s => Except.ok (some s)) hvw
    split
    · refine map_bind_congr fun before => ?_
      split <;> exact map_bind_congr fun after => hreport (before && after)
    · refine map_bind_congr fun before => ?_
      split <;> exact map_bind_congr fun after => hreport (before && after)
  · have hfilter : ∀ found : List (Option Violation), (found.filterMap id).map Violation.seen =
        (found.map (Option.map Violation.seen)).filterMap id := by
      intro found
      rw [List.map_filterMap, List.filterMap_map]
      rfl
    exact congrArg Except.ok (by rw [hfilter, hfilter, hvs])

/-! ## Thematic breaks -/

theorem breakTextOf_eq (h : SameLines d e) {n : Node} (hn : n.span.first < d.lineCount)
    (hs : n.span.last = n.span.first + 1) : breakTextOf d n = breakTextOf e n := by
  have hd : d.slice (d.offset n.span.first) (d.blockStop n.span) = d.textAt n.span.first := by
    rw [Document.blockStop_of_one_line hn hs, Document.slice_offset hn]
  have hn' : n.span.first < e.lineCount := h.lineCount ▸ hn
  have he : e.slice (e.offset n.span.first) (e.blockStop n.span) = e.textAt n.span.first := by
    rw [Document.blockStop_of_one_line hn' hs, Document.slice_offset hn']
  rw [breakTextOf, breakTextOf, hd, he, h.textAt]

theorem seen_visitBreaks (c : Check) (h : SameLines d e) {ns : List Node}
    (hs : ∀ n ∈ ns, n.span.last = n.span.first + 1) (expected : Option String) :
    (visitBreaks c d expected ns).map (List.map Violation.seen) =
      (visitBreaks c e expected ns).map (List.map Violation.seen) := by
  induction ns generalizing expected with
  | nil => rfl
  | cons n ns ih =>
    have hrest := ih fun m hm => hs m (by simp [hm])
    by_cases hn : n.span.first < d.lineCount
    · have hn' : n.span.first < e.lineCount := h.lineCount ▸ hn
      -- a break of one line has no terminator inside it, so that its text is the same
      have htext := breakTextOf_eq h hn (hs n (by simp))
      cases expected with
      | none => rw [visitBreaks_none_cons c d hn, visitBreaks_none_cons c e hn', htext, hrest]
      | some expected =>
        have hon : (breakOn c d expected n).map Violation.seen =
            (breakOn c e expected n).map Violation.seen := by
          simp only [breakOn, htext]
          split
          · rfl
          · exact congrArg some (seen_violationAt ..)
        have hpush : ∀ (x : Except Fault (List Violation)) (o : Option Violation),
            (x.map (o.toList ++ ·)).map (List.map Violation.seen) =
              (x.map (List.map Violation.seen)).map ((o.map Violation.seen).toList ++ ·) := by
          intro x o
          cases x with
          | error fault => rfl
          | ok vs => cases o <;> rfl
        rw [visitBreaks_some_cons c d expected hn, visitBreaks_some_cons c e expected hn', hpush,
          hpush, hrest, hon]
    · -- a break behind the last line is a fault in both documents
      have hd : d.lineCount ≤ n.span.first := Nat.le_of_not_lt hn
      simp only [visitBreaks, Document.blockRange_eq_error hd,
        Document.blockRange_eq_error (h.lineCount ▸ hd), bind, Except.bind]

theorem seenVisit_breakStyle (style : String) (h : SameLines d e) :
    (breakStyle style).seenVisit d = (breakStyle style).seenVisit e := by
  have hbreaks : ∀ n ∈ d.nodesWhere (· == .thematicBreak), n.span.last = n.span.first + 1 := by
    intro n hn
    obtain ⟨hn, hkind⟩ := List.mem_filter.mp hn
    exact h.breaks [] n hn (beq_iff_eq.mp hkind)
  have hnodes := h.nodesWhere (· == .thematicBreak)
  simp only [seenVisit, visit, visitBreakStyle, ← hnodes]
  exact seen_visitBreaks _ h hbreaks _

/-- Documents with the same lines and blocks look alike to every check. -/
theorem seenVisit_eq (c : Check) (h : SameLines d e) : c.seenVisit d = c.seenVisit e := by
  cases c with
  | hardTabs => exact seenVisit_hardTabs h
  | trailingSpaces => exact seenVisit_trailingSpaces h
  | multipleBlanks => exact seenVisit_multipleBlanks h
  | lineLength limit codeBlocks => exact seenVisit_lineLength limit codeBlocks h
  | firstHeading level => exact seenVisit_firstHeading level h
  | singleHeading level => exact seenVisit_singleHeading level h
  | blanksAroundHeadings => exact seenVisit_blanksAroundHeadings h
  | breakStyle style => exact seenVisit_breakStyle style h
  | filename => exact seenVisit_filename h

end Check

/-! ## Rules -/

/-- What a scan of a file tells: everything but the offsets of the violations. -/
structure FileReport where
  filename : String
  violations : List (String × Int × Int × String × Severity)
  parseFailure : Option ParseFailure
  ruleFailures : List RuleFailure
deriving DecidableEq

/-- What is seen of the outcome for a file. -/
def FileScan.seen (s : FileScan) : FileReport :=
  ⟨s.filename, s.violations.map Violation.seen, s.parseFailure, s.ruleFailures⟩

theorem Rule.seen_process (r : Rule) {d e : Document} (h : SameLines d e) :
    (r.process d).map (List.map Violation.seen) = (r.process e).map (List.map Violation.seen) := by
  simp only [Rule.process, h.filename]
  split
  · exact r.check.seenVisit_eq h
  · rfl

theorem seen_applyRules (rules : List Rule) {d e : Document} (h : SameLines d e) :
    (applyRules d (rules.map Rule.checker)).seen = (applyRules e (rules.map Rule.checker)).seen := by
  induction rules with
  | nil => simp only [List.map_nil, applyRules, FileScan.seen, h.filename]
  | cons r rules ih =>
    have hr := r.seen_process h
    simp only [FileScan.seen, FileReport.mk.injEq] at ih ⊢
    obtain ⟨hname, hviolations, hparse, hfailures⟩ := ih
    simp only [List.map_cons, applyRules, Rule.checker]
    -- the rule fails on both documents or on none
    cases hd : r.process d with
    | error fault =>
      cases he : r.process e with
      | error fault' =>
        simp only [hd, he, Except.map, Except.error.injEq] at hr
        exact ⟨hname, hviolations, hparse, by rw [hfailures, hr, h.filename]⟩
      | ok vs => simp [hd, he, Except.map] at hr
    | ok vs =>
      cases he : r.process e with
      | error fault => simp [hd, he, Except.map] at hr
      | ok ws =>
        simp only [hd, he, Except.map, Except.ok.injEq] at hr
        exact ⟨hname, by rw [List.map_append, List.map_append, hr, hviolations], hparse, hfailures⟩

/-! ## Texts -/

/-- Lints a text: parses it and applies rules. -/
def lint (parser : Parser) (rules : List Rule) (text : List Char) (filename : String) :
    Except ParseFailure FileScan :=
  (loadDocument parser text filename).map fun d => applyRules d (rules.map Rule.checker)

/-- The outcome for a file whose text was linted: a file that is not parsed is skipped. -/
def FileScan.ofLint (filename : String) : Except ParseFailure FileScan → FileScan
  | .ok scan => scan
  | .error failure => { filename, parseFailure := some failure }

/-- Linting a text and scanning a file come to the same, once terminators are unified. -/
theorem scanContent_toUTF8 (parser : Parser) (rules : List Rule) (text : List Char)
    (filename : String) :
    scanContent parser (rules.map Rule.checker) (String.ofList text).toUTF8 filename =
      .ofLint filename (lint parser rules (Text.universalNewlines text) filename) := by
  simp only [scanContent, readDocument, Text.decode_toUTF8, String.toList_ofList, lint]
  cases loadDocument parser (Text.universalNewlines text) filename <;> rfl

theorem sameLines_universalNewlines (text : List Char) (filename : String)
    {blocks : List Markdown.Block} (h : Markdown.BreaksOnOneLine blocks) :
    SameLines ⟨filename, text, blocks⟩ ⟨filename, Text.universalNewlines text, blocks⟩ where
  filename := rfl
  blocks := rfl
  lines := (Text.lineTexts_universalNewlines text).symm
  breaks := h

theorem seen_lint_universalNewlines {parser : Parser} (rules : List Rule) {text : List Char}
    (filename : String) (hterminators : parser (Text.universalNewlines text) = parser text)
    (hbreaks : ∀ blocks, parser text = .ok blocks → Markdown.BreaksOnOneLine blocks) :
    (lint parser rules text filename).map FileScan.seen =
      (lint parser rules (Text.universalNewlines text) filename).map FileScan.seen := by
  simp only [lint, loadDocument, hterminators]
  cases hparse : parser text with
  | error rejection => rfl
  | ok blocks =>
    have hsame := sameLines_universalNewlines text filename (hbreaks blocks hparse)
    exact congrArg Except.ok (seen_applyRules rules hsame)

theorem FileScan.seen_ofLint {filename : String} {x y : Except ParseFailure FileScan}
    (h : x.map FileScan.seen = y.map FileScan.seen) :
    (FileScan.ofLint filename x).seen = (FileScan.ofLint filename y).seen := by
  cases x with
  | error failure =>
    cases y with
    | error failure' =>
      cases h
      rfl
    | ok scan => cases h
  | ok scan =>
    cases y with
    | error failure => cases h
    | ok scan' => exact Except.ok.inj h

/-- Terminators make no difference: under every parser that does not see them and finds breaks of
one line only, and for all rules, in particular those of a configuration, a text is linted like the
text with its terminators unified, which is what scanning a file with the text looks at. The same
violations are seen, in the same order, with the same lines, columns, messages and severities, and
the same rules fail. -/
theorem lint_terminators {parser : Parser}
    (hterminators : ∀ text, parser (Text.universalNewlines text) = parser text)
    (hbreaks : ∀ text blocks, parser text = .ok blocks → Markdown.BreaksOnOneLine blocks)
    (rules : List Rule) (text : List Char) (filename : String) :
    (lint parser rules text filename).map FileScan.seen =
        (lint parser rules (Text.universalNewlines text) filename).map FileScan.seen ∧
      (scanContent parser (rules.map Rule.checker) (String.ofList text).toUTF8 filename).seen =
        (FileScan.ofLint filename (lint parser rules text filename)).seen := by
  have hlint := seen_lint_universalNewlines rules filename (hterminators text) (hbreaks text)
  refine ⟨hlint, ?_⟩
  rw [scanContent_toUTF8]
  exact FileScan.seen_ofLint hlint.symm

/-- A text with terminators of all kinds, among them some that look like others. -/
def mixedLines : List Char := "---\r\n\t\r***\n\r\r\r\na \r".toList

/-- The standard rules under the standard grammar. -/
theorem lint_terminators_mixedLines :
    Text.universalNewlines mixedLines = "---\n\t\n***\n\n\n\na \n".toList ∧
      ∃ g rules, Markdown.ParserOptions.grammar {} = .ok g ∧
        Configuration.instantiate {} (fun _ => none) = .ok rules ∧
        (lint g.parser rules mixedLines "a.md").map FileScan.seen =
          (lint g.parser rules "---\n\t\n***\n\n\n\na \n".toList "a.md").map FileScan.seen := by
  have hunified : Text.universalNewlines mixedLines = "---\n\t\n***\n\n\n\na \n".toList := by
    decide
  obtain ⟨rules, hrules⟩ := Configuration.exists_instantiate_standard fun _ => none
  obtain ⟨g, hg⟩ : ∃ g, Markdown.ParserOptions.grammar {} = .ok g := ⟨_, rfl⟩
  obtain ⟨hlint, -⟩ := lint_terminators g.parser_universalNewlines
    (fun _ _ => g.parser_breaksOnOneLine) rules mixedLines "a.md"
  rw [hunified] at hlint
  exact ⟨hunified, g, rules, hg, hrules, hlint⟩

end MarkdownLint
