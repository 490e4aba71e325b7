import MarkdownLint.Proofs.Report.Fidelity
import MarkdownLint.Proofs.Text.Integer
import MarkdownLint.Proofs.Text.Pieces
import MarkdownLint.Report.Summary
import Mathlib.Data.List.Basic

/-!
The summary of a scan can be read back, although nothing in it is escaped. No name of a file holds a
line break, so the lines are found again (`splitAt_summary`); no name of a rule holds a blank, so it
ends at the first one, and what stands before the last two colons is the name of the file, whatever
it holds (`readMention?_summaryLine`). So results with the same summary mention the same violations.
-/
namespace MarkdownLint

namespace Text

/-- What stands before the first separator, and what stands behind it. -/
def cutFirst (sep : Char) (cs : List Char) : List Char × List Char :=
  (cs.takeWhile (· != sep), (cs.dropWhile (· != sep)).tail)

/-- What stands before the last separator, and what stands behind it. -/
def cutLast (sep : Char) (cs : List Char) : List Char × List Char :=
  ((cutFirst sep cs.reverse).2.reverse, (cutFirst sep cs.reverse).1.reverse)

theorem cutFirst_append {sep : Char} {before : List Char} (h : sep ∉ before)
    (behind : List Char) : cutFirst sep (before ++ sep :: behind) = (before, behind) := by
  have hbefore : ∀ c ∈ before, (c != sep) = true := by
    intro c hc
    exact bne_iff_ne.mpr fun heq => h (heq ▸ hc)
  simp [cutFirst, List.takeWhile_append_of_pos hbefore, List.dropWhile_append_of_pos hbefore]

theorem cutLast_append {sep : Char} {behind : List Char} (h : sep ∉ behind)
    (before : List Char) : cutLast sep (before ++ sep :: behind) = (before, behind) := by
  have hreverse : (before ++ sep :: behind).reverse = behind.reverse ++ sep :: before.reverse := by
    simp
  rw [cutLast, hreverse, cutFirst_append (by simpa using h)]
  simp

end Text

namespace ScanResult

/-! ## Reading a summary -/

/-- What a summary says of a violation. -/
structure Mention where
  rule : String
  filename : String
  line : Int
  column : Int
deriving Repr, DecidableEq

/-- The violations of a result as its summary mentions them, in order. -/
def mentions (r : ScanResult) : List Mention :=
  r.violations.flatMap fun f => f.2.map fun v => ⟨v.rule, f.1, v.line, v.column⟩

/-- What the line of a violation says. -/
def readMention? (line : List Char) : Option Mention :=
  let (rule, place) := Text.cutFirst ' ' (line.drop 4)
  let (place, column) := Text.cutLast ':' (place.drop 3)
  let (filename, line) := Text.cutLast ':' place
  (Text.readInteger? (String.ofList line)).bind fun line =>
    (Text.readInteger? (String.ofList column)).map fun column =>
      ⟨String.ofList rule, String.ofList filename, line, column⟩

/-- The number of files that the first line of a summary gives. -/
def readCount? (line : List Char) : Option Nat := Text.readNatural? 10 (Text.cutFirst ' ' line).1

/-- The number of files and the violations that a summary gives: these stand below three lines. -/
def readSummary (summary : String) : Option Nat × List Mention :=
  let lines := Text.splitAt '\n' summary.toList
  (lines.head?.bind readCount?, (lines.drop 3).filterMap readMention?)

/-- Files whose names hold no line break, with violations of rules whose names hold no blank. -/
structure Legible (files : List (String × List Violation)) : Prop where
  filenames : ∀ f ∈ files, '\n' ∉ f.1.toList
  rules : ∀ f ∈ files, ∀ v ∈ f.2, ∀ c ∈ v.rule.toList, Text.isBlank c = false

/-! ## Lines -/

theorem not_mem_toString {c : Char} (h : Text.isNumeric c = false) (n : Int) :
    c ∉ (toString n).toList := by
  intro hc
  rw [Text.isNumeric_of_mem_toString hc] at h
  cases h

theorem toList_summaryLine (filename : String) (v : Violation) :
    (summaryLine filename v).toList = [' ', ' ', ' ', ' '] ++ (v.rule.toList ++ ' ' ::
      (['a', 't', ' '] ++ ((filename.toList ++ ':' :: (toString v.line).toList) ++
        ':' :: (toString v.column).toList))) := by
  have hindent : "    ".toList = [' ', ' ', ' ', ' '] := rfl
  have hat : " at ".toList = [' ', 'a', 't', ' '] := rfl
  have hcolon : ":".toList = [':'] := rfl
  simp only [summaryLine, String.toList_append, hindent, hat, hcolon, List.append_assoc,
    List.cons_append, List.nil_append]

/-- The line of a violation says which one it is. -/
theorem readMention?_summaryLine (filename : String) {v : Violation}
    (hrule : ∀ c ∈ v.rule.toList, Text.isBlank c = false) :
    readMention? (summaryLine filename v).toList = some ⟨v.rule, filename, v.line, v.column⟩ := by
  have hspace : ' ' ∉ v.rule.toList := fun h => absurd (hrule ' ' h) (by decide)
  have hcolon : ∀ n : Int, ':' ∉ (toString n).toList := not_mem_toString (by decide)
  have hbody : (summaryLine filename v).toList.drop 4 = v.rule.toList ++ ' ' :: (['a', 't', ' '] ++
      ((filename.toList ++ ':' :: (toString v.line).toList) ++
        ':' :: (toString v.column).toList)) := by
    rw [toList_summaryLine]
    rfl
  have hplace : ∀ place : List Char, (['a', 't', ' '] ++ place).drop 3 = place := fun _ => rfl
  simp only [readMention?, hbody, Text.cutFirst_append hspace, hplace,
    Text.cutLast_append (hcolon _), String.ofList_toList, Text.readInteger?_toString,
    Option.bind_some, Option.map_some]

theorem newline_not_mem_summaryLine {filename : String} {v : Violation}
    (hname : '\n' ∉ filename.toList) (hrule : ∀ c ∈ v.rule.toList, Text.isBlank c = false) :
    '\n' ∉ (summaryLine filename v).toList := by
  have hnewline : '\n' ∉ v.rule.toList := fun h => absurd (hrule '\n' h) (by decide)
  have hnumber : ∀ n : Int, '\n' ∉ (toString n).toList := not_mem_toString (by decide)
  rw [toList_summaryLine]
  simpa [hname, hnewline] using And.intro (hnumber v.line) (hnumber v.column)

/-- The first line of a summary. -/
def countLine (n : Nat) : String := toString n ++ " markdown files were analysed"

theorem readCount?_countLine (n : Nat) : readCount? (countLine n).toList = some n := by
  have hspace : ' ' ∉ (toString n).toList := not_mem_toString (by decide) n
  have htext : " markdown files were analysed".toList =
      ' ' :: "markdown files were analysed".toList := rfl
  rw [readCount?, countLine, String.toList_append, htext, Text.cutFirst_append hspace,
    Text.toList_toString_nat, Text.readNatural?_toDigits]

theorem ne_countLine {line : String} (h : readCount? line.toList = none) (n : Nat) :
    line ≠ countLine n := by
  rintro rfl
  rw [readCount?_countLine] at h
  cases h

/-! ## Whole summaries -/

variable {r : ScanResult}

/-- The lines of all violations. -/
def mentionLines (r : ScanResult) : List String :=
  r.violations.flatMap fun f => f.2.map (summaryLine f.1)

theorem summaryLines_cases (r : ScanResult) :
    (r.violations = [] ∧ r.summaryLines = [countLine r.fileCount, "", "No errors reported"]) ∨
      r.violations ≠ [] ∧
        r.summaryLines = countLine r.fileCount :: "" :: "Errors:" :: r.mentionLines := by
  cases hviolations : r.violations with
  | nil => exact .inl ⟨rfl, by simp only [summaryLines, hviolations]; rfl⟩
  | cons f files =>
    refine .inr ⟨by simp, ?_⟩
    simp only [summaryLines, mentionLines, hviolations]
    rfl

theorem newline_not_mem_summaryLines (h : Legible r.violations) :
    ∀ line ∈ r.summaryLines.map String.toList, '\n' ∉ line := by
  have hcount : '\n' ∉ (countLine r.fileCount).toList := by
    have hnumber : '\n' ∉ (toString r.fileCount).toList :=
      not_mem_toString (by decide) (r.fileCount : Int)
    rw [countLine, String.toList_append, List.mem_append, not_or]
    exact ⟨hnumber, by decide⟩
  have hmentions : ∀ line ∈ r.mentionLines, '\n' ∉ line.toList := by
    intro line hline
    obtain ⟨f, hf, hline⟩ := List.mem_flatMap.mp hline
    obtain ⟨v, hv, rfl⟩ := List.mem_map.mp hline
    exact newline_not_mem_summaryLine (h.filenames f hf) (h.rules f hf v hv)
  rw [List.forall_mem_map]
  rcases summaryLines_cases r with ⟨-, hlines⟩ | ⟨-, hlines⟩
  · rw [hlines]
    simp only [List.forall_mem_cons]
    exact ⟨hcount, by decide, by decide, nofun⟩
  · rw [hlines]
    simp only [List.forall_mem_cons]
    exact ⟨hcount, by decide, by decide, hmentions⟩

/-- Splitting a summary gives its lines. -/
theorem splitAt_summary (h : Legible r.violations) :
    Text.splitAt '\n' r.summary.toList = r.summaryLines.map String.toList := by
  have hbreak : "\n".toList = ['\n'] := rfl
  have hcut := newline_not_mem_summaryLines h
  rw [summary, String.toList_intercalate, hbreak]
  exact Text.splitAt_intercalate hcut

theorem filterMap_readMention? (h : Legible r.violations) :
    (r.mentionLines.map String.toList).filterMap readMention? = r.mentions := by
  rw [mentionLines, mentions, List.filterMap_map, List.filterMap_flatMap]
  refine List.flatMap_congr fun f hf => ?_
  have hread : ∀ v ∈ f.2, ((readMention? ∘ String.toList) ∘ summaryLine f.1) v =
      some ⟨v.rule, f.1, v.line, v.column⟩ := by
    intro v hv
    rw [Function.comp_apply, Function.comp_apply, readMention?_summaryLine f.1 (h.rules f hf v hv)]
  rw [List.filterMap_map, List.filterMap_congr hread, ← List.filterMap_eq_map]
  rfl

/-- A summary is read as what it was written for. -/
theorem readSummary_summary (h : Legible r.violations) :
    readSummary r.summary = (some r.fileCount, r.mentions) := by
  rw [readSummary, splitAt_summary h]
  rcases summaryLines_cases r with ⟨hnone, hlines⟩ | ⟨-, hlines⟩
  · simp [hlines, readCount?_countLine, mentions, hnone]
  · simp [hlines, readCount?_countLine, filterMap_readMention? h]

/-! ## What a summary says -/

theorem length_mentionLines (r : ScanResult) : r.mentionLines.length = r.total := by
  simp [mentionLines, total, List.length_flatMap]

/-- Entries are never empty, so that there are none exactly if there is no violation. -/
theorem total_eq_zero_iff (h : ∀ f ∈ r.violations, f.2 ≠ []) :
    r.total = 0 ↔ r.violations = [] := by
  rw [total, List.length_eq_zero_iff, List.flatMap_eq_nil_iff]
  constructor
  · intro hnone
    exact List.eq_nil_iff_forall_not_mem.mpr fun f hf => h f hf (hnone f hf)
  · intro hnil f hf
    rw [hnil] at hf
    cases hf

/-- No line about files or violations says that there is none. -/
theorem noErrors_not_mem (h : r.violations ≠ []) : "No errors reported" ∉ r.summaryLines := by
  have hmentions : "No errors reported" ∉ r.mentionLines := by
    intro hmem
    obtain ⟨f, -, hmem⟩ := List.mem_flatMap.mp hmem
    obtain ⟨v, -, heq⟩ := List.mem_map.mp hmem
    have hfirst : (summaryLine f.1 v).toList.head? = "No errors reported".toList.head? := by
      rw [heq]
    rw [toList_summaryLine] at hfirst
    have hclash : some ' ' = some 'N' := hfirst
    exact absurd hclash (by decide)
  rcases summaryLines_cases r with ⟨hnone, -⟩ | ⟨-, hlines⟩
  · exact absurd hnone h
  · rw [hlines]
    simp only [List.mem_cons, not_or]
    exact ⟨ne_countLine (by decide) _, by decide, by decide, hmentions⟩

theorem Legible.ofFiles {added : List (String × List Violation)} (h : Legible added) :
    Legible (ofFiles added).violations where
  filenames f hf := h.filenames f ((recorded_ofFiles added).entries f hf).1
  rules f hf := h.rules f ((recorded_ofFiles added).entries f hf).1

/-- The lines of a text. -/
def linesOf (text : String) : List String :=
  (Text.splitAt '\n' text.toList).map String.ofList

theorem linesOf_summary (h : Legible r.violations) : linesOf r.summary = r.summaryLines := by
  rw [linesOf, splitAt_summary h, List.map_map]
  simp

/-- Results of files with legible names, added one after the other, that have the same summary have
the same number of files and the same violations in the same order, as far as a summary mentions
them. A summary says that there are no errors exactly if there are none, and otherwise has one line
for each of them behind the line that announces them. -/
theorem summary_tells {added added' : List (String × List Violation)} (h : Legible added)
    (h' : Legible added') :
    ((ofFiles added).summary = (ofFiles added').summary →
      (ofFiles added).fileCount = (ofFiles added').fileCount ∧
        (ofFiles added).mentions = (ofFiles added').mentions) ∧
    ("No errors reported" ∈ linesOf (ofFiles added).summary ↔ (ofFiles added).total = 0) ∧
    ((ofFiles added).total ≠ 0 → ∃ before behind,
      linesOf (ofFiles added).summary = before ++ "Errors:" :: behind ∧ "Errors:" ∉ before ∧
        behind.length = (ofFiles added).total) := by
  have hentries : ∀ f ∈ (ofFiles added).violations, f.2 ≠ [] :=
    fun f hf => ((recorded_ofFiles added).entries f hf).2
  refine ⟨fun hsame => ?_, ?_, fun htotal => ?_⟩
  · have hread := readSummary_summary h.ofFiles
    rw [hsame, readSummary_summary h'.ofFiles, Prod.mk.injEq, Option.some.injEq] at hread
    exact ⟨hread.1.symm, hread.2.symm⟩
  · rw [linesOf_summary h.ofFiles, total_eq_zero_iff hentries]
    constructor
    · intro hmem
      by_contra hsome
      exact noErrors_not_mem hsome hmem
    · intro hnone
      rcases summaryLines_cases (ofFiles added) with ⟨-, hlines⟩ | ⟨hsome, -⟩
      · simp [hlines]
      · exact absurd hnone hsome
  · rw [linesOf_summary h.ofFiles]
    rcases summaryLines_cases (ofFiles added) with ⟨hnone, -⟩ | ⟨-, hlines⟩
    · exact absurd ((total_eq_zero_iff hentries).mpr hnone) htotal
    · refine ⟨[countLine (ofFiles added).fileCount, ""], (ofFiles added).mentionLines, hlines, ?_,
        length_mentionLines _⟩
      simp only [List.mem_cons, List.not_mem_nil, or_false, not_or]
      exact ⟨ne_countLine (by decide) _, by decide⟩

/-- A name that ends like a place is not taken for the file and the line that it looks like. -/
theorem summary_tells_placeInName :
    let v : Violation := ⟨"LineLengthRule", 0, 1, 4, 5, "", .error⟩
    let w : Violation := ⟨"LineLengthRule", 0, 1, 3, 4, "", .error⟩
    Legible [("x at y.md:3", [v])] ∧ Legible [("x at y.md", [w])] ∧
      (ofFiles [("x at y.md:3", [v])]).summary ≠ (ofFiles [("x at y.md", [w])]).summary := by
  intro v w
  have hrule : ∀ c ∈ "LineLengthRule".toList, Text.isBlank c = false :=
    forall_mem_of_all (by decide)
  have h : Legible [("x at y.md:3", [v])] := ⟨by simp, by simpa [v] using hrule⟩
  have h' : Legible [("x at y.md", [w])] := ⟨by simp, by simpa [w] using hrule⟩
  have hmentions : (ofFiles [("x at y.md:3", [v])]).mentions ≠
      (ofFiles [("x at y.md", [w])]).mentions := by decide
  exact ⟨h, h', fun hsame => hmentions ((summary_tells h h').1 hsame).2⟩

end ScanResult

end MarkdownLint
