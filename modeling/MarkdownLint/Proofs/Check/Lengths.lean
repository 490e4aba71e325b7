import MarkdownLint.Proofs.Check.Lines
import MarkdownLint.Rule.Basic
import Mathlib.Data.List.Sort

/-!
Lines that are too long. The check reports just the lines with a blank character beyond the limit,
from the limit on (`mem_longLines_iff`). So a lower limit finds all lines that a higher one finds
(`longLines_sublist`), and leaving out code leaves out the violations on lines of code and changes
nothing else (`visit_lineLength_false`).
-/
namespace MarkdownLint

/-- A line has a blank character in a column beyond the limit. -/
def Document.BlankBeyond (d : Document) (limit i : Nat) : Prop :=
  ∃ text column c, d.lineText i = .ok text ∧ limit < column ∧ text[column - 1]? = some c ∧
    Text.isBlank c = true

/-- The index of the line that a violation is on. -/
def Violation.lineIndex (v : Violation) : Nat := (v.line - 1).toNat

theorem Document.blankBeyond_iff {d : Document} {limit i : Nat} (hi : i < d.lineCount) :
    d.BlankBeyond limit i ↔
      limit < (d.textAt i).length ∧ ((d.textAt i).drop limit).any Text.isBlank = true := by
  simp only [BlankBeyond, lineText_eq hi, Except.ok.injEq, List.any_eq_true, List.mem_iff_getElem?,
    List.getElem?_drop]
  constructor
  · rintro ⟨text, column, c, rfl, hcolumn, hc, hblank⟩
    have hlt := (List.getElem?_eq_some_iff.mp hc).1
    refine ⟨by omega, c, ⟨column - 1 - limit, ?_⟩, hblank⟩
    rwa [show limit + (column - 1 - limit) = column - 1 from by omega]
  · rintro ⟨-, c, ⟨k, hc⟩, hblank⟩
    exact ⟨_, limit + k + 1, c, rfl, by omega, hc, hblank⟩

theorem Document.BlankBeyond.lt_lineCount {d : Document} {limit i : Nat}
    (h : d.BlankBeyond limit i) : i < d.lineCount := by
  obtain ⟨text, column, c, htext, -⟩ := h
  refine Nat.lt_of_not_le fun hle => ?_
  simp only [lineText, lineStart_eq_error hle, bind, Except.bind] at htext
  cases htext

/-- What is beyond a limit is beyond a lower one. -/
theorem Document.BlankBeyond.anti {d : Document} {m n i : Nat} (h : d.BlankBeyond n i)
    (hmn : m ≤ n) : d.BlankBeyond m i := by
  obtain ⟨text, column, c, htext, hcolumn, hc⟩ := h
  exact ⟨text, column, c, htext, Nat.lt_of_le_of_lt hmn hcolumn, hc⟩

namespace Check

/-- What is said of lines that are longer than a limit. -/
def lengthMessage (limit : Nat) : String :=
  CheckKind.lineLength.description ++ " (> " ++ toString limit ++ ")"

variable {d : Document} {limit i : Nat} {codeBlocks : Bool}

theorem isSome_lineLengthOn (hi : i < d.lineCount) :
    (lineLengthOn limit codeBlocks d i).isSome = true ↔
      (codeBlocks = true ∨ ¬ d.IsCode i) ∧ d.BlankBeyond limit i := by
  rw [Document.blankBeyond_iff hi, ← Document.isCodeLine_iff, lineLengthOn]
  cases codeBlocks <;> cases d.isCodeLine i <;> simp

theorem isRest_lineLengthOn (hi : i < d.lineCount) {v : Violation}
    (h : lineLengthOn limit codeBlocks d i = some v) :
    (lineLength limit codeBlocks).IsRest d limit (lengthMessage limit) i v := by
  have hsome : (lengthMessage limit).isEmpty = false := by
    rw [String.isEmpty_eq_false_iff, lengthMessage]
    intro hempty
    exact absurd (String.append_eq_empty_iff.mp hempty).2 (by decide)
  have hmessage : (lineLength limit codeBlocks).messageOf (some (lengthMessage limit)) =
      lengthMessage limit := by
    simp only [messageOf, hsome, Bool.false_eq_true, if_false]
  simp only [lineLengthOn] at h
  split at h
  · cases h
  · split at h
    · cases h
      have hrest := isRest_violationAt (lineLength limit codeBlocks) limit
        (some (lengthMessage limit)) hi
      rwa [hmessage] at hrest
    · cases h

/-- The lines that are reported. -/
def longLines (limit : Nat) (codeBlocks : Bool) (d : Document) : List Nat :=
  (List.range d.lineCount).filter fun i => (lineLengthOn limit codeBlocks d i).isSome

theorem reportsRests_longLines (limit : Nat) (codeBlocks : Bool) (d : Document) :
    (lineLength limit codeBlocks).ReportsRests d limit (lengthMessage limit)
      (longLines limit codeBlocks d) :=
  reportsRests_of_visit (visitLineLength_eq limit codeBlocks d) fun _ hi _ =>
    isRest_lineLengthOn hi

theorem mem_longLines_iff : i ∈ longLines limit codeBlocks d ↔
    (codeBlocks = true ∨ ¬ d.IsCode i) ∧ d.BlankBeyond limit i := by
  rw [longLines, List.mem_filter, List.mem_range]
  constructor
  · rintro ⟨hi, hsome⟩
    exact (isSome_lineLengthOn hi).mp hsome
  · intro h
    exact ⟨h.2.lt_lineCount, (isSome_lineLengthOn h.2.lt_lineCount).mpr h⟩

/-- A lower limit finds all lines that a higher one finds. -/
theorem longLines_sublist {m n : Nat} (hmn : m ≤ n) (codeBlocks : Bool) (d : Document) :
    (longLines n codeBlocks d).Sublist (longLines m codeBlocks d) := by
  have hsubset : longLines n codeBlocks d ⊆ longLines m codeBlocks d := by
    intro i hi
    obtain ⟨hcode, hbeyond⟩ := mem_longLines_iff.mp hi
    exact mem_longLines_iff.mpr ⟨hcode, hbeyond.anti hmn⟩
  have hn := (reportsRests_longLines n codeBlocks d).ascending
  have hm := (reportsRests_longLines m codeBlocks d).ascending
  exact List.sublist_of_subperm_of_pairwise (List.subperm_of_subset hn.nodup hsubset) hn hm

/-- Without code, a line that is not code is looked at as with code. -/
theorem lineLengthOn_false (limit : Nat) (d : Document) (i : Nat) :
    lineLengthOn limit false d i =
      if d.isCodeLine i then none else lineLengthOn limit true d i := by
  cases hcode : d.isCodeLine i <;> simp only [lineLengthOn, hcode] <;> rfl

/-- What is found on a line is left out if the line is code. -/
theorem filter_lineLengthOn (hi : i < d.lineCount) :
    (lineLengthOn limit true d i).filter (fun v => v.lineIndex ∉ d.codeLines) =
      lineLengthOn limit false d i := by
  rw [lineLengthOn_false]
  cases hfound : lineLengthOn limit true d i with
  | none => simp
  | some v =>
    have hline : v.lineIndex = i := by
      rw [Violation.lineIndex, (isRest_lineLengthOn hi hfound).line]
      omega
    by_cases hcode : d.isCodeLine i = true
    · have hmem : i ∈ d.codeLines :=
        Document.mem_codeLines_iff.mpr (Document.isCodeLine_iff.mp hcode)
      simp [hline, hmem, hcode]
    · have hmem : i ∉ d.codeLines := fun h =>
        hcode (Document.isCodeLine_iff.mpr (Document.mem_codeLines_iff.mp h))
      simp [hline, hmem, hcode]

/-- Without code, the violations on lines of code are left out. -/
theorem visit_lineLength_false (limit : Nat) (d : Document) :
    (lineLength limit false).visit d =
      ((lineLength limit true).visit d).map
        (List.filter fun v => v.lineIndex ∉ d.codeLines) := by
  simp only [visit, visitLineLength_eq, Except.map]
  rw [List.filter_filterMap]
  congr 1
  refine List.filterMap_congr fun i hi => ?_
  exact (filter_lineLengthOn (List.mem_range.mp hi)).symm

theorem checkOf_lineLength (hlimit : 1 ≤ limit) (codeBlocks : Bool) :
    Rule.checkOf .lineLength [("max_line_length", .int limit), ("code_blocks", .bool codeBlocks)] =
      .ok (lineLength limit codeBlocks) := by
  have hpos : (1 : Int) ≤ limit := by omega
  have hlimitOf : Rule.limitOf (.int limit) = .ok limit := by
    simp only [Rule.limitOf, Value.int, if_pos hpos, Int.toNat_natCast]
  simp only [Rule.checkOf, List.lookup_cons_self, Option.getD_some, hlimitOf, bind, Except.bind,
    pure, Except.pure]
  cases codeBlocks <;> rfl

/-- Every positive limit, with code or without, gives a check of line length. It succeeds on every
document and reports the rests of lines behind the limit: of the lines that are looked at, just
those with a blank character in a column beyond the limit. A lower limit finds all lines that a
higher one finds, and without code the violations on lines of code are left out and no others. -/
theorem lineLength_antitone_and_filtered (d : Document) :
    (∀ (limit : Nat) codeBlocks, 1 ≤ limit →
      Rule.checkOf .lineLength
          [("max_line_length", .int limit), ("code_blocks", .bool codeBlocks)] =
        .ok (lineLength limit codeBlocks)) ∧
    (∃ lines : Nat → Bool → List Nat,
      (∀ limit codeBlocks,
        (lineLength limit codeBlocks).ReportsRests d limit (lengthMessage limit)
          (lines limit codeBlocks)) ∧
      (∀ limit codeBlocks i, i ∈ lines limit codeBlocks ↔
        (codeBlocks = true ∨ i ∉ d.codeLines) ∧ d.BlankBeyond limit i) ∧
      ∀ m n codeBlocks, m ≤ n → (lines n codeBlocks).Sublist (lines m codeBlocks)) ∧
    ∀ limit, (lineLength limit false).visit d =
      ((lineLength limit true).visit d).map
        (List.filter fun v => v.lineIndex ∉ d.codeLines) := by
  refine ⟨fun _ codeBlocks hlimit => checkOf_lineLength hlimit codeBlocks,
    ⟨fun limit codeBlocks => longLines limit codeBlocks d, ?_, ?_, ?_⟩,
    fun limit => visit_lineLength_false limit d⟩
  · exact fun limit codeBlocks => reportsRests_longLines limit codeBlocks d
  · intro limit codeBlocks i
    rw [Document.mem_codeLines_iff]
    exact mem_longLines_iff
  · exact fun m n codeBlocks hmn => longLines_sublist hmn codeBlocks d

-- A blank in the last column within the limit does not count, one in the next column does, also at
-- the end of a line.
example : let d : Document := ⟨"", "abc defg\r\nabcd \r    efgh i".toList,
      [.mk .quote ⟨2, 3⟩ [.mk .codeBlock ⟨2, 3⟩ []]]⟩
    longLines 4 true d = [1, 2] ∧ longLines 4 false d = [1] ∧ longLines 5 true d = [2] := by decide

end Check

end MarkdownLint
