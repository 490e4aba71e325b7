import MarkdownLint.Proofs.Text.Pieces
import MarkdownLint.Proofs.Text.Search
import MarkdownLint.Violation

/-!
Where the lines of a document are. A line is given by its offset and its text: these lemmas say what
`lineStart`, `lineEnd`, `lineText` and `isBlank` answer for every line (and for every index that is
no line's), and that looking up an offset on a line gives back the line and the column
(`lineNumberOf_offset_add`, `columnNumberOf_offset_add`). Nothing after this module opens the index
of lines again.
-/
namespace MarkdownLint

namespace Text

/-- Removing characters from the end removes exactly a tail of such characters. -/
theorem dropEndWhile_append {p : Char → Bool} {as bs : List Char} (ha : ∀ c ∈ as, p c = false)
    (hb : ∀ c ∈ bs, p c = true) : dropEndWhile p (as ++ bs) = as := by
  have has : as.reverse.dropWhile p = as.reverse := by
    cases h : as.reverse with
    | nil => rfl
    | cons c cs =>
      have hc : c ∈ as := by
        rw [← List.mem_reverse, h]
        simp
      rw [List.dropWhile_cons_of_neg (by simp [ha c hc])]
  rw [dropEndWhile, List.reverse_append, List.dropWhile_append_of_pos (by simpa using hb), has,
    List.reverse_reverse]

end Text

namespace Document

open Text (Piece)

variable (d : Document)

/-- The lines of a document with their terminators. -/
def pieces : List Piece := Text.pieces d.text

/-- The lines of a document without their terminators. -/
def lineTexts : List (List Char) := Text.lineTexts d.text

/-- Where a line starts: behind the pieces before it. -/
def offset (i : Nat) : Nat := ((d.pieces.take i).flatMap Piece.whole).length

/-- The text of a line; there is none behind the last line. -/
def textAt (i : Nat) : List Char := d.lineTexts[i]?.getD []

/-! ## Offsets of lines -/

theorem length_pieces : d.pieces.length = d.lineCount := by
  rw [lineCount, lineOffsets, Text.lineOffsets_eq_starts, Text.length_starts, pieces]

theorem length_lineTexts : d.lineTexts.length = d.lineCount := by
  rw [← length_pieces]
  simp [lineTexts, Text.lineTexts, pieces]

theorem lineCount_pos : 0 < d.lineCount := by
  rw [← length_pieces]
  exact List.length_pos_iff.mpr (Text.pieces_ne_nil d.text)

@[simp] theorem offset_zero : d.offset 0 = 0 := rfl

variable {d}

theorem getElem?_lineOffsets {i : Nat} (h : i < d.lineCount) :
    d.lineOffsets[i]? = some (d.offset i) := by
  rw [lineOffsets, Text.lineOffsets_eq_starts, ← pieces,
    Text.getElem?_starts 0 (by rwa [length_pieces]), Nat.zero_add, offset]

theorem getElem?_lineOffsets_of_le {i : Nat} (h : d.lineCount ≤ i) : d.lineOffsets[i]? = none :=
  List.getElem?_eq_none h

/-- The piece of a line: its text, and the distance to the next line. -/
theorem exists_piece {i : Nat} (h : i < d.lineCount) :
    ∃ p, d.pieces[i]? = some p ∧ d.textAt i = p.text ∧
      d.offset (i + 1) = d.offset i + p.whole.length := by
  have hi : i < d.pieces.length := by rwa [length_pieces]
  refine ⟨d.pieces[i], List.getElem?_eq_getElem hi, ?_, ?_⟩
  · rw [textAt, lineTexts, Text.lineTexts, ← pieces, List.getElem?_map,
      List.getElem?_eq_getElem hi, Option.map_some, Option.getD_some]
  · rw [offset, offset, ← List.take_append_getElem hi, List.flatMap_append, List.flatMap_singleton,
      List.length_append]

/-- From the start of a line on, the text is the piece of the line and the text of the next one. -/
theorem drop_offset {i : Nat} {p : Piece} (h : d.pieces[i]? = some p) :
    d.text.drop (d.offset i) = p.whole ++ (d.pieces.drop (i + 1)).flatMap Piece.whole := by
  have htext : d.text = d.pieces.flatMap Piece.whole := (Text.flatMap_whole_pieces d.text).symm
  have hsplit : d.pieces.flatMap Piece.whole =
      (d.pieces.take i).flatMap Piece.whole ++ (d.pieces.drop i).flatMap Piece.whole := by
    rw [← List.flatMap_append, List.take_append_drop]
  have hdrop : d.pieces.drop i = p :: d.pieces.drop (i + 1) := by
    obtain ⟨hi, rfl⟩ := List.getElem?_eq_some_iff.mp h
    exact List.drop_eq_getElem_cons hi
  calc d.text.drop (d.offset i)
      = (d.pieces.drop i).flatMap Piece.whole := by
        rw [htext, hsplit, offset, List.drop_left]
    _ = p.whole ++ (d.pieces.drop (i + 1)).flatMap Piece.whole := by
        rw [hdrop, List.flatMap_cons]

theorem offset_lineCount : d.offset d.lineCount = d.length := by
  rw [offset, ← length_pieces, List.take_length, pieces, Text.flatMap_whole_pieces, length]

theorem offset_mono {i j : Nat} (h : i ≤ j) : d.offset i ≤ d.offset j := by
  have hprefix : d.pieces.take i <+: d.pieces.take j := List.take_prefix_take_left h
  obtain ⟨rest, hrest⟩ := hprefix
  simp only [offset, ← hrest, List.flatMap_append, List.length_append]
  omega

theorem offset_le_length (i : Nat) : d.offset i ≤ d.length := by
  rcases Nat.le_total i d.lineCount with h | h
  · exact offset_lineCount (d := d) ▸ offset_mono h
  · have hall : d.pieces.take i = d.pieces := List.take_of_length_le (by rwa [length_pieces])
    have heq : d.offset i = d.length := by
      rw [offset, hall, pieces, Text.flatMap_whole_pieces, length]
    exact Nat.le_of_eq heq

/-- A line ends before the next one starts. -/
theorem offset_add_length_lt {i j : Nat} (hij : i < j) (hj : j < d.lineCount) :
    d.offset i + (d.textAt i).length < d.offset j := by
  obtain ⟨p, hp, htext, hnext⟩ := exists_piece (d := d) (i := i) (by omega)
  have hterm : p.terminator ≠ [] :=
    Text.terminator_ne_nil hp (by rw [← pieces, length_pieces]; omega)
  have hpos : 0 < p.terminator.length := List.length_pos_iff.mpr hterm
  have hstep : d.offset i + (d.textAt i).length < d.offset (i + 1) := by
    rw [hnext, htext, Piece.whole, List.length_append]
    omega
  exact Nat.lt_of_lt_of_le hstep (offset_mono hij)

theorem offset_lt {i j : Nat} (hij : i < j) (hj : j < d.lineCount) : d.offset i < d.offset j := by
  have := offset_add_length_lt hij hj
  omega

theorem offset_add_length_le (i : Nat) : d.offset i + (d.textAt i).length ≤ d.length := by
  by_cases hi : i < d.lineCount
  · obtain ⟨p, -, htext, hnext⟩ := exists_piece hi
    have hle := offset_le_length (d := d) (i + 1)
    rw [hnext, Piece.whole, List.length_append] at hle
    rw [htext]
    omega
  · have hnone : d.textAt i = [] := by
      rw [textAt, List.getElem?_eq_none (by rw [length_lineTexts]; omega), Option.getD_none]
    simpa [hnone] using offset_le_length i

theorem pairwise_lineOffsets : d.lineOffsets.Pairwise (· < ·) := by
  rw [List.pairwise_iff_getElem]
  intro i j hi hj hij
  have hgi := getElem?_lineOffsets (d := d) hi
  have hgj := getElem?_lineOffsets (d := d) hj
  rw [List.getElem?_eq_getElem hi, Option.some.injEq] at hgi
  rw [List.getElem?_eq_getElem hj, Option.some.injEq] at hgj
  rw [hgi, hgj]
  exact offset_lt hij hj

/-! ## What a line answers -/

theorem lineStart_eq {i : Nat} (h : i < d.lineCount) : d.lineStart i = .ok (d.offset i) := by
  have hneg : ¬ (i : Int) < 0 := by omega
  simp [lineStart, hneg, getElem?_lineOffsets h]

theorem lineStart_eq_error {i : Nat} (h : d.lineCount ≤ i) :
    d.lineStart i = .error .noSuchLine := by
  have hneg : ¬ (i : Int) < 0 := by omega
  simp [lineStart, hneg, getElem?_lineOffsets_of_le h]

/-- The characters of a line with its terminator. -/
theorem slice_offset_succ {i : Nat} {p : Piece} (hp : d.pieces[i]? = some p)
    (hnext : d.offset (i + 1) = d.offset i + p.whole.length) :
    d.slice (d.offset i) (d.offset (i + 1)) = p.whole := by
  rw [slice, drop_offset hp, hnext, Nat.add_sub_cancel_left, List.take_left]

theorem slice_offset {i : Nat} (h : i < d.lineCount) :
    d.slice (d.offset i) (d.offset i + (d.textAt i).length) = d.textAt i := by
  obtain ⟨p, hp, htext, -⟩ := exists_piece h
  rw [slice, drop_offset hp, Nat.add_sub_cancel_left, htext, Piece.whole, List.append_assoc,
    List.take_left]

theorem lineEnd_eq {i : Nat} (h : i < d.lineCount) :
    d.lineEnd i = .ok (d.offset i + (d.textAt i).length) := by
  obtain ⟨p, hp, htext, hnext⟩ := exists_piece h
  have hmem : p ∈ d.pieces := List.mem_of_getElem? hp
  have hdrop : d.dropTerminators (d.offset i) (d.offset (i + 1)) =
      d.offset i + (d.textAt i).length := by
    rw [dropTerminators, slice_offset_succ hp hnext, Piece.whole,
      Text.dropEndWhile_append (Text.not_isTerminator_of_mem_text hmem)
        (Text.isTerminator_of_mem_terminator hmem), htext]
  have hle : ¬ d.offset (i + 1) < d.offset i := by omega
  -- a line stops where the next one starts, the last line at the end of the text
  by_cases hlast : i + 1 < d.lineCount
  · have hint : (i : Int) + 1 < d.lineCount := by omega
    have hstop : d.lineStart ((i : Int) + 1) = .ok (d.offset (i + 1)) := lineStart_eq hlast
    simp only [lineEnd, lineStart_eq h, if_pos hint, hstop, bind, Except.bind, pure, Except.pure,
      if_neg hle, hdrop]
  · have hint : ¬ (i : Int) + 1 < d.lineCount := by omega
    have hend : d.length = d.offset (i + 1) := by
      rw [← offset_lineCount, show d.lineCount = i + 1 from by omega]
    simp only [lineEnd, lineStart_eq h, if_neg hint, hend, bind, Except.bind, pure, Except.pure,
      if_neg hle, hdrop]

theorem lineText_eq {i : Nat} (h : i < d.lineCount) : d.lineText i = .ok (d.textAt i) := by
  simp only [lineText, lineStart_eq h, lineEnd_eq h, bind, Except.bind, pure, Except.pure,
    slice_offset h]

theorem isBlank_eq {i : Nat} (h : i < d.lineCount) :
    d.isBlank i = .ok ((d.textAt i).all Text.isBlank) := by
  simp only [isBlank, lineText_eq h, bind, Except.bind, pure, Except.pure]

/-- The last line that a block is taken to cover: at least its first one. -/
def lastLine (d : Document) (s : Markdown.Span) : Nat := max s.first (min s.last d.lineCount - 1)

/-- Where the last line of a block ends. -/
def blockStop (d : Document) (s : Markdown.Span) : Nat :=
  d.offset (d.lastLine s) + (d.textAt (d.lastLine s)).length

theorem blockRange_eq {s : Markdown.Span} (h : s.first < d.lineCount) :
    d.blockRange s = .ok (d.offset s.first, d.blockStop s) := by
  have hlast : max (s.first : Int) (min (s.last : Int) d.lineCount - 1) =
      (d.lastLine s : Int) := by
    simp only [lastLine]
    omega
  have hlt : d.lastLine s < d.lineCount := by
    simp only [lastLine]
    omega
  simp only [blockRange, hlast, lineStart_eq h, lineEnd_eq hlt, bind, Except.bind, pure,
    Except.pure, blockStop]

theorem offset_le_blockStop (s : Markdown.Span) : d.offset s.first ≤ d.blockStop s := by
  have hmono : d.offset s.first ≤ d.offset (d.lastLine s) := offset_mono (Nat.le_max_left ..)
  simp only [blockStop]
  omega

theorem blockStop_le_length (s : Markdown.Span) : d.blockStop s ≤ d.length :=
  offset_add_length_le (d.lastLine s)

/-- A block of one line ends where the line ends. -/
theorem blockStop_of_one_line {s : Markdown.Span} (h : s.first < d.lineCount)
    (hs : s.last = s.first + 1) :
    d.blockStop s = d.offset s.first + (d.textAt s.first).length := by
  have hlast : d.lastLine s = s.first := by
    simp only [lastLine]
    omega
  rw [blockStop, hlast]

theorem blockRange_eq_error {s : Markdown.Span} (h : d.lineCount ≤ s.first) :
    d.blockRange s = .error .noSuchLine := by
  simp only [blockRange, lineStart_eq_error h, bind, Except.bind]

theorem isBlank_eq_error {i : Nat} (h : d.lineCount ≤ i) : d.isBlank i = .error .noSuchLine := by
  simp only [isBlank, lineText, lineStart_eq_error h, bind, Except.bind]

/-! ## Looking up offsets -/

theorem clamp_eq {o : Nat} (h : o ≤ d.length) : d.clamp o = o := by
  simp only [clamp]
  omega

/-- The lines that do not start behind an offset are those up to the one that it is looked up to. -/
theorem divides_lineIndexOf (o : Int) :
    Text.Divides d.lineOffsets (d.clamp o) (d.lineIndexOf o + 1) ∧ d.lineIndexOf o < d.lineCount := by
  obtain ⟨hdivides, hle⟩ := Text.divides_bisectRight pairwise_lineOffsets (d.clamp o)
  -- the first line starts at the start of the text, so the place found is not the first
  have hpos : 0 < Text.bisectRight d.lineOffsets (d.clamp o) 0 d.lineCount :=
    (hdivides 0 0 (getElem?_lineOffsets (lineCount_pos d))).mp (Nat.zero_le _)
  have hindex : d.lineIndexOf o + 1 = Text.bisectRight d.lineOffsets (d.clamp o) 0 d.lineCount := by
    rw [lineIndexOf]
    omega
  refine ⟨?_, ?_⟩
  · rw [hindex]
    exact hdivides
  · have hle' : Text.bisectRight d.lineOffsets (d.clamp o) 0 d.lineCount ≤ d.lineCount := hle
    omega

/-- An offset is looked up to the line that starts at it or before it if the next line does not. -/
theorem lineIndexOf_eq {i o : Nat} (hi : i < d.lineCount) (hlen : o ≤ d.length)
    (hlow : d.offset i ≤ o) (hhigh : i + 1 < d.lineCount → o < d.offset (i + 1)) :
    d.lineIndexOf o = i := by
  obtain ⟨hdivides, hlt⟩ := divides_lineIndexOf (d := d) o
  rw [clamp_eq hlen] at hdivides
  have hge : i < d.lineIndexOf o + 1 := (hdivides i _ (getElem?_lineOffsets hi)).mp hlow
  by_cases hlast : i + 1 < d.lineCount
  · have hnext : ¬ i + 1 < d.lineIndexOf o + 1 := by
      rw [← hdivides (i + 1) _ (getElem?_lineOffsets hlast)]
      have := hhigh hlast
      omega
    omega
  · omega

/-- An offset on a line, its terminator excluded, is looked up to that line. -/
theorem lineIndexOf_offset_add {i k : Nat} (hi : i < d.lineCount)
    (hk : k ≤ (d.textAt i).length) : d.lineIndexOf ((d.offset i + k : Nat) : Int) = i := by
  have hlen : d.offset i + k ≤ d.length :=
    Nat.le_trans (Nat.add_le_add_left hk _) (offset_add_length_le i)
  refine lineIndexOf_eq hi hlen (Nat.le_add_right _ k) fun hnext => ?_
  have hend : d.offset i + (d.textAt i).length < d.offset (i + 1) :=
    offset_add_length_lt (Nat.lt_succ_self i) hnext
  omega

theorem lineNumberOf_offset_add {i k : Nat} (hi : i < d.lineCount)
    (hk : k ≤ (d.textAt i).length) :
    d.lineNumberOf ((d.offset i + k : Nat) : Int) = i + 1 := by
  rw [lineNumberOf, lineIndexOf_offset_add hi hk]

theorem columnNumberOf_offset_add {i k : Nat} (hi : i < d.lineCount)
    (hk : k ≤ (d.textAt i).length) :
    d.columnNumberOf ((d.offset i + k : Nat) : Int) = k + 1 := by
  have hlen : d.offset i + k ≤ d.length :=
    Nat.le_trans (Nat.add_le_add_left hk _) (offset_add_length_le i)
  rw [columnNumberOf, lineIndexOf_offset_add hi hk, clamp_eq hlen, getElem?_lineOffsets hi,
    Option.getD_some, Nat.add_sub_cancel_left]

end Document

end MarkdownLint
