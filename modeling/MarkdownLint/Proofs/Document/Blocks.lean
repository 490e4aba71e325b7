import MarkdownLint.Proofs.Markdown.Numbering

/-!
The characters that a block covers. The range of a block of whole lines starts with its first line
and stops behind the text of its last one, before the terminator there (`delimits_blockRange`). Cut
out of the document and split again, these characters have just the lines of the block, however the
lines are terminated. Blocks that share no line are set apart by at least a terminator
(`blockStop_lt_offset`).
-/
namespace MarkdownLint

/-- A line belongs to a span. -/
def Markdown.Span.Covers (s : Markdown.Span) (i : Nat) : Prop := s.first ≤ i ∧ i < s.last

namespace Document

open Markdown (Span)
open Text (Piece)

/-- A span consists of lines of a document, at least one of them. -/
structure Holds (d : Document) (s : Span) : Prop where
  first_lt_last : s.first < s.last
  last_le_lineCount : s.last ≤ d.lineCount

/-- Two offsets delimit some lines. What stands between them, as a document of its own, has these
lines and no others; what stands behind them is the terminator of the last line, if it has one. -/
structure Delimits (d : Document) (s : Span) (start stop : Nat) : Prop where
  start_le_stop : start ≤ stop
  stop_le_length : stop ≤ d.length
  lines : ∃ texts, (List.range' s.first (s.last - s.first)).mapM (fun (i : Nat) => d.lineText i) =
    .ok texts ∧ ∀ filename blocks,
      (⟨filename, d.substring start stop, blocks⟩ : Document).lines = .ok texts
  terminator : ∃ p : Piece, d.IsLine (s.last - 1) p ∧
    d.slice stop (stop + p.terminator.length) = p.terminator ∧
    (d.lineOffsets[s.last]?).getD d.length = stop + p.terminator.length

variable {d : Document} {s t : Span}

theorem Holds.first_lt_lineCount (h : d.Holds s) : s.first < d.lineCount :=
  Nat.lt_of_lt_of_le h.first_lt_last h.last_le_lineCount

theorem Holds.lastLine_eq (h : d.Holds s) : d.lastLine s = s.last - 1 := by
  have hfirst := h.first_lt_last
  have hlast := h.last_le_lineCount
  simp only [lastLine]
  omega

/-! ## The lines between the offsets -/

theorem mapM_lineText (h : d.Holds s) :
    (List.range' s.first (s.last - s.first)).mapM (fun (i : Nat) => d.lineText i) =
      .ok ((d.lineTexts.drop s.first).take (s.last - s.first)) := by
  have hfirst := h.first_lt_last
  have hlast := h.last_le_lineCount
  have hall : (List.range' s.first (s.last - s.first)).mapM (fun (i : Nat) => d.lineText i) =
      .ok ((List.range' s.first (s.last - s.first)).map d.textAt) := by
    refine mapM_eq_ok fun i hi => lineText_eq ?_
    have hmem := List.mem_range'_1.mp hi
    omega
  rw [hall]
  congr 1
  apply List.ext_getElem
  · rw [List.length_map, List.length_range', List.length_take, List.length_drop, length_lineTexts]
    omega
  · intro k hk hk'
    have hline : s.first + k < d.lineTexts.length := by
      rw [List.length_map, List.length_range'] at hk
      rw [length_lineTexts]
      omega
    simp [textAt, hline]

theorem lines_substring_blockRange (h : d.Holds s) (filename : String)
    (blocks : List Markdown.Block) :
    (⟨filename, d.substring (d.offset s.first) (d.blockStop s), blocks⟩ : Document).lines =
      .ok ((d.lineTexts.drop s.first).take (s.last - s.first)) := by
  rw [substring_eq (offset_le_length _) (blockStop_le_length s), lines_eq]
  exact congrArg Except.ok (lineTexts_slice_block h.first_lt_last h.last_le_lineCount)

/-! ## The terminator behind them -/

/-- Behind the text of a line stands its terminator. -/
theorem slice_terminator {i : Nat} {p : Piece} (hp : d.pieces[i]? = some p) :
    d.slice (d.offset i + p.text.length) (d.offset i + p.text.length + p.terminator.length) =
      p.terminator := by
  have hdrop : d.text.drop (d.offset i + p.text.length) =
      p.terminator ++ (d.pieces.drop (i + 1)).flatMap Piece.whole := by
    rw [← List.drop_drop, drop_offset hp, Piece.whole, List.append_assoc, List.drop_left]
  rw [slice, hdrop, Nat.add_sub_cancel_left, List.take_left]

theorem delimits_blockRange (h : d.Holds s) : d.Delimits s (d.offset s.first) (d.blockStop s) where
  start_le_stop := offset_le_blockStop s
  stop_le_length := blockStop_le_length s
  lines := ⟨_, mapM_lineText h, lines_substring_blockRange h⟩
  terminator := by
    have hfirst := h.first_lt_last
    have hlast := h.last_le_lineCount
    have hline : s.last - 1 < d.lineCount := by omega
    obtain ⟨p, hp, htext, hnext⟩ := exists_piece hline
    have hstop : d.blockStop s = d.offset (s.last - 1) + p.text.length := by
      rw [blockStop, h.lastLine_eq, htext]
    have hend : (d.lineOffsets[s.last - 1 + 1]?).getD d.length = d.offset (s.last - 1 + 1) :=
      getElem?_lineOffsets_getD hline
    rw [hnext, Piece.whole, List.length_append, Nat.sub_add_cancel (by omega), ← Nat.add_assoc,
      ← hstop] at hend
    refine ⟨p, isLine_of_piece hp, ?_, hend⟩
    rw [hstop]
    exact slice_terminator hp

/-! ## Two blocks -/

/-- A block ends before a block on later lines starts. -/
theorem blockStop_lt_offset (hs : d.Holds s) (ht : d.Holds t) (h : s.last ≤ t.first) :
    d.blockStop s < d.offset t.first := by
  have hfirst := hs.first_lt_last
  rw [blockStop, hs.lastLine_eq]
  exact offset_add_length_lt (by omega) ht.first_lt_lineCount

/-- Of two spans without a common line, one lies before the other. -/
theorem Holds.apart (hs : d.Holds s) (ht : d.Holds t) (h : ∀ i, s.Covers i → ¬t.Covers i) :
    s.last ≤ t.first ∨ t.last ≤ s.first := by
  have hfirst := hs.first_lt_last
  have hfirst' := ht.first_lt_last
  rcases Nat.lt_or_ge t.first s.last with hlt | hge
  · refine .inr (Nat.le_of_not_lt fun hlt' => ?_)
    -- otherwise the later one of the two first lines is common
    exact h (max s.first t.first) ⟨by omega, by omega⟩ ⟨by omega, by omega⟩
  · exact .inl hge

/-- A block that is said to go on behind the last line ends with it. -/
theorem blockRange_of_lineCount_lt (hfirst : s.first < d.lineCount) (hlast : d.lineCount < s.last) :
    d.blockRange s = d.blockRange ⟨s.first, d.lineCount⟩ := by
  have hline : d.lastLine s = d.lastLine ⟨s.first, d.lineCount⟩ := by
    simp only [lastLine]
    omega
  have hfirst' : (⟨s.first, d.lineCount⟩ : Span).first < d.lineCount := hfirst
  rw [blockRange_eq hfirst, blockRange_eq hfirst', blockStop, blockStop, hline]

/-- The range of a block delimits its lines: what it cuts out of the document splits into just these
lines, and it stops before the terminator of the last of them. Blocks without a common line have
ranges that neither overlap nor touch. A block that is said to go on behind the last line of the
document ends with that line. -/
theorem blockRange_delimits (d : Document) :
    (∀ s, d.Holds s → ∃ start stop, d.blockRange s = .ok (start, stop) ∧
      d.Delimits s start stop) ∧
    (∀ s t, d.Holds s → d.Holds t → (∀ i, s.Covers i → ¬t.Covers i) →
      ∃ start stop start' stop', d.blockRange s = .ok (start, stop) ∧
        d.blockRange t = .ok (start', stop') ∧ (stop < start' ∨ stop' < start)) ∧
    ∀ s : Span, s.first < d.lineCount → d.lineCount < s.last →
      d.blockRange s = d.blockRange ⟨s.first, d.lineCount⟩ := by
  refine ⟨fun s hs => ⟨_, _, blockRange_eq hs.first_lt_lineCount, delimits_blockRange hs⟩,
    fun s t hs ht hapart => ⟨_, _, _, _, blockRange_eq hs.first_lt_lineCount,
      blockRange_eq ht.first_lt_lineCount, ?_⟩, fun s => blockRange_of_lineCount_lt⟩
  rcases hs.apart ht hapart with hle | hle
  · exact .inl (blockStop_lt_offset hs ht hle)
  · exact .inr (blockStop_lt_offset ht hs hle)

/-- A text with every kind of terminator and two empty lines. -/
def fiveLines : Document := ⟨"", "a\rb\r\n\n\rc".toList, []⟩

theorem blockRange_delimits_fiveLines :
    fiveLines.Holds ⟨0, 1⟩ ∧ fiveLines.Holds ⟨1, 3⟩ ∧ fiveLines.lineCount < 9 ∧
      (∃ start stop, fiveLines.blockRange ⟨1, 3⟩ = .ok (start, stop) ∧
        fiveLines.Delimits ⟨1, 3⟩ start stop) ∧
      (∃ start stop start' stop', fiveLines.blockRange ⟨0, 1⟩ = .ok (start, stop) ∧
        fiveLines.blockRange ⟨1, 3⟩ = .ok (start', stop') ∧ (stop < start' ∨ stop' < start)) ∧
      fiveLines.blockRange ⟨3, 9⟩ = fiveLines.blockRange ⟨3, fiveLines.lineCount⟩ := by
  have hfirst : fiveLines.Holds ⟨0, 1⟩ := ⟨by decide, by decide⟩
  have hsecond : fiveLines.Holds ⟨1, 3⟩ := ⟨by decide, by decide⟩
  have hapart : ∀ i, (⟨0, 1⟩ : Span).Covers i → ¬(⟨1, 3⟩ : Span).Covers i := by
    intro i hi hi'
    simp only [Span.Covers] at hi hi'
    omega
  obtain ⟨hdelimits, hranges, hend⟩ := blockRange_delimits fiveLines
  exact ⟨hfirst, hsecond, by decide, hdelimits _ hsecond, hranges _ _ hfirst hsecond hapart,
    hend ⟨3, 9⟩ (by decide) (by decide)⟩

-- The block of the second and the third line ends with an empty line.
example : fiveLines.blockRange ⟨1, 3⟩ = .ok (2, 5) ∧
    (⟨"", fiveLines.substring 2 5, []⟩ : Document).lines = .ok ["b".toList, []] := by cbv

end Document

end MarkdownLint
