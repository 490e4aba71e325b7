import MarkdownLint.Proofs.Document.Lines
import MarkdownLint.Proofs.Lists
import MarkdownLint.Proofs.Text.Cuts

/-!
The lines of a document make up its text. Each piece of the text is a line and one terminator, or
nothing behind the last line (`IsLine`), the pieces follow each other without a gap, and no
terminator of two characters is cut in two (`succ_not_mem_lineOffsets`). Offsets are found reading
forward and ends of lines reading backward; that both agree is `lines_partition`.
-/
namespace MarkdownLint.Document

open Text (Piece)

/-- A piece of a text is the line with an index. The line starts where the piece does and ends where
the text of the piece does, and the terminator, of which the last line has none, fills the gap up to
the start of the next line or the end of the document. -/
structure IsLine (d : Document) (i : Nat) (p : Piece) : Prop where
  terminated : i + 1 < d.lineCount → p.terminator ∈ Text.lineTerminators
  unterminated : i + 1 = d.lineCount → p.terminator = []
  plain : '\r' ∉ p.text ∧ '\n' ∉ p.text
  text : d.lineText i = .ok p.text
  ends : ∃ start, d.lineStart i = .ok start ∧ d.lineEnd i = .ok (start + p.text.length) ∧
    (d.lineOffsets[i + 1]?).getD d.length = start + p.text.length + p.terminator.length

variable {d : Document}

theorem not_mem_of_isTerminator {p : Piece} (hp : p ∈ d.pieces) {c : Char}
    (hc : Text.isTerminator c = true) : c ∉ p.text := by
  intro hmem
  rw [Text.not_isTerminator_of_mem_text hp c hmem] at hc
  cases hc

theorem getElem?_lineOffsets_getD {i : Nat} (h : i < d.lineCount) :
    (d.lineOffsets[i + 1]?).getD d.length = d.offset (i + 1) := by
  by_cases hlast : i + 1 < d.lineCount
  · rw [getElem?_lineOffsets hlast, Option.getD_some]
  · have hcount : d.lineCount = i + 1 := by omega
    rw [getElem?_lineOffsets_of_le (Nat.le_of_not_lt hlast), Option.getD_none, ← offset_lineCount,
      hcount]

/-- The pieces of a document are its lines. -/
theorem isLine_of_piece {i : Nat} {p : Piece} (hp : d.pieces[i]? = some p) : d.IsLine i p := by
  have hi : i < d.lineCount := by
    rw [← length_pieces]
    exact (List.getElem?_eq_some_iff.mp hp).1
  have hmem : p ∈ d.pieces := List.mem_of_getElem? hp
  obtain ⟨q, hq, htext, hnext⟩ := exists_piece hi
  obtain rfl : q = p := Option.some.inj (hq.symm.trans hp)
  constructor
  case terminated =>
    intro hlast
    have hne : q.terminator ≠ [] :=
      Text.terminator_ne_nil hp (by rwa [← pieces, length_pieces])
    exact (Text.terminator_cases hmem).resolve_left hne
  case unterminated =>
    intro hlast
    have hend : (Text.pieces d.text).getLast? = some q := by
      rw [← pieces, List.getLast?_eq_getElem?, length_pieces, ← hlast]
      exact hp
    exact Text.terminator_eq_nil hend
  case plain => exact ⟨not_mem_of_isTerminator hmem rfl, not_mem_of_isTerminator hmem rfl⟩
  case text => rw [lineText_eq hi, htext]
  case ends =>
    refine ⟨d.offset i, lineStart_eq hi, by rw [lineEnd_eq hi, htext], ?_⟩
    rw [getElem?_lineOffsets_getD hi, hnext, Piece.whole, List.length_append, Nat.add_assoc]

theorem lines_eq : d.lines = .ok d.lineTexts := by
  have hall : d.lines = .ok ((List.range d.lineCount).map d.textAt) :=
    mapM_eq_ok fun i hi => lineText_eq (List.mem_range.mp hi)
  rw [hall]
  congr 1
  apply List.ext_getElem?
  intro i
  by_cases hi : i < d.lineCount
  · have hlength : i < d.lineTexts.length := by rwa [length_lineTexts]
    simp [hi, textAt, hlength]
  · have hlength : d.lineTexts.length ≤ i := by
      rw [length_lineTexts]
      omega
    simp [hi, hlength]

theorem succ_not_mem_lineOffsets {before after : List Char}
    (h : d.text = before ++ '\r' :: '\n' :: after) : before.length + 1 ∉ d.lineOffsets := by
  rw [lineOffsets, Text.lineOffsets, List.mem_cons, not_or]
  exact ⟨Nat.succ_ne_zero _, Text.not_mem_terminatorEnds h (by omega)⟩

theorem le_length_of_mem_lineOffsets {o : Nat} (h : o ∈ d.lineOffsets) : o ≤ d.length := by
  obtain ⟨i, hi, rfl⟩ := List.getElem_of_mem h
  have hoffset := getElem?_lineOffsets (d := d) hi
  rw [List.getElem?_eq_getElem hi, Option.some.injEq] at hoffset
  rw [hoffset]
  exact offset_le_length i

/-- The lines of a document partition its text: they start at ascending offsets from the first
character on, no terminator of two characters is cut in two, and the text is made up of the pieces
that are its lines, one after the other. -/
theorem lines_partition (d : Document) :
    d.lineOffsets.Pairwise (· < ·) ∧ d.lineOffsets.head? = some 0 ∧
      (∀ o ∈ d.lineOffsets, o ≤ d.length) ∧
      (∀ before after, d.text = before ++ '\r' :: '\n' :: after →
        before.length + 1 ∉ d.lineOffsets) ∧
      ∃ ps : List Piece, ps.length = d.lineCount ∧
        d.text = ps.flatMap (fun p => p.text ++ p.terminator) ∧
        d.lines = .ok (ps.map Piece.text) ∧ ∀ i p, ps[i]? = some p → d.IsLine i p :=
  ⟨pairwise_lineOffsets, rfl, fun _ => le_length_of_mem_lineOffsets,
    fun _ _ => succ_not_mem_lineOffsets, d.pieces, length_pieces d,
    (Text.flatMap_whole_pieces d.text).symm, lines_eq, fun _ _ => isLine_of_piece⟩

-- A lone `\r`, then `\r\n`, and `\r` at the end: four lines.
example : (⟨"", "a\r\r\nb\r".toList, []⟩ : Document).lines =
    .ok ["a".toList, [], "b".toList, []] := by cbv

end MarkdownLint.Document
