import MarkdownLint.Proofs.Document.Partition

/-!
The parser numbers lines as the document does. What the parser sees, split at `\n`, are the lines of
the document with NUL replaced (`splitAt_normalize`), and its table of lines has one entry for each
of them, in order (`tabulates_scanLines`). So the lines of a span are the same for both, and what a
block covers in the document are the lines that the parser gave to it (`lineTexts_slice_block`).
-/
namespace MarkdownLint

namespace Markdown

theorem replaceNul_eq_newline (c : Char) : replaceNul c = '\n' ↔ c = '\n' := by
  unfold replaceNul
  split
  · rename_i hc
    simp [hc]
  · rfl

/-- The lines that the parser sees are those of the text, with NUL replaced. -/
theorem splitAt_normalize (cs : List Char) :
    Text.splitAt '\n' (normalize cs) = (Text.lineTexts cs).map (List.map replaceNul) := by
  rw [normalize, Text.splitAt_map replaceNul_eq_newline, ← Text.lineTexts_eq_splitAt]

/-! ## The table of lines -/

/-- The characters of a text between the ends of an entry of the table of lines. -/
def Line.within (l : Line) (text : List Char) : List Char :=
  (text.drop l.start).take (l.stop - l.start)

theorem Line.within_eq {l : Line} {before line rest : List Char} (hstart : l.start = before.length)
    (hstop : l.stop = before.length + line.length) :
    l.within (before ++ (line ++ rest)) = line := by
  rw [Line.within, hstart, hstop, Nat.add_sub_cancel_left, List.drop_left, List.take_left]

/-- A table of lines has an entry for each of some lines, in order, and the entry delimits the line.
A last line of nothing but indentation has none. -/
inductive Tabulates (text : List Char) : List Line → List (List Char) → Prop where
  | done : Tabulates text [] []
  | cutShort {line : List Char} : (∀ c ∈ line, Text.isIndent c = true) → Tabulates text [] [line]
  | entry {l : Line} {line : List Char} {table : List Line} {lines : List (List Char)} :
      l.within text = line → Tabulates text table lines →
      Tabulates text (l :: table) (line :: lines)

/-- The scan for lines, in the middle of a line: `before` are the lines that are done, `read` is
what has been read of the line, and its text has begun only if there is more to read. -/
structure Scanning (text before read rest : List Char) (pos : Nat) (s : LineScan) : Prop where
  text_eq : text = before ++ (read ++ rest)
  start_eq : s.start = before.length
  pos_eq : pos = before.length + read.length
  inLine : '\n' ∉ read
  indent : s.inText = false → ∀ c ∈ read, Text.isIndent c = true
  more : s.inText = true → rest ≠ []

namespace Scanning

variable {text before read rest : List Char} {pos : Nat} {s : LineScan}

/-- A line is done, and the next one begins. -/
theorem newline (h : Scanning text before read ('\n' :: rest) pos s) :
    Scanning text (before ++ (read ++ ['\n'])) [] rest (pos + 1) { start := pos + 1 } where
  text_eq := by simp [h.text_eq]
  start_eq := by simp [h.pos_eq, Nat.add_assoc]
  pos_eq := by simp [h.pos_eq, Nat.add_assoc]
  inLine := by simp
  indent := by simp
  more := by simp

/-- One more character of the line is read. -/
theorem next {c : Char} (h : Scanning text before read (c :: rest) pos s) (hc : c ≠ '\n')
    {s' : LineScan} (hstart : s'.start = s.start)
    (hindent : s'.inText = false → s.inText = false ∧ Text.isIndent c = true)
    (hmore : s'.inText = true → rest ≠ []) :
    Scanning text before (read ++ [c]) rest (pos + 1) s' where
  text_eq := by simp [h.text_eq]
  start_eq := hstart.trans h.start_eq
  pos_eq := by simp [h.pos_eq, Nat.add_assoc]
  inLine := by simp [h.inLine, Ne.symm hc]
  indent := by
    intro hs d hd
    obtain ⟨hold, hci⟩ := hindent hs
    rcases List.mem_append.mp hd with hd | hd
    · exact h.indent hold d hd
    · rwa [List.mem_singleton.mp hd]
  more := hmore

/-- From wherever the scan is, it makes the table of the lines that are left. -/
theorem tabulates (h : Scanning text before read rest pos s) :
    Tabulates text (scanLines pos s rest) (Text.splitAt '\n' (read ++ rest)) := by
  fun_induction scanLines pos s rest generalizing before read with
  | case1 pos s =>
    have hbegun : s.inText = false := by
      cases hs : s.inText with
      | false => rfl
      | true => exact absurd rfl (h.more hs)
    rw [List.append_nil, Text.splitAt_of_not_mem h.inLine]
    exact .cutShort (h.indent hbegun)
  | case2 pos s c rest hindent width =>
    rename_i ih
    obtain ⟨hbegun, hc⟩ : s.inText = false ∧ Text.isIndent c = true := by
      simpa [Text.isIndent] using hindent
    have hnewline : c ≠ '\n' := by
      rintro rfl
      simp [Text.isIndent] at hc
    have hrest := ih (h.next hnewline rfl (fun _ => ⟨hbegun, hc⟩) (by simp [hbegun]))
    rwa [List.append_assoc, List.singleton_append] at hrest
  | case3 pos s c rest _ hc ih =>
    obtain rfl : c = '\n' := by simpa using hc
    rw [Text.splitAt_append_cons h.inLine]
    have hline : Line.within ⟨s.start, pos, s.shift, s.indent, 0⟩ text = read := by
      rw [h.text_eq]
      exact Line.within_eq h.start_eq h.pos_eq
    exact .entry hline (ih h.newline)
  | case4 pos s c rest hindent hc hlast =>
    have hnewline : c ≠ '\n' := by simpa using hc
    obtain rfl : rest = [] := by simpa using hlast
    -- the last character of the text ends the line, which then has an entry
    have hline : Line.within ⟨s.start, pos + 1, s.shift, s.indent, 0⟩ text = read ++ [c] := by
      have htext : text = before ++ (read ++ [c] ++ []) := by rw [h.text_eq, List.append_nil]
      rw [htext]
      exact Line.within_eq h.start_eq (by simp [h.pos_eq, Nat.add_assoc])
    rw [Text.splitAt_of_not_mem (by simp [h.inLine, Ne.symm hnewline])]
    exact .entry hline .done
  | case5 pos s c rest _ hc hmore ih =>
    have hnewline : c ≠ '\n' := by simpa using hc
    have hrest := ih (h.next hnewline rfl (by simp) (by simpa using hmore))
    rwa [List.append_assoc, List.singleton_append] at hrest

end Scanning

/-- The table of a text has the lines that splitting it at `\n` gives. -/
theorem tabulates_scanLines (text : List Char) :
    Tabulates text (scanLines 0 {} text) (Text.splitAt '\n' text) := by
  have hstart : Scanning text [] [] text 0 {} :=
    ⟨rfl, rfl, rfl, List.not_mem_nil, by simp, by simp⟩
  exact hstart.tabulates

end Markdown

namespace Document

open Markdown (Span Tabulates normalize replaceNul scanLines)
open Text (Piece)

variable {d : Document}

theorem substring_eq {a b : Nat} (ha : a ≤ d.length) (hb : b ≤ d.length) :
    d.substring a b = d.slice a b := by
  have hposition : ∀ o : Nat, o ≤ d.length → d.slicePosition o = o := by
    intro o ho
    rw [slicePosition, if_neg (by omega)]
    omega
  rw [substring, hposition a ha, hposition b hb]

/-! ## The lines of a block -/

/-- The pieces of a span are those before its last line and the piece of that line. -/
theorem exists_between {s : Span} (hspan : s.first < s.last) (hlast : s.last ≤ d.lineCount) :
    ∃ (between after : List Piece) (p : Piece),
      d.pieces = d.pieces.take s.first ++ (between ++ p :: after) ∧
      (d.pieces.drop s.first).take (s.last - s.first) = between ++ [p] ∧
      d.offset (s.last - 1) = d.offset s.first + (between.flatMap Piece.whole).length ∧
      d.textAt (s.last - 1) = p.text := by
  obtain ⟨n, hn⟩ : ∃ n, s.last = s.first + n + 1 := ⟨s.last - s.first - 1, by omega⟩
  obtain ⟨p, hp, htext, -⟩ := exists_piece (d := d) (i := s.first + n) (by omega)
  have hdrop : d.pieces.drop s.first =
      (d.pieces.drop s.first).take n ++ p :: d.pieces.drop s.last := by
    obtain ⟨hlt, rfl⟩ := List.getElem?_eq_some_iff.mp hp
    conv => lhs; rw [← List.take_append_drop n (d.pieces.drop s.first)]
    rw [List.drop_drop, List.drop_eq_getElem_cons hlt, hn]
  have hlength : ((d.pieces.drop s.first).take n).length = n := by
    rw [List.length_take, List.length_drop, length_pieces]
    omega
  refine ⟨(d.pieces.drop s.first).take n, d.pieces.drop s.last, p, ?_, ?_, ?_, ?_⟩
  · rw [← hdrop, List.take_append_drop]
  · have htake : s.last - s.first = n + 1 := by omega
    conv => lhs; rw [hdrop, htake]
    rw [List.take_append, hlength, List.take_of_length_le (by omega)]
    simp
  · rw [show s.last - 1 = s.first + n by omega, offset, offset, List.take_add, List.flatMap_append,
      List.length_append]
  · rw [show s.last - 1 = s.first + n by omega, htext]

theorem lineTexts_slice_block {s : Span} (hspan : s.first < s.last) (hlast : s.last ≤ d.lineCount) :
    Text.lineTexts (d.slice (d.offset s.first) (d.blockStop s)) =
      (d.lineTexts.drop s.first).take (s.last - s.first) := by
  obtain ⟨between, after, p, hpieces, hspanned, hoffset, htext⟩ := exists_between hspan hlast
  have hline : d.lastLine s = s.last - 1 := by
    simp only [lastLine]
    omega
  have hwhole : d.text = (d.pieces.take s.first).flatMap Piece.whole ++
      ((between.flatMap Piece.whole ++ p.text) ++ (p.terminator ++ after.flatMap Piece.whole)) := by
    rw [← Text.flatMap_whole_pieces d.text, ← pieces]
    conv => lhs; rw [hpieces]
    simp [Piece.whole]
  have hslice : d.slice (d.offset s.first) (d.blockStop s) =
      between.flatMap Piece.whole ++ p.text := by
    have hlength : d.blockStop s - d.offset s.first =
        (between.flatMap Piece.whole ++ p.text).length := by
      rw [blockStop, hline, hoffset, htext, List.length_append]
      omega
    rw [slice, hlength, hwhole, offset, List.drop_left, List.take_left]
  rw [hslice, Text.lineTexts_between hpieces, lineTexts, Text.lineTexts, ← pieces, ← List.map_drop,
    ← List.map_take, hspanned, List.map_append, List.map_singleton]

/-- The parser counts lines as the document does. There are as many, each is the same but for NUL,
and the table from which the parser takes the spans of blocks has them in the same order. So the
lines that the parser gives to a block are those that the block covers in the document. -/
theorem parser_counts_lines (d : Document) :
    (Text.splitAt '\n' (normalize d.text)).length = d.lineCount ∧
      (∀ i < d.lineCount, ∃ text, d.lineText i = .ok text ∧
        (Text.splitAt '\n' (normalize d.text))[i]? = some (text.map replaceNul)) ∧
      Tabulates (normalize d.text) (scanLines 0 {} (normalize d.text))
        (Text.splitAt '\n' (normalize d.text)) ∧
      ∀ s : Span, s.first < s.last → s.last ≤ d.lineCount →
        ∃ start stop : Nat, d.blockRange s = .ok (start, stop) ∧
          Text.splitAt '\n' (normalize (d.substring start stop)) =
            ((Text.splitAt '\n' (normalize d.text)).drop s.first).take (s.last - s.first) := by
  have hseen : Text.splitAt '\n' (normalize d.text) = d.lineTexts.map (List.map replaceNul) :=
    Markdown.splitAt_normalize d.text
  refine ⟨?_, fun i hi => ⟨d.textAt i, lineText_eq hi, ?_⟩,
    Markdown.tabulates_scanLines (normalize d.text), fun s hspan hlast =>
      ⟨d.offset s.first, d.blockStop s, blockRange_eq (by omega), ?_⟩⟩
  · rw [hseen, List.length_map, length_lineTexts]
  · have hlength : i < d.lineTexts.length := by rwa [length_lineTexts]
    rw [hseen, List.getElem?_map, textAt, List.getElem?_eq_getElem hlength]
    rfl
  · rw [substring_eq (offset_le_length _) (blockStop_le_length s), hseen, Markdown.splitAt_normalize,
      lineTexts_slice_block hspan hlast, ← List.map_drop, ← List.map_take]

-- NUL in a line that `\r\n` ends, between an empty line and one of indentation.
example : let d : Document := ⟨"", "\ra\x00\r\n  ".toList, []⟩
    Text.splitAt '\n' (normalize d.text) = ["".toList, "a\uFFFD".toList, "  ".toList] ∧
      (scanLines 0 {} (normalize d.text)).map (fun l => (l.start, l.stop)) = [(0, 0), (1, 3)] := by
  decide

end Document

end MarkdownLint
