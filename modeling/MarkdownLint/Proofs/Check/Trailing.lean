import MarkdownLint.Proofs.Check.Sites
import MarkdownLint.Proofs.Document.Partition
import MarkdownLint.Proofs.Text.Trimming

/-!
Trailing spaces and their removal. What the check reports on a line is the longest run of spaces and
tabs that ends with the line (`isTrailingRun_of_mem`). Without the reported characters the text is
made up of the lines cut back at their ends, with the terminators behind them
(`erase_trailingRanges`), and the check finds nothing in it (`visitTrailingSpaces_cutBack`), even
where the removal joins a `\r` and a `\n` to one terminator.
-/
namespace MarkdownLint

namespace Text

/-- Whether an offset lies in one of some ranges. -/
def inRanges (ranges : List (Nat × Nat)) (o : Nat) : Bool :=
  ranges.any fun r => decide (r.1 ≤ o) && decide (o < r.2)

/-- The characters of a text whose offsets satisfy `q`, where the text starts at offset `pos`. -/
def keep (q : Nat → Bool) (pos : Nat) (cs : List Char) : List Char :=
  ((cs.zipIdx pos).filter fun c => q c.2).map (·.1)

/-- A text without the characters in some ranges. -/
def erase (ranges : List (Nat × Nat)) (cs : List Char) : List Char :=
  keep (fun o => !inRanges ranges o) 0 cs

/-- A line that does not end with a space or a tab. -/
def Unindented (line : List Char) : Prop := ∀ c ∈ line.getLast?, isIndent c = false

/-! ## Keeping characters -/

theorem inRanges_iff {ranges : List (Nat × Nat)} {o : Nat} :
    inRanges ranges o = true ↔ ∃ r ∈ ranges, r.1 ≤ o ∧ o < r.2 := by
  simp [inRanges]

variable {q : Nat → Bool} {pos : Nat}

theorem keep_append (as bs : List Char) :
    keep q pos (as ++ bs) = keep q pos as ++ keep q (pos + as.length) bs := by
  simp only [keep, List.zipIdx_append, List.filter_append, List.map_append]

theorem keep_eq_self {cs : List Char} (h : ∀ o, pos ≤ o → o < pos + cs.length → q o = true) :
    keep q pos cs = cs := by
  have hall : (cs.zipIdx pos).filter (fun c => q c.2) = cs.zipIdx pos := by
    rw [List.filter_eq_self]
    intro c hc
    exact h c.2 (List.le_snd_of_mem_zipIdx hc) (List.snd_lt_add_of_mem_zipIdx hc)
  rw [keep, hall, List.zipIdx_map_fst]

theorem keep_eq_nil {cs : List Char} (h : ∀ o, pos ≤ o → o < pos + cs.length → q o = false) :
    keep q pos cs = [] := by
  have hnone : (cs.zipIdx pos).filter (fun c => q c.2) = [] := by
    rw [List.filter_eq_nil_iff]
    intro c hc
    simp [h c.2 (List.le_snd_of_mem_zipIdx hc) (List.snd_lt_add_of_mem_zipIdx hc)]
  rw [keep, hnone, List.map_nil]

/-- Of a text made up of pieces, what is kept of each piece is kept. -/
theorem keep_flatMap_whole {ps : List Piece} {f : Piece → List Char}
    (h : ∀ i p, ps[i]? = some p →
      keep q (pos + ((ps.take i).flatMap Piece.whole).length) p.whole = f p) :
    keep q pos (ps.flatMap Piece.whole) = ps.flatMap f := by
  induction ps generalizing pos with
  | nil => rfl
  | cons p ps ih =>
    have hp : keep q pos p.whole = f p := h 0 p rfl
    have hps : keep q (pos + p.whole.length) (ps.flatMap Piece.whole) = ps.flatMap f := by
      refine ih fun i r hr => ?_
      have hi := h (i + 1) r hr
      rwa [List.take_succ_cons, List.flatMap_cons, List.length_append, ← Nat.add_assoc] at hi
    rw [List.flatMap_cons, List.flatMap_cons, keep_append, hp, hps]

/-! ## Lines cut back at their ends -/

/-- A line without the spaces and tabs at its end. -/
def cutBack (line : List Char) : List Char := dropEndWhile isIndent line

theorem exists_cutBack_append (line : List Char) :
    ∃ after, line = cutBack line ++ after ∧ ∀ c ∈ after, isIndent c = true :=
  exists_dropEndWhile_append isIndent line

theorem length_cutBack_le (line : List Char) : (cutBack line).length ≤ line.length :=
  Check.length_dropEndWhile_le isIndent line

theorem unindented_cutBack (line : List Char) : Unindented (cutBack line) :=
  fun _ => getLast?_dropEndWhile

/-- A line that is not shorter once it is cut back was not indented at its end, and vice versa. -/
theorem length_cutBack_eq_iff {line : List Char} :
    (cutBack line).length = line.length ↔ Unindented line := by
  obtain ⟨after, hline, hafter⟩ := exists_cutBack_append line
  constructor
  · intro h
    have hnil : after = [] := by
      have hlength := congrArg List.length hline
      rw [List.length_append, h] at hlength
      exact List.eq_nil_of_length_eq_zero (by omega)
    rw [hnil, List.append_nil] at hline
    rw [hline]
    exact unindented_cutBack line
  · intro h
    have hnil : after = [] := by
      cases hlast : after.getLast? with
      | none => exact List.getLast?_eq_none_iff.mp hlast
      | some c =>
        have hc : c ∈ line.getLast? := by
          rw [hline, List.getLast?_append, hlast]
          rfl
        have hplain : isIndent c = false := h c hc
        rw [hafter c (List.mem_of_getLast? hlast)] at hplain
        cases hplain
    conv => rhs; rw [hline, hnil, List.append_nil]

/-- What is cut off are spaces and tabs. -/
theorem isIndent_behind_cutBack {cs : List Char} {k : Nat} {c : Char}
    (hk : (cutBack cs).length ≤ k) (hc : cs[k]? = some c) : isIndent c = true := by
  obtain ⟨after, hcs, hafter⟩ := exists_cutBack_append cs
  rw [hcs, List.getElem?_append_right hk] at hc
  exact hafter c (List.mem_of_getElem? hc)

/-- What is not cut off ends with something else. -/
theorem not_isIndent_before_cutBack {cs : List Char} {k : Nat} {c : Char}
    (hk : k + 1 = (cutBack cs).length) (hc : cs[k]? = some c) : isIndent c = false := by
  obtain ⟨after, hcs, -⟩ := exists_cutBack_append cs
  rw [hcs, List.getElem?_append_left (by omega)] at hc
  refine unindented_cutBack cs c ?_
  rw [List.getLast?_eq_getElem?, ← hk, Nat.add_sub_cancel]
  exact hc

theorem isIndent_of_isTerminator {c : Char} (h : isTerminator c = true) : isIndent c = false := by
  simp only [isTerminator, Bool.or_eq_true, beq_iff_eq] at h
  rcases h with rfl | rfl <;> rfl

theorem Unindented.append {as bs : List Char} (ha : Unindented as) (hb : Unindented bs) :
    Unindented (as ++ bs) := by
  intro c hc
  rw [List.getLast?_append] at hc
  cases hlast : bs.getLast? with
  | none => exact ha c (by simpa [hlast] using hc)
  | some e => exact hb c (by simpa [hlast] using hc)

theorem lineTexts_append_of_plain {text cs l : List Char} {ls : List (List Char)}
    (htext : ∀ c ∈ text, isTerminator c = false) (h : lineTexts cs = l :: ls) :
    lineTexts (text ++ cs) = (text ++ l) :: ls := by
  induction text with
  | nil => exact h
  | cons c text ih =>
    exact lineTexts_cons_of_plain (htext c List.mem_cons_self)
      (ih fun e he => htext e (List.mem_cons_of_mem c he))

/-- A terminator in front of a text ends an empty line, also where it becomes part of a longer
terminator. -/
theorem mem_lineTexts_terminator_append {t cs l : List Char} (ht : t ∈ lineTerminators)
    (hl : l ∈ lineTexts (t ++ cs)) : l = [] ∨ l ∈ lineTexts cs := by
  by_cases hcut : t = ['\r'] → ∀ rest, cs ≠ '\n' :: rest
  · rw [lineTexts_terminator_append ht hcut] at hl
    exact List.mem_cons.mp hl
  · obtain ⟨rfl, rest, rfl⟩ : t = ['\r'] ∧ ∃ rest, cs = '\n' :: rest := by
      simpa using hcut
    -- `\r` and `\n` are one terminator now, and the line between them is gone
    have hjoined : lineTexts (['\r'] ++ '\n' :: rest) = [] :: lineTexts rest :=
      lineTexts_terminator_append (t := ['\r', '\n']) (by simp [lineTerminators]) (by simp)
    have halone : lineTexts ('\n' :: rest) = [] :: lineTexts rest :=
      lineTexts_terminator_append (t := ['\n']) (by simp [lineTerminators]) (by simp)
    rw [hjoined] at hl
    rw [halone]
    exact .inr hl

/-- One more line and its terminator in front of a text. -/
theorem unindented_append {text t cs : List Char} (htext : ∀ c ∈ text, isTerminator c = false)
    (hcut : Unindented text) (ht : t = [] ∨ t ∈ lineTerminators)
    (hcs : ∀ l ∈ lineTexts cs, Unindented l) :
    ∀ l ∈ lineTexts (text ++ (t ++ cs)), Unindented l := by
  have hrest : ∀ l ∈ lineTexts (t ++ cs), Unindented l := by
    intro l hl
    rcases ht with rfl | ht
    · exact hcs l hl
    · rcases mem_lineTexts_terminator_append ht hl with rfl | hl
      · simp [Unindented]
      · exact hcs l hl
  cases hlines : lineTexts (t ++ cs) with
  | nil => exact absurd (List.map_eq_nil_iff.mp hlines) (pieces_ne_nil _)
  | cons l ls =>
    rw [hlines] at hrest
    rw [lineTexts_append_of_plain htext hlines]
    intro m hm
    rcases List.mem_cons.mp hm with rfl | hm
    · exact hcut.append (hrest l List.mem_cons_self)
    · exact hrest m (List.mem_cons_of_mem l hm)

/-- Lines that are cut back stay so when they are put together again. -/
theorem unindented_of_mem_cutBack (cs : List Char) {ps : List Piece}
    (hps : ∀ p ∈ ps, p ∈ pieces cs) :
    ∀ l ∈ lineTexts (ps.flatMap fun p => cutBack p.text ++ p.terminator), Unindented l := by
  induction ps with
  | nil => simp [lineTexts, pieces, Unindented]
  | cons p ps ih =>
    have hp : p ∈ pieces cs := hps p List.mem_cons_self
    have htext : ∀ c ∈ cutBack p.text, isTerminator c = false := by
      intro c hc
      obtain ⟨after, htext, -⟩ := exists_cutBack_append p.text
      refine not_isTerminator_of_mem_text hp c ?_
      rw [htext]
      exact List.mem_append_left after hc
    rw [List.flatMap_cons, List.append_assoc]
    exact unindented_append htext (unindented_cutBack p.text) (terminator_cases hp)
      (ih fun r hr => hps r (List.mem_cons_of_mem p hr))

end Text

/-! ## Characters of a document -/

namespace Document

variable {d : Document}

theorem mem_slice_iff {a b : Nat} {c : Char} :
    c ∈ d.slice a b ↔ ∃ o, a ≤ o ∧ o < b ∧ d.text[o]? = some c := by
  rw [slice, List.mem_iff_getElem?]
  constructor
  · rintro ⟨k, hk⟩
    rw [List.getElem?_take, List.getElem?_drop] at hk
    split at hk
    · exact ⟨a + k, by omega, by omega, hk⟩
    · cases hk
  · rintro ⟨o, ha, hb, ho⟩
    refine ⟨o - a, ?_⟩
    rw [List.getElem?_take, List.getElem?_drop, if_pos (by omega), Nat.add_sub_cancel' ha, ho]

/-- The characters of a line, counted from its start. -/
theorem getElem?_offset_add {i k : Nat} (hi : i < d.lineCount) (hk : k < (d.textAt i).length) :
    d.text[d.offset i + k]? = (d.textAt i)[k]? := by
  obtain ⟨p, hp, htext, -⟩ := exists_piece hi
  rw [htext] at hk ⊢
  rw [← List.getElem?_drop, drop_offset hp, Text.Piece.whole, List.append_assoc,
    List.getElem?_append_left hk]

/-- The character before a line belongs to a terminator. -/
theorem isTerminator_before_offset {i : Nat} {c : Char} (hi : i + 1 < d.lineCount)
    (hc : d.text[d.offset (i + 1) - 1]? = some c) : Text.isTerminator c = true := by
  obtain ⟨p, hp, -, hnext⟩ := exists_piece (d := d) (i := i) (by omega)
  have hne : p.terminator ≠ [] := Text.terminator_ne_nil hp (by rwa [← pieces, length_pieces])
  have hpos : 0 < p.terminator.length := List.length_pos_iff.mpr hne
  rw [Text.Piece.whole, List.length_append] at hnext
  have hplace : d.offset (i + 1) - 1 =
      d.offset i + (p.text.length + (p.terminator.length - 1)) := by omega
  rw [hplace, ← List.getElem?_drop, drop_offset hp, Text.Piece.whole, List.append_assoc,
    List.getElem?_append_right (by omega), Nat.add_sub_cancel_left,
    List.getElem?_append_left (by omega)] at hc
  exact Text.isTerminator_of_mem_terminator (List.mem_of_getElem? hp) c (List.mem_of_getElem? hc)

end Document

/-! ## What is reported -/

namespace Check

open Text (Piece cutBack)

/-- A violation covers the longest run of spaces and tabs that ends with a line. -/
structure IsTrailingRun (d : Document) (v : Violation) : Prop where
  start_lt_stop : v.start < v.stop
  line : ∃ i start : Nat, d.lineStart i = .ok start ∧ start ≤ v.start ∧ d.lineEnd i = .ok v.stop
  indent : ∀ c ∈ d.slice v.start v.stop, Text.isIndent c = true
  longest : ∀ o ≤ v.stop, (∀ c ∈ d.slice o v.stop, Text.isIndent c = true) → v.start ≤ o

/-- The ranges of violations. -/
def rangesOf (vs : List Violation) : List (Nat × Nat) := vs.map fun v => (v.start, v.stop)

variable {d : Document} {i : Nat} {v : Violation}

theorem trailingSpacesOn_eq_none_iff :
    trailingSpacesOn d i = none ↔ Text.Unindented (d.textAt i) := by
  rw [← Text.length_cutBack_eq_iff]
  simp only [trailingSpacesOn, cutBack]
  split <;> simp_all

theorem range_of_trailingSpacesOn (h : trailingSpacesOn d i = some v) :
    v.start = d.offset i + (cutBack (d.textAt i)).length ∧
      v.stop = d.offset i + (d.textAt i).length ∧ v.start < v.stop := by
  have hle := Text.length_cutBack_le (d.textAt i)
  simp only [trailingSpacesOn] at h
  split at h
  · cases h
  · rename_i hne
    cases h
    refine ⟨rfl, rfl, Nat.add_lt_add_left ?_ _⟩
    exact Nat.lt_of_le_of_ne hle hne

/-- Before what is reported on a line stands no space and no tab. -/
theorem not_isIndent_before {o : Nat} {c : Char} (hi : i < d.lineCount)
    (ho : o + 1 = d.offset i + (cutBack (d.textAt i)).length) (hc : d.text[o]? = some c) :
    Text.isIndent c = false := by
  have hle := Text.length_cutBack_le (d.textAt i)
  cases hcut : (cutBack (d.textAt i)).length with
  | succ k =>
    have hplace : o = d.offset i + k := by omega
    rw [hplace, Document.getElem?_offset_add hi (by omega)] at hc
    exact Text.not_isIndent_before_cutBack hcut.symm hc
  | zero =>
    -- nothing is left of the line: what stands before it is the terminator of the line before
    cases i with
    | zero =>
      rw [Document.offset_zero, hcut] at ho
      omega
    | succ i =>
      have hplace : o = d.offset (i + 1) - 1 := by omega
      rw [hplace] at hc
      exact Text.isIndent_of_isTerminator (Document.isTerminator_before_offset hi hc)

theorem isTrailingRun_of_trailingSpacesOn (hi : i < d.lineCount)
    (h : trailingSpacesOn d i = some v) : IsTrailingRun d v := by
  obtain ⟨hstart, hstop, hlt⟩ := range_of_trailingSpacesOn h
  constructor
  case start_lt_stop => exact hlt
  case line =>
    refine ⟨i, d.offset i, Document.lineStart_eq hi, by omega, ?_⟩
    rw [Document.lineEnd_eq hi, hstop]
  case indent =>
    intro c hc
    obtain ⟨o, hlow, hhigh, hc⟩ := Document.mem_slice_iff.mp hc
    obtain ⟨k, rfl⟩ : ∃ k, o = d.offset i + k := ⟨o - d.offset i, by omega⟩
    rw [Document.getElem?_offset_add hi (by omega)] at hc
    exact Text.isIndent_behind_cutBack (by omega) hc
  case longest =>
    intro o _ hall
    refine Nat.le_of_not_lt fun hbefore => ?_
    have hlen : v.start - 1 < d.text.length := by
      have hend := Document.offset_add_length_le (d := d) i
      rw [Document.length] at hend
      omega
    have hc : d.text[v.start - 1]? = some d.text[v.start - 1] := List.getElem?_eq_getElem hlen
    have hindent := hall _ (Document.mem_slice_iff.mpr ⟨v.start - 1, by omega, by omega, hc⟩)
    rw [not_isIndent_before hi (by omega) hc] at hindent
    cases hindent

/-- The violations of trailing spaces in a document. -/
def trailingViolations (d : Document) : List Violation :=
  (List.range d.lineCount).filterMap (trailingSpacesOn d)

theorem mem_trailingViolations :
    v ∈ trailingViolations d ↔ ∃ i < d.lineCount, trailingSpacesOn d i = some v := by
  simp [trailingViolations]

theorem isTrailingRun_of_mem (h : v ∈ trailingViolations d) : IsTrailingRun d v := by
  obtain ⟨i, hi, hv⟩ := mem_trailingViolations.mp h
  exact isTrailingRun_of_trailingSpacesOn hi hv

theorem pairwise_trailingViolations :
    (trailingViolations d).Pairwise fun v w => v.stop < w.start := by
  rw [trailingViolations, List.pairwise_filterMap]
  refine List.pairwise_lt_range.imp_of_mem fun {i j} _ hj hij v hv w hw => ?_
  obtain ⟨-, hstop, -⟩ := range_of_trailingSpacesOn hv
  obtain ⟨hstart, -, -⟩ := range_of_trailingSpacesOn hw
  have hlt := Document.offset_add_length_lt hij (List.mem_range.mp hj)
  omega

/-! ## The text without it -/

/-- Of a line and its terminator, what is reported on the line is removed and nothing else. -/
theorem inRanges_trailingViolations {o : Nat} (hi : i < d.lineCount) (hlow : d.offset i ≤ o)
    (hhigh : o < d.offset (i + 1)) :
    Text.inRanges (rangesOf (trailingViolations d)) o = true ↔
      d.offset i + (cutBack (d.textAt i)).length ≤ o ∧ o < d.offset i + (d.textAt i).length := by
  rw [Text.inRanges_iff]
  constructor
  · rintro ⟨r, hr, hfrom, hto⟩
    obtain ⟨v, hv, rfl⟩ := List.mem_map.mp hr
    obtain ⟨j, hj, hon⟩ := mem_trailingViolations.mp hv
    obtain ⟨hstart, hstop, -⟩ := range_of_trailingSpacesOn hon
    rcases Nat.lt_trichotomy j i with hji | rfl | hij
    · have hbefore := Document.offset_add_length_lt hji hi
      omega
    · omega
    · have hbehind : d.offset (i + 1) ≤ d.offset j := Document.offset_mono hij
      omega
  · rintro ⟨hfrom, hto⟩
    cases hon : trailingSpacesOn d i with
    | none =>
      have hcut := Text.length_cutBack_eq_iff.mpr (trailingSpacesOn_eq_none_iff.mp hon)
      omega
    | some v =>
      obtain ⟨hstart, hstop, -⟩ := range_of_trailingSpacesOn hon
      refine ⟨(v.start, v.stop), List.mem_map.mpr ⟨v, ?_, rfl⟩, by omega, by omega⟩
      exact mem_trailingViolations.mpr ⟨i, hi, hon⟩

theorem keep_piece {p : Piece} (hp : d.pieces[i]? = some p) :
    Text.keep (fun o => !Text.inRanges (rangesOf (trailingViolations d)) o) (d.offset i) p.whole =
      cutBack p.text ++ p.terminator := by
  have hi : i < d.lineCount := by
    rw [← Document.length_pieces]
    exact (List.getElem?_eq_some_iff.mp hp).1
  obtain ⟨q, hq, htext, hnext⟩ := Document.exists_piece hi
  obtain rfl : q = p := Option.some.inj (hq.symm.trans hp)
  obtain ⟨after, hline, -⟩ := Text.exists_cutBack_append q.text
  have hlength : q.text.length = (cutBack q.text).length + after.length := by
    conv => lhs; rw [hline, List.length_append]
  have hwhole : q.whole = cutBack q.text ++ (after ++ q.terminator) := by
    rw [← List.append_assoc, ← hline, Piece.whole]
  rw [Piece.whole, List.length_append] at hnext
  have hon := fun o => inRanges_trailingViolations (o := o) hi
  rw [htext] at hon
  rw [hwhole, Text.keep_append, Text.keep_append, Text.keep_eq_self, Text.keep_eq_nil,
    Text.keep_eq_self, List.nil_append]
  · intro o hlow hhigh
    rw [Bool.not_eq_true', ← Bool.not_eq_true, hon o (by omega) (by omega)]
    omega
  · intro o hlow hhigh
    rw [Bool.not_eq_false', hon o (by omega) (by omega)]
    omega
  · intro o hlow hhigh
    rw [Bool.not_eq_true', ← Bool.not_eq_true, hon o (by omega) (by omega)]
    omega

theorem erase_trailingRanges (d : Document) :
    Text.erase (rangesOf (trailingViolations d)) d.text =
      d.pieces.flatMap fun p => cutBack p.text ++ p.terminator := by
  have hkept : Text.erase (rangesOf (trailingViolations d)) (d.pieces.flatMap Piece.whole) =
      d.pieces.flatMap fun p => cutBack p.text ++ p.terminator := by
    refine Text.keep_flatMap_whole fun i p hp => ?_
    rw [Nat.zero_add]
    exact keep_piece hp
  rwa [Document.pieces, Text.flatMap_whole_pieces, ← Document.pieces] at hkept

/-- Nothing is found in lines that are cut back. -/
theorem visitTrailingSpaces_cutBack (d : Document) (filename : String)
    (blocks : List Markdown.Block) :
    visitTrailingSpaces ⟨filename, d.pieces.flatMap fun p => cutBack p.text ++ p.terminator,
      blocks⟩ = .ok [] := by
  rw [visitTrailingSpaces_eq]
  congr 1
  rw [List.filterMap_eq_nil_iff]
  intro i hi
  rw [trailingSpacesOn_eq_none_iff]
  refine Text.unindented_of_mem_cutBack d.text (fun p hp => hp) _ ?_
  have hlength : i < Document.lineCount _ := List.mem_range.mp hi
  rw [← Document.length_lineTexts] at hlength
  rw [Document.textAt, List.getElem?_eq_getElem hlength, Option.getD_some]
  exact List.getElem_mem hlength

/-- The check of trailing spaces succeeds on every document. It reports runs of spaces and tabs that
end with lines, each as long as possible, from the front to the back. The document without the
reported characters is made up of its lines, cut back at their ends, with their terminators, and the
check finds nothing in it. -/
theorem trailingSpaces_removed (d : Document) :
    ∃ vs, trailingSpaces.visit d = .ok vs ∧ (∀ v ∈ vs, IsTrailingRun d v) ∧
      vs.Pairwise (fun v w => v.stop < w.start) ∧
      ∃ ps : List Piece, ps.length = d.lineCount ∧ (∀ i p, ps[i]? = some p → d.IsLine i p) ∧
        Text.erase (rangesOf vs) d.text = ps.flatMap (fun p => cutBack p.text ++ p.terminator) ∧
        ∀ filename blocks,
          trailingSpaces.visit ⟨filename, Text.erase (rangesOf vs) d.text, blocks⟩ = .ok [] := by
  refine ⟨trailingViolations d, visitTrailingSpaces_eq d, fun v => isTrailingRun_of_mem,
    pairwise_trailingViolations, d.pieces, Document.length_pieces d,
    fun _ _ => Document.isLine_of_piece, erase_trailingRanges d, fun filename blocks => ?_⟩
  rw [erase_trailingRanges]
  exact visitTrailingSpaces_cutBack d filename blocks

-- Without the space between them, `\r` and `\n` are one terminator.
example : let d : Document := ⟨"", "a \t\r \n b ".toList, []⟩
    trailingSpaces.visit d = .ok [trailingSpaces.violationAt d 0 1 3 none,
        trailingSpaces.violationAt d 1 0 5 none, trailingSpaces.violationAt d 2 2 9 none] ∧
      Text.erase [(1, 3), (4, 5), (8, 9)] d.text = "a\r\n b".toList := by cbv

end Check

end MarkdownLint
