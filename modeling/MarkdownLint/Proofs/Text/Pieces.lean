import MarkdownLint.Text.Blank
import MarkdownLint.Text.Line

/-!
The pieces of a text: its lines, each with the terminator behind it. The pieces make up the text
(`flatMap_whole_pieces`), the offsets of the lines are the running lengths of the pieces
(`lineOffsets_eq_starts`), and the texts of the pieces are what splitting at `\n` gives once all
terminators are written as `\n` (`lineTexts_eq_splitAt`), so they do not depend on how lines are
terminated.
-/
namespace MarkdownLint.Text

/-- A line of a text and the terminator behind it, which is empty behind the last line. -/
structure Piece where
  text : List Char
  terminator : List Char
deriving Repr, DecidableEq

/-- All characters of a piece. -/
def Piece.whole (p : Piece) : List Char := p.text ++ p.terminator

/-- The pieces of a text with one more character in front of it. -/
def extendFirst (c : Char) : List Piece → List Piece
  | [] => [⟨[c], []⟩]
  | p :: ps => ⟨c :: p.text, p.terminator⟩ :: ps

/-- The lines of a text with their terminators. -/
def pieces : List Char → List Piece
  | [] => [⟨[], []⟩]
  | '\r' :: '\n' :: cs => ⟨[], ['\r', '\n']⟩ :: pieces cs
  | c :: cs =>
    if c = '\r' ∨ c = '\n' then ⟨[], [c]⟩ :: pieces cs else extendFirst c (pieces cs)

/-- The lines of a text without their terminators. -/
def lineTexts (cs : List Char) : List (List Char) := (pieces cs).map Piece.text

theorem extendFirst_ne_nil (c : Char) (ps : List Piece) : extendFirst c ps ≠ [] := by
  cases ps <;> simp [extendFirst]

theorem pieces_ne_nil (cs : List Char) : pieces cs ≠ [] := by
  fun_cases pieces cs with
  | case1 | case2 | case3 => simp
  | case4 c cs => exact extendFirst_ne_nil c (pieces cs)

/-! ## Nothing is lost -/

theorem flatMap_whole_extendFirst (c : Char) (ps : List Piece) :
    (extendFirst c ps).flatMap Piece.whole = c :: ps.flatMap Piece.whole := by
  cases ps <;> simp [extendFirst, Piece.whole]

theorem flatMap_whole_pieces (cs : List Char) : (pieces cs).flatMap Piece.whole = cs := by
  fun_induction pieces cs with
  | case1 => rfl
  | case2 cs ih => simp [Piece.whole, ih]
  | case3 c cs _ _ ih => simp [Piece.whole, ih]
  | case4 c cs _ _ ih => rw [flatMap_whole_extendFirst, ih]

/-! ## Texts and terminators -/

theorem mem_extendFirst {c : Char} {ps : List Piece} {p : Piece} (h : p ∈ extendFirst c ps) :
    p = ⟨[c], []⟩ ∨ (∃ q ∈ ps, p = ⟨c :: q.text, q.terminator⟩) ∨ p ∈ ps := by
  cases ps with
  | nil => exact .inl (by simpa [extendFirst] using h)
  | cons q qs =>
    rcases List.mem_cons.mp h with rfl | h
    · exact .inr (.inl ⟨q, by simp, rfl⟩)
    · exact .inr (.inr (by simp [h]))

/-- No line holds a character of a terminator. -/
theorem not_isTerminator_of_mem_text {cs : List Char} {p : Piece} (hp : p ∈ pieces cs) :
    ∀ c ∈ p.text, isTerminator c = false := by
  fun_induction pieces cs generalizing p with
  | case1 => simp_all
  | case2 cs ih | case3 c cs _ _ ih =>
    rcases List.mem_cons.mp hp with rfl | h
    · simp
    · exact ih h
  | case4 c cs _ hc ih =>
    have hc' : isTerminator c = false := by simpa [isTerminator] using hc
    rcases mem_extendFirst hp with rfl | ⟨q, hq, rfl⟩ | h
    · simpa using hc'
    · intro d hd
      rcases List.mem_cons.mp hd with rfl | hd
      · exact hc'
      · exact ih hq d hd
    · exact ih h

/-- A terminator holds nothing else. -/
theorem isTerminator_of_mem_terminator {cs : List Char} {p : Piece} (hp : p ∈ pieces cs) :
    ∀ c ∈ p.terminator, isTerminator c = true := by
  fun_induction pieces cs generalizing p with
  | case1 => simp_all
  | case2 cs ih =>
    rcases List.mem_cons.mp hp with rfl | h
    · simp [isTerminator]
    · exact ih h
  | case3 c cs _ hc ih =>
    rcases List.mem_cons.mp hp with rfl | h
    · simpa [isTerminator] using hc
    · exact ih h
  | case4 c cs _ _ ih =>
    rcases mem_extendFirst hp with rfl | ⟨q, hq, rfl⟩ | h
    · simp
    · exact ih (p := q) hq
    · exact ih h

/-- A terminator stands behind every line but the last. -/
theorem terminator_ne_nil {cs : List Char} {i : Nat} {p : Piece} (hp : (pieces cs)[i]? = some p)
    (hi : i + 1 < (pieces cs).length) : p.terminator ≠ [] := by
  fun_induction pieces cs generalizing i p with
  | case1 => simp at hi
  | case2 cs ih =>
    cases i with
    | zero => simp [← Option.some.inj hp]
    | succ i => exact ih (by simpa using hp) (by simpa using hi)
  | case3 c cs _ _ ih =>
    cases i with
    | zero => simp [← Option.some.inj hp]
    | succ i => exact ih (by simpa using hp) (by simpa using hi)
  | case4 c cs _ _ ih =>
    cases hps : pieces cs with
    | nil => exact absurd hps (pieces_ne_nil cs)
    | cons q qs =>
      rw [hps] at hp hi ih
      -- the first piece gets one more character and keeps its terminator
      cases i with
      | zero =>
        have hq : q.terminator ≠ [] := ih (i := 0) rfl (by simpa [extendFirst] using hi)
        simpa [← Option.some.inj hp] using hq
      | succ i =>
        exact ih (i := i + 1) (by simpa [extendFirst] using hp) (by simpa [extendFirst] using hi)

/-! ## Offsets -/

/-- The offsets at which pieces start, the first of them at `pos`. -/
def starts (pos : Nat) : List Piece → List Nat
  | [] => []
  | p :: ps => pos :: starts (pos + p.whole.length) ps

theorem starts_extendFirst (pos : Nat) (c : Char) (ps : List Piece) (h : ps ≠ []) :
    (starts pos (extendFirst c ps)).tail = (starts (pos + 1) ps).tail := by
  cases ps with
  | nil => exact absurd rfl h
  | cons p ps =>
    simp only [extendFirst, starts, Piece.whole, List.tail_cons, List.cons_append, List.length_cons]
    congr 1
    omega

theorem starts_eq_cons (pos : Nat) {ps : List Piece} (h : ps ≠ []) :
    starts pos ps = pos :: (starts pos ps).tail := by
  cases ps with
  | nil => exact absurd rfl h
  | cons p ps => rfl

theorem terminatorEnds_eq_starts (pos : Nat) (cs : List Char) :
    terminatorEnds pos cs = (starts pos (pieces cs)).tail := by
  fun_induction terminatorEnds pos cs with
  | case1 pos => rfl
  | case2 pos cs ih =>
    rw [ih, pieces, starts]
    exact (starts_eq_cons (pos + 2) (pieces_ne_nil cs)).symm
  | case3 pos c cs hcrlf hc ih =>
    rw [ih, pieces, if_pos hc, starts]
    · exact (starts_eq_cons (pos + 1) (pieces_ne_nil cs)).symm
    · exact hcrlf
  | case4 pos c cs hcrlf hc ih =>
    rw [ih, pieces, if_neg hc, starts_extendFirst pos c _ (pieces_ne_nil cs)]
    exact hcrlf

theorem lineOffsets_eq_starts (cs : List Char) : lineOffsets cs = starts 0 (pieces cs) := by
  rw [lineOffsets, terminatorEnds_eq_starts]
  exact (starts_eq_cons 0 (pieces_ne_nil cs)).symm

@[simp] theorem length_starts (pos : Nat) (ps : List Piece) :
    (starts pos ps).length = ps.length := by
  induction ps generalizing pos with
  | nil => rfl
  | cons p ps ih => simp [starts, ih]

/-- A piece starts where the pieces before it end. -/
theorem getElem?_starts (pos : Nat) {ps : List Piece} {i : Nat} (h : i < ps.length) :
    (starts pos ps)[i]? = some (pos + ((ps.take i).flatMap Piece.whole).length) := by
  induction ps generalizing pos i with
  | nil => simp at h
  | cons p ps ih =>
    cases i with
    | zero => simp [starts]
    | succ i =>
      have hi : i < ps.length := by simpa using h
      simp [starts, ih (pos + p.whole.length) hi, Nat.add_assoc]

/-! ## Unified terminators -/

theorem splitAt_ne_nil (sep : Char) (cs : List Char) : splitAt sep cs ≠ [] := by
  fun_induction splitAt sep cs <;> simp_all

theorem map_text_extendFirst (c : Char) {ps : List Piece} {l : List Char} {ls : List (List Char)}
    (h : ps.map Piece.text = l :: ls) : (extendFirst c ps).map Piece.text = (c :: l) :: ls := by
  cases ps with
  | nil => simp at h
  | cons p ps =>
    simp only [List.map_cons, List.cons.injEq] at h
    simp [extendFirst, h]

theorem splitAt_cons_self (sep : Char) (cs : List Char) :
    splitAt sep (sep :: cs) = [] :: splitAt sep cs := by
  cases h : splitAt sep cs with
  | nil => exact absurd h (splitAt_ne_nil sep cs)
  | cons l ls => simp [splitAt, h]

theorem splitAt_cons_of_ne {sep c : Char} (hc : c ≠ sep) {cs l : List Char}
    {ls : List (List Char)} (h : splitAt sep cs = l :: ls) :
    splitAt sep (c :: cs) = (c :: l) :: ls := by
  simp [splitAt, h, hc]

theorem splitAt_of_not_mem {sep : Char} {cs : List Char} (h : sep ∉ cs) : splitAt sep cs = [cs] := by
  induction cs with
  | nil => rfl
  | cons c cs ih =>
    obtain ⟨hc, hcs⟩ : sep ≠ c ∧ sep ∉ cs := by simpa using h
    exact splitAt_cons_of_ne (Ne.symm hc) (ih hcs)

theorem splitAt_append_cons {sep : Char} {cs : List Char} (h : sep ∉ cs) (rest : List Char) :
    splitAt sep (cs ++ sep :: rest) = cs :: splitAt sep rest := by
  induction cs with
  | nil => exact splitAt_cons_self sep rest
  | cons c cs ih =>
    obtain ⟨hc, hcs⟩ : sep ≠ c ∧ sep ∉ cs := by simpa using h
    exact splitAt_cons_of_ne (Ne.symm hc) (ih hcs)

/-- Changing characters changes no pieces if separators stay what they are. -/
theorem splitAt_map {sep : Char} {f : Char → Char} (hf : ∀ c, f c = sep ↔ c = sep)
    (cs : List Char) : splitAt sep (cs.map f) = (splitAt sep cs).map (List.map f) := by
  induction cs with
  | nil => rfl
  | cons c cs ih =>
    by_cases hc : c = sep
    · subst hc
      rw [List.map_cons, (hf c).mpr rfl, splitAt_cons_self, splitAt_cons_self, ih]
      rfl
    · cases hcs : splitAt sep cs with
      | nil => exact absurd hcs (splitAt_ne_nil sep cs)
      | cons l ls =>
        rw [hcs] at ih
        rw [List.map_cons, splitAt_cons_of_ne (fun h => hc ((hf c).mp h)) ih,
          splitAt_cons_of_ne hc hcs]
        rfl

/-- Pieces without separators that are joined with separators are split again into the pieces. -/
theorem splitAt_intercalate {sep : Char} {line : List Char} {lines : List (List Char)}
    (h : ∀ l ∈ line :: lines, sep ∉ l) :
    splitAt sep ([sep].intercalate (line :: lines)) = line :: lines := by
  induction lines generalizing line with
  | nil =>
    rw [List.intercalate_singleton]
    exact splitAt_of_not_mem (h line List.mem_cons_self)
  | cons next lines ih =>
    have hrest := ih fun l hl => h l (List.mem_cons_of_mem line hl)
    rw [List.intercalate_cons_cons, List.append_assoc, List.singleton_append,
      splitAt_append_cons (h line List.mem_cons_self), hrest]

/-- The lines of a text are what splitting it at `\n` gives once its terminators are unified. -/
theorem lineTexts_eq_splitAt (cs : List Char) :
    lineTexts cs = splitAt '\n' (universalNewlines cs) := by
  fun_induction universalNewlines cs with
  | case1 => rfl
  | case2 cs ih => rw [splitAt_cons_self, ← ih, lineTexts, pieces, List.map_cons, lineTexts]
  | case3 c cs hcrlf ih =>
    by_cases hc : c = '\r' ∨ c = '\n'
    · have hn : (if c = '\r' then '\n' else c) = '\n' := by
        rcases hc with rfl | rfl <;> rfl
      rw [hn, splitAt_cons_self, ← ih, lineTexts, pieces, if_pos hc, List.map_cons, lineTexts]
      exact hcrlf
    · obtain ⟨hr, hn⟩ := not_or.mp hc
      cases hl : splitAt '\n' (universalNewlines cs) with
      | nil => exact absurd hl (splitAt_ne_nil '\n' _)
      | cons l ls =>
        rw [if_neg hr, splitAt_cons_of_ne hn hl, lineTexts, pieces, if_neg hc]
        · exact map_text_extendFirst c (ih.trans hl)
        · exact hcrlf

theorem carriageReturn_not_mem_universalNewlines (cs : List Char) :
    '\r' ∉ universalNewlines cs := by
  fun_induction universalNewlines cs with
  | case1 => simp
  | case2 cs ih => simp [ih]
  | case3 c cs _ ih =>
    by_cases hc : c = '\r'
    · simp [hc, ih]
    · simp [hc, ih, Ne.symm hc]

theorem universalNewlines_eq_self {cs : List Char} (h : '\r' ∉ cs) : universalNewlines cs = cs := by
  fun_induction universalNewlines cs with
  | case1 => rfl
  | case2 cs _ => simp at h
  | case3 c cs _ ih =>
    obtain ⟨hc, hcs⟩ : c ≠ '\r' ∧ '\r' ∉ cs := by simpa [eq_comm] using h
    rw [if_neg hc, ih hcs]

/-- Unifying terminators again changes nothing. -/
@[simp] theorem universalNewlines_universalNewlines (cs : List Char) :
    universalNewlines (universalNewlines cs) = universalNewlines cs :=
  universalNewlines_eq_self (carriageReturn_not_mem_universalNewlines cs)

/-- Unifying terminators changes no line. -/
@[simp] theorem lineTexts_universalNewlines (cs : List Char) :
    lineTexts (universalNewlines cs) = lineTexts cs := by
  rw [lineTexts_eq_splitAt, lineTexts_eq_splitAt, universalNewlines_universalNewlines]

end MarkdownLint.Text
