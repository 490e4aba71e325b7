import MarkdownLint.Proofs.Text.Pieces

/-!
Cutting a text at its lines. Behind each line but the last stands exactly one terminator
(`terminator_cases`, `terminator_eq_nil`), and no line starts inside of one
(`not_mem_terminatorEnds`). So what is cut out from the start of a line to the end of a line has
just the lines in between (`lineTexts_between`).
-/
namespace MarkdownLint.Text

/-! ## Terminators -/

/-- The terminators that a line can have. -/
def lineTerminators : List (List Char) := [['\r', '\n'], ['\r'], ['\n']]

/-- Behind a line there is one terminator or none. -/
theorem terminator_cases {cs : List Char} {p : Piece} (hp : p ∈ pieces cs) :
    p.terminator = [] ∨ p.terminator ∈ lineTerminators := by
  fun_induction pieces cs generalizing p with
  | case1 =>
    obtain rfl := List.mem_singleton.mp hp
    exact .inl rfl
  | case2 cs ih =>
    rcases List.mem_cons.mp hp with rfl | h
    · exact .inr (by simp [lineTerminators])
    · exact ih h
  | case3 c cs _ hc ih =>
    rcases List.mem_cons.mp hp with rfl | h
    · rcases hc with rfl | rfl <;> exact .inr (by simp [lineTerminators])
    · exact ih h
  | case4 c cs _ _ ih =>
    rcases mem_extendFirst hp with rfl | ⟨q, hq, rfl⟩ | h
    · exact .inl rfl
    · exact ih (p := q) hq
    · exact ih h

/-- Behind the last line there is no terminator. -/
theorem terminator_eq_nil {cs : List Char} {p : Piece} (hp : (pieces cs).getLast? = some p) :
    p.terminator = [] := by
  fun_induction pieces cs generalizing p with
  | case1 =>
    cases hp
    rfl
  | case2 cs ih =>
    rw [List.getLast?_cons_of_ne_nil (pieces_ne_nil cs)] at hp
    exact ih hp
  | case3 c cs _ _ ih =>
    rw [List.getLast?_cons_of_ne_nil (pieces_ne_nil cs)] at hp
    exact ih hp
  | case4 c cs _ _ ih =>
    cases hps : pieces cs with
    | nil => exact absurd hps (pieces_ne_nil cs)
    | cons q qs =>
      rw [hps] at hp ih
      cases qs with
      | nil =>
        cases hp
        exact ih (p := q) rfl
      | cons r rs => exact ih (by simpa [extendFirst] using hp)

theorem lt_of_mem_terminatorEnds {pos o : Nat} {cs : List Char} (h : o ∈ terminatorEnds pos cs) :
    pos < o := by
  fun_induction terminatorEnds pos cs with
  | case1 => cases h
  | case2 pos cs ih =>
    rcases List.mem_cons.mp h with rfl | h
    · omega
    · have := ih h
      omega
  | case3 pos c cs _ _ ih =>
    rcases List.mem_cons.mp h with rfl | h
    · omega
    · have := ih h
      omega
  | case4 pos c cs _ _ ih =>
    have := ih h
    omega

/-- No line starts between the two characters of a terminator. -/
theorem not_mem_terminatorEnds {pos o : Nat} {cs before after : List Char}
    (hcs : cs = before ++ '\r' :: '\n' :: after) (ho : o = pos + before.length + 1) :
    o ∉ terminatorEnds pos cs := by
  fun_induction terminatorEnds pos cs generalizing before with
  | case1 pos => simp at hcs
  | case2 pos cs ih =>
    rw [List.mem_cons, not_or]
    rcases before with _ | ⟨a, _ | ⟨b, before⟩⟩
    · -- the two characters are at the start, and the first line behind them starts too late
      refine ⟨by simp [ho], fun hmem => ?_⟩
      have hlt := lt_of_mem_terminatorEnds hmem
      simp only [List.length_nil] at ho
      omega
    · simp at hcs
    · simp only [List.length_cons] at ho
      exact ⟨by omega, ih (List.cons.inj (List.cons.inj hcs).2).2 (by omega)⟩
  | case3 pos c cs hcrlf hc ih =>
    rw [List.mem_cons, not_or]
    cases before with
    | nil =>
      obtain ⟨rfl, rfl⟩ : c = '\r' ∧ cs = '\n' :: after := by simpa using hcs
      exact absurd rfl (hcrlf after rfl)
    | cons a before =>
      simp only [List.length_cons] at ho
      exact ⟨by omega, ih (List.cons.inj hcs).2 (by omega)⟩
  | case4 pos c cs hcrlf hc ih =>
    cases before with
    | nil => exact absurd (.inl (List.cons.inj hcs).1) hc
    | cons a before =>
      simp only [List.length_cons] at ho
      exact ih (List.cons.inj hcs).2 (by omega)

/-! ## Lines cut out of a text -/

theorem pieces_cons_of_plain {c : Char} (hc : isTerminator c = false) (cs : List Char) :
    pieces (c :: cs) = extendFirst c (pieces cs) := by
  obtain ⟨hr, hn⟩ : c ≠ '\r' ∧ c ≠ '\n' := by simpa [isTerminator] using hc
  rw [pieces, if_neg (not_or.mpr ⟨hr, hn⟩)]
  intro _ hc' _
  exact hr hc'

theorem lineTexts_cons_of_plain {c : Char} (hc : isTerminator c = false) {cs l : List Char}
    {ls : List (List Char)} (h : lineTexts cs = l :: ls) :
    lineTexts (c :: cs) = (c :: l) :: ls := by
  rw [lineTexts, pieces_cons_of_plain hc]
  exact map_text_extendFirst c h

/-- A text without terminators is one line. -/
theorem lineTexts_of_plain {cs : List Char} (h : ∀ c ∈ cs, isTerminator c = false) :
    lineTexts cs = [cs] := by
  induction cs with
  | nil => rfl
  | cons c cs ih =>
    exact lineTexts_cons_of_plain (h c List.mem_cons_self)
      (ih fun d hd => h d (List.mem_cons_of_mem c hd))

/-- A terminator ends a line unless it is the first half of a longer one. -/
theorem lineTexts_terminator_append {t cs : List Char} (ht : t ∈ lineTerminators)
    (hcut : t = ['\r'] → ∀ rest, cs ≠ '\n' :: rest) : lineTexts (t ++ cs) = [] :: lineTexts cs := by
  obtain rfl | rfl | rfl : t = ['\r', '\n'] ∨ t = ['\r'] ∨ t = ['\n'] := by
    simpa [lineTerminators] using ht
  · rfl
  · rw [List.singleton_append, lineTexts, pieces, if_pos (.inl rfl), List.map_cons, lineTexts]
    intro rest _ hrest
    exact hcut rfl rest hrest
  · rw [List.singleton_append, lineTexts, pieces, if_pos (.inr rfl), List.map_cons, lineTexts]
    intro rest hc
    exact absurd hc (by decide)

theorem lineTexts_append_terminator {text t cs : List Char}
    (htext : ∀ c ∈ text, isTerminator c = false) (ht : t ∈ lineTerminators)
    (hcut : t = ['\r'] → ∀ rest, cs ≠ '\n' :: rest) :
    lineTexts (text ++ (t ++ cs)) = text :: lineTexts cs := by
  induction text with
  | nil => exact lineTexts_terminator_append ht hcut
  | cons c text ih =>
    exact lineTexts_cons_of_plain (htext c List.mem_cons_self)
      (ih fun d hd => htext d (List.mem_cons_of_mem c hd))

/-- Behind the first piece of a text there is a text with the other pieces, and what it begins with
does not belong to the terminator of the first. -/
theorem exists_rest {cs : List Char} {p : Piece} {ps : List Piece} (h : pieces cs = p :: ps)
    (hps : ps ≠ []) :
    pieces (ps.flatMap Piece.whole) = ps ∧
      (p.terminator = ['\r'] → ∀ rest, ps.flatMap Piece.whole ≠ '\n' :: rest) := by
  fun_induction pieces cs generalizing p ps with
  | case1 =>
    cases h
    exact absurd rfl hps
  | case2 cs ih =>
    cases h
    rw [flatMap_whole_pieces]
    exact ⟨rfl, by simp⟩
  | case3 c cs hcrlf _ ih =>
    cases h
    rw [flatMap_whole_pieces]
    exact ⟨rfl, fun hc rest => hcrlf rest (List.cons.inj hc).1⟩
  | case4 c cs _ _ ih =>
    cases hcs : pieces cs with
    | nil => exact absurd hcs (pieces_ne_nil cs)
    | cons q qs =>
      rw [hcs] at h
      cases h
      -- the first piece has a character more in front, and the same terminator
      have hrest := ih hcs hps
      exact hrest

/-- Cut at the start of a line, a text keeps the pieces from there on. -/
theorem pieces_flatMap_whole {cs : List Char} {before after : List Piece}
    (h : pieces cs = before ++ after) (hafter : after ≠ []) :
    pieces (after.flatMap Piece.whole) = after := by
  induction before generalizing cs with
  | nil =>
    rw [List.nil_append] at h
    rw [← h, flatMap_whole_pieces]
  | cons p before ih =>
    have hne : before ++ after ≠ [] := by simp [hafter]
    exact ih (exists_rest h hne).1

/-- Cut at the end of a line, a text has the lines up to there. -/
theorem lineTexts_flatMap_append {cs : List Char} {before after : List Piece} {p : Piece}
    (h : pieces cs = before ++ p :: after) :
    lineTexts (before.flatMap Piece.whole ++ p.text) = before.map Piece.text ++ [p.text] := by
  induction before generalizing cs with
  | nil =>
    have hp : p ∈ pieces cs := by simp [h]
    exact lineTexts_of_plain (not_isTerminator_of_mem_text hp)
  | cons q before ih =>
    rw [List.cons_append] at h
    have hq : q ∈ pieces cs := by simp [h]
    obtain ⟨hrest, hcut⟩ := exists_rest h (by simp)
    have hfirst : (pieces cs)[0]? = some q := by simp [h]
    have hmore : 0 + 1 < (pieces cs).length := by
      rw [h, List.length_cons, List.length_append, List.length_cons]
      omega
    have hterm : q.terminator ∈ lineTerminators :=
      (terminator_cases hq).resolve_left (terminator_ne_nil hfirst hmore)
    rw [List.flatMap_cons, List.append_assoc, List.map_cons, List.cons_append, Piece.whole,
      List.append_assoc, lineTexts_append_terminator (not_isTerminator_of_mem_text hq) hterm,
      ih hrest]
    -- what is cut out begins as the whole rest does
    intro hr rest heq
    refine hcut hr (rest ++ (p.terminator ++ after.flatMap Piece.whole)) ?_
    rw [List.flatMap_append, List.flatMap_cons, Piece.whole, ← List.cons_append, ← heq]
    simp only [List.append_assoc]

/-- What is cut out from the start of a line to the end of a line has the lines in between. -/
theorem lineTexts_between {cs : List Char} {before between after : List Piece} {p : Piece}
    (h : pieces cs = before ++ (between ++ p :: after)) :
    lineTexts (between.flatMap Piece.whole ++ p.text) = between.map Piece.text ++ [p.text] :=
  lineTexts_flatMap_append (pieces_flatMap_whole h (by simp))

end MarkdownLint.Text
