import MarkdownLint.Markdown.Parser

/-!
The parser goes forward: no block, and no list of blocks, ends before the line on which it starts
(`parse_progress`).
-/
namespace MarkdownLint.Markdown

namespace Scope

variable {s : Scope}

/-! ## Leaves -/

theorem le_paragraphEnd (n i : Nat) : i ≤ s.paragraphEnd n i := by
  fun_induction paragraphEnd s n i with
  | case1 | case2 | case4 => exact Nat.le_refl _
  | case3 _ _ _ _ ih | case5 _ _ _ _ _ ih => exact Nat.le_of_succ_le ih

theorem le_of_underline? {stop n i last level : Nat}
    (h : s.underline? stop n i = some (last, level)) : i ≤ last := by
  fun_induction underline? s stop n i with
  | case1 | case2 | case6 => cases h
  | case3 _ _ _ _ ih | case5 _ _ _ _ _ _ ih | case7 _ _ _ _ _ _ _ ih =>
    exact Nat.le_of_succ_le (ih h)
  | case4 =>
    cases h
    exact Nat.le_refl _

theorem le_fenceEnd (marker : Char) (length stop n i : Nat) :
    i ≤ s.fenceEnd marker length stop n i := by
  fun_induction fenceEnd s marker length stop n i with
  | case1 | case2 => exact Nat.le_refl _
  | case3 => exact Nat.le_succ _
  | case4 _ _ _ _ _ ih => exact Nat.le_of_succ_le ih

theorem le_codeEnd {stop n i last : Nat} (h : last ≤ i) : last ≤ s.codeEnd stop n i last := by
  fun_induction codeEnd s stop n i last with
  | case1 | case2 | case5 => exact Nat.le_refl _
  | case3 _ _ _ _ _ ih => exact ih (Nat.le_succ_of_le h)
  | case4 _ _ _ _ _ _ ih => exact Nat.le_trans (Nat.le_succ_of_le h) (ih (Nat.le_refl _))

theorem le_htmlEnd (form : Html.Form) (stop n i : Nat) : i ≤ s.htmlEnd form stop n i := by
  fun_induction htmlEnd s form stop n i with
  | case1 | case2 | case3 => exact Nat.le_refl _
  | case4 => exact Nat.le_succ _
  | case5 _ _ _ _ _ ih => exact Nat.le_of_succ_le ih

theorem le_tableEnd (columns stop n i : Nat) (filled : Int) :
    i ≤ s.tableEnd columns stop n i filled := by
  fun_induction tableEnd s columns stop n i filled with
  | case1 | case2 => exact Nat.le_refl _
  | case3 _ _ _ _ _ _ ih => exact Nat.le_of_succ_le ih

theorem le_of_earlyLeaf? {i stop next : Nat} {b : Block}
    (h : s.earlyLeaf? i stop = some (b, next)) : i ≤ next := by
  simp only [earlyLeaf?] at h
  split at h
  · cases h
    exact Nat.le_trans (Nat.le_add_right i 2) (le_tableEnd ..)
  · split at h
    · cases h
      exact Nat.le_of_succ_le (le_codeEnd (Nat.le_refl _))
    · split at h
      · cases h
        exact Nat.le_of_succ_le (le_fenceEnd ..)
      · cases h

theorem le_lateLeaf (i stop : Nat) : i ≤ (s.lateLeaf i stop).2 := by
  simp only [lateLeaf]
  split
  · dsimp only
    split
    · exact Nat.le_succ i
    · exact Nat.le_of_succ_le (le_htmlEnd ..)
  · split
    · exact Nat.le_succ i
    · split
      · rename_i last level hunderline
        split at hunderline
        · have hlast := le_of_underline? hunderline
          dsimp only
          omega
        · cases hunderline
      · exact Nat.le_of_succ_le (le_paragraphEnd ..)

theorem le_of_referenceAt? {i next : Nat} (h : s.referenceAt? i = some next) : i ≤ next := by
  simp only [referenceAt?] at h
  split at h
  · cases h
  · split at h
    · obtain ⟨lines, -, rfl⟩ := Option.map_eq_some_iff.mp h
      omega
    · cases h

/-! ## Containers -/

theorem le_skipEmpty (n i : Nat) : i ≤ s.skipEmpty n i := by
  fun_induction skipEmpty s n i with
  | case1 | case3 => exact Nat.le_refl _
  | case2 _ _ _ ih => exact Nat.le_of_succ_le ih

/-- A list goes on only before the end of the content. -/
theorem lt_of_nextItem? {ordered : Bool} {marker : Option Char} {i stop length : Nat}
    (h : s.nextItem? ordered marker i stop = some length) : i < stop := by
  simp only [nextItem?] at h
  split at h
  · cases h
  · rename_i hstop
    simp only [Bool.or_eq_true, decide_eq_true_eq, not_or, Nat.not_le] at hstop
    exact hstop.1.1.1

end Scope

/-- The content of an item ends behind the line on which the item starts, be it parsed or empty. -/
theorem le_itemEnd {n i stop : Nat} {inner : Scope} (hi : i < stop)
    (h : i ≤ (parseBlocks n inner i stop).2) (isEmpty : Bool) :
    i ≤ (if isEmpty then (([] : List Block), min (i + 2) stop)
      else parseBlocks n inner i stop).2 := by
  split
  · dsimp only
    omega
  · exact h

/-- Whatever number of steps the parser is given, it does not go back. -/
theorem parse_progress (n : Nat) :
    (∀ s i stop, i ≤ (parseBlocks n s i stop).2) ∧
    (∀ s i stop, i < stop → i ≤ (parseBlock n s i stop).2) ∧
    (∀ s ordered marker i length stop, i < stop →
      i ≤ (parseItems n s ordered marker i length stop).2) := by
  -- the three functions call each other with one step less
  induction n with
  | zero =>
    refine ⟨fun s i stop => ?_, fun s i stop _ => ?_, fun s ordered marker i length stop _ => ?_⟩
    · simp only [parseBlocks, Nat.le_refl]
    · simp only [parseBlock, Nat.le_succ]
    · simp only [parseItems, Nat.le_succ]
  | succ n ih =>
    obtain ⟨ihBlocks, ihBlock, ihItems⟩ := ih
    refine ⟨fun s i stop => ?_, fun s i stop hi => ?_, fun s ordered marker i length stop hi => ?_⟩
    · have hskip := Scope.le_skipEmpty (s := s) (s.lineMax - i) i
      simp only [parseBlocks]
      split
      · exact Nat.le_refl i
      · split
        · exact hskip
        · rename_i hstop hnext
          split
          · omega
          · simp only [Bool.or_eq_true, decide_eq_true_eq, not_or, Nat.not_le] at hnext
            refine Nat.le_trans ?_ (ihBlocks _ _ _)
            have hblock := ihBlock s _ stop hnext.1
            split <;> omega
    · simp only [parseBlock]
      split
      · rename_i block next hleaf
        exact Scope.le_of_earlyLeaf? hleaf
      · split
        · exact ihBlocks _ _ _
        · split
          · exact Nat.le_succ i
          · split
            · exact ihItems _ _ _ _ _ _ hi
            · split
              · rename_i next hreference
                split at hreference
                · exact Scope.le_of_referenceAt? hreference
                · cases hreference
              · exact Scope.le_lateLeaf i stop
    · simp only [parseItems]
      split
      · rename_i length hnext
        exact Nat.le_trans (le_itemEnd hi (ihBlocks _ _ _) _)
          (ihItems _ _ _ _ _ _ (Scope.lt_of_nextItem? hnext))
      · exact le_itemEnd hi (ihBlocks _ _ _) _

end MarkdownLint.Markdown
