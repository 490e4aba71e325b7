import MarkdownLint.Text.Line

/-!
Searching a sorted list by halving. The search keeps the places it has ruled out on either side
(`Narrows`), so the place where its bounds meet divides the entries that are at most the value
sought from the others (`divides_bisectRight`).
-/
namespace MarkdownLint.Text

/-- The entries of a list that are at most `x` are those before a place. -/
def Divides (l : List Nat) (x place : Nat) : Prop := ∀ i y, l[i]? = some y → (y ≤ x ↔ i < place)

/-- The bounds of a search: what stands before the lower one is at most `x`, and what stands from
the upper one on is not. -/
structure Narrows (l : List Nat) (x lo hi : Nat) : Prop where
  le : lo ≤ hi
  le_length : hi ≤ l.length
  below : ∀ i y, l[i]? = some y → i < lo → y ≤ x
  above : ∀ i y, l[i]? = some y → hi ≤ i → x < y

variable {l : List Nat} {x lo hi : Nat}

/-- At the start nothing is ruled out. -/
theorem Narrows.start (l : List Nat) (x : Nat) : Narrows l x 0 l.length where
  le := Nat.zero_le _
  le_length := Nat.le_refl _
  below := by
    intro i y _ hi
    omega
  above := by
    intro i y hy hi
    have hlt : i < l.length := (List.getElem?_eq_some_iff.mp hy).1
    omega

/-- In a sorted list a later entry is not smaller. -/
theorem le_of_sorted (hl : l.Pairwise (· < ·)) {i j a b : Nat} (hij : i ≤ j) (ha : l[i]? = some a)
    (hb : l[j]? = some b) : a ≤ b := by
  obtain ⟨hi, rfl⟩ := List.getElem?_eq_some_iff.mp ha
  obtain ⟨hj, rfl⟩ := List.getElem?_eq_some_iff.mp hb
  rcases Nat.eq_or_lt_of_le hij with rfl | hlt
  · exact Nat.le_refl _
  · exact Nat.le_of_lt (List.pairwise_iff_getElem.mp hl i j hi hj hlt)

/-- One step down: the entry in the middle is too large, and so are those behind it. -/
theorem Narrows.down (h : Narrows l x lo hi) (hl : l.Pairwise (· < ·)) {mid y : Nat}
    (hlo : lo ≤ mid) (hhi : mid < hi) (hy : l[mid]? = some y) (hxy : x < y) :
    Narrows l x lo mid where
  le := hlo
  le_length := Nat.le_trans (Nat.le_of_lt hhi) h.le_length
  below := h.below
  above := fun _ _ hz hmid => Nat.lt_of_lt_of_le hxy (le_of_sorted hl hmid hy hz)

/-- One step up: the entry in the middle is small enough, and so are those before it. -/
theorem Narrows.up (h : Narrows l x lo hi) (hl : l.Pairwise (· < ·)) {mid y : Nat}
    (hhi : mid < hi) (hy : l[mid]? = some y) (hxy : y ≤ x) : Narrows l x (mid + 1) hi where
  le := hhi
  le_length := h.le_length
  below := fun _ _ hz hmid =>
    Nat.le_trans (le_of_sorted hl (Nat.le_of_lt_succ hmid) hz hy) hxy
  above := h.above

/-- The search ends where its bounds meet. -/
theorem Narrows.bisectRight (h : Narrows l x lo hi) (hl : l.Pairwise (· < ·)) :
    Narrows l x (bisectRight l x lo hi) (bisectRight l x lo hi) := by
  fun_induction Text.bisectRight l x lo hi with
  | case1 lo hi hlt mid hless ih =>
    have hmid : mid < l.length := by
      have := h.le_length
      omega
    have hy : l[mid]? = some (l.getD mid 0) := by simp [hmid]
    exact ih (h.down hl (by omega) (by omega) hy hless)
  | case2 lo hi hlt mid hless ih =>
    have hmid : mid < l.length := by
      have := h.le_length
      omega
    have hy : l[mid]? = some (l.getD mid 0) := by simp [hmid]
    exact ih (h.up hl (by omega) hy (by omega))
  | case3 lo hi hlt =>
    obtain rfl : lo = hi := by
      have := h.le
      omega
    exact h

/-- Where the bounds meet, the list is divided. -/
theorem Narrows.divides {place : Nat} (h : Narrows l x place place) : Divides l x place := by
  intro i y hy
  constructor
  · intro hyx
    apply Nat.lt_of_not_le
    intro hi
    have hxy : x < y := h.above i y hy hi
    omega
  · exact h.below i y hy

/-- The search divides a sorted list at the value sought. -/
theorem divides_bisectRight (hl : l.Pairwise (· < ·)) (x : Nat) :
    Divides l x (bisectRight l x 0 l.length) ∧ bisectRight l x 0 l.length ≤ l.length := by
  have hend := (Narrows.start l x).bisectRight hl
  exact ⟨hend.divides, hend.le_length⟩

end MarkdownLint.Text
