import MarkdownLint.Proofs.Document.Lines

/-!
Looking up offsets. Every offset, also one outside the text, has a line that it lies on
(`offset_le_clamp`, `clamp_lt_offset`) and a column there (`offset_add_columnNumberOf`). Both are
exact, so the line and the column give back the offset (`lookup_inverts`).
-/
namespace MarkdownLint.Document

variable {d : Document}

theorem clamp_eq_min_max (o : Int) : (d.clamp o : Int) = min (max o 0) d.length := by
  simp only [clamp]
  omega

theorem clamp_mono {o o' : Int} (h : o ≤ o') : d.clamp o ≤ d.clamp o' := by
  simp only [clamp]
  omega

/-! ## The line of an offset -/

theorem lineIndexOf_lt (o : Int) : d.lineIndexOf o < d.lineCount := (divides_lineIndexOf o).2

/-- A line does not start behind an offset that is looked up to it. -/
theorem offset_le_clamp (o : Int) : d.offset (d.lineIndexOf o) ≤ d.clamp o :=
  ((divides_lineIndexOf o).1 _ _ (getElem?_lineOffsets (lineIndexOf_lt o))).mpr (Nat.lt_succ_self _)

/-- The line after the one that an offset is looked up to starts behind the offset. -/
theorem clamp_lt_offset {o : Int} (h : d.lineIndexOf o + 1 < d.lineCount) :
    d.clamp o < d.offset (d.lineIndexOf o + 1) := by
  apply Nat.lt_of_not_le
  rw [(divides_lineIndexOf o).1 _ _ (getElem?_lineOffsets h)]
  exact Nat.lt_irrefl _

/-- A line that does not start behind an offset is not behind the line of the offset. -/
theorem le_lineIndexOf {o : Int} {i : Nat} (hi : i < d.lineCount) (h : d.offset i ≤ d.clamp o) :
    i ≤ d.lineIndexOf o :=
  Nat.le_of_lt_succ (((divides_lineIndexOf o).1 i _ (getElem?_lineOffsets hi)).mp h)

theorem lineNumberOf_mono {o o' : Int} (h : o ≤ o') : d.lineNumberOf o ≤ d.lineNumberOf o' := by
  have hstart : d.offset (d.lineIndexOf o) ≤ d.clamp o' :=
    Nat.le_trans (offset_le_clamp o) (clamp_mono h)
  exact Nat.succ_le_succ (le_lineIndexOf (lineIndexOf_lt o) hstart)

/-! ## The column of an offset -/

/-- Columns are counted from the start of the line. -/
theorem offset_add_columnNumberOf (o : Int) :
    d.offset (d.lineIndexOf o) + d.columnNumberOf o = d.clamp o + 1 := by
  have hle : d.offset (d.lineIndexOf o) ≤ d.clamp o := offset_le_clamp o
  rw [columnNumberOf, getElem?_lineOffsets (lineIndexOf_lt o), Option.getD_some]
  omega

theorem lineStart_lineNumberOf (o : Int) :
    d.lineStart ((d.lineNumberOf o : Int) - 1) = .ok (d.offset (d.lineIndexOf o)) := by
  have hindex : (d.lineNumberOf o : Int) - 1 = (d.lineIndexOf o : Int) := by
    rw [lineNumberOf]
    omega
  rw [hindex, lineStart_eq (lineIndexOf_lt o)]

/-- No two offsets inside the text have the same line and the same column. -/
theorem eq_of_lookup_eq {o o' : Nat} (ho : o ≤ d.length) (ho' : o' ≤ d.length)
    (hline : d.lineNumberOf o = d.lineNumberOf o')
    (hcolumn : d.columnNumberOf o = d.columnNumberOf o') : o = o' := by
  have hindex : d.lineIndexOf o = d.lineIndexOf o' := Nat.succ.inj hline
  have hsum := offset_add_columnNumberOf (d := d) o
  have hsum' := offset_add_columnNumberOf (d := d) o'
  rw [clamp_eq ho] at hsum
  rw [clamp_eq ho', ← hindex, ← hcolumn] at hsum'
  omega

/-- An offset on a line, its terminator included, is looked up to that line. -/
theorem lookup_offset_add {i k : Nat} (hi : i < d.lineCount) (hlen : d.offset i + k ≤ d.length)
    (hnext : i + 1 < d.lineCount → d.offset i + k < d.offset (i + 1)) :
    d.lineNumberOf ((d.offset i + k : Nat) : Int) = i + 1 ∧
      d.columnNumberOf ((d.offset i + k : Nat) : Int) = k + 1 := by
  have hindex : d.lineIndexOf ((d.offset i + k : Nat) : Int) = i :=
    lineIndexOf_eq hi hlen (Nat.le_add_right _ k) hnext
  have hsum := offset_add_columnNumberOf (d := d) ((d.offset i + k : Nat) : Int)
  rw [hindex, clamp_eq hlen] at hsum
  constructor
  · rw [lineNumberOf, hindex]
  · omega

theorem eq_offset_of_lineStart {i start : Nat} (h : d.lineStart i = .ok start) :
    i < d.lineCount ∧ start = d.offset i := by
  rcases Nat.lt_or_ge i d.lineCount with hi | hi
  · rw [lineStart_eq hi] at h
    exact ⟨hi, (Except.ok.inj h).symm⟩
  · rw [lineStart_eq_error hi] at h
    cases h

/-- An offset, moved to the nearest one inside the text, lies on the line that it is looked up to:
not before its start and before the start of the next line. Line numbers grow with offsets. From the
line and the column the offset is had back, so no two offsets share both, and whatever is so many
characters behind the start of a line and not behind its end is looked up to that line and that
column. -/
theorem lookup_inverts (d : Document) :
    (∀ o : Int, (d.clamp o : Int) = min (max o 0) d.length ∧ d.lineIndexOf o < d.lineCount ∧
      (∃ start, d.lineOffsets[d.lineIndexOf o]? = some start ∧ start ≤ d.clamp o) ∧
      (∀ next, d.lineOffsets[d.lineIndexOf o + 1]? = some next → d.clamp o < next) ∧
      1 ≤ d.columnNumberOf o ∧
      ∃ start, d.lineStart ((d.lineNumberOf o : Int) - 1) = .ok start ∧
        start + d.columnNumberOf o - 1 = d.clamp o) ∧
    (∀ o o' : Int, o ≤ o' → d.lineNumberOf o ≤ d.lineNumberOf o') ∧
    (∀ o o' : Nat, o ≤ d.length → o' ≤ d.length → d.lineNumberOf o = d.lineNumberOf o' →
      d.columnNumberOf o = d.columnNumberOf o' → o = o') ∧
    ∀ i k start : Nat, d.lineStart i = .ok start →
      (match d.lineOffsets[i + 1]? with
        | some next => start + k < next
        | none => start + k ≤ d.length) →
      d.lineNumberOf ((start + k : Nat) : Int) = i + 1 ∧
        d.columnNumberOf ((start + k : Nat) : Int) = k + 1 := by
  refine ⟨fun o => ?_, fun o o' => lineNumberOf_mono, fun o o' => eq_of_lookup_eq, ?_⟩
  · have hsum := offset_add_columnNumberOf (d := d) o
    have hle := offset_le_clamp (d := d) o
    refine ⟨clamp_eq_min_max o, lineIndexOf_lt o,
      ⟨_, getElem?_lineOffsets (lineIndexOf_lt o), hle⟩, ?_, by omega,
      ⟨_, lineStart_lineNumberOf o, by omega⟩⟩
    intro next hnext
    have hlt : d.lineIndexOf o + 1 < d.lineCount := (List.getElem?_eq_some_iff.mp hnext).1
    rw [getElem?_lineOffsets hlt, Option.some.injEq] at hnext
    rw [← hnext]
    exact clamp_lt_offset hlt
  · intro i k start hstart hk
    obtain ⟨hi, rfl⟩ := eq_offset_of_lineStart hstart
    by_cases hlast : i + 1 < d.lineCount
    · rw [getElem?_lineOffsets hlast] at hk
      have hend := offset_le_length (d := d) (i + 1)
      exact lookup_offset_add hi (Nat.le_trans (Nat.le_of_lt hk) hend) fun _ => hk
    · rw [getElem?_lineOffsets_of_le (Nat.le_of_not_lt hlast)] at hk
      exact lookup_offset_add hi hk fun h => absurd h hlast

-- The second offset of this text is in the middle of a terminator.
example : let d : Document := ⟨"", "\r\na".toList, []⟩
    [0, 1, 2, 3].map (fun o : Int => (d.lineNumberOf o, d.columnNumberOf o)) =
      [(1, 1), (1, 2), (2, 1), (2, 2)] := by cbv

end MarkdownLint.Document
