import MarkdownLint.Proofs.Check.Lines
import Mathlib.Data.List.Sort

/-!
Consecutive blank lines. The check compares neighbouring lines; what it finds are the maximal runs
of blank lines outside of code (`IsBlankRun`), less the first line of each. A line has a blank
neighbour before it just in case it lies in a run that starts earlier (`inside_run_iff`), and every
blank line outside of code lies in a run (`exists_isBlankRun`).
-/
namespace MarkdownLint

namespace Document

/-- A blank line outside of code. -/
def PlainBlank (d : Document) (i : Nat) : Prop := d.isBlank i = .ok true ∧ ¬ d.IsCode i

/-- The lines from `first` up to `stop` are a maximal run of blank lines outside of code. -/
structure IsBlankRun (d : Document) (first stop : Nat) : Prop where
  nonempty : first < stop
  blank : ∀ i, first ≤ i → i < stop → d.PlainBlank i
  before : ∀ i, i + 1 = first → ¬ d.PlainBlank i
  behind : ¬ d.PlainBlank stop

variable {d : Document} {i first stop : Nat}

/-! ## Blank lines outside of code -/

theorem PlainBlank.lt_lineCount (h : d.PlainBlank i) : i < d.lineCount := by
  refine Nat.lt_of_not_le fun hle => ?_
  have hblank := h.1
  rw [isBlank_eq_error hle] at hblank
  cases hblank

theorem plainBlank_iff (hi : i < d.lineCount) :
    d.PlainBlank i ↔ (d.textAt i).all Text.isBlank = true ∧ d.isCodeLine i = false := by
  rw [PlainBlank, isBlank_eq hi, Except.ok.injEq, ← isCodeLine_iff, Bool.not_eq_true]

/-! ## Runs -/

/-- Going back from a blank line, there is a first one. -/
theorem exists_run_first (h : d.PlainBlank i) :
    ∃ first ≤ i, (∀ j, first ≤ j → j ≤ i → d.PlainBlank j) ∧
      ∀ j, j + 1 = first → ¬ d.PlainBlank j := by
  induction i with
  | zero =>
    refine ⟨0, Nat.le_refl 0, fun j _ hj => ?_, fun j hj => absurd hj (by omega)⟩
    obtain rfl : j = 0 := by omega
    exact h
  | succ i ih =>
    by_cases hprev : d.PlainBlank i
    · obtain ⟨first, hle, hall, hbefore⟩ := ih hprev
      refine ⟨first, by omega, fun j hfirst hj => ?_, hbefore⟩
      rcases Nat.lt_or_ge i j with hij | hij
      · obtain rfl : j = i + 1 := by omega
        exact h
      · exact hall j hfirst hij
    · refine ⟨i + 1, Nat.le_refl _, fun j hfirst hj => ?_, fun j hj => ?_⟩
      · obtain rfl : j = i + 1 := by omega
        exact h
      · obtain rfl : j = i := by omega
        exact hprev

/-- Going on from a blank line, there is a first line that is no blank line outside of code, if only
behind the last line. -/
theorem exists_run_stop (h : d.PlainBlank i) :
    ∃ stop, i < stop ∧ (∀ j, i ≤ j → j < stop → d.PlainBlank j) ∧ ¬ d.PlainBlank stop := by
  -- the lines that are left get fewer
  induction hleft : d.lineCount - i generalizing i with
  | zero =>
    have := h.lt_lineCount
    omega
  | succ left ih =>
    by_cases hnext : d.PlainBlank (i + 1)
    · obtain ⟨stop, hlt, hall, hstop⟩ := ih hnext (by omega)
      refine ⟨stop, by omega, fun j hij hj => ?_, hstop⟩
      rcases Nat.eq_or_lt_of_le hij with rfl | hij
      · exact h
      · exact hall j hij hj
    · refine ⟨i + 1, Nat.lt_succ_self i, fun j hij hj => ?_, hnext⟩
      obtain rfl : j = i := by omega
      exact h

theorem exists_isBlankRun (h : d.PlainBlank i) :
    ∃ first stop, d.IsBlankRun first stop ∧ first ≤ i ∧ i < stop := by
  obtain ⟨first, hfirst, hback, hbefore⟩ := exists_run_first h
  obtain ⟨stop, hstop, hon, hbehind⟩ := exists_run_stop h
  refine ⟨first, stop, ⟨by omega, fun j hlow hhigh => ?_, hbefore, hbehind⟩, hfirst, hstop⟩
  rcases Nat.le_total j i with hj | hj
  · exact hback j hlow hj
  · exact hon j hj hhigh

/-- A line is in a run, and not its first line, if it and the line before it are blank lines outside
of code. -/
theorem inside_run_iff :
    (∃ first stop, d.IsBlankRun first stop ∧ first < i ∧ i < stop) ↔
      i ≠ 0 ∧ d.PlainBlank (i - 1) ∧ d.PlainBlank i := by
  constructor
  · rintro ⟨first, stop, hrun, hfirst, hstop⟩
    exact ⟨by omega, hrun.blank (i - 1) (by omega) (by omega),
      hrun.blank i (Nat.le_of_lt hfirst) hstop⟩
  · rintro ⟨hpos, hprev, hi⟩
    obtain ⟨first, stop, hrun, hfirst, hstop⟩ := exists_isBlankRun hi
    refine ⟨first, stop, hrun, ?_, hstop⟩
    -- a run that started with the line would have been preceded by no blank line
    refine Nat.lt_of_le_of_ne hfirst fun heq => ?_
    exact hrun.before (i - 1) (by omega) hprev

end Document

/-! ## What is reported -/

namespace Check

variable {d : Document} {i : Nat}

theorem isSome_multipleBlanksOn (hi : i < d.lineCount) :
    (multipleBlanksOn d i).isSome = true ↔
      i ≠ 0 ∧ d.PlainBlank (i - 1) ∧ d.PlainBlank i := by
  have hprev : i - 1 < d.lineCount := by omega
  rw [Document.plainBlank_iff hi, Document.plainBlank_iff hprev, multipleBlanksOn]
  split
  · rename_i hskip
    simp only [Option.isSome_none, Bool.false_eq_true, false_iff]
    rintro ⟨hpos, ⟨-, hprevCode⟩, -, hcode⟩
    simp [hpos, hprevCode, hcode] at hskip
  · rename_i hskip
    obtain ⟨hpos, hcode, hprevCode⟩ :
        i ≠ 0 ∧ d.isCodeLine i = false ∧ d.isCodeLine (i - 1) = false := by simpa using hskip
    split
    · rename_i hblank
      exact iff_of_true rfl ⟨hpos, ⟨hblank.2, hprevCode⟩, hblank.1, hcode⟩
    · rename_i hblank
      refine iff_of_false (by simp) ?_
      rintro ⟨-, ⟨hprevBlank, -⟩, hiBlank, -⟩
      exact hblank ⟨hiBlank, hprevBlank⟩

theorem isRest_multipleBlanksOn (hi : i < d.lineCount) {v : Violation}
    (h : multipleBlanksOn d i = some v) :
    multipleBlanks.IsRest d 0 multipleBlanks.description i v := by
  simp only [multipleBlanksOn] at h
  split at h
  · cases h
  · split at h
    · cases h
      exact isRest_violationAt multipleBlanks 0 none hi
    · cases h

/-- The lines that are reported. -/
def repeatedBlanks (d : Document) : List Nat :=
  (List.range d.lineCount).filter fun i => (multipleBlanksOn d i).isSome

theorem reportsRests_repeatedBlanks (d : Document) :
    multipleBlanks.ReportsRests d 0 multipleBlanks.description (repeatedBlanks d) :=
  reportsRests_of_visit (visitMultipleBlanks_eq d) fun _ hi _ => isRest_multipleBlanksOn hi

theorem mem_repeatedBlanks_iff : i ∈ repeatedBlanks d ↔
    ∃ first stop, d.IsBlankRun first stop ∧ first < i ∧ i < stop := by
  rw [repeatedBlanks, List.mem_filter, List.mem_range, Document.inside_run_iff]
  constructor
  · rintro ⟨hi, hsome⟩
    exact (isSome_multipleBlanksOn hi).mp hsome
  · rintro ⟨hpos, hprev, hi⟩
    exact ⟨hi.lt_lineCount, (isSome_multipleBlanksOn hi.lt_lineCount).mpr ⟨hpos, hprev, hi⟩⟩

/-- Of each run all lines but the first are reported. -/
theorem filter_repeatedBlanks {first stop : Nat} (h : d.IsBlankRun first stop) :
    (repeatedBlanks d).filter (fun i => first ≤ i ∧ i < stop) =
      List.range' (first + 1) (stop - first - 1) := by
  have hascending := (reportsRests_repeatedBlanks d).ascending
  refine List.Pairwise.eq_of_mem_iff (hascending.filter _) List.pairwise_lt_range' fun i => ?_
  rw [List.mem_filter, mem_repeatedBlanks_iff, decide_eq_true_iff, List.mem_range'_1]
  constructor
  · rintro ⟨hreported, hfirst, hstop⟩
    obtain ⟨hpos, hprev, -⟩ := Document.inside_run_iff.mp hreported
    have hne : first ≠ i := fun heq => h.before (i - 1) (by omega) hprev
    omega
  · intro hrange
    exact ⟨⟨first, stop, h, by omega, by omega⟩, by omega, by omega⟩

/-- A line that is reported is no code, nor the first blank line behind some. -/
theorem apart_of_mem_repeatedBlanks (h : i ∈ repeatedBlanks d) :
    ¬ d.IsCode i ∧ ∀ j < i, d.IsCode j → ∃ k, j < k ∧ k < i ∧ d.PlainBlank k := by
  obtain ⟨hpos, hprev, hi⟩ := Document.inside_run_iff.mp (mem_repeatedBlanks_iff.mp h)
  refine ⟨hi.2, fun j hj hcode => ⟨i - 1, ?_, by omega, hprev⟩⟩
  have hne : j ≠ i - 1 := fun heq => hprev.2 (heq ▸ hcode)
  omega

/-- The check of consecutive blank lines succeeds on every document. It reports whole lines, from
the front to the back: those of the maximal runs of blank lines outside of code, of each run all
lines but the first. So no line of code is reported, and between a line that is reported and any
code before it there is another blank line. Code are the lines that blocks of code cover, at any
depth. -/
theorem multipleBlanks_reports_runs (d : Document) :
    (∀ i, i ∈ d.codeLines ↔ d.IsCode i) ∧
    ∃ lines, multipleBlanks.ReportsRests d 0 multipleBlanks.description lines ∧
      (∀ i, i ∈ lines ↔ ∃ first stop, d.IsBlankRun first stop ∧ first < i ∧ i < stop) ∧
      (∀ first stop, d.IsBlankRun first stop →
        lines.filter (fun i => first ≤ i ∧ i < stop) =
          List.range' (first + 1) (stop - first - 1)) ∧
      ∀ i ∈ lines, ¬ d.IsCode i ∧
        ∀ j < i, d.IsCode j → ∃ k, j < k ∧ k < i ∧ d.PlainBlank k :=
  ⟨fun _ => Document.mem_codeLines_iff, repeatedBlanks d, reportsRests_repeatedBlanks d,
    fun _ => mem_repeatedBlanks_iff, fun _ _ => filter_repeatedBlanks,
    fun _ => apart_of_mem_repeatedBlanks⟩

-- Two blank lines, a block of code with two more, one behind it, and the two at the end.
example : multipleBlanks.visit ⟨"", "\n \n```\n\n\n```\n\nb\n\n".toList,
    [.mk .fence ⟨2, 6⟩ [], .mk .paragraph ⟨7, 8⟩ []]⟩ =
    .ok [⟨multipleBlanks.name, 1, 2, 2, 1, multipleBlanks.description, .error⟩,
      ⟨multipleBlanks.name, 17, 17, 10, 1, multipleBlanks.description, .error⟩] := by cbv

end Check

end MarkdownLint
