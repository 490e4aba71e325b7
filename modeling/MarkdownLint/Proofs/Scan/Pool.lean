import MarkdownLint.Proofs.Scan.Accounts
import Mathlib.Data.List.Induction
import Mathlib.Data.List.Perm.Basic
import Mathlib.Logic.Relation

/-!
Scanning on several workers. Files are handed out in order, and may be done in any order; each
worker delivers the outcome for its own file. At every moment each file that was handed out is in
work or delivered, and what is delivered is what the file yields (`Pool.Sound`). So the outcomes,
collected in the order of the files, are those of scanning one file after the other, whatever the
schedule (`Pool.results_eq`, `scannedOn_iff`). That goes for failures too: of the files that cannot
be read the first one counts.
-/
namespace MarkdownLint

/-! ## A pool of workers -/

namespace Pool

variable {α β : Type}

/-- A moment of a pool. Tasks are known by their place in the row of inputs. -/
structure State (β : Type) where
  /-- How many tasks have been started. -/
  started : Nat := 0
  /-- The tasks that are in work. -/
  running : List Nat := []
  /-- The results so far, in the order in which they came. -/
  delivered : List (Nat × β) := []

/-- What can happen in a pool. -/
inductive Step (workers : Nat) (work : α → β) (inputs : List α) : State β → State β → Prop where
  /-- A worker that is free takes the next task. -/
  | start {s : State β} : s.started < inputs.length → s.running.length < workers →
      Step workers work inputs s
        { s with started := s.started + 1, running := s.running ++ [s.started] }
  /-- Some task is done, and the result for its own input is delivered. -/
  | finish {s : State β} {i : Nat} {a : α} : i ∈ s.running → inputs[i]? = some a →
      Step workers work inputs s
        { s with running := s.running.erase i, delivered := s.delivered ++ [(i, work a)] }

/-- One moment comes after another. -/
def Leads (workers : Nat) (work : α → β) (inputs : List α) : State β → State β → Prop :=
  Relation.ReflTransGen (Step workers work inputs)

/-- A pool has ended when all tasks were started and none is in work. -/
structure State.Ended (s : State β) (inputs : List α) : Prop where
  started : s.started = inputs.length
  running : s.running = []

/-- The results in the order of the inputs. -/
def State.results (s : State β) (inputs : List α) : List β :=
  (List.range inputs.length).filterMap fun i => s.delivered.lookup i

variable {workers : Nat} {work : α → β} {inputs : List α} {s s' : State β}

/-- What holds at every moment of a pool. -/
structure Sound (workers : Nat) (work : α → β) (inputs : List α) (s : State β) : Prop where
  started : s.started ≤ inputs.length
  /-- No more tasks are in work than there are workers. -/
  running : s.running.length ≤ workers
  /-- Each task that was started is in work or delivered, and that once. -/
  placed : (s.running ++ s.delivered.map Prod.fst).Perm (List.range s.started)
  /-- What is delivered is the result for the task's own input. -/
  own : ∀ d ∈ s.delivered, inputs[d.1]?.map work = some d.2

theorem Sound.initial (workers : Nat) (work : α → β) (inputs : List α) :
    Sound workers work inputs {} where
  started := Nat.zero_le _
  running := Nat.zero_le _
  placed := .nil
  own := by simp

theorem Sound.lt_length (h : Sound workers work inputs s) {i : Nat} (hi : i ∈ s.running) :
    i < inputs.length := by
  have hrange : i ∈ List.range s.started :=
    h.placed.mem_iff.mp (List.mem_append_left _ hi)
  have hlt := List.mem_range.mp hrange
  have hle := h.started
  omega

theorem Sound.step (h : Sound workers work inputs s) (hstep : Step workers work inputs s s') :
    Sound workers work inputs s' := by
  cases hstep with
  | start hnext hfree =>
    constructor
    case started =>
      show s.started + 1 ≤ inputs.length
      omega
    case running =>
      show (s.running ++ [s.started]).length ≤ workers
      rw [List.length_append, List.length_singleton]
      omega
    case placed =>
      show (s.running ++ [s.started] ++ s.delivered.map Prod.fst).Perm (List.range (s.started + 1))
      have hmoved : (s.running ++ [s.started] ++ s.delivered.map Prod.fst).Perm
          (s.running ++ s.delivered.map Prod.fst ++ [s.started]) := by
        rw [List.append_assoc, List.append_assoc]
        exact List.perm_append_comm.append_left _
      rw [List.range_succ]
      exact hmoved.trans (h.placed.append_right _)
    case own => exact h.own
  | @finish i a hi ha =>
    constructor
    case started => exact h.started
    case running =>
      show (s.running.erase i).length ≤ workers
      exact Nat.le_trans List.length_erase_le h.running
    case placed =>
      show (s.running.erase i ++ (s.delivered ++ [(i, work a)]).map Prod.fst).Perm
        (List.range s.started)
      refine List.Perm.trans ?_ h.placed
      have hback : (i :: s.running.erase i).Perm s.running := (List.perm_cons_erase hi).symm
      have hmoved : (s.running.erase i ++ (s.delivered.map Prod.fst ++ [i])).Perm
          (i :: (s.running.erase i ++ s.delivered.map Prod.fst)) := by
        rw [← List.append_assoc]
        exact List.perm_append_singleton i _
      rw [List.map_append]
      exact hmoved.trans (hback.append_right _)
    case own =>
      intro d hd
      rcases List.mem_append.mp hd with hd | hd
      · exact h.own d hd
      · rw [List.mem_singleton.mp hd, ha]
        rfl

theorem Sound.leads (h : Sound workers work inputs s) (hleads : Leads workers work inputs s s') :
    Sound workers work inputs s' := by
  induction hleads with
  | refl => exact h
  | tail _ hstep ih => exact ih.step hstep

/-! ## The results -/

/-- What is delivered for a task is found under its place. -/
theorem Sound.lookup_delivered (h : Sound workers work inputs s) {i : Nat}
    (hi : i ∈ s.delivered.map Prod.fst) : s.delivered.lookup i = inputs[i]?.map work := by
  cases hlookup : s.delivered.lookup i with
  | none =>
    obtain ⟨d, hd, rfl⟩ := List.mem_map.mp hi
    have hne := List.lookup_eq_none_iff.mp hlookup d hd
    simp at hne
  | some b =>
    obtain ⟨before, after, hsplit, -⟩ := List.lookup_eq_some_iff.mp hlookup
    have hmem : (i, b) ∈ s.delivered := by
      rw [hsplit]
      exact List.mem_append_right _ List.mem_cons_self
    exact (h.own _ hmem).symm

theorem filterMap_range_getElem? (f : α → β) (as : List α) :
    ((List.range as.length).filterMap fun i => as[i]?.map f) = as.map f := by
  induction as using List.reverseRecOn with
  | nil => rfl
  | append_singleton as a ih =>
    have hbefore : ((List.range as.length).filterMap fun i => (as ++ [a])[i]?.map f) =
        (List.range as.length).filterMap fun i => as[i]?.map f := by
      refine List.filterMap_congr fun i hi => ?_
      rw [List.getElem?_append_left (List.mem_range.mp hi)]
    rw [List.length_append, List.length_singleton, List.range_succ, List.filterMap_append, hbefore,
      ih, List.map_append]
    simp

/-- When a pool has ended, its results are those of working on one input after the other. -/
theorem results_eq (h : Sound workers work inputs s) (hended : s.Ended inputs) :
    s.results inputs = inputs.map work := by
  have hall : (s.delivered.map Prod.fst).Perm (List.range inputs.length) := by
    have hplaced := h.placed
    rwa [hended.running, hended.started, List.nil_append] at hplaced
  rw [← filterMap_range_getElem? work inputs, State.results]
  refine List.filterMap_congr fun i hi => ?_
  exact h.lookup_delivered (hall.mem_iff.mpr hi)

/-! ## Going on -/

/-- What is left to do in a pool: a task that waits has two steps before it. -/
def State.left (s : State β) (inputs : List α) : Nat :=
  2 * (inputs.length - s.started) + s.running.length

/-- Every step brings a pool nearer to its end. -/
theorem Step.left_lt (hstep : Step workers work inputs s s') : s'.left inputs < s.left inputs := by
  cases hstep with
  | start hnext hfree =>
    show 2 * (inputs.length - (s.started + 1)) + (s.running ++ [s.started]).length < s.left inputs
    rw [State.left, List.length_append, List.length_singleton]
    omega
  | @finish i a hi ha =>
    show 2 * (inputs.length - s.started) + (s.running.erase i).length < s.left inputs
    have hpos : 0 < s.running.length := List.length_pos_of_mem hi
    rw [State.left, List.length_erase_of_mem hi]
    omega

/-- A pool with a worker does not get stuck. -/
theorem Sound.progress (h : Sound workers work inputs s) (hworkers : 1 ≤ workers) :
    s.Ended inputs ∨ ∃ s', Step workers work inputs s s' := by
  cases hrunning : s.running with
  | cons i rest =>
    have hi : i ∈ s.running := by simp [hrunning]
    exact .inr ⟨_, .finish hi (List.getElem?_eq_getElem (h.lt_length hi))⟩
  | nil =>
    by_cases hnext : s.started < inputs.length
    · refine .inr ⟨_, .start hnext ?_⟩
      rw [hrunning]
      exact hworkers
    · have hle := h.started
      exact .inl ⟨by omega, hrunning⟩

/-- Whatever has been done so far, a pool with a worker can be brought to its end. -/
theorem Sound.exists_ended (h : Sound workers work inputs s) (hworkers : 1 ≤ workers) :
    ∃ s', Leads workers work inputs s s' ∧ s'.Ended inputs := by
  -- by induction on what is left to do, which every step makes less
  generalize hn : s.left inputs = n
  induction n using Nat.strongRecOn generalizing s with
  | ind n ih =>
    rcases h.progress hworkers with hended | ⟨s₁, hstep⟩
    · exact ⟨s, .refl, hended⟩
    · have hless : s₁.left inputs < n := hn ▸ hstep.left_lt
      obtain ⟨s', hleads, hended⟩ := ih _ hless (h.step hstep) rfl
      exact ⟨s', .head hstep hleads, hended⟩

end Pool

/-! ## Files -/

variable {jobs : Nat} {tree : Entry} {root : Path} {parser : Parser} {rules : List Checker}

/-- The outcomes for files, or why the first file that cannot be read cannot be read. -/
def collect (outcomes : List (Except FileError FileScan)) : Except FileError (List FileScan) :=
  outcomes.mapM id

theorem collect_map_scanFile (tree : Entry) (root : Path) (parser : Parser) (rules : List Checker) :
    collect ((discover tree root markdownExtensions).map (scanFile tree root parser rules)) =
      scanFiles tree root parser rules := by
  rw [collect, scanFiles, List.mapM_map]
  rfl

/-- What scanning with some jobs can come to. Several jobs for several files are as many workers of
a pool; otherwise one file is scanned after the other. -/
inductive ScannedOn (jobs : Nat) (tree : Entry) (root : Path) (parser : Parser)
    (rules : List Checker) : Except FileError (List FileScan) → Prop where
  | pooled {s : Pool.State (Except FileError FileScan)} :
      1 < jobs → 1 < (discover tree root markdownExtensions).length →
      Pool.Leads jobs (scanFile tree root parser rules)
        (discover tree root markdownExtensions) {} s →
      s.Ended (discover tree root markdownExtensions) →
      ScannedOn jobs tree root parser rules
        (collect (s.results (discover tree root markdownExtensions)))
  | serial : ¬ (1 < jobs ∧ 1 < (discover tree root markdownExtensions).length) →
      ScannedOn jobs tree root parser rules (scanFiles tree root parser rules)

/-- There is something that scanning comes to, and it is always the same. -/
theorem scannedOn_iff {scans : Except FileError (List FileScan)} :
    ScannedOn jobs tree root parser rules scans ↔ scans = scanFiles tree root parser rules := by
  have hsound := Pool.Sound.initial jobs (scanFile tree root parser rules)
    (discover tree root markdownExtensions)
  constructor
  · intro h
    cases h with
    | pooled _ _ hleads hended =>
      rw [Pool.results_eq (hsound.leads hleads) hended, collect_map_scanFile]
    | serial _ => rfl
  · rintro rfl
    by_cases hpool : 1 < jobs ∧ 1 < (discover tree root markdownExtensions).length
    · obtain ⟨hjobs, hfiles⟩ := hpool
      obtain ⟨s, hleads, hended⟩ := hsound.exists_ended (Nat.le_of_lt hjobs)
      have hscanned := ScannedOn.pooled hjobs hfiles hleads hended
      rwa [Pool.results_eq (hsound.leads hleads) hended, collect_map_scanFile] at hscanned
    · exact .serial hpool

/-- Whatever schedule a pool of workers follows, no more files are in work than there are workers,
the schedule can be brought to its end, and when it has ended the record of the outcomes is that of
scanning one file after the other. So is that of a scan with any number of jobs. -/
theorem scan_schedules (tree : Entry) (root : Path) (parser : Parser) (rules : List Checker)
    {jobs : Nat} (hjobs : 1 ≤ jobs) :
    (∀ s, Pool.Leads jobs (scanFile tree root parser rules)
        (discover tree root markdownExtensions) {} s →
      s.running.length ≤ jobs ∧
      (∃ s', Pool.Leads jobs (scanFile tree root parser rules)
        (discover tree root markdownExtensions) s s' ∧
        s'.Ended (discover tree root markdownExtensions)) ∧
      (s.Ended (discover tree root markdownExtensions) →
        (collect (s.results (discover tree root markdownExtensions))).map ScanResult.ofScans =
          scan tree root parser rules)) ∧
    (∃ scans, ScannedOn jobs tree root parser rules scans) ∧
    ∀ scans, ScannedOn jobs tree root parser rules scans →
      scans.map ScanResult.ofScans = scan tree root parser rules := by
  refine ⟨?_, ⟨_, scannedOn_iff.mpr rfl⟩, ?_⟩
  · intro s hleads
    have hsound := (Pool.Sound.initial jobs (scanFile tree root parser rules)
      (discover tree root markdownExtensions)).leads hleads
    refine ⟨hsound.running, hsound.exists_ended hjobs, ?_⟩
    intro hended
    rw [Pool.results_eq hsound hended, collect_map_scanFile]
    rfl
  · intro scans hscans
    rw [scannedOn_iff.mp hscans]
    rfl

/-- The files are found in the order of their paths. -/
theorem discover_mixedFiles :
    discover mixedFiles ⟨[]⟩ markdownExtensions = [["a.md"], ["b.md"], ["d.md"]] := by
  have hext : ∀ name ∈ ["a.md", "b.md", "d.md"], hasExtension markdownExtensions name = true := by
    decide
  simp only [List.forall_mem_cons] at hext
  have hbelow : mixedFiles.filesBelow markdownExtensions = [["b.md"], ["a.md"], ["d.md"]] := by
    simp [mixedFiles, Entry.filesBelow, Entry.filesIn, isPruned, hext]
  have hperm : (discover mixedFiles ⟨[]⟩ markdownExtensions).Perm
      [["a.md"], ["b.md"], ["d.md"]] := by
    refine (sortedBy_sortPositions (mixedFiles.filesBelow markdownExtensions)).perm.trans ?_
    rw [hbelow]
    exact .swap _ _ _
  refine List.Perm.eq_of_pairwise ?_ (pairwise_discover wellFormed_mixedFiles _ _) (by decide) hperm
  intro a b _ _ hab hba
  exact absurd (Std.lt_trans hab hba) Std.lt_irrefl

/-- The end of a schedule in which the first file is the last to be done. -/
def overtaken : Pool.State (Except FileError FileScan) where
  started := 3
  delivered := [(1, ["b.md"]), (2, ["d.md"]), (0, ["a.md"])].map fun d =>
    (d.1, scanFile mixedFiles ⟨[]⟩ nonemptyParser failingThenTabs d.2)

theorem scan_schedules_overtaken :
    Pool.Leads 2 (scanFile mixedFiles ⟨[]⟩ nonemptyParser failingThenTabs)
        (discover mixedFiles ⟨[]⟩ markdownExtensions) {} overtaken ∧
      overtaken.Ended (discover mixedFiles ⟨[]⟩ markdownExtensions) ∧
      (collect (overtaken.results (discover mixedFiles ⟨[]⟩ markdownExtensions))).map
        ScanResult.ofScans = scan mixedFiles ⟨[]⟩ nonemptyParser failingThenTabs := by
  obtain ⟨hschedules, -⟩ :=
    scan_schedules mixedFiles ⟨[]⟩ nonemptyParser failingThenTabs (by decide : 1 ≤ 2)
  rw [discover_mixedFiles] at hschedules ⊢
  have hleads : Pool.Leads 2 (scanFile mixedFiles ⟨[]⟩ nonemptyParser failingThenTabs)
      [["a.md"], ["b.md"], ["d.md"]] {} overtaken := by
    refine .head (.start (by decide) (by decide)) ?_
    refine .head (.start (by decide) (by decide)) ?_
    refine .head (.finish (i := 1) (by decide) rfl) ?_
    refine .head (.start (by decide) (by decide)) ?_
    refine .head (.finish (i := 2) (by decide) rfl) ?_
    exact .single (.finish (i := 0) (by decide) rfl)
  have hended : overtaken.Ended [["a.md"], ["b.md"], ["d.md"]] := ⟨rfl, rfl⟩
  exact ⟨hleads, hended, (hschedules overtaken hleads).2.2 hended⟩

end MarkdownLint
