import MarkdownLint.CommandLine.Program
import MarkdownLint.Proofs.Report.Writing
import MarkdownLint.Proofs.Rule.Making
import MarkdownLint.Proofs.Scan.Accounts

/-!
What a run does to the files. A run is refused because of its configuration, its rules or its parser
(`RunRequest.Refused`), and has done nothing then. Any other one scans, and returns unless it is
broken off (`Interrupts`). At every moment it leaves all files alone but its reports (`Contained`),
and when it returns it tells of each report that was asked for whether it was written (`Complete`).
-/
namespace MarkdownLint

/-! ## Refusals -/

/-- A run is refused if its configuration cannot be read, a rule cannot be made or there is no such
parser. -/
inductive RunRequest.Refused (libs : Libraries) (tree : Entry) (q : RunRequest) : Prop where
  | source {e : SetupError} : q.source.resolve libs.load tree = .error e → Refused libs tree q
  | rules {c : Configuration} {e : SetupError} : q.source.resolve libs.load tree = .ok c →
      c.instantiate libs.named = .error e → Refused libs tree q
  | parser {e : Markdown.ParserError} : libs.parser q.options = .error e → Refused libs tree q

variable {libs : Libraries} {tree : Entry} {q : RunRequest} {plan : Plan}

/-- What a run that is not refused works with. -/
theorem plan_eq_ok_iff : q.plan libs tree = .ok plan ↔
    ∃ rules, q.source.resolve libs.load tree = .ok plan.configuration ∧
      plan.configuration.instantiate libs.named = .ok rules ∧
      libs.parser q.options = .ok plan.parser ∧ plan.rules = rules.map Rule.checker := by
  constructor
  · intro h
    obtain ⟨c, hc, h⟩ := bind_eq_ok.mp h
    obtain ⟨rules, hrules, h⟩ := bind_eq_ok.mp h
    obtain ⟨parser, hparser, h⟩ := bind_eq_ok.mp h
    cases h
    exact ⟨rules, mapError_eq_ok.mp hc, mapError_eq_ok.mp hrules, mapError_eq_ok.mp hparser, rfl⟩
  · rintro ⟨rules, hc, hrules, hparser, hcheckers⟩
    obtain ⟨c, checkers, parser⟩ := plan
    obtain rfl : checkers = rules.map Rule.checker := hcheckers
    refine bind_eq_ok.mpr ⟨c, mapError_eq_ok.mpr hc, ?_⟩
    refine bind_eq_ok.mpr ⟨rules, mapError_eq_ok.mpr hrules, ?_⟩
    exact bind_eq_ok.mpr ⟨parser, mapError_eq_ok.mpr hparser, rfl⟩

/-- A run that is refused has nothing to work with. -/
theorem refused_iff : q.Refused libs tree ↔ ∃ e, q.plan libs tree = .error e := by
  constructor
  · intro h
    cases hplan : q.plan libs tree with
    | error e => exact ⟨e, rfl⟩
    | ok plan =>
      obtain ⟨rules, hc, hrules, hparser, -⟩ := plan_eq_ok_iff.mp hplan
      cases h with
      | source he => simp [he] at hc
      | rules hc' he =>
        rw [hc] at hc'
        cases hc'
        simp [he] at hrules
      | parser he => simp [he] at hparser
  · rintro ⟨e, he⟩
    cases hc : q.source.resolve libs.load tree with
    | error e => exact .source hc
    | ok c =>
      cases hrules : c.instantiate libs.named with
      | error e => exact .rules hc hrules
      | ok rules =>
        cases hparser : libs.parser q.options with
        | error e => exact .parser hparser
        | ok parser =>
          have hplan : q.plan libs tree = .ok ⟨c, rules.map Rule.checker, parser⟩ :=
            plan_eq_ok_iff.mpr ⟨rules, hc, hrules, hparser, rfl⟩
          rw [hplan] at he
          cases he

theorem not_refused_iff : ¬ q.Refused libs tree ↔ ∃ plan, q.plan libs tree = .ok plan := by
  rw [refused_iff]
  cases q.plan libs tree <;> simp

/-! ## Scanning -/

theorem run_adapt {ε ε' σ α : Type} (f : ε → ε') (x : ExceptT ε (StateM σ) α) (s : σ) :
    StateT.run (ExceptT.run (x.adapt f)) s =
      ((StateT.run (ExceptT.run x) s).1.mapError f, (StateT.run (ExceptT.run x) s).2) := rfl

/-- Scanning files one after the other adds to the log and changes nothing else. -/
theorem run_each {root : Path} {parser : Parser} {rules : List Checker}
    {positions : List (List String)} {scans : List FileScan} {o : Output}
    (h : positions.mapM (scanFile o.tree root parser rules) = .ok scans) :
    StateT.run (ExceptT.run (Scanning.each root parser rules positions)) o =
      (.ok scans, o.log (scans.flatMap FileScan.records)) := by
  induction positions generalizing o scans with
  | nil =>
    cases h
    show (_, o) = (_, o.log [])
    rw [Output.log, List.append_nil]
    rfl
  | cons p positions ih =>
    rw [List.mapM_cons] at h
    obtain ⟨s, hs, h⟩ := bind_eq_ok.mp h
    obtain ⟨rest, hrest, h⟩ := bind_eq_ok.mp h
    cases h
    have hrun : StateT.run (ExceptT.run (Scanning.each root parser rules positions))
        (o.log s.records) = (.ok rest, (o.log s.records).log (rest.flatMap FileScan.records)) :=
      ih hrest
    have hstep : StateT.run (ExceptT.run (Scanning.each root parser rules (p :: positions))) o =
        StateT.run (ExceptT.run (Scanning.each root parser rules positions >>= fun rest =>
          pure (s :: rest))) (o.log s.records) := by
      have hget : StateT.run (ExceptT.run (get : Scanning Output)) o = (.ok o, o) := rfl
      rw [Scanning.each, run_bind, hget]
      simp only [hs]
      rfl
    rw [hstep, run_bind, hrun, Output.log, Output.log, Output.log, List.append_assoc]
    rfl

/-- The log records of a scan. -/
def scanRecords (rules : List Checker) (scans : List FileScan) : List Log.Record :=
  scanRecord scans.length rules.length :: scans.flatMap FileScan.records

/-- A scan that comes to its end adds to the log and changes nothing else. -/
theorem run_all {root : Path} {parser : Parser} {rules : List Checker} {scans : List FileScan}
    {o : Output} (h : scanFiles o.tree root parser rules = .ok scans) :
    StateT.run (ExceptT.run (Scanning.all root parser rules)) o =
      (.ok scans, o.log (scanRecords rules scans)) := by
  have hlength : scans.length = (discover o.tree root markdownExtensions).length :=
    length_of_mapM h
  have hstep : StateT.run (ExceptT.run (Scanning.all root parser rules)) o =
      StateT.run (ExceptT.run (Scanning.each root parser rules
        (discover o.tree root markdownExtensions)))
        (o.log [scanRecord scans.length rules.length]) := by
    rw [hlength]
    rfl
  have hscans : (discover o.tree root markdownExtensions).mapM
      (scanFile (o.log [scanRecord scans.length rules.length]).tree root parser rules) =
        .ok scans := h
  rw [hstep, run_each hscans, Output.log, Output.log, Output.log, List.append_assoc]
  rfl

/-! ## Running -/

/-- A run that is refused has done nothing. -/
theorem run_of_plan_error {e : RunError} (h : q.plan libs tree = .error e) :
    run libs tree q = (.error e, { tree }) := by
  have hget : StateT.run (ExceptT.run (get : ExceptT RunError (StateM Output) Output)) { tree } =
      (.ok { tree }, { tree }) := rfl
  rw [run, RunRequest.perform, run_bind, hget]
  simp only [h]
  rfl

/-- Any other run scans, and then tells what it has found. -/
theorem run_of_plan (h : q.plan libs tree = .ok plan) :
    run libs tree q =
      StateT.run (ExceptT.run ((Scanning.all q.root plan.parser plan.rules).adapt
        RunError.unreadable >>= fun scans =>
          (Printing.conclude (q.outlet libs) plan.configuration scans).adapt RunError.interrupted))
        { tree } := by
  have hget : StateT.run (ExceptT.run (get : ExceptT RunError (StateM Output) Output)) { tree } =
      (.ok { tree }, { tree }) := rfl
  rw [run, RunRequest.perform, run_bind, hget]
  simp only [h]
  rfl

/-- What telling of some scans comes to, with some files and an earlier log. -/
def concluded (out : Outlet) (c : Configuration) (scans : List FileScan) (tree : Entry)
    (records : List Log.Record) : Except Interruption Outcome × Output :=
  StateT.run (ExceptT.run (Printing.conclude out c scans)) { tree, records }

/-- A run whose scan comes to its end. -/
theorem run_of_concluded (hplan : q.plan libs tree = .ok plan) {scans : List FileScan}
    (hscans : scanFiles tree q.root plan.parser plan.rules = .ok scans)
    {answer : Except Interruption Outcome} {o : Output}
    (h : concluded (q.outlet libs) plan.configuration scans tree (scanRecords plan.rules scans) =
      (answer, o)) : run libs tree q = (answer.mapError .interrupted, o) := by
  have hall : StateT.run (ExceptT.run (Scanning.all q.root plan.parser plan.rules)) { tree } =
      (.ok scans, { tree, records := scanRecords plan.rules scans }) := run_all hscans
  rw [run_of_plan hplan, run_bind, run_adapt, hall]
  simp only [mapError_ok, run_adapt]
  rw [concluded] at h
  rw [h]

/-- Only the setup of a run fails as such. -/
theorem plan_of_run {e : SetupError} (h : (run libs tree q).1 = .error (.setup e)) :
    q.plan libs tree = .error (.setup e) := by
  cases hplan : q.plan libs tree with
  | error e' =>
    rw [run_of_plan_error hplan] at h
    cases h
    rfl
  | ok plan =>
    rw [run_of_plan hplan, run_bind, run_adapt] at h
    cases hscan : StateT.run (ExceptT.run (Scanning.all q.root plan.parser plan.rules))
        { tree } with
    | mk scans o =>
      rw [hscan] at h
      cases scans with
      | error e' => cases h
      | ok scans =>
        simp only [mapError_ok, run_adapt] at h
        cases hanswer : (StateT.run (ExceptT.run
            (Printing.conclude (q.outlet libs) plan.configuration scans)) o).1 with
        | error e' =>
          rw [hanswer] at h
          cases h
        | ok outcome =>
          rw [hanswer] at h
          cases h

/-! ## What a run has done -/

/-- What a run has done to the files and tells of its reports, at any moment. -/
structure Contained (tree : Entry) (folder : Path) (c : Configuration) (result : ScanResult)
    (o : Output) : Prop where
  /-- Nothing changes but the reports that are written and the folders on the way to them. -/
  frame : Entry.Frame folder tree (o.written.map Prod.snd) o.tree
  /-- A report that is written or has failed was asked for. -/
  wanted : ∀ kind, kind ∈ o.written.map Prod.fst ∨ kind ∈ o.failures.map (·.report) →
    c.wants kind = true
  /-- Nothing is told twice. -/
  nodup : (o.written.map Prod.fst ++ o.failures.map (·.report)).Nodup
  written : ∀ w ∈ o.written, w.2 = folder.child w.1.fileName
  failed : ∀ f ∈ o.failures, f.path = folder.child f.report.fileName
  checkstyle : ∀ p, (.checkstyle, p) ∈ o.written →
    o.tree.read p = .ok (Checkstyle.render result).toUTF8
  html : ∀ p, (.html, p) ∈ o.written → ∃ page,
    Html.render (Checkstyle.render result).toUTF8 = .ok page ∧ o.tree.read p = .ok page.toUTF8

/-- The outcome of a run that returns. -/
structure Complete (c : Configuration) (result : ScanResult) (outcome : Outcome) (o : Output) :
    Prop where
  result : outcome.result = result
  threshold : outcome.threshold = c.threshold
  reports : outcome.reports = o.written
  reportFailures : outcome.reportFailures = o.failures
  /-- A report that is asked for is written, or it has failed. -/
  settled : ∀ kind, c.wants kind = true →
    (kind ∈ o.written.map Prod.fst ↔ kind ∉ o.failures.map (·.report))

variable {out : Outlet} {c : Configuration} {result : ScanResult} {o : Output} {kinds : List Report}

/-- Reports that are settled one after the other. -/
theorem Output.Settles.contained (h : o.Settles out result tree kinds)
    (hkinds : kinds <+: c.reports.toList) : Contained tree out.folder c result o where
  frame := h.steps.frame
  wanted := by
    intro kind hkind
    rw [← List.mem_append, h.settled.mem_iff] at hkind
    rw [Configuration.wants]
    exact Reports.mem_toList.mp (hkinds.subset hkind)
  nodup := h.settled.nodup_iff.mpr (hkinds.sublist.nodup c.reports.nodup_toList)
  written w hw := (h.written w hw).1
  failed := h.failures
  checkstyle := by
    intro p hp
    obtain ⟨-, content, hcontent, hread⟩ := h.written _ hp
    cases hcontent
    exact hread
  html := by
    intro p hp
    obtain ⟨-, content, hcontent, hread⟩ := h.written _ hp
    obtain ⟨page, hpage, rfl⟩ := Report.content_html hcontent
    exact ⟨page, hpage, hread⟩

/-- All reports that are asked for are settled. -/
theorem Output.Settles.settled_iff (h : o.Settles out result tree c.reports.toList) {kind : Report}
    (hkind : c.wants kind = true) :
    kind ∈ o.written.map Prod.fst ↔ kind ∉ o.failures.map (·.report) := by
  have hnodup := h.settled.nodup_iff.mpr c.reports.nodup_toList
  have hmem : kind ∈ o.written.map Prod.fst ++ o.failures.map (·.report) :=
    h.settled.mem_iff.mpr (Reports.mem_toList.mpr hkind)
  constructor
  · intro hwritten hfailed
    exact (List.nodup_append.mp hnodup).2.2 kind hwritten kind hfailed rfl
  · intro hfailed
    exact (List.mem_append.mp hmem).resolve_right hfailed

/-! ## What telling of some scans comes to -/

section

variable {scans : List FileScan} {records : List Log.Record} {answer : Except Interruption Outcome}
  {outcome : Outcome}

/-- It can be broken off while the summary is printed, or while the reports are settled. -/
theorem ends_concluded (h : concluded out c scans tree records = (answer, o)) :
    Ends (fun i o => o.SettlesSome out (.ofScans scans) tree c.reports ∧
        Interrupts out c.reports o i)
      (fun outcome o => outcome = ⟨.ofScans scans, c.threshold, o.written, o.failures⟩ ∧
        o.Settles out (.ofScans scans) tree c.reports.toList)
      (answer, o) := by
  have hnone : ([] : List Report) <+: c.reports.toList := List.nil_prefix
  have hnil := Output.Settles.nil out (.ofScans scans) tree records
  rw [← h, concluded, Printing.conclude]
  refine (hnil.of_prints hnone (prints_echo out.stream _ _)).bind fun _ o h => ?_
  refine (h.of_prints hnone (prints_put out.stream _ o)).bind fun _ o h => ?_
  refine (settles_writeReports h).bind fun _ o h => ?_
  exact .ok ⟨rfl, h.steps, h.settled, h.written, h.failures, h.reachable⟩

theorem settles_concluded (h : concluded out c scans tree records = (.ok outcome, o)) :
    o.Settles out (.ofScans scans) tree c.reports.toList :=
  ((ends_concluded h).returns outcome rfl).2

theorem complete_concluded (h : concluded out c scans tree records = (.ok outcome, o)) :
    Complete c (.ofScans scans) outcome o := by
  obtain ⟨houtcome, hsettles⟩ := (ends_concluded h).returns outcome rfl
  rw [houtcome]
  exact ⟨rfl, rfl, rfl, rfl, fun kind => hsettles.settled_iff⟩

theorem interrupts_concluded {i : Interruption}
    (h : concluded out c scans tree records = (.error i, o)) : Interrupts out c.reports o i :=
  ((ends_concluded h).breaks i rfl).2

/-- Whatever it comes to, some reports are settled. -/
theorem settlesSome_concluded (h : concluded out c scans tree records = (answer, o)) :
    o.SettlesSome out (.ofScans scans) tree c.reports := by
  cases answer with
  | ok outcome => exact ⟨_, List.prefix_refl _, settles_concluded h⟩
  | error i => exact ((ends_concluded h).breaks i rfl).1

/-- Whatever it comes to, it is contained. -/
theorem contained_concluded (h : concluded out c scans tree records = (answer, o)) :
    Contained tree out.folder c (.ofScans scans) o := by
  obtain ⟨kinds, hkinds, hsettles⟩ := settlesSome_concluded h
  exact hsettles.contained hkinds

/-- The number of missing folders never grows. -/
theorem missingAbove_concluded (h : concluded out c scans tree records = (answer, o)) (p : Path) :
    Entry.missingAbove p.parts.length o.tree p ≤ Entry.missingAbove p.parts.length tree p := by
  obtain ⟨kinds, -, hsettles⟩ := settlesSome_concluded h
  exact hsettles.steps.missingAbove_le _ _

/-- Where nothing is printed, a folder that is too deep for the first report breaks it off at once.
-/
theorem concluded_of_tooDeep {r : Report} {rest : List Report} (hstream : out.stream = none)
    (hreports : c.reports.toList = r :: rest)
    (hdeep : out.depth < Entry.missingAbove out.folder.parts.length tree out.folder) :
    concluded out c scans tree records = (.error .tooDeep, { tree, records }) := by
  have hsilent : ∀ o : Output, StateT.run (ExceptT.run (Printing.put none "\n")) o = (.ok (), o) ∧
      StateT.run (ExceptT.run (Printing.echo none (ScanResult.ofScans scans).summary)) o =
        (.ok (), o) := fun _ => ⟨rfl, rfl⟩
  have hwrite : StateT.run (ExceptT.run (Printing.writeReports out c.reports (.ofScans scans)))
      { tree, records } = (.error .tooDeep, { tree, records }) := by
    rw [Printing.writeReports, hreports, List.forM, run_bind,
      Output.run_attempt_of_tooDeep _ r hdeep]
  rw [concluded, Printing.conclude, hstream, run_bind, (hsilent _).2]
  simp only
  rw [run_bind, (hsilent _).1]
  simp only
  rw [run_bind, hwrite]

/-- A stream takes every text, or nothing is printed at all. -/
def TakesAll (stream : Option Stream) : Prop :=
  ∀ s, stream = some s → ∀ taken text, s.refusal? taken text = none

theorem takesAll_none : TakesAll none := nofun

theorem takesAll_unlimited : TakesAll (some .unlimited) := by
  rintro s ⟨⟩ taken text
  rfl

/-- There is nothing to break it off if the stream takes every text and the folder of the reports,
if any are asked for, is not too deep. -/
theorem exists_concluded (out : Outlet) {c : Configuration} (htakes : TakesAll out.stream)
    (hdepth : c.reports.toList ≠ [] →
      Entry.missingAbove out.folder.parts.length tree out.folder ≤ out.depth)
    (scans : List FileScan) (records : List Log.Record) :
    ∃ outcome o, concluded out c scans tree records = (.ok outcome, o) := by
  cases hconcluded : concluded out c scans tree records with
  | mk answer o =>
    cases answer with
    | ok outcome => exact ⟨outcome, o, rfl⟩
    | error i =>
      exfalso
      cases interrupts_concluded hconcluded with
      | refused hrefuses =>
        obtain ⟨s, text, hs, htext⟩ := hrefuses
        rw [htakes s hs] at htext
        cases htext
      | @tooDeep r hr hdeep =>
        have hwanted : c.reports.toList ≠ [] := List.ne_nil_of_mem (Reports.mem_toList.mpr hr)
        have hbefore := Nat.lt_of_lt_of_le hdeep (missingAbove_concluded hconcluded out.folder)
        exact Nat.not_le_of_lt hbefore (hdepth hwanted)

end

theorem concluded_of_run (hplan : q.plan libs tree = .ok plan) {scans : List FileScan}
    (hscans : scanFiles tree q.root plan.parser plan.rules = .ok scans) {outcome : Outcome}
    (h : run libs tree q = (.ok outcome, o)) :
    concluded (q.outlet libs) plan.configuration scans tree (scanRecords plan.rules scans) =
      (.ok outcome, o) := by
  cases hconcluded : concluded (q.outlet libs) plan.configuration scans tree
      (scanRecords plan.rules scans) with
  | mk answer o' =>
    rw [run_of_concluded hplan hscans hconcluded] at h
    obtain ⟨hanswer, rfl⟩ := Prod.mk.inj h
    rw [mapError_eq_ok.mp hanswer]

/-- A run that returns has something to work with, and has told all of its scan. -/
theorem exists_plan_of_run (htree : tree.WellFormed) {outcome : Outcome}
    (h : run libs tree q = (.ok outcome, o)) :
    ∃ plan, q.plan libs tree = .ok plan ∧
      concluded (q.outlet libs) plan.configuration (outcomes tree q.root plan.parser plan.rules)
        tree (scanRecords plan.rules (outcomes tree q.root plan.parser plan.rules)) =
          (.ok outcome, o) := by
  cases hplan : q.plan libs tree with
  | error e =>
    rw [run_of_plan_error hplan] at h
    cases h
  | ok plan => exact ⟨plan, rfl, concluded_of_run hplan (scanFiles_eq_ok htree _ _ _) h⟩

/-- What any run comes to that is not refused. -/
theorem exists_run (htree : tree.WellFormed) (hplan : q.plan libs tree = .ok plan) :
    ∃ result answer o, scan tree q.root plan.parser plan.rules = .ok result ∧
      run libs tree q = (answer, o) ∧ Contained tree q.folder plan.configuration result o ∧
      ((∃ outcome, answer = .ok outcome ∧ Complete plan.configuration result outcome o) ∨
        ∃ i, answer = .error (.interrupted i) ∧
          Interrupts (q.outlet libs) plan.configuration.reports o i) := by
  cases hconcluded : concluded (q.outlet libs) plan.configuration
      (outcomes tree q.root plan.parser plan.rules) tree
      (scanRecords plan.rules (outcomes tree q.root plan.parser plan.rules)) with
  | mk answer o =>
    refine ⟨_, _, o, scan_eq_ok htree q.root plan.parser plan.rules,
      run_of_concluded hplan (scanFiles_eq_ok htree _ _ _) hconcluded,
      contained_concluded hconcluded, ?_⟩
    cases answer with
    | ok outcome => exact .inl ⟨outcome, rfl, complete_concluded hconcluded⟩
    | error i => exact .inr ⟨i, rfl, interrupts_concluded hconcluded⟩

/-- Nothing breaks a run off: its stream takes every text, and its folder for reports is not too
deep. -/
structure RunRequest.Unhindered (libs : Libraries) (tree : Entry) (q : RunRequest) : Prop where
  takes : TakesAll q.stream
  reachable : Entry.missingAbove q.folder.parts.length tree q.folder ≤ libs.depth

/-- Any run returns that is neither refused nor hindered. -/
theorem exists_run_of_unhindered (htree : tree.WellFormed) (hplan : q.plan libs tree = .ok plan)
    (h : q.Unhindered libs tree) : ∃ outcome o, run libs tree q = (.ok outcome, o) := by
  obtain ⟨outcome, o, hconcluded⟩ := exists_concluded (q.outlet libs) (c := plan.configuration)
    h.takes (fun _ => h.reachable) (outcomes tree q.root plan.parser plan.rules)
    (scanRecords plan.rules _)
  exact ⟨outcome, o, run_of_concluded hplan (scanFiles_eq_ok htree _ _ _) hconcluded⟩

/-! ## The program -/

namespace CommandLine

/-- Whether the program ends because its arguments or its configuration are refused. -/
def Exit.IsRefusal : Exit → Prop
  | .code n => n = 2
  | .message _ => True
  | .failure _ => False

/-- A run whose answer is a refusal has no configuration. -/
theorem exists_of_isRefusal {answer : Except RunError Outcome}
    (h : (Exit.ofAnswer answer).IsRefusal) : ∃ e, answer = .error (.setup e) := by
  rcases answer with (e | _ | _ | _) | outcome
  · exact ⟨e, rfl⟩
  · cases h
  · cases h
  · cases h
  · change outcome.exitCode = 2 at h
    rw [Outcome.exitCode] at h
    split at h <;> cases h

theorem isRefusal_or_failure (e : RunError) :
    (Exit.ofAnswer (.error e)).IsRefusal ∨ Exit.ofAnswer (.error e) = .failure e := by
  rcases e with (_ | _) | _ | _ | _ <;> first | exact .inl trivial | exact .inr rfl

variable {stdout : Stream} {argv : List String}

/-- A program that comes to a run answers with it. -/
theorem execute_eq_respond {a : Arguments} (hparse : parse argv = .ok (some a))
    (hrequest : request stdout tree a = .ok q) :
    execute libs stdout tree argv =
      respond (logging a.logLevel) (run libs tree q).1 (run libs tree q).2 := by
  simp only [execute, hparse, hrequest]

/-- A program that is refused, or that only explains itself, leaves all files alone. -/
theorem execute_unchanged
    (h : (execute libs stdout tree argv).exit.IsRefusal ∨ parse argv = .ok none) :
    (execute libs stdout tree argv).tree = tree ∧
      (execute libs stdout tree argv).written = [] := by
  cases hparse : parse argv with
  | error e => simp [execute, hparse, refuse]
  | ok a? =>
    cases a? with
    | none =>
      simp only [execute, hparse, explain]
      split <;> exact ⟨rfl, rfl⟩
    | some a =>
      cases hrequest : request stdout tree a with
      | error e => simp [execute, hparse, hrequest, refuse]
      | ok q =>
        have hrefusal := h.resolve_right (by simp [hparse])
        rw [execute_eq_respond hparse hrequest] at hrefusal ⊢
        obtain ⟨e, he⟩ := exists_of_isRefusal hrefusal
        rw [run_of_plan_error (plan_of_run he)]
        exact ⟨rfl, rfl⟩

end CommandLine

/-! ## All runs -/

/-- A run that is refused fails and has done nothing. Any other one is contained, and it returns
unless it is broken off; so where nothing hinders them, only refused runs fail. A program that is
refused has changed no file. -/
theorem run_contained (libs : Libraries) {tree : Entry} (htree : tree.WellFormed)
    (q : RunRequest) :
    (q.Refused libs tree → ∃ e, run libs tree q = (.error e, { tree })) ∧
      (¬ q.Refused libs tree → ∃ plan result answer o, q.plan libs tree = .ok plan ∧
        scan tree q.root plan.parser plan.rules = .ok result ∧ run libs tree q = (answer, o) ∧
        Contained tree q.folder plan.configuration result o ∧
        ((∃ outcome, answer = .ok outcome ∧ Complete plan.configuration result outcome o) ∨
          ∃ i, answer = .error (.interrupted i) ∧
            Interrupts (q.outlet libs) plan.configuration.reports o i)) ∧
      (q.Unhindered libs tree →
        ((∃ e, (run libs tree q).1 = .error e) ↔ q.Refused libs tree)) ∧
      ∀ stdout argv, (CommandLine.execute libs stdout tree argv).exit.IsRefusal ∨
        CommandLine.parse argv = .ok none →
        (CommandLine.execute libs stdout tree argv).tree = tree ∧
          (CommandLine.execute libs stdout tree argv).written = [] := by
  have hrefused : q.Refused libs tree → ∃ e, run libs tree q = (.error e, { tree }) := by
    intro h
    obtain ⟨e, he⟩ := refused_iff.mp h
    exact ⟨e, run_of_plan_error he⟩
  refine ⟨hrefused, ?_, ?_, fun stdout argv => CommandLine.execute_unchanged⟩
  · intro h
    obtain ⟨plan, hplan⟩ := not_refused_iff.mp h
    obtain ⟨result, answer, o, hends⟩ := exists_run htree hplan
    exact ⟨plan, result, answer, o, hplan, hends⟩
  · intro hunhindered
    constructor
    · rintro ⟨e, he⟩
      by_contra h
      obtain ⟨plan, hplan⟩ := not_refused_iff.mp h
      obtain ⟨outcome, o, hrun⟩ := exists_run_of_unhindered htree hplan hunhindered
      rw [hrun] at he
      cases he
    · intro h
      obtain ⟨e, he⟩ := hrefused h
      exact ⟨e, by rw [he]⟩

/-- A project with a folder in the place of the page. -/
def blockedPage : Entry :=
  .folder [("README.md", .file "a\tb".toUTF8),
    ("out", .folder [("markdownlint.html", .folder []), ("notes.txt", .file "n".toUTF8)])]

theorem wellFormed_blockedPage : blockedPage.WellFormed := by
  refine .folder (by decide) (by decide) ?_
  simp only [List.forall_mem_cons]
  refine ⟨.file _, .folder (by decide) (by decide) ?_, by simp⟩
  simp only [List.forall_mem_cons]
  exact ⟨.folder (by decide) (by decide) (by simp), .file _, by simp⟩

/-- A run whose page cannot be written. -/
def blockedRequest : RunRequest where
  root := ⟨[]⟩
  reportsFolder := some ⟨["out"]⟩
  stream := some .unlimited

theorem unhindered_blockedRequest : blockedRequest.Unhindered .standard blockedPage :=
  ⟨takesAll_unlimited, by decide⟩

/-- What a run works with, given rules and no options for its parser. -/
theorem exists_plan_standard {rules : List Rule}
    (hsource : q.source.resolve Libraries.standard.load tree = .ok c)
    (hrules : c.instantiate Libraries.standard.named = .ok rules) (hoptions : q.options = {}) :
    ∃ plan, q.plan .standard tree = .ok plan ∧ plan.configuration = c := by
  obtain ⟨parser, hparser⟩ : ∃ parser, Libraries.standard.parser {} = .ok parser := ⟨_, rfl⟩
  rw [← hoptions] at hparser
  exact ⟨⟨c, rules.map Rule.checker, parser⟩,
    plan_eq_ok_iff.mpr ⟨rules, hsource, hrules, hparser, rfl⟩, rfl⟩

/-- The page fails, and the run returns all the same. -/
theorem run_contained_blockedPage :
    blockedPage.WellFormed ∧ ∃ result outcome o,
      run .standard blockedPage blockedRequest = (.ok outcome, o) ∧
      Contained blockedPage ⟨["out"]⟩ {} result o ∧ Complete {} result outcome o ∧
      .html ∈ o.failures.map (·.report) := by
  obtain ⟨rules, hrules⟩ := Configuration.exists_instantiate_standard Libraries.standard.named
  have hplan : ∃ plan, blockedRequest.plan .standard blockedPage = .ok plan ∧
      plan.configuration = {} := exists_plan_standard rfl hrules rfl
  obtain ⟨plan, hplan, hconfiguration⟩ := hplan
  obtain ⟨-, hstarts, hfails, -⟩ := run_contained .standard wellFormed_blockedPage blockedRequest
  have hrefused : ¬ blockedRequest.Refused .standard blockedPage :=
    not_refused_iff.mpr ⟨plan, hplan⟩
  obtain ⟨plan', result, answer, o, hplan', -, hrun, hcontained, hends⟩ := hstarts hrefused
  obtain rfl : plan = plan' := Except.ok.inj (hplan.symm.trans hplan')
  rw [hconfiguration] at hcontained hends
  have hreturns : ¬ ∃ i, answer = .error (.interrupted i) ∧
      Interrupts (blockedRequest.outlet .standard) ({} : Configuration).reports o i := by
    rintro ⟨i, rfl, -⟩
    exact hrefused ((hfails unhindered_blockedRequest).mp ⟨_, congrArg Prod.fst hrun⟩)
  obtain ⟨outcome, rfl, hcomplete⟩ := hends.resolve_right hreturns
  refine ⟨wellFormed_blockedPage, result, outcome, o, hrun, hcontained, hcomplete, ?_⟩
  -- the folder stays a folder, so that nothing can be read from it
  by_contra hfailed
  obtain ⟨⟨kind, p⟩, hp, hkind⟩ := List.mem_map.mp ((hcomplete.settled .html rfl).mpr hfailed)
  obtain rfl : kind = .html := hkind
  obtain ⟨page, -, hread⟩ := hcontained.html p hp
  obtain rfl : p = ⟨["out", "markdownlint.html"]⟩ := hcontained.written _ hp
  obtain ⟨position, hleads, hlook⟩ := Entry.read_eq_ok.mp hread
  have hfolder := hcontained.frame.folder_stays ["out", "markdownlint.html"] rfl
  have hsame : position = ["out", "markdownlint.html"] := by
    refine Entry.Leads.unique hleads (.of_look (by decide) ?_)
    simp [hfolder]
  rw [hsame, hfolder] at hlook
  cases hlook

/-- A stream that takes nothing but ASCII. -/
def asciiStream : Stream where
  refusal? _ text :=
    if text.toList.all (·.toNat < 128) then none
    else some ⟨"UnicodeEncodeError", "ordinal not in range(128)"⟩

/-- A run whose folder for reports has a name that an ASCII stream refuses. -/
def foreignFolder : RunRequest where
  root := ⟨[]⟩
  reportsFolder := some ⟨["é"]⟩
  stream := some asciiStream

/-- A run whose folder for reports lies in fifteen hundred folders that are not there. -/
def deepFolder : RunRequest where
  root := ⟨[]⟩
  reportsFolder := some ⟨List.replicate 1500 "a"⟩

/-- In an empty folder all folders above the last one on a path are missing. -/
theorem missingAbove_empty (name : String) (hname : name ≠ "..") (n : Nat) :
    Entry.missingAbove (n + 1) .empty ⟨List.replicate (n + 1) name⟩ = n := by
  induction n with
  | zero => simp [Entry.missingAbove, Entry.resolve, resolveFrom, Entry.get?, Entry.empty,
      Entry.child?, hname]
  | succ n ih =>
    have hmissing : Entry.resolve .empty ⟨List.replicate (n + 1 + 1) name⟩ = .missing := by
      simp [Entry.resolve, resolveFrom, Entry.get?, Entry.empty, Entry.child?, hname,
        List.replicate_succ]
    have hparent : Path.parent ⟨List.replicate (n + 1 + 1) name⟩ =
        ⟨List.replicate (n + 1) name⟩ := by
      simp [Path.parent, List.dropLast_replicate]
    rw [Entry.missingAbove, hmissing, hparent]
    exact congrArg (· + 1) ih

/-- In an empty folder nothing is found. -/
theorem scanFiles_empty (parser : Parser) (rules : List Checker) :
    scanFiles .empty ⟨[]⟩ parser rules = .ok [] := by
  have hnone : discover .empty ⟨[]⟩ markdownExtensions = [] := by
    simp [discover, Entry.at?, Entry.resolve, resolveFrom, Entry.get?, Entry.empty,
      Entry.filesBelow, Entry.filesIn, sortPositions]
  rw [scanFiles, hnone]
  rfl

/-- Not only refused runs fail, nor do all runs that fail leave the files as they were: a stream may
refuse to be told of a report that has just been written. And where nothing is printed at all, the
folder of the reports may be too deep. -/
theorem not_only_refused_runs_fail :
    Entry.empty.WellFormed ∧
      (¬ foreignFolder.Refused .standard .empty ∧
        ∃ e o, run .standard .empty foreignFolder = (.error (.interrupted (.refused e)), o) ∧
          o.written = [(.checkstyle, ⟨["é", "markdownlint.xml"]⟩)] ∧ o.tree ≠ .empty) ∧
      ¬ deepFolder.Refused .standard .empty ∧
        ∃ o, run .standard .empty deepFolder = (.error (.interrupted .tooDeep), o) := by
  obtain ⟨rules, hrules⟩ := Configuration.exists_instantiate_standard Libraries.standard.named
  have hplan : ∀ q : RunRequest, q.source = .standard → q.options = {} →
      ∃ plan, q.plan .standard .empty = .ok plan ∧ plan.configuration = {} := by
    intro q hsource hoptions
    exact exists_plan_standard (by rw [hsource]; rfl) hrules hoptions
  refine ⟨.folder (by simp) (by simp) (by simp), ?foreign, ?deep⟩
  case foreign =>
    obtain ⟨plan, hplan, hconfiguration⟩ := hplan foreignFolder rfl rfl
    have hrun := run_of_concluded hplan (scanFiles_empty _ _) (Prod.eta _).symm
    rw [hconfiguration] at hrun
    refine ⟨not_refused_iff.mpr ⟨plan, hplan⟩, _, _, hrun, rfl, ?_⟩
    intro htree
    have hfolder := congrArg (Entry.isFolderAt · ⟨["é"]⟩) htree
    cases hfolder
  case deep =>
    obtain ⟨plan, hplan, hconfiguration⟩ := hplan deepFolder rfl rfl
    have hdeep : 970 < Entry.missingAbove (List.replicate 1500 "a").length .empty
        ⟨List.replicate 1500 "a"⟩ := by
      rw [List.length_replicate, missingAbove_empty "a" (by decide) 1499]
      decide
    have hreports : plan.configuration.reports.toList = .checkstyle :: [.html] := by
      rw [hconfiguration]
      rfl
    have hconcluded : concluded (deepFolder.outlet .standard) plan.configuration [] .empty
        (scanRecords plan.rules []) = _ := concluded_of_tooDeep rfl hreports hdeep
    have hrun := run_of_concluded hplan (scanFiles_empty _ _) hconcluded
    exact ⟨not_refused_iff.mpr ⟨plan, hplan⟩, _, hrun⟩

end MarkdownLint
