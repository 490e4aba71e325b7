import MarkdownLint.Proofs.Run.Containment
import MarkdownLint.Proofs.Scan.Independence
import MarkdownLint.Proofs.Scan.Pool
import MarkdownLint.Proofs.Text.Integer

/-!
The verdict of a run. It is told by the sources, the rules and the threshold alone: runs that agree
on these, however many files are scanned at a time and whatever becomes of the reports, come to one
verdict (`Runs.verdict_eq`). A run passes just in case all rules together find no more violations in
all files together than the threshold allows (`Runs.passed_iff`), and the program ends accordingly
(`CommandLine.Returns`).
-/
namespace MarkdownLint

/-! ## Runs on several jobs -/

/-- The runs that a request can lead to, of those that return. With several jobs the log records of
different files may come in any order. -/
inductive Runs (libs : Libraries) (tree : Entry) (q : RunRequest) : Outcome → Output → Prop where
  | intro {plan : Plan} {scans : List FileScan} {log : List Log.Record} {outcome : Outcome}
      {o : Output} :
      q.plan libs tree = .ok plan →
      ScannedOn q.jobs tree q.root plan.parser plan.rules (.ok scans) →
      log.Perm (scanRecords plan.rules scans) →
      concluded (q.outlet libs) plan.configuration scans tree log = (.ok outcome, o) →
      Runs libs tree q outcome o

variable {libs : Libraries} {tree : Entry} {q q' : RunRequest} {outcome outcome' : Outcome}
  {o o' : Output}

/-- One of them is the run that scans one file after the other. -/
theorem runs_of_run (htree : tree.WellFormed) (h : run libs tree q = (.ok outcome, o)) :
    Runs libs tree q outcome o := by
  obtain ⟨plan, hplan, hconcluded⟩ := exists_plan_of_run htree h
  exact .intro hplan (scannedOn_iff.mpr (scanFiles_eq_ok htree _ _ _).symm) (.refl _) hconcluded

/-- Whatever the schedule, a run has the result of a scan. -/
theorem Runs.result (htree : tree.WellFormed) (h : Runs libs tree q outcome o) :
    ∃ plan, q.plan libs tree = .ok plan ∧ outcome.threshold = plan.configuration.threshold ∧
      outcome.result = record tree q.root plan.parser plan.rules := by
  obtain ⟨hplan, hscans, -, hconcluded⟩ := h
  have hcomplete := complete_concluded hconcluded
  have hserial := scannedOn_iff.mp hscans
  rw [scanFiles_eq_ok htree] at hserial
  cases hserial
  exact ⟨_, hplan, hcomplete.threshold, hcomplete.result⟩

/-! ## Two runs -/

/-- What a run comes to. -/
structure Verdict where
  fileCount : Nat
  errorCount : Nat
  passed : Bool
  failureMessage : Option String
  exitCode : Nat
deriving Repr, DecidableEq

/-- The verdict of an outcome. -/
def Outcome.verdict (o : Outcome) : Verdict where
  fileCount := o.result.fileCount
  errorCount := o.result.total
  passed := o.passed
  failureMessage := o.failureMessage
  exitCode := o.exitCode

theorem Outcome.verdict_congr {o o' : Outcome} (hresult : o.result = o'.result)
    (hthreshold : o.threshold = o'.threshold) : o.verdict = o'.verdict := by
  have hpassed : o.passed = o'.passed := by rw [passed, passed, hresult, hthreshold]
  simp only [verdict, failureMessage, exitCode, hpassed, hresult, hthreshold]

/-- Two requests are for the same sources, rules and threshold. Their reports, the folder of these,
what they print and the number of their jobs may differ. -/
structure RunRequest.SameTask (libs : Libraries) (tree : Entry) (q q' : RunRequest) : Prop where
  root : q.root = q'.root
  options : q.options = q'.options
  settings : ∀ c c', q.source.resolve libs.load tree = .ok c →
    q'.source.resolve libs.load tree = .ok c' →
    (∀ kind : CheckKind, (c.ruleSetup kind.name).Agrees (c'.ruleSetup kind.name)) ∧
      c.threshold = c'.threshold

theorem Runs.verdict_eq (htree : tree.WellFormed) (htask : q.SameTask libs tree q')
    (h : Runs libs tree q outcome o) (h' : Runs libs tree q' outcome' o') :
    outcome.verdict = outcome'.verdict := by
  obtain ⟨plan, hplan, hthreshold, hresult⟩ := h.result htree
  obtain ⟨plan', hplan', hthreshold', hresult'⟩ := h'.result htree
  obtain ⟨rules, hc, hrules, hparser, hcheckers⟩ := plan_eq_ok_iff.mp hplan
  obtain ⟨rules', hc', hrules', hparser', hcheckers'⟩ := plan_eq_ok_iff.mp hplan'
  obtain ⟨hagree, hsame⟩ := htask.settings _ _ hc hc'
  have hparsers : plan.parser = plan'.parser := by
    rw [htask.options, hparser'] at hparser
    exact (Except.ok.inj hparser).symm
  have hrulesSame : plan.rules = plan'.rules := by
    rw [hcheckers, hcheckers']
    exact Configuration.checkers_eq_of_agrees hagree hrules hrules'
  refine Outcome.verdict_congr ?_ ?_
  · rw [hresult, hresult', htask.root, hparsers, hrulesSame]
  · rw [hthreshold, hthreshold', hsame]

/-! ## Counting -/

/-- The number of violations that some rules find in the files below a root, file by file and rule
by rule. A file that has no document counts for nothing. -/
def violationCount (tree : Entry) (root : Path) (parser : Parser) (checkers : List Checker) : Nat :=
  ((discover tree root markdownExtensions).map fun p =>
    ((tree.document? root parser p).toList.map fun d =>
      (checkers.map fun r => (r.found d).length).sum).sum).sum

theorem length_foundAt (tree : Entry) (root : Path) (parser : Parser) (checkers : List Checker)
    (p : List String) :
    (foundAt tree root parser checkers p).length =
      ((tree.document? root parser p).toList.map fun d =>
        (checkers.map fun r => (r.found d).length).sum).sum := by
  simp only [foundAt, List.length_flatMap]

/-- Items that are empty count for nothing. -/
theorem sum_length_filter_nonempty {α β : Type} (items : α → List β) (as : List α) :
    ((as.filter fun a => !(items a).isEmpty).map fun a => (items a).length).sum =
      (as.map fun a => (items a).length).sum := by
  induction as with
  | nil => rfl
  | cons a as ih => cases h : items a <;> simp [h, ih]

/-- Though files without violations are not recorded, the record counts those of all files. -/
theorem total_record (htree : tree.WellFormed) (root : Path) (parser : Parser)
    (checkers : List Checker) :
    (record tree root parser checkers).total = violationCount tree root parser checkers :=
  calc (record tree root parser checkers).total
    _ = (((discover tree root markdownExtensions).filter fun p =>
          !(foundAt tree root parser checkers p).isEmpty).map fun p =>
            (foundAt tree root parser checkers p).length).sum := by
      rw [ScanResult.total, violations_record_eq htree, List.length_flatMap, List.map_map]
      rfl
    _ = ((discover tree root markdownExtensions).map fun p =>
          (foundAt tree root parser checkers p).length).sum := sum_length_filter_nonempty _ _
    _ = violationCount tree root parser checkers := by
      simp only [length_foundAt, violationCount]

/-- The violations that the rules of a request find are tolerated. -/
inductive RunRequest.Tolerated (libs : Libraries) (tree : Entry) (q : RunRequest) : Prop where
  | intro {plan : Plan} : q.plan libs tree = .ok plan →
      violationCount tree q.root plan.parser plan.rules ≤ plan.configuration.threshold →
      Tolerated libs tree q

theorem Runs.passed_iff (htree : tree.WellFormed) (h : Runs libs tree q outcome o) :
    outcome.passed = true ↔ q.Tolerated libs tree := by
  obtain ⟨plan, hplan, hthreshold, hresult⟩ := h.result htree
  rw [Outcome.passed, decide_eq_true_iff, hthreshold, hresult, total_record htree]
  constructor
  · exact .intro hplan
  · rintro ⟨hplan', hle⟩
    rw [hplan] at hplan'
    cases hplan'
    exact hle

/-! ## The last line -/

/-- A text that is whole lines, each with its end. -/
def IsLines (text : String) : Prop := text = "" ∨ ∃ lines, text = lines ++ "\n"

/-- A text is lines, of which the last is given. -/
structure EndsInLine (text line : String) : Prop where
  split : ∃ lines, IsLines lines ∧ text = lines ++ (line ++ "\n")
  oneLine : '\n' ∉ line.toList

theorem IsLines.append {a b : String} (ha : IsLines a) (hb : IsLines b) : IsLines (a ++ b) := by
  rcases hb with rfl | ⟨lines, rfl⟩
  · rwa [String.append_empty]
  · exact .inr ⟨a ++ lines, by rw [String.append_assoc]⟩

theorem IsLines.join {texts : List String} (h : ∀ t ∈ texts, IsLines t) :
    IsLines (String.join texts) := by
  induction texts with
  | nil => exact .inl rfl
  | cons t texts ih =>
    rw [String.join_cons]
    exact (h t List.mem_cons_self).append (ih fun u hu => h u (List.mem_cons_of_mem t hu))

theorem isLines_logText (s : Log.State) (records : List Log.Record) :
    IsLines (CommandLine.logText s records) := by
  refine IsLines.join ?_
  intro text htext
  obtain ⟨record, -, rfl⟩ := List.mem_map.mp htext
  refine IsLines.join ?_
  intro text htext
  obtain ⟨handler, -, rfl⟩ := List.mem_map.mp htext
  exact .inr ⟨_, rfl⟩

theorem Outcome.newline_not_mem_failureMessage {o : Outcome} {m : String}
    (h : o.failureMessage = some m) : '\n' ∉ m.toList := by
  have hnumber : ∀ n : Nat, '\n' ∉ (toString n).toList := by
    intro n hn
    rw [Text.toList_toString_nat] at hn
    exact absurd (Nat.isDigit_of_mem_toDigits (by decide) (by decide) hn) (by decide)
  rw [failureMessage] at h
  split at h
  · cases h
  · cases h
    simp only [String.toList_append, List.mem_append, not_or]
    exact ⟨⟨⟨⟨by decide, hnumber _⟩, by decide⟩, hnumber _⟩, by decide⟩

/-! ## The program -/

namespace CommandLine

/-- The program comes to the end of a run and answers with its verdict. -/
inductive Returns (libs : Libraries) (stdout : Stream) (tree : Entry) (argv : List String)
    (q : RunRequest) (outcome : Outcome) : Response → Prop where
  | intro {a : Arguments} {o : Output} : parse argv = .ok (some a) → request stdout tree a = .ok q →
      Runs libs tree q outcome o →
      Returns libs stdout tree argv q outcome (respond (logging a.logLevel) (.ok outcome) o)

variable {stdout : Stream} {argv : List String}

/-- A program that is not refused, does not fail and does not only explain itself returns. -/
theorem returns_of_execute (htree : tree.WellFormed)
    (hrefusal : ¬ (execute libs stdout tree argv).exit.IsRefusal)
    (hfailure : ∀ e, (execute libs stdout tree argv).exit ≠ .failure e)
    (hhelp : parse argv ≠ .ok none) :
    ∃ q outcome, Returns libs stdout tree argv q outcome (execute libs stdout tree argv) := by
  cases hparse : parse argv with
  | error e => simp [execute, hparse, refuse, Exit.IsRefusal] at hrefusal
  | ok a? =>
    cases a? with
    | none => exact absurd hparse hhelp
    | some a =>
      cases hrequest : request stdout tree a with
      | error e => simp [execute, hparse, hrequest, refuse, Exit.IsRefusal] at hrefusal
      | ok q =>
        rw [execute_eq_respond hparse hrequest] at hrefusal hfailure ⊢
        cases hrun : run libs tree q with
        | mk answer o =>
          rw [hrun] at hrefusal hfailure
          cases answer with
          | ok outcome => exact ⟨q, outcome, .intro hparse hrequest (runs_of_run htree hrun)⟩
          | error e =>
            obtain hmessage | hfails := isRefusal_or_failure e
            · exact absurd hmessage hrefusal
            · exact absurd hfails (hfailure e)

/-- What a program says of too many violations stands behind all that is logged. -/
theorem endsInLine_respond {m : String} (s : Log.State) (o : Output)
    (h : outcome.failureMessage = some m) : EndsInLine (respond s (.ok outcome) o).stderr m where
  split := by
    refine ⟨logText s o.records, isLines_logText s o.records, ?_⟩
    show logText s o.records ++ String.join (outcome.failureMessage.toList.map (· ++ "\n")) = _
    rw [h, Option.toList_some, List.map_singleton, String.join_cons, String.join_nil,
      String.append_empty]
  oneLine := Outcome.newline_not_mem_failureMessage h

/-- A program that returns tells whether the violations are tolerated, and if not, says so last. -/
theorem Returns.exit {resp : Response} (htree : tree.WellFormed)
    (h : Returns libs stdout tree argv q outcome resp) :
    (resp.exit = .code 0 ↔ q.Tolerated libs tree) ∧
      (¬ q.Tolerated libs tree → resp.exit = .code 1 ∧
        ∃ m, outcome.failureMessage = some m ∧ EndsInLine resp.stderr m) := by
  obtain ⟨-, -, hruns⟩ := h
  rw [← hruns.passed_iff htree]
  cases hpassed : outcome.passed with
  | true =>
    refine ⟨iff_of_true ?_ rfl, fun hnot => absurd rfl hnot⟩
    show Exit.code outcome.exitCode = .code 0
    rw [Outcome.exitCode, if_pos hpassed]
  | false =>
    have hcode : outcome.exitCode = 1 := by simp [Outcome.exitCode, hpassed]
    have hmessage : ∃ m, outcome.failureMessage = some m := by
      simp [Outcome.failureMessage, hpassed]
    obtain ⟨m, hm⟩ := hmessage
    refine ⟨iff_of_false ?_ Bool.false_ne_true, fun _ => ⟨?_, m, hm, endsInLine_respond _ _ hm⟩⟩
    · show Exit.code outcome.exitCode ≠ .code 0
      simp [hcode]
    · show Exit.code outcome.exitCode = .code 1
      rw [hcode]

end CommandLine

/-- The verdict depends on the sources, the rules and the threshold alone. It is passed just in case
all violations together are tolerated, and a program that returns ends with zero then, and otherwise
with one and the reason as its last line. -/
theorem verdict_determined (libs : Libraries) {tree : Entry} (htree : tree.WellFormed) :
    (∀ q q' outcome outcome' o o', RunRequest.SameTask libs tree q q' →
      Runs libs tree q outcome o → Runs libs tree q' outcome' o' →
      outcome.verdict = outcome'.verdict) ∧
    (∀ q outcome o, Runs libs tree q outcome o →
      (outcome.passed = true ↔ q.Tolerated libs tree)) ∧
    (∀ stdout argv q outcome resp, CommandLine.Returns libs stdout tree argv q outcome resp →
      (resp.exit = .code 0 ↔ q.Tolerated libs tree) ∧
      (¬ q.Tolerated libs tree → resp.exit = .code 1 ∧
        ∃ m, outcome.failureMessage = some m ∧ EndsInLine resp.stderr m)) ∧
    ∀ stdout argv, ¬ (CommandLine.execute libs stdout tree argv).exit.IsRefusal →
      (∀ e, (CommandLine.execute libs stdout tree argv).exit ≠ .failure e) →
      CommandLine.parse argv ≠ .ok none →
      ∃ q outcome, CommandLine.Returns libs stdout tree argv q outcome
        (CommandLine.execute libs stdout tree argv) :=
  ⟨fun _ _ _ _ _ _ => Runs.verdict_eq htree, fun _ _ _ => Runs.passed_iff htree,
    fun _ _ _ _ _ => CommandLine.Returns.exit htree,
    fun _ _ => CommandLine.returns_of_execute htree⟩

/-- A silent run without reports, on several jobs. -/
def silentRequest : RunRequest where
  root := ⟨[]⟩
  source := .value { reports := ⟨false, false⟩ }
  jobs := 8

theorem verdict_determined_blockedPage :
    blockedPage.WellFormed ∧
      RunRequest.SameTask .standard blockedPage blockedRequest silentRequest ∧
      ∃ outcome outcome' o o', Runs .standard blockedPage blockedRequest outcome o ∧
        Runs .standard blockedPage silentRequest outcome' o' ∧
        outcome.verdict = outcome'.verdict := by
  have htask : RunRequest.SameTask .standard blockedPage blockedRequest silentRequest := by
    refine ⟨rfl, rfl, ?_⟩
    rintro c c' hc hc'
    cases hc
    cases hc'
    exact ⟨fun _ => ⟨rfl, rfl, rfl, fun _ => rfl⟩, rfl⟩
  obtain ⟨rules, hrules⟩ := Configuration.exists_instantiate_standard Libraries.standard.named
  have hreturns : ∀ q : RunRequest, q.options = {} → q.Unhindered .standard blockedPage →
      (∃ c : Configuration, q.source.resolve Libraries.standard.load blockedPage = .ok c ∧
        c.instantiate Libraries.standard.named = .ok rules) →
      ∃ outcome o, Runs .standard blockedPage q outcome o := by
    rintro q hoptions hunhindered ⟨c, hc, hrules⟩
    obtain ⟨plan, hplan, -⟩ := exists_plan_standard hc hrules hoptions
    obtain ⟨outcome, o, hrun⟩ := exists_run_of_unhindered wellFormed_blockedPage hplan hunhindered
    exact ⟨outcome, o, runs_of_run wellFormed_blockedPage hrun⟩
  have hunhindered : silentRequest.Unhindered .standard blockedPage := ⟨nofun, by decide⟩
  obtain ⟨outcome, o, hruns⟩ := hreturns blockedRequest rfl unhindered_blockedRequest
    ⟨_, rfl, hrules⟩
  obtain ⟨outcome', o', hsilent⟩ := hreturns silentRequest rfl hunhindered ⟨_, rfl, hrules⟩
  obtain ⟨hverdict, -⟩ := verdict_determined .standard wellFormed_blockedPage
  exact ⟨wellFormed_blockedPage, htask, outcome, outcome', o, o', hruns, hsilent,
    hverdict _ _ _ _ _ _ htask hruns hsilent⟩

end MarkdownLint
