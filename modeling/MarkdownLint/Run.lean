import MarkdownLint.Configuration.File
import MarkdownLint.Report.Output
import MarkdownLint.Report.Summary

/-!
A complete run: the configuration is read, the project is scanned, the summary is printed, reports
are written, and the number of violations is held against the threshold. A run that fails leaves
what it has done by then (`Output`).
-/
namespace MarkdownLint

/-- What a run takes from elsewhere: the reading of configuration files, the parsers of Markdown,
the names of characters, and how many missing folders there may be above one that is made. -/
structure Libraries where
  load : Configuration.Loader
  parser : Markdown.ParserOptions → Except Markdown.ParserError Parser
  named : Pattern.CharacterNames
  depth : Nat

/-- Where the configuration of a run comes from. -/
inductive ConfigurationSource where
  | value (c : Configuration)
  | file (p : Path)
  | standard

/-- What is to be run. -/
structure RunRequest where
  root : Path
  reportsFolder : Option Path := none
  source : ConfigurationSource := .standard
  options : Markdown.ParserOptions := {}
  /-- The stream that is printed to; without one nothing is printed. -/
  stream : Option Stream := none
  /-- How many files may be scanned at a time. What comes of it does not depend on this. -/
  jobs : Nat := 1

/-- Why a run fails. -/
inductive RunError where
  /-- There is no configuration, or there are no rules for it. -/
  | setup (e : SetupError)
  /-- There is no such parser. -/
  | parser (e : Markdown.ParserError)
  /-- A file that was discovered cannot be read. -/
  | unreadable (e : FileError)
  /-- The run was broken off. -/
  | interrupted (i : Interruption)

/-- The outcome of a run (`ScanOutcome`). -/
structure Outcome where
  result : ScanResult
  threshold : Nat
  reports : List (Report × Path)
  reportFailures : List ReportFailure

namespace Outcome

/-- Whether there are no more violations than the threshold allows. -/
def passed (o : Outcome) : Bool := o.result.total ≤ o.threshold

/-- What is said of a run with too many violations. -/
def failureMessage (o : Outcome) : Option String :=
  if o.passed then none
  else
    some ("Build failure threshold of " ++ toString o.threshold ++ " reached with " ++
      toString o.result.total ++ " errors!")

/-- The code with which the program ends. -/
def exitCode (o : Outcome) : Nat := if o.passed then 0 else 1

end Outcome

/-- The configuration of a run (`resolve_configuration`). -/
def ConfigurationSource.resolve (load : Configuration.Loader) (tree : Entry) :
    ConfigurationSource → Except SetupError Configuration
  | value c => .ok c
  | file p => Configuration.ofFile load tree p
  | standard => .ok {}

/-- The folder for reports, unless another is given. -/
def defaultReportsFolder (root : Path) : Path := root ++ ⟨["build", "reports", "markdownlint"]⟩

/-- The folder in which a run writes its reports. -/
def RunRequest.folder (q : RunRequest) : Path :=
  q.reportsFolder.getD (defaultReportsFolder q.root)

/-- Where a run puts what it has found. -/
def RunRequest.outlet (libs : Libraries) (q : RunRequest) : Outlet :=
  { stream := q.stream, folder := q.folder, depth := libs.depth }

/-! ## Scanning -/

/-- The log records of scanning a file. -/
def FileScan.records (s : FileScan) : List Log.Record :=
  s.parseFailure.toList.map (fun f => ⟨.warning, "mdlint.scan", "Skipping " ++ f.message⟩) ++
    s.ruleFailures.map fun f => ⟨.warning, "mdlint.scan", f.message⟩

/-- The log record ahead of a scan. -/
def scanRecord (files rules : Nat) : Log.Record :=
  let counts := toString files ++ " files with " ++ toString rules ++ " rules"
  ⟨.debug, "mdlint.scan", "Scanning " ++ counts⟩

/-- Adds to the log. -/
def Output.log (o : Output) (records : List Log.Record) : Output :=
  { o with records := o.records ++ records }

/-- Steps of a scan, which a file that cannot be read ends. -/
abbrev Scanning := ExceptT FileError (StateM Output)

/-- Scans the files at some positions, one after the other. -/
def Scanning.each (root : Path) (parser : Parser) (rules : List Checker) :
    List (List String) → Scanning (List FileScan)
  | [] => return []
  | p :: rest => do
    let s ← scanFile (← get).tree root parser rules p
    modify fun o => o.log s.records
    return s :: (← each root parser rules rest)

/-- Scans the Markdown files below a root, and keeps a log of it. -/
def Scanning.all (root : Path) (parser : Parser) (rules : List Checker) :
    Scanning (List FileScan) := do
  let positions := discover (← get).tree root markdownExtensions
  modify fun o => o.log [scanRecord positions.length rules.length]
  each root parser rules positions

/-! ## Running -/

/-- Tells the result of a scan, writes reports on it and judges it. -/
def Printing.conclude (out : Outlet) (c : Configuration) (scans : List FileScan) :
    Printing Outcome := do
  let result := ScanResult.ofScans scans
  echo out.stream result.summary
  put out.stream "\n"
  writeReports out c.reports result
  let o ← get
  let outcome : Outcome :=
    { result, threshold := c.threshold
      reports := o.written, reportFailures := o.failures }
  set (o.log (outcome.failureMessage.toList.map fun m => ⟨.info, "mdlint.processing", m⟩))
  return outcome

/-- What a run works with. -/
structure Plan where
  configuration : Configuration
  rules : List Checker
  parser : Parser

/-- What a request has a run work with. -/
def RunRequest.plan (libs : Libraries) (tree : Entry) (q : RunRequest) : Except RunError Plan := do
  let configuration ← (q.source.resolve libs.load tree).mapError .setup
  let rules ← (configuration.instantiate libs.named).mapError .setup
  let parser ← (libs.parser q.options).mapError .parser
  return { configuration, rules := rules.map Rule.checker, parser }

/-- The steps of a run (`process`). -/
def RunRequest.perform (libs : Libraries) (q : RunRequest) :
    ExceptT RunError (StateM Output) Outcome := do
  let plan ← q.plan libs (← get).tree
  let scans ← (Scanning.all q.root plan.parser plan.rules).adapt .unreadable
  (Printing.conclude (q.outlet libs) plan.configuration scans).adapt .interrupted

/-- Runs what is requested: the outcome, or why there is none, and what has been done. -/
def run (libs : Libraries) (tree : Entry) (q : RunRequest) : Except RunError Outcome × Output :=
  StateT.run (ExceptT.run (q.perform libs)) { tree }

end MarkdownLint
