import MarkdownLint.Files.Discovery
import MarkdownLint.Rule.Catalog
import MarkdownLint.Text.Utf8

/-!
Scanning: every Markdown file of a project is parsed and looked at by every rule. A file that is no
text or cannot be parsed is skipped, and a rule that fails contributes nothing for that file. A file
that cannot be read ends the scan.
-/
namespace MarkdownLint

/-- What scanning asks of a rule: its name, and what it finds in a document. -/
structure Checker where
  name : String
  process : Document → Except Fault (List Violation)

/-- A rule as scanning sees it. -/
def Rule.checker (r : Rule) : Checker := ⟨r.name, r.process⟩

/-- A rule failed on a document (`RuleEvaluationError`). -/
structure RuleFailure where
  rule : String
  filename : String
  cause : Fault
deriving Repr, DecidableEq

/-- The wording of a rule's failure. -/
def RuleFailure.message (f : RuleFailure) : String :=
  "Rule '" ++ f.rule ++ "' failed on '" ++ f.filename ++ "': " ++ f.cause.quoted

/-- The outcome for one file. -/
structure FileScan where
  filename : String
  violations : List Violation := []
  parseFailure : Option ParseFailure := none
  ruleFailures : List RuleFailure := []

/-- Runs rules on a document, in order (`apply_rules`). -/
def applyRules (d : Document) : List Checker → FileScan
  | [] => { filename := d.filename }
  | r :: rest =>
    let scan := applyRules d rest
    match r.process d with
    | .ok vs => { scan with violations := vs ++ scan.violations }
    | .error cause => { scan with ruleFailures := ⟨r.name, d.filename, cause⟩ :: scan.ruleFailures }

/-- The document that bytes hold (`read_text_file`). Line terminators are unified when a file is
read. -/
def readDocument (parser : Parser) (content : ByteArray) (filename : String) :
    Except ParseFailure Document :=
  match Text.decode content with
  | .error e => .error ⟨filename, "not valid UTF-8 (" ++ e.reason.message ++ ")"⟩
  | .ok text => loadDocument parser (Text.universalNewlines text.toList) filename

/-- The outcome for a file with the given content. -/
def scanContent (parser : Parser) (rules : List Checker) (content : ByteArray)
    (filename : String) : FileScan :=
  match readDocument parser content filename with
  | .error failure => { filename, parseFailure := some failure }
  | .ok d => applyRules d rules

/-- The outcome for the file at a position below a root (`scan_file`), if it can be read. -/
def scanFile (tree : Entry) (root : Path) (parser : Parser) (rules : List Checker)
    (position : List String) : Except FileError FileScan :=
  (tree.read (root ++ ⟨position⟩)).map fun content =>
    scanContent parser rules content (positionText position)

/-- The outcome of a scan: the number of files, the violations of each file that has some, in
order, and what went wrong. -/
structure ScanResult where
  fileCount : Nat := 0
  violations : List (String × List Violation) := []
  parseFailures : List ParseFailure := []
  ruleFailures : List RuleFailure := []

namespace ScanResult

/-- Records a file (`ScanResult.add_file`); one without violations is only counted. -/
def addFile (r : ScanResult) (filename : String) (vs : List Violation) : ScanResult :=
  { r with
    fileCount := r.fileCount + 1
    violations := if vs.isEmpty then r.violations else Association.assign r.violations filename vs }

/-- Records the outcome for a file. -/
def add (r : ScanResult) (s : FileScan) : ScanResult :=
  let r := r.addFile s.filename s.violations
  { r with
    parseFailures := r.parseFailures ++ s.parseFailure.toList
    ruleFailures := r.ruleFailures ++ s.ruleFailures }

/-- The number of violations (`ScanResult.total`). -/
def total (r : ScanResult) : Nat := (r.violations.flatMap (·.2)).length

/-- The record of the outcomes for some files. -/
def ofScans (scans : List FileScan) : ScanResult := scans.foldl add {}

end ScanResult

/-- The outcomes for the Markdown files below a root, in the order of their paths. -/
def scanFiles (tree : Entry) (root : Path) (parser : Parser) (rules : List Checker) :
    Except FileError (List FileScan) :=
  (discover tree root markdownExtensions).mapM (scanFile tree root parser rules)

/-- Scans the Markdown files below a root (`scan`). -/
def scan (tree : Entry) (root : Path) (parser : Parser) (rules : List Checker) :
    Except FileError ScanResult :=
  (scanFiles tree root parser rules).map .ofScans

end MarkdownLint
