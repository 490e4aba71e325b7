import MarkdownLint.Log.Basic
import MarkdownLint.Report.Html

/-!
Writing reports. Each report that is asked for is attempted, whatever becomes of the others; a page
is made from the structured report, so that both tell the same. What becomes of a report is printed.
A stream that refuses what is printed, or a folder that is too deep to be made, breaks the run off,
and what has been done by then stays done.
-/
namespace MarkdownLint

namespace Report

/-- What a report is called in messages. -/
def title : Report → String
  | checkstyle => "Checkstyle XML"
  | html => "HTML"

/-- The name of a report's file. -/
def fileName : Report → String
  | checkstyle => "markdownlint.xml"
  | html => "markdownlint.html"

/-- The content of a report, made from the text of the structured one (`write_checkstyle_report`,
`write_html_report`). -/
def content (xml : String) : Report → Except String ByteArray
  | checkstyle => .ok xml.toUTF8
  | html =>
    match Html.render xml.toUTF8 with
    | .ok page => .ok page.toUTF8
    | .error e => .error (e.message.getD "not well-formed")

end Report

/-- A report could not be generated (`ReportGenerationError`). -/
structure ReportFailure where
  report : Report
  path : Path
  reason : String
deriving Repr, DecidableEq

/-- The wording of a failure. -/
def ReportFailure.message (f : ReportFailure) : String :=
  "Failed to generate " ++ f.report.title ++ " report at " ++ f.path.text ++ ": " ++ f.reason

/-! ## Printing -/

/-- Why a stream does not take a text. -/
structure PrintError where
  kind : String
  reason : String
deriving Repr, DecidableEq

/-- A stream that texts are written to. It may refuse a text because of the text itself or of those
that it has taken before. -/
structure Stream where
  refusal? : List String → String → Option PrintError

/-- A stream that takes every text. -/
def Stream.unlimited : Stream := ⟨fun _ _ => none⟩

/-- Where a run puts what it has found: the stream that it prints to, if there is one, and the
folder of its reports. -/
structure Outlet where
  stream : Option Stream
  folder : Path
  /-- How many missing folders there may be above the folder of the reports. They are made by calls
  inside each other, for which there is only so much room. -/
  depth : Nat

/-- Why a run is broken off. -/
inductive Interruption where
  /-- The stream has refused a text. -/
  | refused (e : PrintError)
  /-- Too many folders are missing above the folder of the reports. -/
  | tooDeep
deriving Repr, DecidableEq

/-- What a run has done so far. -/
structure Output where
  /-- The files as they are now. -/
  tree : Entry
  /-- The reports that were written. -/
  written : List (Report × Path) := []
  /-- The reports that were asked for and not written. -/
  failures : List ReportFailure := []
  /-- The texts that the stream has taken. -/
  printed : List String := []
  records : List Log.Record := []

/-- Steps of a run that print. One that is broken off leaves what has been done by then. -/
abbrev Printing := ExceptT Interruption (StateM Output)

namespace Printing

/-- Writes a text to the stream, if there is one. -/
def put (stream : Option Stream) (text : String) : Printing Unit :=
  match stream with
  | none => return ()
  | some s => do
    match s.refusal? (← get).printed text with
    | some e => throw (.refused e)
    | none => modify fun o => { o with printed := o.printed ++ [text] }

/-- Prints a line: its text, and then its end (`_echo`). -/
def echo (stream : Option Stream) (line : String) : Printing Unit := do
  put stream line
  put stream "\n"

/-- Records a report that was not written (`_record_failure`). -/
def recordFailure (stream : Option Stream) (f : ReportFailure) : Printing Unit := do
  modify fun o => { o with
    failures := o.failures ++ [f]
    records := o.records ++ [⟨.warning, "mdlint.reports", f.message⟩] }
  echo stream ("Warning: " ++ f.message)

/-- Records a report that was written. -/
def recordReport (stream : Option Stream) (r : Report) (p : Path) : Printing Unit := do
  modify fun o => { o with written := o.written ++ [(r, p)] }
  echo stream ("Successfully generated " ++ r.title ++ " report at " ++ p.text)

/-- Attempts a report. -/
def attempt (out : Outlet) (xml : String) (r : Report) : Printing Unit := do
  let p := out.folder.child r.fileName
  match r.content xml with
  | .error reason => recordFailure out.stream ⟨r, p, reason⟩
  | .ok content =>
    let before := (← get).tree
    if out.depth < Entry.missingAbove out.folder.parts.length before out.folder then throw .tooDeep
    else
      let (tree, failure) := before.write p content
      modify fun o => { o with tree }
      match failure with
      | none => recordReport out.stream r p
      | some e => recordFailure out.stream ⟨r, p, e.message⟩

/-- Writes the reports that are asked for (`generate_reports`). -/
def writeReports (out : Outlet) (reports : Reports) (result : ScanResult) : Printing Unit :=
  reports.toList.forM (attempt out (Checkstyle.render result))

end Printing

end MarkdownLint
