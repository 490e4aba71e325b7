import MarkdownLint.Scan

/-!
The summary of a scan for people: the number of files, and a line for each violation.
-/
namespace MarkdownLint.ScanResult

/-- The line of a violation. -/
def summaryLine (filename : String) (v : Violation) : String :=
  "    " ++ v.rule ++ " at " ++ filename ++ ":" ++ toString v.line ++ ":" ++ toString v.column

/-- The lines of a summary. -/
def summaryLines (r : ScanResult) : List String :=
  (toString r.fileCount ++ " markdown files were analysed") :: "" ::
    if r.violations.isEmpty then ["No errors reported"]
    else "Errors:" :: r.violations.flatMap fun f => f.2.map (summaryLine f.1)

/-- The summary of a scan (`format_summary`). -/
def summary (r : ScanResult) : String := "\n".intercalate r.summaryLines

end MarkdownLint.ScanResult
