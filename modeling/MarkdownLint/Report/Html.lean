import MarkdownLint.Report.Checkstyle

/-!
The report for people, an HTML page made from the structured report, so that both always tell the
same violations.
-/
namespace MarkdownLint.Html

open Checkstyle (FileItems Item)

/-- How a character is written in the text and the attributes of a page. -/
def escapeChar (c : Char) : List Char :=
  match c with
  | '&' => "&amp;".toList
  | '<' => "&lt;".toList
  | '>' => "&gt;".toList
  | '\'' => "&#39;".toList
  | '"' => "&#34;".toList
  | c => [c]

/-- A text as it is written in a page. -/
def escape (s : String) : String := String.ofList (s.toList.flatMap escapeChar)

/-- The head of a page, up to the table of totals. -/
def head : List String :=
  ["<!DOCTYPE html>",
    "<html lang=\"en\">",
    "<head>",
    "<meta charset=\"utf-8\">",
    "<title>Markdown Lint Audit</title>",
    "<style>",
    "  body \x7b margin: 1em 2em; font: normal 0.8em verdana, arial, helvetica, sans-serif; color: #000; \x7d",
    "  table tr td, table tr th \x7b font-size: 0.9em; \x7d",
    "  table.details tr th \x7b font-weight: bold; text-align: left; background: #a6caf0; \x7d",
    "  table.details tr td \x7b background: #eeeee0; \x7d",
    "  h1 \x7b margin: 0 0 5px; font: 165% verdana, arial, helvetica; \x7d",
    "  h2 \x7b margin-top: 1em; margin-bottom: 0.5em; font: bold 125% verdana, arial, helvetica; \x7d",
    "  h3 \x7b margin-bottom: 0.5em; font: bold 115% verdana, arial, helvetica; \x7d",
    "  .bannercell \x7b border: 0; padding: 0; \x7d",
    "</style>",
    "</head>",
    "<body>",
    "<a name=\"top\"></a>",
    "<table border=\"0\" cellpadding=\"0\" cellspacing=\"0\" width=\"100%\">",
    "  <tr>",
    "    <td class=\"bannercell\" rowspan=\"2\"></td>",
    "    <td style=\"text-align:right\"><h2>Markdown Lint Audit</h2></td>",
    "  </tr>",
    "</table>",
    "<hr size=\"1\">",
    "",
    "<h3>Summary</h3>",
    "<table class=\"log details\" border=\"0\" cellpadding=\"5\" cellspacing=\"2\" width=\"100%\">",
    "  <tr><th>Files</th><th>Errors</th></tr>"]

/-- The opening tag of a table with violations. -/
def tableTag (kind : String) : String :=
  "<table class=\"" ++ kind ++
    " details\" border=\"0\" cellpadding=\"5\" cellspacing=\"2\" width=\"100%\">"

/-- The row of totals. -/
def totalsRow (files violations : Nat) : String :=
  "  <tr><td class=\"summary-files\">" ++ toString files ++ "</td><td class=\"summary-errors\">" ++
    toString violations ++ "</td></tr>"

/-- The row of a rule: how often it was violated. -/
def ruleRow (r : String × Nat) : String :=
  "  <tr><td>" ++ escape r.1 ++ "</td><td>" ++ toString r.2 ++ "</td></tr>"

/-- The row of a file in the list of files; `index` is its number. -/
def fileRow (f : FileItems × Nat) : String :=
  "  <tr><td><a href=\"#f-" ++ toString f.2 ++ "\">" ++ escape f.1.name ++
    "</a></td><td class=\"file-errors\">" ++ toString f.1.items.length ++ "</td></tr>"

/-- The row of a violation. -/
def itemRow (i : Item) : String :=
  "  <tr class=\"error-row\"><td>" ++ escape i.message ++ "</td><td>" ++ escape i.source ++
    "</td><td>" ++ toString i.line ++ "</td><td>" ++ toString i.column ++ "</td></tr>"

/-- The section of a file. -/
def fileSection (f : FileItems × Nat) : List String :=
  ["", "<a name=\"f-" ++ toString f.2 ++ "\"></a>",
    "<h3 class=\"file\" data-file=\"" ++ escape f.1.name ++ "\">File " ++ escape f.1.name ++ "</h3>",
    tableTag "log",
    "  <tr><th>Error Description</th><th>Rule</th><th>Line</th><th>Column</th></tr>"] ++
    f.1.items.map itemRow ++ ["</table>", "<a href=\"#top\">Back to top</a>"]

/-- Adds one to the count of a key. -/
def increment (counts : List (String × Nat)) (key : String) : List (String × Nat) :=
  match counts with
  | [] => [(key, 1)]
  | c :: rest => if c.1 == key then (key, c.2 + 1) :: rest else c :: increment rest key

/-- How often each rule is violated, in the order of the names of the rules. -/
def ruleCounts (files : List FileItems) : List (String × Nat) :=
  (((files.flatMap (·.items)).map (·.source)).foldl increment []).mergeSort
    fun a b => !(b.1 < a.1)

/-- The lines of a page. -/
def lines (files : List FileItems) : List String :=
  let numbered := files.zipIdx 1
  let total := (files.flatMap (·.items)).length
  head ++ [totalsRow files.length total, "</table>", "", "<h3>Rules</h3>", tableTag "log",
    "  <tr><th>Rule</th><th>Violations</th></tr>"] ++ (ruleCounts files).map ruleRow ++
    ["</table>", "", "<h3>Files</h3>", tableTag "filelist",
      "  <tr><th>Name</th><th>Errors</th></tr>"] ++ numbered.map fileRow ++ ["</table>"] ++
    numbered.flatMap fileSection ++ ["</body>", "</html>"]

/-- The page for the files of a report. -/
def page (files : List FileItems) : String := "\n".intercalate (lines files) ++ "\n"

/-- The page made from a structured report (`render_html`). -/
def render (report : ByteArray) : Except Checkstyle.ReadError String :=
  (Checkstyle.read report).map page

end MarkdownLint.Html
