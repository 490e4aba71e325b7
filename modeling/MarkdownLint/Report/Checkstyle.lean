import MarkdownLint.Scan
import MarkdownLint.Text.Integer
import MarkdownLint.Xml.Reader

/-!
The structured report: violations by file, as a checkstyle document, written and read.
-/
namespace MarkdownLint.Checkstyle

/-- The version that reports carry. -/
def version : String := "0.1.0"

/-! ## Writing -/

/-- The element of a violation (`_error_element`). -/
def violationLine (v : Violation) : String :=
  "<error line=\"" ++ toString v.line ++ "\" column=\"" ++ toString v.column ++ "\" severity=\"" ++
    v.severity.name ++ "\" message=\"" ++ Xml.encode v.message ++ "\" source=\"" ++
    Xml.encode v.rule ++ "\"/>"

/-- The lines of the element of a file. -/
def fileLines (f : String × List Violation) : List String :=
  ("<file name=\"" ++ Xml.encode f.1 ++ "\">") :: f.2.map violationLine ++ ["</file>"]

/-- The lines of a report. -/
def lines (r : ScanResult) : List String :=
  "<?xml version=\"1.0\" encoding=\"UTF-8\"?>" ::
    ("<checkstyle version=\"" ++ Xml.encode version ++ "\">") ::
    r.violations.flatMap fileLines ++ ["</checkstyle>"]

/-- The report of a scan (`render_checkstyle`). It depends on nothing but the result. -/
def render (r : ScanResult) : String := "\n".intercalate (lines r) ++ "\n"

/-! ## Reading -/

/-- A violation as a report tells it. -/
structure Item where
  line : Int
  column : Int
  severity : String
  message : String
  source : String
deriving Repr, DecidableEq

/-- A file as a report tells it. -/
structure FileItems where
  name : String
  items : List Item
deriving Repr, DecidableEq

/-- Why a report cannot be read. -/
inductive ReadError where
  | malformed
  | unknownEncoding (name : String)
  | notInteger (text : String)
deriving Repr, DecidableEq

/-- The wording of an error that has one. -/
def ReadError.message : ReadError → Option String
  | malformed => none
  | unknownEncoding name => some ("unknown encoding: " ++ name)
  | notInteger text => some ("invalid literal for int() with base 10: " ++ Text.quoted text)

/-- The number that an attribute holds, zero if it is missing. -/
def numberOf (e : Xml.Element) (key : String) : Except ReadError Int :=
  let text := (e.get? key).getD "0"
  match Text.readInteger? text with
  | some n => .ok n
  | none => .error (.notInteger text)

/-- The violation that an element tells. -/
def itemOf (e : Xml.Element) : Except ReadError Item := do
  return {
    line := ← numberOf e "line"
    column := ← numberOf e "column"
    severity := (e.get? "severity").getD "error"
    message := (e.get? "message").getD ""
    source := (e.get? "source").getD "" }

/-- The file that an element tells. -/
def fileOf (e : Xml.Element) : Except ReadError FileItems := do
  return ⟨(e.get? "name").getD "", ← (e.named "error").mapM itemOf⟩

/-- Files in the order of their names; files of one name keep their order. -/
def sortFiles (files : List FileItems) : List FileItems :=
  files.mergeSort fun a b => !(b.name < a.name)

/-- The files of a report given as an element. -/
def ofElement (root : Xml.Element) : Except ReadError (List FileItems) := do
  return sortFiles (← (root.named "file").mapM fileOf)

/-- The files of a report given as text. -/
def readText (text : List Char) : Except ReadError (List FileItems) :=
  match Xml.parse? text with
  | none => .error .malformed
  | some root => ofElement root

/-- The files of a report (`read_checkstyle`). -/
def read (bytes : ByteArray) : Except ReadError (List FileItems) :=
  match Xml.decode bytes with
  | .error .malformed => .error .malformed
  | .error (.unknown name) => .error (.unknownEncoding name)
  | .ok text => readText text

end MarkdownLint.Checkstyle
