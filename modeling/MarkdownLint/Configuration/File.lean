import MarkdownLint.Configuration.Mapping
import MarkdownLint.Files.Tree
import MarkdownLint.Text.Line
import MarkdownLint.Text.Utf8
import MarkdownLint.Yaml.Error

/-!
Configurations in files. A file that cannot be read, or that does not describe a configuration, is
reported with its path.
-/
namespace MarkdownLint.Configuration

/-- How a text is read as a value. -/
abbrev Loader := List Char → Except Yaml.LoadError Value

/-- What is said of a file that is no well-formed YAML. -/
def malformedDetail : String := "<yaml error>"

/-- What is said of bytes that are no text. A file is decoded piece by piece, and what is left at
its end is a piece of its own. -/
def undecodedDetail (e : Text.DecodeError) : String :=
  match e.reason with
  | .unexpectedEnd => { e with start := 0, stop := e.stop - e.start : Text.DecodeError }.message
  | _ => e.message

/-- Names the file in which a mistake was made. -/
def inFile (path : String) : SetupError → SetupError
  | .configuration e => .configuration (.file path e.message)
  | e => e

/-- The value of a configuration file with the given content (`read_yaml_file`). -/
def fileValue (load : Loader) (path : String) (content : ByteArray) : Except SetupError Value :=
  match Text.decode content with
  | .error e => .error (.configuration (.file path (undecodedDetail e)))
  | .ok text =>
    match load (Text.universalNewlines text.toList) with
    | .ok v => .ok v
    | .error .malformed => .error (.configuration (.file path malformedDetail))
    | .error (.scalar e) => .error (.scalar e)

/-- The configuration in a file (`load_configuration`). A missing file is like an empty one. -/
def ofFile (load : Loader) (tree : Entry) (p : Path) : Except SetupError Configuration :=
  match tree.at? p with
  | none => .error (.configuration (.emptyFile p.text))
  | some (.folder _) =>
    .error (.configuration (.file p.text (FileError.isFolder p.text).message))
  | some (.file content) => do
    match ← fileValue load p.text content with
    | .scalar .null => .error (.configuration (.emptyFile p.text))
    | v => (ofValue v).mapError (inFile p.text)

end MarkdownLint.Configuration
