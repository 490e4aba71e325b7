import MarkdownLint.CommandLine.Program

/-!
The program: reads the files below the current directory, answers its arguments, and writes what the
answer says.
-/
open MarkdownLint

/-- Reads a file, or a folder with everything in it. -/
partial def readEntry (e : IO.FS.DirEntry) : IO (String × Entry) := do
  if ← e.path.isDir then
    let entries ← (← e.path.readDir).mapM readEntry
    return (e.fileName, .folder entries.toList)
  else return (e.fileName, .file (← IO.FS.readBinFile e.path))

/-- Reads everything below the current directory. -/
def readTree : IO Entry := do
  let entries ← (← (← IO.currentDir).readDir).mapM readEntry
  return .folder entries.toList

/-- Writes the file at a path as it is in a tree. -/
def writeFile (tree : Entry) (p : Path) : IO Unit := do
  match tree.at? p with
  | some (.file content) =>
    IO.FS.createDirAll p.parent.text
    IO.FS.writeBinFile p.text content
  | _ => pure ()

/-- What is said of a run that fails. -/
def causeText : RunError → String
  | .setup e => e.message.getD "keys of different types cannot be sorted"
  | .parser e => e.message
  | .unreadable e => e.message
  | .interrupted (.refused e) => e.reason
  | .interrupted .tooDeep => "too many folders are missing"

/-- Runs the program. -/
def main (argv : List String) : IO UInt32 := do
  let r := CommandLine.execute .standard .unlimited (← readTree) argv
  r.written.forM (writeFile r.tree)
  IO.print r.stdout
  IO.eprint r.stderr
  match r.exit with
  | .code n => return n.toUInt32
  | .message text =>
    IO.eprintln text
    return 1
  | .failure e =>
    IO.eprintln (causeText e)
    return 1
