import MarkdownLint.Association
import MarkdownLint.Files.Path
import MarkdownLint.Text.Quoted

/-!
A tree of files and folders. Positions in the tree are lists of names; a path, which may go up again
by `..`, is resolved to a position first. The top of a tree is like the root of a file system: what
is above it is itself.

A tree holds plain files and folders and nothing else. Links, special files, permissions and limits
on space and on the lengths of names are left out, so that an operation can fail only because of
what does or does not stand at a path.
-/
namespace MarkdownLint

/-- A file with its content, or a folder with the entries in it, in the order of their listing. -/
inductive Entry where
  | file (content : ByteArray)
  | folder (entries : List (String × Entry))

namespace Entry

/-- A folder with nothing in it. -/
def empty : Entry := .folder []

/-- Whether an entry is a folder. -/
def isFolder : Entry → Bool
  | folder _ => true
  | file _ => false

/-- The entry with the given name. -/
def child? (entries : List (String × Entry)) (name : String) : Option Entry := entries.lookup name

/-- What stands at a position below an entry. -/
def get? : Entry → List String → Option Entry
  | e, [] => some e
  | folder entries, name :: rest =>
    match child? entries name with
    | some e => e.get? rest
    | none => none
  | file _, _ :: _ => none

/-- Puts an entry at a position; folders on the way are made, and files on the way stay. -/
def put : Entry → List String → Entry → Entry
  | _, [], new => new
  | folder entries, name :: rest, new =>
    folder (Association.assign entries name (((child? entries name).getD empty).put rest new))
  | file c, _ :: _, _ => file c

/-- Takes the entry at a position away. -/
def erase : Entry → List String → Entry
  | folder entries, [name] => folder (entries.filter fun x => x.1 != name)
  | folder entries, name :: rest =>
    match child? entries name with
    | some e => folder (Association.assign entries name (e.erase rest))
    | none => folder entries
  | e, _ => e

end Entry

/-- Why an operation on files fails. -/
inductive FileError where
  | missing (path : String)
  | exists (path : String)
  | notFolder (path : String)
  | isFolder (path : String)
deriving Repr, DecidableEq

/-- The wording of a failure. -/
def FileError.message : FileError → String
  | missing p => "[Errno 2] No such file or directory: " ++ Text.quoted p
  | .exists p => "[Errno 17] File exists: " ++ Text.quoted p
  | notFolder p => "[Errno 20] Not a directory: " ++ Text.quoted p
  | isFolder p => "[Errno 21] Is a directory: " ++ Text.quoted p

/-- Where a path leads. -/
inductive Place where
  /-- To something in the tree. -/
  | found (position : List String) (entry : Entry)
  /-- To a name that a folder does not have. -/
  | vacant (position : List String)
  /-- Nowhere, since a folder on the way is missing. -/
  | missing
  /-- Nowhere, since a file stands on the way. -/
  | blocked

/-- Follows names from a position, which the entries on the way to it lead to. Going up from the top
leads to the top. -/
def resolveFrom (root : Entry) : List String → List String → Place
  | position, [] =>
    match root.get? position with
    | some e => .found position e
    | none => .missing
  | position, name :: rest =>
    match root.get? position with
    | some (.folder entries) =>
      if name == ".." then resolveFrom root position.dropLast rest
      else
        match Entry.child? entries name with
        | some _ => resolveFrom root (position ++ [name]) rest
        | none => if rest.isEmpty then .vacant (position ++ [name]) else .missing
    | some (.file _) => .blocked
    | none => .missing

namespace Entry

/-- Where a path leads in a tree. -/
def resolve (root : Entry) (p : Path) : Place := resolveFrom root [] p.parts

/-- What a path leads to. -/
def at? (root : Entry) (p : Path) : Option Entry :=
  match root.resolve p with
  | .found _ e => some e
  | _ => none

/-- Whether a path leads to a folder. -/
def isFolderAt (root : Entry) (p : Path) : Bool := ((root.at? p).map isFolder).getD false

/-- The content of the file that a path leads to. -/
def read (root : Entry) (p : Path) : Except FileError ByteArray :=
  match root.resolve p with
  | .found _ (.file c) => .ok c
  | .found _ (.folder _) => .error (.isFolder p.text)
  | .blocked => .error (.notFolder p.text)
  | _ => .error (.missing p.text)

/-- Makes the folder that a path leads to, in a folder that is there. One that is there already is
fine. -/
def makeLast (root : Entry) (p : Path) : Entry × Option FileError :=
  match root.resolve p with
  | .found _ (.folder _) => (root, none)
  | .found _ (.file _) => (root, some (.exists p.text))
  | .vacant position => (root.put position empty, none)
  | .blocked => (root, some (.notFolder p.text))
  | .missing => (root, some (.missing p.text))

/-- Makes the folder that a path leads to, and those on the way if there is a need. The number of
steps bounds the number of folders on the way. A failure leaves the folders made so far. -/
def makeFolder : Nat → Entry → Path → Entry × Option FileError
  | 0, root, p => root.makeLast p
  | n + 1, root, p =>
    match root.resolve p with
    | .missing =>
      if p.parts.isEmpty then (root, some (.missing p.text))
      else
        match makeFolder n root p.parent with
        | (root, none) => root.makeLast p
        | failed => failed
    | _ => root.makeLast p

/-- How many folders above the one that a path leads to are missing, each inside the one before. The
number of steps bounds it. -/
def missingAbove : Nat → Entry → Path → Nat
  | 0, _, _ => 0
  | n + 1, root, p =>
    match root.resolve p with
    | .missing => missingAbove n root p.parent + 1
    | _ => 0

/-- Writes a file, making the folders on the way to it (`write_bytes`). A failure leaves the folders
made so far. -/
def write (root : Entry) (p : Path) (content : ByteArray) : Entry × Option FileError :=
  match makeFolder p.parts.length root p.parent with
  | (root, some e) => (root, some e)
  | (root, none) =>
    match root.resolve p with
    | .found _ (.folder _) => (root, some (.isFolder p.text))
    | .found position (.file _) => (root.put position (.file content), none)
    | .vacant position => (root.put position (.file content), none)
    | .blocked => (root, some (.notFolder p.text))
    | .missing => (root, some (.missing p.text))

end Entry

end MarkdownLint
