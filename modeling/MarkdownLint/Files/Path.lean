/-!
Relative paths: the names on the way from the current directory, `..` included. Empty names and `.`
do not count.
-/
namespace MarkdownLint

/-- A path. -/
structure Path where
  parts : List String
deriving Repr, DecidableEq

namespace Path

/-- The names of a path between slashes. -/
def splitSlash (s : String) : List String :=
  let step (acc : List (List Char)) (c : Char) : List (List Char) :=
    match acc with
    | [] => [[c]]
    | part :: rest => if c == '/' then [] :: part :: rest else (c :: part) :: rest
  ((s.toList.foldl step [[]]).map fun cs => String.ofList cs.reverse).reverse

/-- The path that a text denotes. -/
def ofString (s : String) : Path := ⟨(splitSlash s).filter fun p => !p.isEmpty && p != "."⟩

/-- A path as text; the current directory is `.`. -/
def text (p : Path) : String := if p.parts.isEmpty then "." else "/".intercalate p.parts

/-- The first path followed by the second. -/
def append (p q : Path) : Path := ⟨p.parts ++ q.parts⟩

instance : Append Path := ⟨append⟩

/-- A name inside a directory. -/
def child (p : Path) (name : String) : Path := ⟨p.parts ++ [name]⟩

/-- The path without its last name. -/
def parent (p : Path) : Path := ⟨p.parts.dropLast⟩

end Path

end MarkdownLint
