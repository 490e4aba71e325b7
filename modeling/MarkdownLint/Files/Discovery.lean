import MarkdownLint.Files.Tree

/-!
The Markdown files of a project: all files with a Markdown extension outside hidden folders and
folders of build output, in the order of their paths.
-/
namespace MarkdownLint

/-- The extensions of Markdown files. -/
def markdownExtensions : List String := [".md", ".markdown"]

/-- Whether a folder is left out (`is_pruned`): build output and hidden folders are. -/
def isPruned (name : String) : Bool := name == "build" || name.toList.head? == some '.'

/-- Whether a name ends in one of the extensions. -/
def hasExtension (extensions : List String) (name : String) : Bool :=
  extensions.any fun e => e.toList.isSuffixOf name.toList

namespace Entry

/-- The positions of the files with one of the extensions among some entries and below them. -/
def filesIn (extensions : List String) : List (String × Entry) → List (List String)
  | [] => []
  | (name, .file _) :: rest =>
    (if hasExtension extensions name then [[name]] else []) ++ filesIn extensions rest
  | (name, .folder entries) :: rest =>
    (if isPruned name then [] else (filesIn extensions entries).map (name :: ·)) ++
      filesIn extensions rest

/-- The positions of the files with one of the extensions below an entry. -/
def filesBelow (extensions : List String) : Entry → List (List String)
  | .file _ => []
  | .folder entries => filesIn extensions entries

end Entry

/-- A position as text. -/
def positionText (position : List String) : String := "/".intercalate position

/-- Positions sorted by their text, which is compared as a whole. -/
def sortPositions (positions : List (List String)) : List (List String) :=
  positions.mergeSort fun a b => !(positionText b < positionText a)

/-- The files with one of the extensions below a root, relative to it and in order
(`iter_markdown_files`). -/
def discover (tree : Entry) (root : Path) (extensions : List String) : List (List String) :=
  match tree.at? root with
  | some e => sortPositions (e.filesBelow extensions)
  | none => []

end MarkdownLint
