import MarkdownLint.Check.Basic

/-!
Checks of blank characters: hard tabs, spaces at the end of lines, consecutive blank lines, and
blank characters in the name of the file.
-/
namespace MarkdownLint.Check

/-- Every hard tab (`NoHardTabsRule.visit`). -/
def visitHardTabs (d : Document) : Except Fault (List Violation) :=
  (d.text.zipIdx.filter fun p => p.1 == '\t').mapM fun p =>
    hardTabs.report d p.2 (p.2 + 1) none

/-- The spaces and tabs at the end of every line that has some (`NoTrailingSpacesRule.visit`). -/
def visitTrailingSpaces (d : Document) : Except Fault (List Violation) :=
  d.collectLines fun i => do
    let text ← d.lineText i
    let kept := Text.dropEndWhile Text.isIndent text
    if kept.length == text.length then return none
    let start ← d.lineStart i
    return some (← trailingSpaces.report d (start + kept.length) (← d.lineEnd i) none)

/-- Every blank line that follows a blank line, where neither lies in a block of code
(`NoMultipleBlanksRule.visit`). -/
def visitMultipleBlanks (d : Document) : Except Fault (List Violation) :=
  d.collectLines fun i => do
    if i == 0 || d.isCodeLine i || d.isCodeLine (i - 1) then return none
    if (← d.isBlank i) then
      if ← d.isBlank (i - 1 : Nat) then
        return some (← multipleBlanks.report d (← d.lineStart i) (← d.lineEnd i) none)
    return none

/-- The part of a path behind its last slash. -/
def basename (path : String) : String :=
  String.ofList ((path.toList.reverse.takeWhile (· != '/')).reverse)

/-- The document, if the name of its file holds a blank character
(`NoWhitespaceInFilenameRule.visit`). -/
def visitFilename (d : Document) : Except Fault (List Violation) := do
  let base := basename d.filename
  if base.toList.any Text.isBlank then
    return [← filename.report d 0 0 (some (filename.description ++ ": " ++ base))]
  return []

end MarkdownLint.Check
