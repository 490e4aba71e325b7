import MarkdownLint.Check.Basic

/-!
The check of line length. A line is too long only if it could have been broken: a blank character
must stand beyond the limit.
-/
namespace MarkdownLint.Check

/-- The part beyond the limit of every line that is too long (`LineLengthRule.visit`); lines in
blocks of code count only if `codeBlocks` says so. -/
def visitLineLength (limit : Nat) (codeBlocks : Bool) (d : Document) :
    Except Fault (List Violation) :=
  d.collectLines fun i => do
    if !codeBlocks && d.isCodeLine i then return none
    let text ← d.lineText i
    if limit < text.length && (text.drop limit).any Text.isBlank then
      let check := lineLength limit codeBlocks
      let message := check.description ++ " (> " ++ toString limit ++ ")"
      let start ← d.lineStart i
      return some (← check.report d (start + limit) (← d.lineEnd i) (some message))
    return none

end MarkdownLint.Check
