import MarkdownLint.Check.Basic

/-!
Checks of headings: the level of the first, the number of titles, and the blank lines around them.
-/
namespace MarkdownLint.Check

open Markdown (Node)

/-- A violation on the lines of a block. -/
def reportNode (c : Check) (d : Document) (n : Node) (message : Option String) :
    Except Fault Violation := do
  let (start, stop) ← d.blockRange n.span
  c.report d start stop message

/-- The first heading, if it has another level (`FirstHeaderH1Rule.visit`). -/
def visitFirstHeading (level : Level) (d : Document) : Except Fault (List Violation) :=
  match d.headings with
  | [] => return []
  | (number, n) :: _ => do
    if number == level.number then return []
    return [← (firstHeading level).reportNode d n none]

/-- Every heading of the level after the first of them (`SingleH1Rule.visit`). -/
def visitSingleHeading (level : Level) (d : Document) : Except Fault (List Violation) :=
  ((d.headings.filter fun h => h.1 == level.number).drop 1).mapM fun h =>
    (singleHeading level).reportNode d h.2 none

/-- Every heading outside containers without a blank line before and after it
(`BlanksAroundHeadersRule.visit`). The start and the end of the document count as blank. -/
def visitBlanksAroundHeadings (d : Document) : Except Fault (List Violation) := do
  let found ← (d.headings.filter fun h => h.2.ancestors.isEmpty).mapM fun h => do
    let span := h.2.span
    let before ← if span.first == 0 then pure true else d.isBlank (span.first - 1 : Nat)
    let after ← if d.lineCount ≤ span.last then pure true else d.isBlank span.last
    if before && after then return none
    return some (← blanksAroundHeadings.reportNode d h.2 none)
  return found.filterMap id

end MarkdownLint.Check
