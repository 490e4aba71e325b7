import MarkdownLint.Check.Heading

/-!
The check of the style of thematic breaks: all are written the same way, which is that of the first
one or a given one. Breaks inside containers are compared without the markers before them.
-/
namespace MarkdownLint.Check

open Markdown (Label Node)

/-- The style that stands for whatever the first break looks like. -/
def consistentStyle : String := "consistent"

/-- Styles with a name. -/
def namedStyles : List (String × String) :=
  [("dash", "---"), ("asterisk", "***"), ("underscore", "___")]

/-- A line without the marker of a quote at its start. -/
def dropQuoteMarker (line : List Char) : List Char :=
  match line.dropWhile Text.isIndent with
  | '>' :: rest => rest
  | _ => line

/-- A line without the marker of a list item at its start. -/
def dropItemMarker (line : List Char) : List Char :=
  let separated (rest : List Char) : Bool := rest.head?.any Text.isIndent
  match line.dropWhile Text.isIndent with
  | [] => line
  | c :: cs =>
    if c == '-' || c == '*' || c == '+' then if separated cs then cs else line
    else
      let digits := (c :: cs).takeWhile Char.isDigit
      match (c :: cs).drop digits.length with
      | e :: rest =>
        if 1 ≤ digits.length && digits.length ≤ 9 && (e == '.' || e == ')') && separated rest then
          rest
        else line
      | [] => line

/-- A line of a block without the marker of one of the containers around it. The marker of a list
item stands on the item's first line only. -/
def dropMarker (first : Nat) (line : List Char) (container : Label) : List Char :=
  match container.kind with
  | .quote => dropQuoteMarker line
  | .listItem => if container.span.first == first then dropItemMarker line else line
  | _ => line

/-- How a break is written, the markers of its containers left out (`rule_text`). -/
def breakText (line : List Char) (n : Node) : List Char :=
  Text.trim (n.ancestors.foldl (dropMarker n.span.first) line)

/-- The breaks of a list that are written differently than expected; without an expectation the
first one sets it. -/
def visitBreaks (check : Check) (d : Document) :
    Option String → List Node → Except Fault (List Violation)
  | _, [] => return []
  | expected, n :: rest => do
    let (start, stop) ← d.blockRange n.span
    let text := String.ofList (breakText (d.slice start stop) n)
    match expected with
    | none => visitBreaks check d (some text) rest
    | some e =>
      if text == e then visitBreaks check d expected rest
      else
        let message := check.description ++ " (expected '" ++ e ++ "')"
        let v ← check.report d start stop (some message)
        return v :: (← visitBreaks check d expected rest)

/-- The text that a style requires, unless the first break sets it. -/
def expectedBreak (style : String) : Option String :=
  if style == consistentStyle then none else some ((namedStyles.lookup style).getD style)

/-- Every thematic break that is written in another style (`HrStyleRule.visit`). -/
def visitBreakStyle (style : String) (d : Document) : Except Fault (List Violation) :=
  visitBreaks (breakStyle style) d (expectedBreak style)
    (d.nodesWhere (· == .thematicBreak))

end MarkdownLint.Check
