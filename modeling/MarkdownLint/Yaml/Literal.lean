import MarkdownLint.Yaml.Cursor

/-!
Block scalars: the indented lines after `|` or `>`. A literal scalar keeps its line breaks, a folded
one joins lines; digits and signs after the mark give the indentation and say which line breaks at
the end stay.
-/
namespace MarkdownLint.Yaml.Reader

/-- Which line breaks at the end of a block scalar stay. -/
inductive Chomping where
  | strip
  | clip
  | keep
deriving Repr, DecidableEq

/-- Reads the sign that says which line breaks stay. -/
def chomping? : Reader (Option Chomping) := do
  match ← peek with
  | '+' =>
    skip 1
    return some .keep
  | '-' =>
    skip 1
    return some .strip
  | _ => return none

/-- Reads the digit that gives the indentation. -/
def increment? : Reader (Option Nat) := do
  let c ← peek
  if !c.isDigit then return none
  if c == '0' then refuse
  skip 1
  return some (c.toNat - '0'.toNat)

/-- Reads what follows the mark of a block scalar: a sign and a digit in either order. -/
def blockHeader : Reader (Chomping × Option Nat) := do
  match ← chomping? with
  | some chomping =>
    let increment ← increment?
    require isSpaceOrEnd
    return (chomping, increment)
  | none =>
    let increment ← increment?
    let chomping ← if increment.isSome then chomping? else pure none
    require isSpaceOrEnd
    return (chomping.getD .clip, increment)

/-- Reads the empty lines before a block scalar of unknown indentation: their breaks and the
greatest column that is reached. -/
def blockIndentation (widest : Nat) : Nat → Reader (List Char × Nat)
  | 0 => refuse
  | fuel + 1 => do
    if (← peek) == ' ' then
      skip 1
      blockIndentation (max widest (← get).column) fuel
    else
      match ← lineBreak with
      | [] => return ([], widest)
      | b =>
        let (breaks, widest) ← blockIndentation widest fuel
        return (b ++ breaks, widest)

/-- Goes past spaces, at most up to a column. -/
def skipIndent (indent : Nat) : Reader Unit := do
  let c ← get
  skip ((c.rest.take (indent - c.column)).takeWhile (· == ' ')).length

/-- Reads the breaks of the lines from here on that are empty when indented by `indent`. -/
def blockBreaks (indent : Nat) : Nat → Reader (List Char)
  | 0 => refuse
  | fuel + 1 => do
    skipIndent indent
    match ← lineBreak with
    | [] => return []
    | b => return b ++ (← blockBreaks indent fuel)

/-- Reads the lines of a block scalar from here on, where `breaks` are the empty lines before the
next one: the text, the last line's break, and the breaks after it. -/
def blockLines (folded : Bool) (indent : Nat) (last breaks : List Char) :
    Nat → Reader (List Char × List Char × List Char)
  | 0 => refuse
  | fuel + 1 => do
    let here ← get
    if here.column != indent || here.peek == '\x00' then return ([], last, breaks)
    let isBlank (c : Char) : Bool := c == ' ' || c == '\t'
    let startsBlank := isBlank here.peek
    let line ← takeWhile (!isLineEnd ·)
    let last ← lineBreak
    let following ← blockBreaks indent (← bound)
    let here ← get
    let join :=
      if here.column != indent || here.peek == '\x00' then []
      else if folded && last == ['\n'] && !startsBlank && !isBlank here.peek then
        if following.isEmpty then [' '] else []
      else last
    let (text, last, rest) ← blockLines folded indent last following fuel
    return (breaks ++ line ++ join ++ text, last, rest)

/-- Reads a block scalar below a node that is indented by `indent`. -/
def blockScalar (folded : Bool) (indent : Int) : Reader String := do
  skip 1
  let (chomping, increment) ← blockHeader
  endLine
  let least := max 1 (indent + 1).toNat
  let (breaks, indent) ← match increment with
    | none => do
      let (breaks, widest) ← blockIndentation 0 (← bound)
      pure (breaks, max least widest)
    | some n => do
      let indent := least + n - 1
      pure (← blockBreaks indent (← bound), indent)
  let (text, last, rest) ← blockLines folded indent [] breaks (← bound)
  return String.ofList (match chomping with
    | .strip => text
    | .clip => text ++ last
    | .keep => text ++ last ++ rest)

end MarkdownLint.Yaml.Reader
