import MarkdownLint.Yaml.Error

/-!
A place in a text that is being read, and the steps that move it. The end of the text reads as NUL,
which no text that is read contains.
-/
namespace MarkdownLint.Yaml

/-- A place in a text: what is left, how many characters are behind, and the line and column. -/
structure Cursor where
  rest : List Char
  index : Nat := 0
  line : Nat := 0
  column : Nat := 0

/-! ## Classes of characters -/

/-- Whether a character may stand in a text. -/
def isAllowed (c : Char) : Bool :=
  let n := c.toNat
  n == 0x09 || n == 0x0A || n == 0x0D || (0x20 ≤ n && n ≤ 0x7E) || n == 0x85 ||
    (0xA0 ≤ n && n ≤ 0xFFFD) || 0x10000 ≤ n

/-- Whether a character ends a line. -/
def isBreak (c : Char) : Bool :=
  c == '\n' || c == '\r' || c == '\x85' || c == '\u2028' || c == '\u2029'

/-- Whether a line ends here, by a break or with the text. -/
def isLineEnd (c : Char) : Bool := isBreak c || c == '\x00'

/-- Whether a line ends or a space stands here. -/
def isSpaceOrEnd (c : Char) : Bool := isLineEnd c || c == ' '

/-- Whether a line ends or a space or tab stands here. -/
def isBlankOrEnd (c : Char) : Bool := isSpaceOrEnd c || c == '\t'

/-- Whether a character may stand in a name. -/
def isNameChar (c : Char) : Bool := c.isAlphanum || c == '-' || c == '_'

namespace Cursor

/-- The character here. -/
def peek (c : Cursor) : Char := c.rest.headD '\x00'

/-- The character `n` places ahead. -/
def peekAt (c : Cursor) (n : Nat) : Char := (c.rest.drop n).headD '\x00'

/-- One character further. The byte order mark takes no column. -/
def next (c : Cursor) : Cursor :=
  match c.rest with
  | [] => c
  | x :: rest =>
    if isBreak x && !(x == '\r' && rest.head? == some '\n') then
      { rest, index := c.index + 1, line := c.line + 1, column := 0 }
    else
      { rest, index := c.index + 1, line := c.line,
        column := if x == '\uFEFF' then c.column else c.column + 1 }

/-- A number of characters further. -/
def advance (c : Cursor) : Nat → Cursor
  | 0 => c
  | n + 1 => c.next.advance n

/-- Whether a document marker, `---` or `...`, stands here. -/
def atMarker (c : Cursor) (mark : Char) : Bool :=
  c.rest.take 3 == [mark, mark, mark] && isBlankOrEnd (c.peekAt 3)

/-- Whether either document marker stands here. -/
def atBoundary (c : Cursor) : Bool := c.atMarker '-' || c.atMarker '.'

end Cursor

/-! ## Reading -/

/-- Reads something from a text, or finds a fault. -/
abbrev Reader := StateT Cursor (Except LoadError)

namespace Reader

/-- The text is not well-formed here. -/
def refuse {α : Type} : Reader α := throw .malformed

/-- The character here. -/
def peek : Reader Char := return (← get).peek

/-- Goes a number of characters further. -/
def skip (n : Nat) : Reader Unit := modify (·.advance n)

/-- Reads the characters from here on that satisfy a condition. -/
def takeWhile (p : Char → Bool) : Reader (List Char) := do
  let cs := (← get).rest.takeWhile p
  skip cs.length
  return cs

/-- Goes past the characters from here on that satisfy a condition. -/
def skipWhile (p : Char → Bool) : Reader Unit := do
  let _ ← takeWhile p

/-- Goes past spaces. -/
def skipSpaces : Reader Unit := skipWhile (· == ' ')

/-- Goes past a comment, if one starts here. -/
def skipComment : Reader Unit := do
  if (← peek) == '#' then skipWhile (!isLineEnd ·)

/-- Requires the character here to satisfy a condition. -/
def require (p : Char → Bool) : Reader Unit := do
  unless p (← peek) do refuse

/-- Reads a line break, if one stands here: those of plain text become `\n`. -/
def lineBreak : Reader (List Char) := do
  let c ← peek
  if c == '\r' || c == '\n' || c == '\x85' then
    skip (if (← get).rest.take 2 == ['\r', '\n'] then 2 else 1)
    return ['\n']
  else if isBreak c then
    skip 1
    return [c]
  else return []

/-- Goes past spaces, a comment, and the line's end, which must follow. -/
def endLine : Reader Unit := do
  skipSpaces
  skipComment
  require isLineEnd
  let _ ← lineBreak

/-- Reads a name. -/
def name : Reader String := do
  let cs ← takeWhile isNameChar
  if cs.isEmpty then refuse
  return String.ofList cs

/-- The number of steps that reading what is left can take at most. -/
def bound : Reader Nat := return (← get).rest.length + 1

/-- The text between two lines that are joined: a plain line break before other breaks is dropped,
and one that stands alone becomes a space. -/
def fold (first : List Char) (breaks : List Char) : List Char :=
  if first != ['\n'] then first ++ breaks else if breaks.isEmpty then [' '] else breaks

end Reader

end MarkdownLint.Yaml
