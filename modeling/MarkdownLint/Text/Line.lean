/-!
Lines of a text. A line ends at `\r\n`, at a lone `\r`, or at `\n`; the text after the last
terminator is a line too, so every text has at least one line.
-/
namespace MarkdownLint.Text

/-- The offsets just past each line terminator of `cs`, where `cs` starts at offset `pos`. -/
def terminatorEnds (pos : Nat) : List Char → List Nat
  | [] => []
  | '\r' :: '\n' :: cs => (pos + 2) :: terminatorEnds (pos + 2) cs
  | c :: cs =>
    if c = '\r' ∨ c = '\n' then (pos + 1) :: terminatorEnds (pos + 1) cs
    else terminatorEnds (pos + 1) cs

/-- The offsets at which the lines of a text start. -/
def lineOffsets (cs : List Char) : List Nat := 0 :: terminatorEnds 0 cs

/-- The place behind the entries of a sorted list that are at most `x`. It is searched for between
the places `lo` and `hi`, which are brought together by halving. -/
def bisectRight (l : List Nat) (x lo hi : Nat) : Nat :=
  if lo < hi then
    let mid := (lo + hi) / 2
    if x < l.getD mid 0 then bisectRight l x lo mid else bisectRight l x (mid + 1) hi
  else lo
termination_by hi - lo

/-- Every line terminator written as `\n`: what reading a file in text mode yields. -/
def universalNewlines : List Char → List Char
  | [] => []
  | '\r' :: '\n' :: cs => '\n' :: universalNewlines cs
  | c :: cs => (if c = '\r' then '\n' else c) :: universalNewlines cs

/-- Whether a character belongs to a line terminator. -/
def isTerminator (c : Char) : Bool := c == '\r' || c == '\n'

/-- The pieces of a text between the characters equal to `sep`. -/
def splitAt (sep : Char) : List Char → List (List Char)
  | [] => [[]]
  | c :: cs =>
    match splitAt sep cs with
    | [] => [[]]
    | piece :: rest => if c = sep then [] :: piece :: rest else (c :: piece) :: rest

end MarkdownLint.Text
