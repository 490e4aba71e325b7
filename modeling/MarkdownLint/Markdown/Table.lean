import MarkdownLint.Text.Blank
import MarkdownLint.Text.Line

/-!
Rows of tables: cells lie between pipes, and a second row of dashes makes the row above it the
header of a table.
-/
namespace MarkdownLint.Markdown.Table

/-- The cells of a row. A pipe after a backslash belongs to its cell. -/
def splitCells (escaped : Bool) : List Char → List (List Char)
  | [] => [[]]
  | c :: cs =>
    match splitCells (c == '\\') cs with
    | [] => [[c]]
    | cell :: cells => if c == '|' && !escaped then [] :: cell :: cells else (c :: cell) :: cells

/-- The number of cells of a row, an empty one at either end not counted. -/
def cellCount (row : List Char) : Nat :=
  let cells := splitCells false (Text.trim row)
  let cells := if cells.head? == some [] then cells.drop 1 else cells
  if cells.getLast? == some [] then cells.length - 1 else cells.length

/-- Whether a delimiter cell is well formed: dashes with an optional colon at either end. -/
def isDelimiter (cell : List Char) : Bool :=
  let cs := if cell.head? == some ':' then cell.drop 1 else cell
  let cs := if cs.getLast? == some ':' then cs.dropLast else cs
  !cs.isEmpty && cs.all (· == '-')

/-- A character of a delimiter row other than indentation. -/
def isRowMark (c : Char) : Bool := c == '|' || c == '-' || c == ':'

/-- The number of columns that a delimiter row fixes, or `none` if the line is not one. Only the
first and the last cell may be empty, and a dash at the start is not followed by a space, since that
begins a list item. -/
def delimiterCount? (row : List Char) : Option Nat :=
  match row with
  | a :: b :: rest =>
    if isRowMark a && (isRowMark b || (Text.isIndent b && a != '-')) &&
        rest.all (fun c => isRowMark c || Text.isIndent c) then
      let cells := (Text.splitAt '|' row).map Text.trim
      let inner := (cells.drop 1).dropLast
      let full := cells.filter (!·.isEmpty)
      if inner.any (·.isEmpty) || full.any (!isDelimiter ·) then none else some full.length
    else none
  | _ => none

/-- The number of cells of a header above a delimiter row with the given number of columns. -/
def headerCount? (row : List Char) (columns : Nat) : Option Nat :=
  let count := cellCount row
  if (Text.trim row).contains '|' && count != 0 && count == columns then some count else none

/-- How many cells may be filled in for rows that are too short. -/
def maxFilledCells : Int := 0x10000

end MarkdownLint.Markdown.Table
