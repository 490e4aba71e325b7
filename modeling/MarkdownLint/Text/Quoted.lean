import MarkdownLint.Text.Numeral
import MarkdownLint.Text.Printable

/-!
Quoted texts, as they stand in messages: between single quotes, or between double quotes when the
text holds a single quote and no double quote; whatever cannot be printed is escaped.
-/
namespace MarkdownLint.Text

/-- How one character is written between the quotes `quote`. -/
def quotedChar (quote c : Char) : String :=
  let n := c.toNat
  if c == quote || c == '\\' then String.ofList ['\\', c]
  else if c == '\n' then "\\n"
  else if c == '\r' then "\\r"
  else if c == '\t' then "\\t"
  else if isPrintable c then String.singleton c
  else if n ≤ 0xFF then "\\x" ++ hex 2 n
  else if n ≤ 0xFFFF then "\\u" ++ hex 4 n
  else "\\U" ++ hex 8 n

/-- The quote that surrounds a text. -/
def quoteFor (cs : List Char) : Char :=
  if cs.contains '\'' && !cs.contains '"' then '"' else '\''

/-- A text between quotes. -/
def quoted (s : String) : String :=
  let q := quoteFor s.toList
  String.singleton q ++ String.join (s.toList.map (quotedChar q)) ++ String.singleton q

end MarkdownLint.Text
