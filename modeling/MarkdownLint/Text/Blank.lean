/-!
Blank characters and trimming. A character is blank when it separates words in running text: the
ASCII controls that move the print position, the four information separators, the space, and the
spaces and separators of the rest of Unicode.
-/
namespace MarkdownLint.Text

/-- The blank characters: twenty-nine code points in ten ranges. -/
def isBlank (c : Char) : Bool :=
  let n := c.toNat
  (9 ≤ n && n ≤ 13) || (28 ≤ n && n ≤ 32) || n == 0x85 || n == 0xA0 || n == 0x1680 ||
    (0x2000 ≤ n && n ≤ 0x200A) || n == 0x2028 || n == 0x2029 || n == 0x202F || n == 0x205F ||
    n == 0x3000

/-- A space or a horizontal tab: the characters that indent a line. -/
def isIndent (c : Char) : Bool := c == ' ' || c == '\t'

/-- What is left of a text once the characters satisfying `p` are removed from its end. -/
def dropEndWhile (p : Char → Bool) (cs : List Char) : List Char :=
  (cs.reverse.dropWhile p).reverse

/-- The text without the blank characters at both its ends. -/
def trim (cs : List Char) : List Char :=
  dropEndWhile isBlank (cs.dropWhile isBlank)

/-- `trim` on strings. -/
def trimString (s : String) : String := String.ofList (trim s.toList)

end MarkdownLint.Text
