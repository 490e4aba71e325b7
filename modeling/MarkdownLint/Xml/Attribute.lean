/-!
Texts as values of XML attributes. Characters that no XML document can hold are dropped; those with
a meaning of their own, and those that a reader would turn into spaces, are written as references.
-/
namespace MarkdownLint.Xml

/-- Whether an XML document can hold a character. -/
def isXmlChar (c : Char) : Bool :=
  let n := c.toNat
  n == 0x9 || n == 0xA || n == 0xD || (0x20 ≤ n && n ≤ 0xD7FF) || (0xE000 ≤ n && n ≤ 0xFFFD) ||
    0x10000 ≤ n

/-- A text without the characters that an XML document cannot hold. -/
def clean (cs : List Char) : List Char := cs.filter isXmlChar

/-- The characters that are written as references, in the order in which they are replaced. The
ampersand comes first, since the references to the others hold it. -/
def references : List (Char × String) :=
  [('&', "&amp;"), ('>', "&gt;"), ('<', "&lt;"), ('"', "&quot;"), ('\'', "&apos;"),
    ('\n', "&#10;"), ('\r', "&#13;"), ('\t', "&#9;")]

/-- A text with every occurrence of a character replaced. -/
def replace (cs : List Char) (r : Char × String) : List Char :=
  cs.flatMap fun c => if c = r.1 then r.2.toList else [c]

/-- A text with all references written, one character after the other in the whole text. -/
def escape (cs : List Char) : List Char := references.foldl replace cs

/-- A text as the value of an attribute between double quotes. -/
def encode (s : String) : String := String.ofList (escape (clean s.toList))

end MarkdownLint.Xml
