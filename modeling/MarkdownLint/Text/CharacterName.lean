/-!
Names of characters, as far as they are known here: those of the printable characters of Basic
Latin.
-/
namespace MarkdownLint.Text

/-- The names of the characters from the space to the last one before the letters, and so on around
the letters: runs of characters that follow each other, each with the code of its first one. -/
def punctuationNames : List (Nat × List String) :=
  [(0x20, ["SPACE", "EXCLAMATION MARK", "QUOTATION MARK", "NUMBER SIGN", "DOLLAR SIGN",
      "PERCENT SIGN", "AMPERSAND", "APOSTROPHE", "LEFT PARENTHESIS", "RIGHT PARENTHESIS", "ASTERISK",
      "PLUS SIGN", "COMMA", "HYPHEN-MINUS", "FULL STOP", "SOLIDUS", "DIGIT ZERO", "DIGIT ONE",
      "DIGIT TWO", "DIGIT THREE", "DIGIT FOUR", "DIGIT FIVE", "DIGIT SIX", "DIGIT SEVEN",
      "DIGIT EIGHT", "DIGIT NINE", "COLON", "SEMICOLON", "LESS-THAN SIGN", "EQUALS SIGN",
      "GREATER-THAN SIGN", "QUESTION MARK", "COMMERCIAL AT"]),
    (0x5B, ["LEFT SQUARE BRACKET", "REVERSE SOLIDUS", "RIGHT SQUARE BRACKET", "CIRCUMFLEX ACCENT",
      "LOW LINE", "GRAVE ACCENT"]),
    (0x7B, ["LEFT CURLY BRACKET", "VERTICAL LINE", "RIGHT CURLY BRACKET", "TILDE"])]

/-- The names of the letters from `first` on, which begin alike. -/
def letterNames (beginning : String) (first : Nat) : List (String × Char) :=
  (List.range 26).map fun i =>
    (beginning ++ String.singleton (Char.ofNat (0x41 + i)), Char.ofNat (first + i))

/-- The names of characters. -/
def characterNames : List (String × Char) :=
  letterNames "LATIN CAPITAL LETTER " 0x41 ++ letterNames "LATIN SMALL LETTER " 0x61 ++
    punctuationNames.flatMap fun (first, names) =>
      names.zipIdx.map fun (name, i) => (name, Char.ofNat (first + i))

/-- The character with a name, which may be written in letters of either case. -/
def characterNamed? (name : String) : Option Char := characterNames.lookup name.toUpper

end MarkdownLint.Text
