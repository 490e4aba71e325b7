import MarkdownLint.Markdown.Scope

/-!
Link reference definitions: a label in brackets, a colon, a destination and an optional title. They
leave no block behind but use up the lines they stand on. A definition may extend over the lines of
a paragraph, which are fetched one at a time as they are needed.

Functions that scan take a number of steps greater than the length of the text ahead.
-/
namespace MarkdownLint.Markdown

/-- The text of a definition ahead: characters already fetched, and lines that could be. -/
structure Feed where
  rest : List Char
  pending : List (List Char)
  /-- The number of lines fetched. -/
  fetched : Nat

namespace Feed

/-- Moves past a line terminator, after which `rest` follows, and fetches the next line. -/
def nextLine (f : Feed) (rest : List Char) : Feed :=
  match f.pending with
  | [] => { f with rest := rest }
  | line :: lines => ⟨rest ++ line, lines, f.fetched + 1⟩

/-- The label of a definition, its closing bracket passed. Brackets inside must be escaped. -/
def label? : Nat → Feed → List Char → Option (List Char × Feed)
  | 0, _, _ => none
  | n + 1, f, found =>
    match f.rest with
    | [] => none
    | '[' :: _ => none
    | ']' :: cs => some (found.reverse, { f with rest := cs })
    | '\n' :: cs => label? n (f.nextLine cs) ('\n' :: found)
    | '\\' :: '\n' :: cs => label? n (f.nextLine cs) ('\n' :: '\\' :: found)
    | '\\' :: c :: cs => label? n { f with rest := cs } (c :: '\\' :: found)
    | c :: cs => label? n { f with rest := cs } (c :: found)

/-- Skips spaces, tabs and line terminators. -/
def skipBlank : Nat → Feed → Feed
  | 0, f => f
  | n + 1, f =>
    match f.rest with
    | '\n' :: cs => skipBlank n (f.nextLine cs)
    | c :: cs => if Text.isIndent c then skipBlank n { f with rest := cs } else f
    | [] => f

/-- Skips spaces and tabs. -/
def skipSpaces (f : Feed) : Feed := { f with rest := f.rest.dropWhile Text.isIndent }

/-- Whether the line is finished. -/
def atLineEnd (f : Feed) : Bool := f.rest.isEmpty || f.rest.head? == some '\n'

end Feed

/-- A destination between angle brackets, after the first of them. -/
def angleDestination? : List Char → List Char → Option (List Char × List Char)
  | [], _ => none
  | '\n' :: _, _ => none
  | '<' :: _, _ => none
  | '>' :: cs, found => some (found.reverse, cs)
  | '\\' :: c :: cs, found => angleDestination? cs (c :: '\\' :: found)
  | c :: cs, found => angleDestination? cs (c :: found)

/-- A destination without brackets: it ends at a space, a control character or a closing parenthesis
that was not opened in it; at most thirty-two parentheses are open at a time. -/
def plainDestination? : Nat → List Char → List Char → Option (List Char × List Char)
  | level, [], found => if found.isEmpty || level != 0 then none else some (found.reverse, [])
  | level, c :: cs, found =>
    let finish := if found.isEmpty || level != 0 then none else some (found.reverse, c :: cs)
    if c.toNat ≤ 0x20 || c.toNat == 0x7F then finish
    else if c == '\\' then
      match cs with
      | [] => plainDestination? level [] ('\\' :: found)
      | d :: ds => if d == ' ' then finish else plainDestination? level ds (d :: '\\' :: found)
    else if c == '(' then
      if 32 ≤ level then none else plainDestination? (level + 1) cs (c :: found)
    else if c == ')' then
      if level == 0 then finish else plainDestination? (level - 1) cs (c :: found)
    else plainDestination? level cs (c :: found)

/-- The destination of a link and what follows it. -/
def destination? (cs : List Char) : Option (List Char × List Char) :=
  match cs with
  | '<' :: rest => angleDestination? rest []
  | _ => plainDestination? 0 cs []

/-- Characters that a backslash takes the meaning from. -/
def isPunctuation (c : Char) : Bool :=
  let n := c.toNat
  (0x21 ≤ n && n ≤ 0x2F) || (0x3A ≤ n && n ≤ 0x40) || (0x5B ≤ n && n ≤ 0x60) ||
    (0x7B ≤ n && n ≤ 0x7E)

/-- Named characters that can stand in front of a link's scheme or in it. -/
def namedCharacters : List (String × List Nat) :=
  [("Tab", [9]), ("NewLine", [10]), ("nbsp", [0xA0]), ("NonBreakingSpace", [0xA0]),
    ("ensp", [0x2002]), ("emsp", [0x2003]), ("emsp13", [0x2004]), ("emsp14", [0x2005]),
    ("numsp", [0x2007]), ("puncsp", [0x2008]), ("thinsp", [0x2009]), ("ThinSpace", [0x2009]),
    ("hairsp", [0x200A]), ("VeryThinSpace", [0x200A]), ("MediumSpace", [0x205F]),
    ("ThickSpace", [0x205F, 0x200A]), ("colon", [0x3A]), ("sol", [0x2F]), ("semi", [0x3B])]

/-- The code point that the digits of a numeric character reference denote, if it may be used. -/
def referencedCode? (base : Nat) (digits : List Char) : Option Nat :=
  let isDigit (c : Char) : Bool := match Text.hexValue? c with
    | some d => d < base
    | none => false
  let code := Text.numeral base digits
  let invalid := (0xD800 ≤ code && code ≤ 0xDFFF) || (0xFDD0 ≤ code && code ≤ 0xFDEF) ||
    code % 0x10000 == 0xFFFF || code % 0x10000 == 0xFFFE || code ≤ 8 || code == 0xB ||
    (0xE ≤ code && code ≤ 0x1F) || (0x7F ≤ code && code ≤ 0x9F) || 0x10FFFF < code
  if digits.isEmpty || 8 < digits.length || !digits.all isDigit || invalid then none else some code

/-- The characters that a character reference with the given name denotes. -/
def referenced? (name : List Char) : Option (List Char) :=
  match namedCharacters.lookup (String.ofList name) with
  | some codes => some (codes.map Char.ofNat)
  | none =>
    let code? := match name with
      | '#' :: 'x' :: digits => referencedCode? 16 digits
      | '#' :: 'X' :: digits => referencedCode? 16 digits
      | '#' :: digits => referencedCode? 10 digits
      | _ => none
    code?.map fun code => [Char.ofNat code]

/-- A text with escapes and character references replaced by what they stand for. -/
def unescape : Nat → List Char → List Char
  | 0, cs => cs
  | n + 1, cs =>
    match cs with
    | [] => []
    | '\\' :: c :: rest =>
      if isPunctuation c then c :: unescape n rest else '\\' :: unescape n (c :: rest)
    | '&' :: rest =>
      let name := rest.takeWhile fun c => c.isAlphanum || c == '#'
      match (rest.drop name.length).head?, referenced? name with
      | some ';', some cs => cs ++ unescape n (rest.drop (name.length + 1))
      | _, _ => '&' :: unescape n rest
    | c :: rest => c :: unescape n rest

/-- Whether a text starts with a string. -/
def startsWith (s : String) (cs : List Char) : Bool := s.toList.isPrefixOf cs

/-- Whether a destination may be linked to: schemes that run code or embed data are refused, except
for images. -/
def isSafeDestination (destination : List Char) : Bool :=
  let url := (Text.trim (unescape (destination.length + 1) destination)).map Char.toLower
  let unsafeScheme := ["vbscript:", "javascript:", "file:", "data:"].any (startsWith · url)
  let image := ["gif", "png", "jpeg", "webp"].any fun kind =>
    startsWith ("data:image/" ++ kind ++ ";") url
  !unsafeScheme || image

/-- The rest of a title up to the character that closes it; a title may extend over several lines.
`isEmpty` says whether nothing has been read of it. -/
def closeTitle? (closing : Char) : Nat → Feed → Bool → Option (Bool × Feed)
  | 0, _, _ => none
  | n + 1, f, isEmpty =>
    match f.rest with
    | [] =>
      match f.pending with
      | [] => none
      | line :: lines => closeTitle? closing n ⟨line, lines, f.fetched + 1⟩ isEmpty
    | c :: cs =>
      if c == closing then some (isEmpty, { f with rest := cs })
      else if c == '(' && closing == ')' then none
      else
        match c, cs with
        | '\\', _ :: ds => closeTitle? closing n { f with rest := ds } false
        | _, _ => closeTitle? closing n { f with rest := cs } false

/-- The title of a definition: whether it is empty, and what follows it. -/
def title? (steps : Nat) (f : Feed) : Option (Bool × Feed) :=
  match f.rest with
  | '"' :: cs => closeTitle? '"' steps { f with rest := cs } true
  | '\'' :: cs => closeTitle? '\'' steps { f with rest := cs } true
  | '(' :: cs => closeTitle? ')' steps { f with rest := cs } true
  | _ => none

/-- The number of lines after the first that a definition extends over. The text starts after the
opening bracket. A title that ends on the line on which it begins has to be set off from the
destination. -/
def definitionLines? (steps : Nat) (f : Feed) : Option Nat :=
  match f.label? steps [] with
  | none => none
  | some (label, f) =>
    match f.rest with
    | ':' :: cs =>
      let f := Feed.skipBlank steps { f with rest := cs }
      match destination? f.rest with
      | none => none
      | some (destination, rest) =>
        let f := { f with rest := rest }
        if !isSafeDestination destination || (Text.trim label).isEmpty then none
        else
          let plain := if f.skipSpaces.atLineEnd then some f.fetched else none
          let g := Feed.skipBlank steps f
          let separated := f.rest.head?.any fun c => c == '\n' || Text.isIndent c
          match title? steps g with
          | none => plain
          | some (isEmpty, h) =>
            if !separated && h.fetched == g.fetched then plain
            else if h.skipSpaces.atLineEnd then some h.fetched
            else if isEmpty then none
            else plain
    | _ => none

namespace Scope

/-- Whether a line goes on with the paragraph before it. -/
def continuesDefinition (s : Scope) (i : Nat) : Bool :=
  i < s.lineMax && !s.isEmpty i &&
    (s.isCode i || (s.line i).indent < 0 || !s.interrupts .reference i s.lineMax)

/-- The lines that go on with a paragraph, from line `i` on, terminators included. -/
def definitionText (s : Scope) : Nat → Nat → List (List Char)
  | 0, _ => []
  | n + 1, i =>
    if s.continuesDefinition i then
      s.slice (s.line i).text ((s.line i).stop + 1) :: s.definitionText n (i + 1)
    else []

/-- The line after the reference definition that starts on line `i`. -/
def referenceAt? (s : Scope) (i : Nat) : Option Nat :=
  if s.isCode i then none
  else
    match s.slice (s.line i).text ((s.line i).stop + 1) with
    | '[' :: rest =>
      let pending := s.definitionText (s.lineMax - i) (i + 1)
      let steps := rest.length + pending.flatten.length + pending.length + 2
      (definitionLines? steps ⟨rest, pending, 0⟩).map fun n => i + 1 + n
    | _ => none

end Scope

end MarkdownLint.Markdown
