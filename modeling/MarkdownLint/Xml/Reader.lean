import MarkdownLint.Text.Line
import MarkdownLint.Text.Numeral
import MarkdownLint.Xml.Attribute
import MarkdownLint.Xml.Element
import MarkdownLint.Xml.Encoding

/-!
Reading XML documents: elements with their attributes, in namespaces. Comments, processing
instructions and text are checked and passed over. A document that is not well formed is refused.

Functions that scan take a number of steps greater than the length of the text ahead.
-/
namespace MarkdownLint.Xml

/-! ## References and attribute values -/

/-- The character whose code the digits give, if a document can hold it. -/
def charOfDigits? (base : Nat) (digits : List Char) : Option Char :=
  if digits.isEmpty || !digits.all fun c => (Text.hexValue? c).any (· < base) then none
  else
    let code := Text.numeral base digits
    if 0x110000 ≤ code || (0xD800 ≤ code && code ≤ 0xDFFF) then none
    else if isXmlChar (Char.ofNat code) then some (Char.ofNat code)
    else none

/-- The character that the body of a reference denotes. -/
def referenced? (body : List Char) : Option Char :=
  match body with
  | '#' :: 'x' :: digits => charOfDigits? 16 digits
  | '#' :: digits => charOfDigits? 10 digits
  | _ =>
    if body == "amp".toList then some '&'
    else if body == "lt".toList then some '<'
    else if body == "gt".toList then some '>'
    else if body == "quot".toList then some '"'
    else if body == "apos".toList then some '\''
    else none

/-- The character that a reference denotes, behind its ampersand, and what follows it. -/
def reference? (cs : List Char) : Option (Char × List Char) :=
  let body := cs.takeWhile (· != ';')
  match cs.drop body.length, referenced? body with
  | ';' :: rest, some c => some (c, rest)
  | _, _ => none

/-- The value of an attribute up to its closing quote, and what follows it. Blank characters that
are not written as references become spaces. -/
def attributeValue? (quote : Char) : Nat → List Char → Option (List Char × List Char)
  | 0, _ => none
  | _, [] => none
  | n + 1, c :: cs =>
    if c == quote then some ([], cs)
    else if c == '<' then none
    else if c == '&' then
      match reference? cs with
      | none => none
      | some (d, rest) => (attributeValue? quote n rest).map fun r => (d :: r.1, r.2)
    else if isSpace c then (attributeValue? quote n cs).map fun r => (' ' :: r.1, r.2)
    else if isXmlChar c then (attributeValue? quote n cs).map fun r => (c :: r.1, r.2)
    else none

/-! ## Tags -/

/-- What a start tag holds. -/
structure Tag where
  name : Name
  attributes : List (Name × String)
  /-- Whether the element is closed by the tag itself. -/
  closed : Bool

/-- The attributes of a tag up to its end; `spaced` says whether a blank stands before. -/
def attributes? : Nat → List Char → Bool →
    Option (List (Name × String) × Bool × List Char)
  | 0, _, _ => none
  | n + 1, cs, spaced =>
    match cs with
    | '>' :: rest => some ([], false, rest)
    | '/' :: '>' :: rest => some ([], true, rest)
    | c :: rest =>
      if isSpace c then attributes? n rest true
      else if !spaced then none
      else
        match name? (c :: rest) with
        | none => none
        | some (name, rest) =>
          match skipSpace rest with
          | '=' :: rest =>
            match skipSpace rest with
            | q :: rest =>
              if q != '"' && q != '\'' then none
              else
                match attributeValue? q (rest.length + 1) rest with
                | none => none
                | some (value, rest) =>
                  (attributes? n rest false).map fun r =>
                    ((name, String.ofList value) :: r.1, r.2)
            | [] => none
          | _ => none
    | [] => none

/-- A start tag behind its opening bracket, and what follows it. -/
def startTag? (cs : List Char) : Option (Tag × List Char) :=
  match name? cs with
  | none => none
  | some (name, rest) =>
    match attributes? (rest.length + 1) rest false with
    | none => none
    | some (attributes, closed, rest) => some (⟨name, attributes, closed⟩, rest)

/-- An end tag behind its opening bracket and slash, and what follows it. -/
def endTag? (cs : List Char) : Option (Name × List Char) :=
  match name? cs with
  | none => none
  | some (name, rest) =>
    match skipSpace rest with
    | '>' :: rest => some (name, rest)
    | _ => none

/-! ## Namespaces -/

/-- The namespaces that prefixes stand for; the default namespace has the prefix `""`. -/
abbrev Bindings := List (String × String)

/-- The namespace of the prefix `xml`. -/
def xmlNamespace : String := "http://www.w3.org/XML/1998/namespace"

/-- The namespace of the prefix `xmlns`. -/
def xmlnsNamespace : String := "http://www.w3.org/2000/xmlns/"

/-- The bindings that an attribute makes, or `none` if it makes an impossible one. -/
def bindingOf? (a : Name × String) : Option Bindings :=
  match a.1.space, a.1.part with
  | none, "xmlns" => if a.2 == xmlNamespace || a.2 == xmlnsNamespace then none else some [("", a.2)]
  | some "xmlns", p =>
    if p == "xmlns" || a.2.isEmpty || a.2 == xmlnsNamespace then none
    else if (p == "xml") != (a.2 == xmlNamespace) then none
    else some [(p, a.2)]
  | _, _ => some []

/-- The bindings inside an element with the given attributes. -/
def bind? (outer : Bindings) : List (Name × String) → Option Bindings
  | [] => some outer
  | a :: rest =>
    match bindingOf? a with
    | none => none
    | some new => bind? (new ++ outer) rest

/-- A local name in a namespace. -/
def expanded (space part : String) : String :=
  if space.isEmpty then part else "\x7b" ++ space ++ "\x7d" ++ part

/-- The full name of an element. -/
def elementName? (bs : Bindings) (n : Name) : Option String :=
  match n.space with
  | none => some (expanded ((bs.lookup "").getD "") n.part)
  | some p => (bs.lookup p).map fun space => expanded space n.part

/-- Whether an attribute binds a prefix. -/
def isBinding (n : Name) : Bool := n == ⟨none, "xmlns"⟩ || n.space == some "xmlns"

/-- The full names of attributes, those that bind prefixes left out. -/
def attributeNames? (bs : Bindings) : List (Name × String) → Option (List (String × String))
  | [] => some []
  | (n, v) :: rest =>
    match attributeNames? bs rest with
    | none => none
    | some others =>
      if isBinding n then some others
      else
        match n.space with
        | none => some ((n.part, v) :: others)
        | some p => (bs.lookup p).map fun space => (expanded space n.part, v) :: others

/-- Whether no two items are the same. -/
def allDistinct {α : Type} [BEq α] : List α → Bool
  | [] => true
  | x :: xs => !xs.contains x && allDistinct xs

/-! ## Content -/

/-- An element that is open: its tag's name, its full name and attributes, the elements read inside
it, the last one first, and the bindings inside it. -/
structure Frame where
  tag : Name
  name : String
  attributes : List (String × String)
  children : List Element
  bindings : Bindings

/-- The element of a frame. -/
def Frame.close (f : Frame) : Element := .mk f.name f.attributes f.children.reverse

/-- Opens an element. -/
def open? (bs : Bindings) (t : Tag) : Option Frame :=
  if !allDistinct (t.attributes.map (·.1)) then none
  else
    match bind? bs t.attributes with
    | none => none
    | some bs =>
      match elementName? bs t.name, attributeNames? bs t.attributes with
      | some name, some attributes =>
        if allDistinct (attributes.map (·.1)) then some ⟨t.name, name, attributes, [], bs⟩ else none
      | _, _ => none

/-- What follows a comment, behind its opening. Two dashes only stand at its end. -/
def comment? : Nat → List Char → Option (List Char)
  | 0, _ => none
  | _, [] => none
  | _ + 1, '-' :: '-' :: cs =>
    match cs with
    | '>' :: rest => some rest
    | _ => none
  | n + 1, c :: cs => if isXmlChar c then comment? n cs else none

/-- What follows a text whose characters a document can hold, up to the given end. -/
def upTo? (stop : List Char) : Nat → List Char → Option (List Char)
  | 0, _ => none
  | n + 1, cs =>
    if stop.isPrefixOf cs then some (cs.drop stop.length)
    else
      match cs with
      | [] => none
      | c :: rest => if isXmlChar c then upTo? stop n rest else none

/-- What follows a processing instruction, behind its opening. -/
def instruction? (cs : List Char) : Option (List Char) :=
  match localName? cs with
  | none => none
  | some (target, rest) =>
    if (target.map Char.toLower) == "xml".toList then none
    else
      match rest with
      | '?' :: '>' :: rest => some rest
      | c :: rest => if isSpace c then upTo? "?>".toList (rest.length + 1) rest else none
      | [] => none

/-- What follows markup that is not a tag, for comments, instructions and, inside elements, text
sections. -/
def passOver? (inside : Bool) (cs : List Char) : Option (List Char) :=
  match cs with
  | '<' :: '!' :: '-' :: '-' :: rest => comment? (rest.length + 1) rest
  | '<' :: '?' :: rest => instruction? rest
  | '<' :: '!' :: rest =>
    if inside && "[CDATA[".toList.isPrefixOf rest then
      upTo? "]]>".toList (rest.length + 1) (rest.drop 7)
    else none
  | _ => none

/-- Reads the content of the elements that are open, the innermost first, until the outermost one is
closed. -/
def content? : Nat → List Frame → List Char → Option (Element × List Char)
  | 0, _, _ => none
  | _, [], _ => none
  | n + 1, f :: outer, cs =>
    match cs with
    | [] => none
    | '<' :: '/' :: rest =>
      match endTag? rest with
      | none => none
      | some (name, rest) =>
        if name != f.tag then none
        else
          match outer with
          | [] => some (f.close, rest)
          | g :: more => content? n ({ g with children := f.close :: g.children } :: more) rest
    | '<' :: c :: rest =>
      if c == '!' || c == '?' then
        match passOver? true cs with
        | none => none
        | some rest => content? n (f :: outer) rest
      else
        match startTag? (c :: rest) with
        | none => none
        | some (t, rest) =>
          match open? f.bindings t with
          | none => none
          | some g =>
            if t.closed then content? n ({ f with children := g.close :: f.children } :: outer) rest
            else content? n (g :: f :: outer) rest
    | '&' :: rest =>
      match reference? rest with
      | none => none
      | some (_, rest) => content? n (f :: outer) rest
    | c :: rest =>
      if c == '<' || !isXmlChar c || "]]>".toList.isPrefixOf cs then none
      else content? n (f :: outer) rest

/-! ## Documents -/

/-- Whether a character can stand in a public identifier. -/
def isPublicChar (c : Char) : Bool :=
  c.isAlphanum || c == ' ' || c == '\n' || "-'()+,./:=?;!*#@$_%".toList.contains c

/-- What follows a text in quotes whose characters satisfy a condition, which blanks precede. -/
def literal? (p : Char → Bool) (cs : List Char) : Option (List Char) :=
  if !cs.head?.any isSpace then none
  else
    match skipSpace cs with
    | [] => none
    | q :: rest =>
      let value := rest.takeWhile (· != q)
      if (q == '"' || q == '\'') && value.all p && value.length < rest.length then
        some (rest.drop (value.length + 1))
      else none

/-- What follows the place of an external document type, if one is given. -/
def externalType? (cs : List Char) : Option (List Char) :=
  if "SYSTEM".toList.isPrefixOf cs then literal? isXmlChar (cs.drop 6)
  else if "PUBLIC".toList.isPrefixOf cs then
    (literal? isPublicChar (cs.drop 6)).bind (literal? isXmlChar)
  else some cs

/-- What follows a document type declaration, behind its opening. Declarations inside it are
refused. -/
def documentType? (cs : List Char) : Option (List Char) :=
  if !cs.head?.any isSpace then none
  else
    match name? (skipSpace cs) with
    | none => none
    | some (_, rest) =>
      let after := if rest.head?.any isSpace then externalType? (skipSpace rest) else some rest
      match after.map skipSpace with
      | some ('>' :: rest) => some rest
      | some ('[' :: rest) =>
        match skipSpace rest with
        | ']' :: rest =>
          match skipSpace rest with
          | '>' :: rest => some rest
          | _ => none
        | _ => none
      | _ => none

/-- What follows the markup and the blanks before or behind the outermost element; `typed` says
whether a document type declaration may come. -/
def misc? : Nat → Bool → List Char → Option (List Char)
  | 0, _, _ => none
  | n + 1, typed, cs =>
    match skipSpace cs with
    | '<' :: c :: rest =>
      if c == '!' || c == '?' then
        if typed && "!DOCTYPE".toList.isPrefixOf (c :: rest) then
          (documentType? (rest.drop 7)).bind (misc? n false)
        else (passOver? false ('<' :: c :: rest)).bind (misc? n typed)
      else some ('<' :: c :: rest)
    | cs => some cs

/-- The outermost element of a document. -/
def parse? (text : List Char) : Option Element :=
  let cs := Text.universalNewlines text
  let cs := if cs.head? == some '\uFEFF' then cs.drop 1 else cs
  match afterDeclaration? cs with
  | none => none
  | some cs =>
    match misc? (cs.length + 1) true cs with
    | some ('<' :: rest) =>
      match startTag? rest with
      | none => none
      | some (t, rest) =>
        match open? [("xml", xmlNamespace)] t with
        | none => none
        | some f =>
          let found :=
            if t.closed then some (f.close, rest) else content? (rest.length + 1) [f] rest
          match found with
          | none => none
          | some (e, rest) =>
            match misc? (rest.length + 1) false rest with
            | some [] => some e
            | _ => none
    | _ => none

end MarkdownLint.Xml
