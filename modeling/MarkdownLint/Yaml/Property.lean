import MarkdownLint.Text.Numeral
import MarkdownLint.Text.Utf8
import MarkdownLint.Yaml.Cursor

/-!
Names that nodes carry: anchors, tags, and the directives that give tags their meaning.
-/
namespace MarkdownLint.Yaml

/-- A tag as it is written: a handle, if it has one, and what follows it. -/
structure TagName where
  handle : Option String
  suffix : String
deriving Repr, DecidableEq

/-- What a line that starts with `%` says. -/
inductive Directive where
  | version (major minor : Nat)
  | tag (handle target : String)
  | other
deriving Repr, DecidableEq

namespace Reader

/-- Reads an anchor or the name of one, after its mark. -/
def anchorName : Reader String := do
  skip 1
  let name ← name
  require fun c => isBlankOrEnd c || ['?', ':', ',', ']', '\x7d', '%', '@', '\x60'].contains c
  return name

/-- Reads the handle of a tag: a name between exclamation marks, or one mark before a space. -/
def tagHandle : Reader String := do
  require (· == '!')
  skip 1
  if (← peek) == ' ' then return "!"
  let cs ← takeWhile isNameChar
  require (· == '!')
  skip 1
  return String.ofList ('!' :: cs ++ ['!'])

/-- Whether a character stands for itself in the text of a tag. -/
def isTagChar (c : Char) : Bool :=
  isNameChar c || [';', '/', '?', ':', '@', '&', '=', '+', '$', ',', '.', '!', '~', '*', '\'', '(',
    ')', '[', ']'].contains c

/-- Reads escaped bytes, each a percent sign and two hexadecimal digits. -/
def escapedBytes : Nat → Reader (List UInt8)
  | 0 => refuse
  | fuel + 1 => do
    if (← peek) != '%' then return []
    skip 1
    let digits := (← get).rest.take 2
    if digits.length < 2 || digits.any fun d => (Text.hexValue? d).isNone then refuse
    skip 2
    return (Text.numeral 16 digits).toUInt8 :: (← escapedBytes fuel)

/-- Reads the text of a tag piece by piece. -/
def tagPieces : Nat → Reader (List Char)
  | 0 => refuse
  | fuel + 1 => do
    let cs ← takeWhile isTagChar
    if (← peek) != '%' then return cs
    let bytes ← escapedBytes (← bound)
    match Text.decode ⟨bytes.toArray⟩ with
    | .ok s => return cs ++ s.toList ++ (← tagPieces fuel)
    | .error _ => refuse

/-- Reads the text of a tag. -/
def tagText : Reader String := do
  let cs ← tagPieces (← bound)
  if cs.isEmpty then refuse
  return String.ofList cs

/-- Reads a tag: in angle brackets, a mark alone, or a handle and what follows it. -/
def tagName : Reader TagName := do
  let here ← get
  let second := here.peekAt 1
  let tag : TagName ←
    if second == '<' then do
      skip 2
      let suffix ← tagText
      require (· == '>')
      skip 1
      pure ⟨none, suffix⟩
    else if isBlankOrEnd second then do
      skip 1
      pure ⟨none, "!"⟩
    else if ((here.rest.drop 1).takeWhile (!isSpaceOrEnd ·)).contains '!' then do
      let handle ← tagHandle
      pure ⟨some handle, ← tagText⟩
    else do
      skip 1
      pure ⟨some "!", ← tagText⟩
  require isSpaceOrEnd
  return tag

/-- Reads a number of a version. -/
def versionNumber : Reader Nat := do
  let cs ← takeWhile Char.isDigit
  if cs.isEmpty then refuse
  return Text.numeral 10 cs

/-- Reads what a directive with the given name says. -/
def directiveValue (name : String) : Reader Directive := do
  match name with
  | "YAML" =>
    skipSpaces
    let major ← versionNumber
    require (· == '.')
    skip 1
    let minor ← versionNumber
    require isSpaceOrEnd
    return .version major minor
  | "TAG" =>
    skipSpaces
    let handle ← tagHandle
    require (· == ' ')
    skipSpaces
    let target ← tagText
    require isSpaceOrEnd
    return .tag handle target
  | _ =>
    skipWhile (!isLineEnd ·)
    return .other

/-- Reads a directive with its line. -/
def directive : Reader Directive := do
  skip 1
  let name ← name
  require isSpaceOrEnd
  let d ← directiveValue name
  endLine
  return d

end Reader

end MarkdownLint.Yaml
