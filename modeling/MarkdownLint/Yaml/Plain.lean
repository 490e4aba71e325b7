import MarkdownLint.Yaml.Cursor

/-!
Plain scalars: text without quotes, up to a mark that cannot belong to it. Over several lines the
breaks are folded.
-/
namespace MarkdownLint.Yaml

/-- Whether a character is a mark of its own inside brackets. -/
def isFlowMark (c : Char) : Bool := ['[', ']', '\x7b', '\x7d', ','].contains c

/-- Whether a character has a meaning of its own at the start of a node. -/
def isIndicator (c : Char) : Bool :=
  isFlowMark c ||
    ['-', '?', ':', '#', '&', '*', '!', '|', '>', '\'', '"', '%', '@', '\x60'].contains c

/-- Whether a plain scalar starts here. -/
def Cursor.startsPlain (c : Cursor) (inFlow : Bool) : Bool :=
  let x := c.peek
  !(isBlankOrEnd x || isIndicator x) ||
    (!isBlankOrEnd (c.peekAt 1) && (x == '-' || (!inFlow && (x == '?' || x == ':'))))

/-- The text of a plain scalar from here on up to a blank, a line's end or a mark. -/
def plainWord (inFlow : Bool) : List Char → List Char
  | [] => []
  | c :: rest =>
    let next := rest.headD '\x00'
    let ends := isBlankOrEnd c ||
      (c == ':' && (isBlankOrEnd next || (inFlow && isFlowMark next))) ||
      (inFlow && (isFlowMark c || c == '?'))
    if ends then [] else c :: plainWord inFlow rest

namespace Reader

/-- Reads line breaks and spaces from here on, or nothing if a document marker follows one of the
breaks. -/
def plainBreaks : Nat → Reader (Option (List Char))
  | 0 => refuse
  | fuel + 1 => do
    skipSpaces
    match ← lineBreak with
    | [] => return some []
    | b =>
      if (← get).atBoundary then return none
      return (← plainBreaks fuel).map (b ++ ·)

/-- Reads what stands between two words of a plain scalar, and whether it contains a line break. -/
def plainSpaces : Reader (List Char × Bool) := do
  let spaces ← takeWhile (· == ' ')
  match ← lineBreak with
  | [] => return (spaces, false)
  | first =>
    if (← get).atBoundary then return ([], true)
    match ← plainBreaks (← bound) with
    | none => return ([], true)
    | some breaks => return (fold first breaks, true)

/-- Reads the words of a plain scalar from here on, which are indented by at least `indent`: the
text, and whether a line break is the last thing read. -/
def plainWords (inFlow : Bool) (indent : Int) (spaces : List Char) (broken : Bool) :
    Nat → Reader (List Char × Bool)
  | 0 => refuse
  | fuel + 1 => do
    let here ← get
    let word := if here.peek == '#' then [] else plainWord inFlow here.rest
    if word.isEmpty then return ([], broken)
    skip word.length
    let (following, broken) ← plainSpaces
    let here ← get
    if following.isEmpty || here.peek == '#' || (!inFlow && here.column < indent) then
      return (spaces ++ word, broken)
    let (text, broken) ← plainWords inFlow indent following broken fuel
    return (spaces ++ word ++ text, broken)

/-- Reads a plain scalar below a node that is indented by `indent`, and whether a line break is the
last thing read. -/
def plainScalar (inFlow : Bool) (indent : Int) : Reader (String × Bool) := do
  let (text, broken) ← plainWords inFlow (indent + 1) [] false (← bound)
  return (String.ofList text, broken)

end Reader

end MarkdownLint.Yaml
