import MarkdownLint.Text.Numeral
import MarkdownLint.Yaml.Cursor

/-!
Scalars in quotes. Between single quotes a quote is written twice; between double quotes a backslash
escapes. A line break is folded.
-/
namespace MarkdownLint.Yaml.Reader

/-- The character that a letter after a backslash stands for. -/
def escaped? (c : Char) : Option Char :=
  match c with
  | '0' => some '\x00'
  | 'a' => some '\x07'
  | 'b' => some '\x08'
  | 't' => some '\t'
  | '\t' => some '\t'
  | 'n' => some '\n'
  | 'v' => some '\x0b'
  | 'f' => some '\x0c'
  | 'r' => some '\r'
  | 'e' => some '\x1b'
  | ' ' => some ' '
  | '"' => some '"'
  | '\\' => some '\\'
  | '/' => some '/'
  | 'N' => some '\x85'
  | '_' => some '\xa0'
  | 'L' => some '\u2028'
  | 'P' => some '\u2029'
  | _ => none

/-- How many hexadecimal digits follow a letter after a backslash. -/
def codeLength? (c : Char) : Option Nat :=
  match c with
  | 'x' => some 2
  | 'u' => some 4
  | 'U' => some 8
  | _ => none

/-- Reads the line breaks from here on, with the blanks between them left out. A document marker
must not follow any of them. -/
def quotedBreaks : Nat → Reader (List Char)
  | 0 => refuse
  | fuel + 1 => do
    if (← get).atBoundary then refuse
    skipWhile fun c => c == ' ' || c == '\t'
    match ← lineBreak with
    | [] => return []
    | b => return b ++ (← quotedBreaks fuel)

/-- Reads the blanks and line breaks from here on. -/
def quotedSpaces : Reader (List Char) := do
  let blanks ← takeWhile fun c => c == ' ' || c == '\t'
  if (← peek) == '\x00' then refuse
  match ← lineBreak with
  | [] => return blanks
  | first => return fold first (← quotedBreaks (← bound))

/-- Reads what follows a backslash. -/
def escape : Reader (List Char) := do
  let c ← peek
  match escaped? c, codeLength? c with
  | some x, _ =>
    skip 1
    return [x]
  | none, some n =>
    skip 1
    let digits := (← get).rest.take n
    if digits.length < n || digits.any fun d => (Text.hexValue? d).isNone then refuse
    let code := Text.numeral 16 digits
    if 0x10FFFF < code then throw (.scalar (.codePoint code))
    skip n
    return [Char.ofNat code]
  | none, none =>
    match ← lineBreak with
    | [] => refuse
    | _ => quotedBreaks (← bound)

/-- Reads up to the next blank, line break or closing quote. -/
def quotedWord (double : Bool) : Nat → Reader (List Char)
  | 0 => refuse
  | fuel + 1 => do
    let cs ← takeWhile fun c => !isBlankOrEnd c && c != '\'' && c != '"' && c != '\\'
    let c ← peek
    if !double && c == '\'' && (← get).peekAt 1 == '\'' then
      skip 2
      return cs ++ '\'' :: (← quotedWord double fuel)
    else if (double && c == '\'') || (!double && (c == '"' || c == '\\')) then
      skip 1
      return cs ++ c :: (← quotedWord double fuel)
    else if double && c == '\\' then
      skip 1
      let x ← escape
      return cs ++ x ++ (← quotedWord double fuel)
    else return cs

/-- Reads the rest of a scalar up to its closing quote. -/
def quotedRest (double : Bool) : Nat → Reader (List Char)
  | 0 => refuse
  | fuel + 1 => do
    if (← peek) == (if double then '"' else '\'') then
      skip 1
      return []
    let spaces ← quotedSpaces
    let word ← quotedWord double (← bound)
    return spaces ++ word ++ (← quotedRest double fuel)

/-- Reads a scalar in quotes. -/
def quotedScalar (double : Bool) : Reader String := do
  skip 1
  let word ← quotedWord double (← bound)
  let rest ← quotedRest double (← bound)
  return String.ofList (word ++ rest)

end MarkdownLint.Yaml.Reader
