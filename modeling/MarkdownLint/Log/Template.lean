import MarkdownLint.Log.Format

/-!
Message templates: text with places in braces. A place says which argument stands there, which part
of it, whether it is quoted, and how it is laid out; a doubled brace stands for itself.
-/
namespace MarkdownLint.Log

/-- Why a template cannot be filled in. -/
inductive TemplateError where
  | singleClose
  | singleOpen
  | openInName
  | unclosed
  | unclosedFormat
  | missingConversion
  | junkAfterConversion
  | unknownConversion (kind : Char)
  | tooDeep
  | manualAfterAutomatic
  | automaticAfterManual
  | missingArgument (index : Nat)
  | unknownName (name : String)
  | emptyPart
  | unclosedPart
  | junkAfterPart
  | noAttribute (typeName name : String)
  | noItem (kind : String)
  | noKey (key : Scalar)
  | keyOfText
  | keyOfList
  | noParts (typeName : String)
  | format (e : FormatError)
deriving Repr, DecidableEq

/-- The wording of an error. -/
def TemplateError.message : TemplateError → String
  | singleClose => "Single '\x7d' encountered in format string"
  | singleOpen => "Single '\x7b' encountered in format string"
  | openInName => "unexpected '\x7b' in field name"
  | unclosed => "expected '\x7d' before end of string"
  | unclosedFormat => "unmatched '\x7b' in format spec"
  | missingConversion => "end of string while looking for conversion specifier"
  | junkAfterConversion => "expected ':' after conversion specifier"
  | unknownConversion c =>
    "Unknown conversion specifier " ++
      (if 32 < c.toNat && c.toNat < 127 then String.singleton c else "\\x" ++ Text.hex 1 c.toNat)
  | tooDeep => "Max string recursion exceeded"
  | manualAfterAutomatic =>
    "cannot switch from automatic field numbering to manual field specification"
  | automaticAfterManual =>
    "cannot switch from manual field specification to automatic field numbering"
  | missingArgument i =>
    "Replacement index " ++ toString i ++ " out of range for positional args tuple"
  | unknownName n => Text.quoted n
  | emptyPart => "Empty attribute in format string"
  | unclosedPart => "Missing ']' in format string"
  | junkAfterPart => "Only '.' or '[' may follow ']' in format field specifier"
  | noAttribute t n => "'" ++ t ++ "' object has no attribute '" ++ n ++ "'"
  | noItem kind => kind ++ " index out of range"
  | noKey k => k.quoted
  | keyOfText => "string indices must be integers, not 'str'"
  | keyOfList => "list indices must be integers or slices, not str"
  | noParts t => "'" ++ t ++ "' object is not subscriptable"
  | format e => e.message

/-! ## Places -/

/-- What stands between the braces of a place. -/
structure Place where
  name : List Char
  conversion : Option Char
  format : List Char

/-- The name at the start of a place, the character that ends it, and what follows. Brackets hide
the characters that would end a name. -/
def readName : Bool → List Char → Except TemplateError (List Char × Char × List Char)
  | _, [] => .error .unclosed
  | true, c :: cs => (readName (c != ']') cs).map fun r => (c :: r.1, r.2)
  | false, c :: cs =>
    if c == '\x7b' then .error .openInName
    else if c == '\x7d' || c == ':' || c == '!' then .ok ([], c, cs)
    else (readName (c == '[') cs).map fun r => (c :: r.1, r.2)

/-- The format at the end of a place, up to the brace that closes it, and what follows. Inside it
`depth` braces are open. -/
def readFormat : Nat → List Char → Except TemplateError (List Char × List Char)
  | _, [] => .error .unclosedFormat
  | depth, c :: cs =>
    if c == '\x7b' then (readFormat (depth + 1) cs).map fun r => (c :: r.1, r.2)
    else if c == '\x7d' then
      match depth with
      | 0 => .ok ([], cs)
      | d + 1 => (readFormat d cs).map fun r => (c :: r.1, r.2)
    else (readFormat depth cs).map fun r => (c :: r.1, r.2)

/-- The place that follows an opening brace, and what follows the place. -/
def readPlace (cs : List Char) : Except TemplateError (Place × List Char) := do
  let (name, mark, cs) ← readName false cs
  let formatted (conversion : Option Char) (cs : List Char) :
      Except TemplateError (Place × List Char) := do
    let (format, cs) ← readFormat 0 cs
    return (⟨name, conversion, format⟩, cs)
  if mark == '\x7d' then return (⟨name, none, []⟩, cs)
  else if mark == ':' then formatted none cs
  else
    match cs with
    | [] => throw .missingConversion
    | [_] => throw .unclosedFormat
    | c :: d :: cs =>
      if d == '\x7d' then return (⟨name, some c, []⟩, cs)
      else if d == ':' then formatted (some c) cs
      else throw .junkAfterConversion

/-! ## Arguments -/

/-- How the places of a template are numbered so far. -/
inductive Numbering where
  | undecided
  | automatic (next : Nat)
  | manual

/-- The number that a name is, if it is one. -/
def indexOf? (name : List Char) : Except TemplateError (Option Nat) :=
  if name.all Text.isDigit then
    match readNumber name with
    | .ok (n, _) => .ok n
    | .error e => .error (.format e)
  else .ok none

/-- The index of the argument that a name asks for. -/
def argumentIndex (numbering : Numbering) (name : List Char) :
    Except TemplateError (Nat × Numbering) := do
  match ← indexOf? name with
  | some i =>
    match numbering with
    | .automatic _ => throw .manualAfterAutomatic
    | _ => return (i, .manual)
  | none =>
    if !name.isEmpty then throw (.unknownName (String.ofList name))
    match numbering with
    | .undecided => return (0, .automatic 1)
    | .automatic n => return (n, .automatic (n + 1))
    | .manual => throw .automaticAfterManual

/-- Whether a character begins the name of a part. -/
def beginsPart (c : Char) : Bool := c == '.' || c == '['

/-- The item of a value with the given number. -/
def itemAt (v : Value) (i : Nat) : Except TemplateError Value :=
  match v with
  | .list items => (items[i]?.map .ok).getD (.error (.noItem "list"))
  | .scalar (.text s) =>
    (s.toList[i]?.map fun c => .ok (.text (String.singleton c))).getD (.error (.noItem "string"))
  | .map entries =>
    let key : Scalar := .int i
    ((entries.find? fun e => e.1.sameKey key).map fun e => .ok e.2).getD (.error (.noKey key))
  | v => .error (.noParts (typeName v))

/-- The item of a value with the given name. -/
def itemNamed (v : Value) (name : String) : Except TemplateError Value :=
  match v with
  | .map entries => ((Value.lookup name entries).map .ok).getD (.error (.noKey (.text name)))
  | .list _ => .error .keyOfList
  | .scalar (.text _) => .error .keyOfText
  | v => .error (.noParts (typeName v))

/-- The part of a value that the rest of a name leads to. The number of steps exceeds the length of
the rest. -/
def partOf : Nat → Value → List Char → Except TemplateError Value
  | 0, v, _ => .ok v
  | _ + 1, v, [] => .ok v
  | n + 1, v, c :: cs =>
    if c == '.' then
      let name := cs.takeWhile (!beginsPart ·)
      .error (if name.isEmpty then .emptyPart else .noAttribute (typeName v) (String.ofList name))
    else if c == '[' then
      let name := cs.takeWhile (· != ']')
      match cs.drop name.length with
      | [] => .error .unclosedPart
      | _ :: rest => do
        let index ← indexOf? name
        if name.isEmpty then throw .emptyPart
        let part ← match index with
          | some i => itemAt v i
          | none => itemNamed v (String.ofList name)
        partOf n part rest
    else .error .junkAfterPart

/-- The value that a name asks for. -/
def argument (args : List Value) (numbering : Numbering) (name : List Char) :
    Except TemplateError (Value × Numbering) := do
  let first := name.takeWhile (!beginsPart ·)
  let (i, numbering) ← argumentIndex numbering first
  match args[i]? with
  | none => throw (.missingArgument i)
  | some v => return (← partOf (name.length + 1) v (name.drop first.length), numbering)

/-! ## Filling in -/

/-- A text with characters beyond ASCII escaped. -/
def asciiOnly (s : String) : String :=
  String.join (s.toList.map fun c =>
    let n := c.toNat
    if n < 0x80 then String.singleton c
    else if n ≤ 0xFF then "\\x" ++ Text.hex 2 n
    else if n ≤ 0xFFFF then "\\u" ++ Text.hex 4 n
    else "\\U" ++ Text.hex 8 n)

/-- A value turned into text before it is laid out. -/
def convert (v : Value) : Option Char → Except TemplateError Value
  | none => .ok v
  | some 'r' => .ok (.text v.quoted)
  | some 's' => .ok (.text v.display)
  | some 'a' => .ok (.text (asciiOnly v.quoted))
  | some c => .error (.unknownConversion c)

/-- Fills in a template; `expand` fills in the places inside a format. The number of steps exceeds
the length of the template. -/
def fillWith (args : List Value)
    (expand : Numbering → List Char → Except TemplateError (List Char × Numbering)) :
    Nat → Numbering → List Char → Except TemplateError (List Char × Numbering)
  | 0, numbering, _ => .ok ([], numbering)
  | _ + 1, numbering, [] => .ok ([], numbering)
  | n + 1, numbering, c :: cs => do
    let literal (rest : List Char) : Except TemplateError (List Char × Numbering) := do
      let (text, numbering) ← fillWith args expand n numbering rest
      return (c :: text, numbering)
    if c == '\x7b' then
      match cs with
      | [] => throw .singleOpen
      | d :: rest =>
        if d == c then literal rest
        else
          let (place, rest) ← readPlace cs
          let (v, numbering) ← argument args numbering place.name
          let v ← convert v place.conversion
          let (format, numbering) ←
            if place.format.contains '\x7b' then expand numbering place.format
            else pure (place.format, numbering)
          let shown ← (formatValue v format).mapError .format
          let (text, numbering) ← fillWith args expand n numbering rest
          return (shown ++ text, numbering)
    else if c == '\x7d' then
      match cs with
      | d :: rest => if d == c then literal rest else throw .singleClose
      | [] => throw .singleClose
    else literal cs

/-- Fills in a template in whose formats places are nested less deep than `depth`. -/
def fill (args : List Value) :
    Nat → Numbering → List Char → Except TemplateError (List Char × Numbering)
  | 0, _, _ => .error .tooDeep
  | depth + 1, numbering, cs => fillWith args (fill args depth) (cs.length + 1) numbering cs

/-- A message: the template as it is when there are no arguments, and filled in otherwise. -/
def format (template : String) (args : List Value) : Except TemplateError String :=
  if args.isEmpty then .ok template
  else (fill args 2 .undecided template.toList).map fun r => String.ofList r.1

end MarkdownLint.Log
