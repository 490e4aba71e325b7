import MarkdownLint.Decimal.Rounded
import MarkdownLint.Text.Blank
import MarkdownLint.Text.Digit
import MarkdownLint.Value

/-!
Formats: how a text or a number is laid out. A format says, in this order, how to fill and on which
side, which sign to show, whether to fill with zeros, how wide to make it, how to group digits, how
many digits to show, and in which notation; everything is optional.
-/
namespace MarkdownLint.Log

open Decimal (Binary64)

/-- Where what is laid out stands in its field; `inner` puts the filling behind the sign. -/
inductive Side where
  | left
  | right
  | center
  | inner
deriving Repr, DecidableEq

/-- The side that a character stands for. -/
def Side.ofChar? : Char → Option Side
  | '<' => some left
  | '>' => some right
  | '^' => some center
  | '=' => some inner
  | _ => none

/-- A format. -/
structure Format where
  fill : Char := ' '
  side : Side
  sign : Option Char := none
  /-- Whether zero never has a sign. -/
  plainZero : Bool := false
  /-- Whether the base is shown, and the point of a number without a fraction. -/
  alternate : Bool := false
  width : Nat := 0
  separator : Option Char := none
  precision : Option Nat := none
  style : Option Char := none
deriving Repr, DecidableEq

/-- Why a value cannot be laid out. -/
inductive FormatError where
  | tooManyDigits
  | bothSeparators
  | missingPrecision
  | malformed (format typeName : String)
  | separator (separator kind : Char)
  | unknownNotation (kind : Char) (typeName : String)
  | signOfText
  | spaceOfText
  | plainZeroOfText
  | alternateOfText
  | innerText
  | precisionOfInteger
  | plainZeroOfInteger
  | signOfCharacter
  | alternateOfCharacter
  | noCharacter
  | integerTooLarge
  | integerTooLargeForFloat
  | precisionTooBig
  | unsupported (typeName : String)
deriving Repr, DecidableEq

/-- A character between quotes; one that is not printed is given by its code. -/
def quotedCode (c : Char) : String :=
  if 32 < c.toNat && c.toNat < 128 then "'" ++ String.singleton c ++ "'"
  else "'\\x" ++ Text.hex 1 c.toNat ++ "'"

/-- The wording of an error. -/
def FormatError.message : FormatError → String
  | tooManyDigits => "Too many decimal digits in format string"
  | bothSeparators => "Cannot specify both ',' and '_'."
  | missingPrecision => "Format specifier missing precision"
  | malformed f t => "Invalid format specifier '" ++ f ++ "' for object of type '" ++ t ++ "'"
  | separator s k => "Cannot specify " ++ quotedCode s ++ " with " ++ quotedCode k ++ "."
  | unknownNotation k t => "Unknown format code " ++ quotedCode k ++ " for object of type '" ++ t ++ "'"
  | signOfText => "Sign not allowed in string format specifier"
  | spaceOfText => "Space not allowed in string format specifier"
  | plainZeroOfText => "Negative zero coercion (z) not allowed in string format specifier"
  | alternateOfText => "Alternate form (#) not allowed in string format specifier"
  | innerText => "'=' alignment not allowed in string format specifier"
  | precisionOfInteger => "Precision not allowed in integer format specifier"
  | plainZeroOfInteger => "Negative zero coercion (z) not allowed in integer format specifier"
  | signOfCharacter => "Sign not allowed with integer format specifier 'c'"
  | alternateOfCharacter => "Alternate form (#) not allowed with integer format specifier 'c'"
  | noCharacter => "%c arg not in range(0x110000)"
  | integerTooLarge => "Python int too large to convert to C long"
  | integerTooLargeForFloat => "int too large to convert to float"
  | precisionTooBig => "precision too big"
  | unsupported t => "unsupported format string passed to " ++ t ++ ".__format__"

/-! ## Reading formats -/

/-- The greatest number that can be written in a format or as an index. -/
def maxNumber : Nat := 0x7FFFFFFFFFFFFFFF

/-- The number at the start of a text, if there is one, and what follows it. -/
def readNumber (cs : List Char) : Except FormatError (Option Nat × List Char) :=
  let digits := cs.takeWhile Text.isDigit
  let n := digits.foldl (fun n c => 10 * n + (Text.digitValue? c).getD 0) 0
  if digits.isEmpty then .ok (none, cs)
  else if maxNumber < n then .error .tooManyDigits
  else .ok (some n, cs.drop digits.length)

/-- Whether a text starts with one of some characters, which is taken off then. -/
def takeOne (marks : List Char) (cs : List Char) : Option Char × List Char :=
  match cs with
  | c :: rest => if marks.contains c then (some c, rest) else (none, cs)
  | [] => (none, [])

/-- The filling and the side at the start of a format, and what follows them. -/
def readSide (cs : List Char) : Option Char × Option Side × List Char :=
  match cs with
  | a :: b :: rest =>
    match Side.ofChar? b with
    | some side => (some a, some side, rest)
    | none =>
      match Side.ofChar? a with
      | some side => (none, some side, b :: rest)
      | none => (none, none, cs)
  | [a] =>
    match Side.ofChar? a with
    | some side => (none, some side, [])
    | none => (none, none, cs)
  | [] => (none, none, [])

/-- The separator of groups of digits at the start of a text, and what follows it. -/
def readSeparator (cs : List Char) : Except FormatError (Option Char × List Char) :=
  match takeOne [',', '_'] cs with
  | (some ',', '_' :: _) => .error .bothSeparators
  | (some '_', ',' :: _) => .error .bothSeparators
  | r => .ok r

/-- The number of digits that a format asks for, and what follows it. -/
def readPrecision (cs : List Char) : Except FormatError (Option Nat × List Char) :=
  match cs with
  | '.' :: rest =>
    match readNumber rest with
    | .ok (none, _) => .error .missingPrecision
    | r => r
  | _ => .ok (none, cs)

/-- The notations in which digits are grouped by three. -/
def groupedNotations : List Char := ['d', 'e', 'f', 'g', 'E', 'G', '%', 'F']

/-- The notations that show a number in base two, eight or sixteen. -/
def baseNotations : List Char := ['b', 'o', 'x', 'X']

/-- Refuses separators in notations that have none. -/
def checkSeparator (separator kind : Option Char) : Except FormatError Unit :=
  match separator, kind with
  | some s, some k =>
    if groupedNotations.contains k || (s == '_' && baseNotations.contains k) then .ok ()
    else .error (.separator s k)
  | _, _ => .ok ()

/-- The format that a text stands for. Texts stand on the left and numbers on the right of their
field unless the format says otherwise. -/
def Format.read (typeName : String) (side : Side) (kind : Option Char) (text : List Char) :
    Except FormatError Format := do
  let (fill, asked, cs) := readSide text
  let (sign, cs) := takeOne [' ', '+', '-'] cs
  let (plain, cs) := takeOne ['z'] cs
  let (alternate, cs) := takeOne ['#'] cs
  let (zero, cs) := if fill.isNone then takeOne ['0'] cs else (none, cs)
  let (width, cs) ← readNumber cs
  let (separator, cs) ← readSeparator cs
  let (precision, cs) ← readPrecision cs
  let style ← match cs with
    | [] => pure kind
    | [k] => pure (some k)
    | _ => throw (.malformed (String.ofList text) typeName)
  checkSeparator separator style
  return {
    fill := if zero.isSome then '0' else fill.getD ' '
    side := asked.getD (if zero.isSome && side == .right then .inner else side)
    sign, plainZero := plain.isSome, alternate := alternate.isSome
    width := width.getD 0
    separator, precision, style }

/-! ## Laying out -/

/-- Characters of the filling. -/
def Format.padding (f : Format) (n : Nat) : List Char := List.replicate n f.fill

/-- A text in its field. -/
def Format.place (f : Format) (cs : List Char) : List Char :=
  let missing := f.width - cs.length
  match f.side with
  | .left => cs ++ f.padding missing
  | .center => f.padding (missing / 2) ++ cs ++ f.padding (missing - missing / 2)
  | _ => f.padding missing ++ cs

/-- A text laid out. -/
def Format.text (f : Format) (typeName : String) (cs : List Char) :
    Except FormatError (List Char) :=
  match f.style with
  | some 's' =>
    if f.sign == some ' ' then .error .spaceOfText
    else if f.sign.isSome then .error .signOfText
    else if f.plainZero then .error .plainZeroOfText
    else if f.alternate then .error .alternateOfText
    else if f.side == .inner then .error .innerText
    else .ok (f.place (cs.take (f.precision.getD cs.length)))
  | k => .error (.unknownNotation (k.getD 's') typeName)

/-- A number in parts: the digits before the point, which can be grouped, and what stands around
them. -/
structure NumberText where
  negative : Bool
  base : List Char := []
  digits : List Char
  rest : List Char := []

/-- Digits, the last first, in groups of the given size; zeros make them up to a width. -/
def groupDigits (separator : Char) (size : Nat) : Nat → List Char → Nat → List Char
  | 0, _, _ => []
  | n + 1, ds, width =>
    let length := min size (max (max ds.length width) 1)
    let group := ds.take length ++ List.replicate (length - ds.length) '0'
    let rest := ds.drop length
    if rest.isEmpty && width ≤ length then group
    else group ++ separator :: groupDigits separator size n rest (width - length - 1)

/-- The digits of a number, grouped as the format says and made up to a width by zeros. -/
def Format.group (f : Format) (digits : List Char) (width : Nat) : List Char :=
  let size := if (f.style.map baseNotations.contains).getD false then 4 else 3
  if digits.isEmpty then []
  else
    match f.separator with
    | none => List.replicate (width - digits.length) '0' ++ digits
    | some c => (groupDigits c size (digits.length + width + 1) digits.reverse width).reverse

/-- A number in its field. -/
def Format.number (f : Format) (n : NumberText) : List Char :=
  let sign := if n.negative then ['-']
    else if f.sign == some '+' || f.sign == some ' ' then f.sign.toList
    else []
  let around := sign.length + n.base.length + n.rest.length
  let zeros := f.fill == '0' && f.side == .inner
  let digits := f.group n.digits (if zeros then f.width - around else 0)
  let body := n.base ++ digits ++ n.rest
  if f.side == .inner then sign ++ f.padding (f.width - around - digits.length) ++ body
  else f.place (sign ++ body)

/-- A text in capitals. -/
def capitals (cs : List Char) : List Char := cs.map Char.toUpper

/-- The character with the given code, laid out as a number is. -/
def Format.character (f : Format) (n : Int) : Except FormatError (List Char) :=
  if f.sign.isSome then .error .signOfCharacter
  else if f.alternate then .error .alternateOfCharacter
  else if n < -(maxNumber : Int) - 1 ∨ maxNumber < n then .error .integerTooLarge
  else if n < 0 ∨ 0x10FFFF < n then .error .noCharacter
  else .ok (f.number ⟨false, [], [], [Char.ofNat n.toNat]⟩)

/-- An integer laid out in a notation for integers. -/
def Format.integer (f : Format) (n : Int) : Except FormatError (List Char) :=
  let write (base : Nat) (mark : List Char) : NumberText :=
    ⟨n < 0, if f.alternate then mark else [], Nat.toDigits base n.natAbs, []⟩
  if f.precision.isSome then .error .precisionOfInteger
  else if f.plainZero then .error .plainZeroOfInteger
  else
    match f.style with
    | some 'c' => f.character n
    | some 'b' => .ok (f.number (write 2 ['0', 'b']))
    | some 'o' => .ok (f.number (write 8 ['0', 'o']))
    | some 'x' => .ok (f.number (write 16 ['0', 'x']))
    | some 'X' =>
      let t := write 16 ['0', 'x']
      .ok (f.number { t with base := capitals t.base, digits := capitals t.digits })
    | _ => .ok (f.number (write 10 []))

/-- The fraction of a number with the point before it. -/
def Format.fraction (f : Format) (ds : List Char) : List Char :=
  if ds.isEmpty && !f.alternate then [] else '.' :: ds

/-- The exponent of a number. -/
def exponentText (e : Int) : List Char :=
  'e' :: (if e < 0 then '-' else '+') :: (Text.padded 2 e.natAbs).toList

/-- Digits with the exponent of the first of them written out: the part before the point, and the
rest. -/
def Format.scientific (f : Format) (ds : List Char) (e : Int) : List Char × List Char :=
  (ds.take 1, f.fraction (ds.drop 1) ++ exponentText e)

/-- Digits, the first of which has the given exponent, written positionally. -/
def Format.positional (f : Format) (keepPoint : Bool) (ds : List Char) (e : Int) :
    List Char × List Char :=
  let whole := if e < 0 then ['0'] else
    ds.take (e.toNat + 1) ++ List.replicate (e.toNat + 1 - ds.length) '0'
  let fraction := if e < 0 then List.replicate ((-e).toNat - 1) '0' ++ ds else ds.drop (e.toNat + 1)
  (whole, f.fraction (if fraction.isEmpty && keepPoint then ['0'] else fraction))

/-- A number with the given number of digits in all, zeros at the end left out, in the shorter of
both notations. -/
def Format.general (f : Format) (keepPoint : Bool) (m : Nat) (e : Int) (precision : Nat) :
    List Char × List Char :=
  let count := max precision 1
  let (ds, first) := Decimal.leadingDigits m e count
  let kept := if f.alternate then ds else ds.take 1 ++ Text.dropEndWhile (· == '0') (ds.drop 1)
  let bound : Int := if keepPoint then (count : Int) - 1 else count
  if first < -4 || bound ≤ first then f.scientific kept first
  else f.positional keepPoint kept first

/-- The fewest digits that read back, in the notation in which numbers are usually shown. -/
def Format.shortest (f : Format) (m : Nat) (e : Int) : List Char × List Char :=
  let (ds, first) := if m == 0 then (['0'], 0) else Decimal.shortest m e
  if first < Decimal.layout.leastPositional || Decimal.layout.greatestPositional < first then
    f.scientific ds first
  else f.positional true ds first

/-- The digits of a finite number before the point, and the rest. -/
def Format.parts (f : Format) (m : Nat) (e : Int) : List Char × List Char :=
  let precision := f.precision.getD 6
  let kind := (f.style.map Char.toLower).getD ' '
  match kind, f.precision with
  | ' ', none => f.shortest m e
  | ' ', some p => f.general true m e p
  | 'e', _ =>
    let (ds, first) := Decimal.leadingDigits m e (precision + 1)
    f.scientific ds first
  | 'g', _ => f.general false m e precision
  | 'n', _ => f.general false m e precision
  | _, _ =>
    let (whole, fraction) := Decimal.fixedDigits m e precision
    (whole, f.fraction fraction)

/-- A floating-point number laid out. -/
def Format.float (f : Format) (x : Binary64) : Except FormatError (List Char) :=
  let percent := f.style == some '%'
  let mark := if percent then ['%'] else []
  let raise (cs : List Char) : List Char :=
    if (f.style.map Char.isUpper).getD false then capitals cs else cs
  if 0x7FFFFFFF < f.precision.getD 0 then .error .precisionTooBig
  else
    match if percent then x.scale 100 else x with
    | .nan => .ok (f.number ⟨false, [], [], raise ['n', 'a', 'n'] ++ mark⟩)
    | .infinity negative => .ok (f.number ⟨negative, [], [], raise ['i', 'n', 'f'] ++ mark⟩)
    | .finite negative m e =>
      let (digits, rest) := f.parts m e
      let mantissa := digits ++ rest.takeWhile (· != 'e')
      let isZero := mantissa.all fun c => c == '0' || c == '.'
      .ok (f.number ⟨negative && !(f.plainZero && isZero), [], digits, raise rest ++ mark⟩)

/-- The notations for floating-point numbers. -/
def floatNotations : List Char := ['e', 'E', 'f', 'F', 'g', 'G', '%']

/-! ## Values -/

/-- An integer laid out in any notation for numbers. -/
def formatInteger (typeName : String) (n : Int) (format : List Char) :
    Except FormatError (List Char) := do
  let f ← Format.read typeName .right (some 'd') format
  let kind := f.style.getD 'd'
  if ['b', 'c', 'd', 'o', 'x', 'X', 'n'].contains kind then f.integer n
  else if floatNotations.contains kind then
    match Binary64.ofInt n with
    | .infinity _ => throw .integerTooLargeForFloat
    | x => f.float x
  else throw (.unknownNotation kind typeName)

/-- A floating-point number laid out in a notation for such numbers. -/
def formatFloat (x : Binary64) (format : List Char) : Except FormatError (List Char) := do
  let f ← Format.read "float" .right none format
  match f.style with
  | none => f.float x
  | some kind =>
    if kind == 'n' || floatNotations.contains kind then f.float x
    else throw (.unknownNotation kind "float")

/-- A text laid out. -/
def formatText (cs format : List Char) : Except FormatError (List Char) := do
  (← Format.read "str" .left (some 's') format).text "str" cs

/-- The name of a value's type. -/
def typeName : Value → String
  | .scalar s => s.typeName
  | .list _ => "list"
  | .map _ => "dict"

/-- A value laid out. Without a format it is shown as it is; truth values count as numbers. -/
def formatValue (v : Value) (format : List Char) : Except FormatError (List Char) :=
  if format.isEmpty then .ok v.display.toList
  else
    match v with
    | .scalar (.text s) => formatText s.toList format
    | .scalar (.int n) => formatInteger "int" n format
    | .scalar (.bool b) => formatInteger "bool" (if b then 1 else 0) format
    | .scalar (.float x) => formatFloat x format
    | v => .error (.unsupported (typeName v))

end MarkdownLint.Log
