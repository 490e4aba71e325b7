import MarkdownLint.Decimal.Reading
import MarkdownLint.Text.Case
import MarkdownLint.Text.Integer
import MarkdownLint.Text.Line
import MarkdownLint.Yaml.Error

/-!
Numbers in YAML: which plain scalars are numbers, and which number a scalar denotes. Underscores may
stand between digits and count for nothing. Numbers are also written in base sixty, with colons
between the digits, and integers in binary, octal and hexadecimal.
-/
namespace MarkdownLint.Yaml

open Decimal (Binary64)
open Text (splitAt)

/-- A text without the sign at its start. -/
def dropSign : List Char → List Char
  | '-' :: cs => cs
  | '+' :: cs => cs
  | cs => cs

/-! ## Which scalars are numbers -/

/-- Whether a character is a digit or an underscore. -/
def isSpacedDigit (c : Char) : Bool := c.isDigit || c == '_'

/-- Whether a text is a digit and then digits and underscores. -/
def isSpacedDigits : List Char → Bool
  | [] => false
  | c :: cs => c.isDigit && cs.all isSpacedDigit

/-- Whether a text is a digit in base sixty. -/
def isSixtieth : List Char → Bool
  | [a] => a.isDigit
  | [a, b] => a.isDigit && a ≤ '5' && b.isDigit
  | _ => false

/-- Whether a text is empty or an exponent with a sign. -/
def isExponent : List Char → Bool
  | [] => true
  | e :: sign :: d :: ds =>
    (e == 'e' || e == 'E') && (sign == '-' || sign == '+') && (d :: ds).all Char.isDigit
  | _ => false

/-- Whether a text is digits and underscores and then an exponent, if there is one. -/
def isFraction (cs : List Char) : Bool := isExponent (cs.dropWhile isSpacedDigit)

/-- Whether a text is a whole number, a point and a fraction. -/
def isPointed (cs : List Char) : Bool :=
  isSpacedDigits (cs.takeWhile (· != '.')) &&
    match cs.dropWhile (· != '.') with
    | '.' :: fraction => isFraction fraction
    | _ => false

/-- Whether a text is a number in base sixty whose last digit has a fraction. -/
def isSixtyFraction (cs : List Char) : Bool :=
  match cs.dropWhile (· != '.') with
  | '.' :: fraction =>
    fraction.all isSpacedDigit &&
      match splitAt ':' (cs.takeWhile (· != '.')) with
      | first :: part :: parts => isSpacedDigits first && (part :: parts).all isSixtieth
      | _ => false
  | _ => false

/-- Whether a plain scalar is a floating-point number. -/
def isFloat (cs : List Char) : Bool :=
  let unsigned := dropSign cs
  isPointed unsigned ||
    (match cs with
      | '.' :: d :: ds => d.isDigit && isFraction ds
      | _ => false) ||
    isSixtyFraction unsigned || [".inf", ".Inf", ".INF"].contains (String.ofList unsigned) ||
    [".nan", ".NaN", ".NAN"].contains (String.ofList cs)

/-- Whether a plain scalar is an integer. -/
def isInt (cs : List Char) : Bool :=
  let all (p : Char → Bool) (ds : List Char) : Bool :=
    !ds.isEmpty && ds.all fun c => p c || c == '_'
  match dropSign cs with
  | ['0'] => true
  | '0' :: 'b' :: ds => all (fun c => c == '0' || c == '1') ds
  | '0' :: 'x' :: ds => all (fun c => (Text.hexValue? c).isSome) ds
  | '0' :: ds => all (fun c => '0' ≤ c && c ≤ '7') ds
  | unsigned =>
    match splitAt ':' unsigned with
    | first :: parts => isSpacedDigits first && parts.all isSixtieth
    | [] => false

/-! ## Which number a scalar denotes -/

/-- An integer in a base. In decimal, the number of digits is limited. -/
def integerIn (base : Nat) (cs : List Char) : Except ScalarError Int :=
  let digits := Text.digitCount base cs
  match Text.readIntegerIn? base cs with
  | some n =>
    if base == 10 && Text.maxDigits < digits then .error (.tooManyDigits (some digits)) else .ok n
  | none => .error (.integer base (String.ofList cs))

/-- The integer that a text without a sign denotes. -/
def unsignedInt : List Char → Except ScalarError Int
  | ['0'] => .ok 0
  | '0' :: 'b' :: ds => integerIn 2 ds
  | '0' :: 'x' :: ds => integerIn 16 ds
  | '0' :: ds => integerIn 8 ('0' :: ds)
  | [] => .error .emptyNumber
  | cs =>
    if cs.contains ':' then
      (splitAt ':' cs).foldlM (fun n part => return 60 * n + (← integerIn 10 part)) 0
    else integerIn 10 cs

/-- The integer that a scalar denotes. -/
def intValue (cs : List Char) : Except ScalarError Int := do
  let cs := cs.filter (· != '_')
  let n ← unsignedInt (dropSign cs)
  return if cs.head? == some '-' then -n else n

/-- A decimal. -/
def decimalOf (cs : List Char) : Except ScalarError Binary64 :=
  match Binary64.ofText? cs with
  | some x => .ok x
  | none => .error (.decimal (String.ofList cs))

/-- The sum of digits in base sixty, the least of which comes first. -/
def sumOfSixtieths (digits : List Binary64) : Binary64 :=
  (digits.foldl (fun (sum, weight) d => (sum.add (d.scale weight), weight * 60))
    (Binary64.zero false, 1)).1

/-- The floating-point number that a text without a sign denotes. -/
def unsignedFloat (cs : List Char) : Except ScalarError Binary64 :=
  match String.ofList cs with
  | ".inf" => .ok (.infinity false)
  | ".nan" => .ok .nan
  | _ =>
    if cs.contains ':' then do
      let digits ← (splitAt ':' cs).mapM decimalOf
      return sumOfSixtieths digits.reverse
    else decimalOf cs

/-- The floating-point number that a scalar denotes. -/
def floatValue (cs : List Char) : Except ScalarError Binary64 := do
  let cs := (cs.filter (· != '_')).map fun c => Char.ofNat (Text.lowerCode c.toNat)
  if cs.isEmpty then throw .emptyNumber
  let x ← unsignedFloat (dropSign cs)
  return if cs.head? == some '-' then x.neg else x

end MarkdownLint.Yaml
