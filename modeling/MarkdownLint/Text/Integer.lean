import MarkdownLint.Text.Blank
import MarkdownLint.Text.Digit
import MarkdownLint.Text.Numeral

/-!
Integers as they are written: blank characters around, an optional sign, digits of any script, and
single underscores between digits. In another base than ten letters are digits too, and a mark for
the base may stand before them.
-/
namespace MarkdownLint.Text

/-- The value of a digit in a base, which is sixteen at most. -/
def digitIn? (base : Nat) (c : Char) : Option Nat :=
  ((digitValue? c).or (hexValue? c)).filter (· < base)

/-- Digits of a number after the first, where a single underscore may stand between two. -/
def readDigits? (base value : Nat) : List Char → Option Nat
  | [] => some value
  | '_' :: c :: cs => (digitIn? base c).bind fun d => readDigits? base (base * value + d) cs
  | c :: cs => (digitIn? base c).bind fun d => readDigits? base (base * value + d) cs

/-- A number without a sign. -/
def readNatural? (base : Nat) : List Char → Option Nat
  | [] => none
  | c :: cs => (digitIn? base c).bind fun d => readDigits? base d cs

/-- What follows the mark for a base. -/
def dropBaseMark (base : Nat) : List Char → List Char
  | '0' :: c :: cs =>
    let mark := if base == 2 then 'b' else if base == 8 then 'o' else 'x'
    if base != 10 && c.toLower == mark then cs else '0' :: c :: cs
  | cs => cs

/-- An integer in a base, with blanks around it. -/
def readIntegerIn? (base : Nat) (cs : List Char) : Option Int :=
  match trim cs with
  | '-' :: cs => (readNatural? base (dropBaseMark base cs)).map fun n => -Int.ofNat n
  | '+' :: cs => (readNatural? base (dropBaseMark base cs)).map Int.ofNat
  | cs => (readNatural? base (dropBaseMark base cs)).map Int.ofNat

/-- An integer in decimal, with blanks around it. -/
def readInteger? (s : String) : Option Int := readIntegerIn? 10 s.toList

/-! ## Long integers -/

/-- The most digits with which an integer is read or written out in decimal. -/
def maxDigits : Nat := 4300

/-- The number of digits in a text. -/
def digitCount (base : Nat) (cs : List Char) : Nat :=
  cs.countP fun c => (digitIn? base c).isSome

/-- An integer in decimal that is not too long, with blanks around it. -/
def readShortInteger? (s : String) : Option Int :=
  if maxDigits < digitCount 10 s.toList then none else readInteger? s

/-- What is said of an integer with too many digits, which are counted if it was to be read. -/
def tooManyDigitsMessage (count : Option Nat) : String :=
  "Exceeds the limit (" ++ toString maxDigits ++ " digits) for integer string conversion" ++
    (count.map fun n => ": value has " ++ toString n ++ " digits").getD "" ++
    "; use sys.set_int_max_str_digits() to increase the limit"

end MarkdownLint.Text
