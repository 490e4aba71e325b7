/-!
Numerals in bases up to sixteen.
-/
namespace MarkdownLint.Text

/-- The value of a hexadecimal digit. -/
def hexValue? (c : Char) : Option Nat :=
  if c.isDigit then some (c.toNat - 0x30)
  else if 'a' ≤ c && c ≤ 'f' then some (c.toNat - 0x57)
  else if 'A' ≤ c && c ≤ 'F' then some (c.toNat - 0x37)
  else none

/-- The number that digits denote in a base. -/
def numeral (base : Nat) (digits : List Char) : Nat :=
  digits.foldl (fun n c => base * n + (hexValue? c).getD 0) 0

/-- A number in a base, padded with zeros to `width` digits. -/
def paddedIn (base width n : Nat) : String :=
  let digits := Nat.toDigits base n
  String.ofList (List.replicate (width - digits.length) '0' ++ digits)

/-- A number in decimal, padded with zeros to `width` digits. -/
def padded (width n : Nat) : String := paddedIn 10 width n

/-- A number in lower-case hexadecimal, padded with zeros to `width` digits. -/
def hex (width n : Nat) : String := paddedIn 16 width n

end MarkdownLint.Text
