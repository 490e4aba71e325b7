import MarkdownLint.Decimal.Shortest

/-!
Decimal text with a chosen number of digits: so many behind the point, or so many in all. The digits
are those of the nearest decimal of that size, and a half goes to the even digit.
-/
namespace MarkdownLint.Decimal

/-- How often `10 ^ g` goes into `m * 2 ^ e`, rounded. -/
def roundScaled (m : Nat) (e g : Int) : Nat :=
  roundDiv (scaleUp (scaleUp m 2 e) 10 (-g)) (scaleUp (scaleUp 1 10 g) 2 (-e))

/-- The first `count` digits of `m * 2 ^ e`, rounded, and the exponent of the first of them. -/
def leadingDigits (m : Nat) (e : Int) (count : Nat) : List Char × Int :=
  if m == 0 then (List.replicate count '0', 0)
  else
    let first := leadingExponent m e
    let digits := Nat.toDigits 10 (roundScaled m e (first - count + 1))
    if count < digits.length then (digits.take count, first + 1) else (digits, first)

/-- The digits of `m * 2 ^ e` before the point and the `places` digits behind it, rounded. -/
def fixedDigits (m : Nat) (e : Int) (places : Nat) : List Char × List Char :=
  let digits := Nat.toDigits 10 (roundScaled m e (-(places : Int)))
  let digits := List.replicate (places + 1 - digits.length) '0' ++ digits
  (digits.take (digits.length - places), digits.drop (digits.length - places))

end MarkdownLint.Decimal
