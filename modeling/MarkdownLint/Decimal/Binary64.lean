/-!
Binary floating-point numbers of 64 bits, as exact values. A finite number is
`mantissa * 2 ^ exponent` with the mantissa below `2 ^ 53` and the exponent at least `-1074`; the
mantissa is at least `2 ^ 52` unless the exponent is the least one, so that each number has one
form.
-/
namespace MarkdownLint.Decimal

/-- A floating-point number. -/
inductive Binary64 where
  | nan
  | infinity (negative : Bool)
  | finite (negative : Bool) (mantissa : Nat) (exponent : Int)
deriving Repr, DecidableEq

/-- The quotient of two numbers rounded to the nearest integer, a half to the even one. -/
def roundDiv (num den : Nat) : Nat :=
  let q := num / den
  let r := num % den
  if den < 2 * r || (2 * r == den && q % 2 == 1) then q + 1 else q

/-- A number times a power of a base, which is one for a negative exponent. -/
def scaleUp (n : Nat) (base : Nat) (e : Int) : Nat := n * Nat.pow base e.toNat

namespace Binary64

/-- The least mantissa of a number with all its digits, `2 ^ 52`. -/
def leastMantissa : Nat := 0x10000000000000

/-- The number that mantissas stay below, `2 ^ 53`. -/
def mantissaBound : Nat := 0x20000000000000

/-- The least exponent. -/
def minExponent : Int := -1074

/-- The greatest exponent. -/
def maxExponent : Int := 971

/-- Zero. -/
def zero (negative : Bool) : Binary64 := .finite negative 0 minExponent

/-- The number nearest to `num / den`, of two equally near the one with the even mantissa. -/
def ofRatio (negative : Bool) (num den : Nat) : Binary64 :=
  if num == 0 then zero negative
  else
    let scaled (e : Int) : Nat × Nat := (scaleUp num 2 (-e), scaleUp den 2 e)
    let guess : Int := (Nat.log2 num : Int) - (Nat.log2 den : Int) - 53
    let fits (e : Int) : Bool := (scaled e).1 / (scaled e).2 < mantissaBound
    let e := if fits guess then guess else guess + 1
    let e := max e minExponent
    let m := roundDiv (scaled e).1 (scaled e).2
    let (m, e) := if m == mantissaBound then (leastMantissa, e + 1) else (m, e)
    if maxExponent < e then .infinity negative else .finite negative m e

/-- The number nearest to `digits * 10 ^ exponent`. -/
def ofDecimal (negative : Bool) (digits : Nat) (exponent : Int) : Binary64 :=
  let size : Int := (Nat.toDigits 10 digits).length + exponent
  if digits == 0 || size < -400 then zero negative
  else if 400 < size then .infinity negative
  else ofRatio negative (scaleUp digits 10 exponent) (scaleUp 1 10 (-exponent))

/-- The number nearest to an integer. -/
def ofInt (n : Int) : Binary64 := ofRatio (n < 0) n.natAbs 1

/-- The value `n / d` of a finite number. -/
def ratio? : Binary64 → Option (Int × Nat)
  | .finite negative m e =>
    let n : Int := scaleUp m 2 e
    some (if negative then -n else n, scaleUp 1 2 (-e))
  | _ => none

/-- The integer that a number is, if it is one. -/
def toInt? (x : Binary64) : Option Int :=
  match x.ratio? with
  | some (n, d) => if n % d == 0 then some (n / d) else none
  | none => none

/-- Whether a number is zero. -/
def isZero : Binary64 → Bool
  | .finite _ m _ => m == 0
  | _ => false

/-- The sign turned round. -/
def neg : Binary64 → Binary64
  | .nan => .nan
  | .infinity s => .infinity !s
  | .finite s m e => .finite (!s) m e

/-- The sum of two numbers, rounded. -/
def add (x y : Binary64) : Binary64 :=
  match x.ratio?, y.ratio? with
  | some (a, b), some (c, d) =>
    let n := a * d + c * b
    if n == 0 then zero (x == zero true && y == zero true) else ofRatio (n < 0) n.natAbs (b * d)
  | none, some _ => x
  | some _, none => y
  | none, none => if x == y then x else .nan

/-- The product of a number and a positive integer, rounded. -/
def scale (x : Binary64) (k : Nat) : Binary64 :=
  match x with
  | .finite s m e => ofRatio s (scaleUp (m * k) 2 e) (scaleUp 1 2 (-e))
  | x => x

/-- Whether the first number is below the second. -/
def lt (x y : Binary64) : Bool :=
  match x, y with
  | .nan, _ => false
  | _, .nan => false
  | .infinity s, .infinity t => s && !t
  | .infinity s, _ => s
  | _, .infinity t => !t
  | x, y =>
    match x.ratio?, y.ratio? with
    | some (a, b), some (c, d) => a * d < c * b
    | _, _ => false

/-- Whether two numbers have the same value. -/
def eq (x y : Binary64) : Bool := x != .nan && (x == y || (x.isZero && y.isZero))

end Binary64

end MarkdownLint.Decimal
