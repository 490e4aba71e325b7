import MarkdownLint.Decimal.Binary64

/-!
Decimal text of floating-point numbers: the fewest digits that read back as the number, and of those
the digits nearest to it; of two that are equally near, those that end in an even digit.
-/
namespace MarkdownLint.Decimal

/-- Compares `a * 2 ^ e` with `c * 10 ^ p`. -/
def compareScaled (a : Nat) (e : Int) (c : Nat) (p : Int) : Ordering :=
  compare (scaleUp (scaleUp a 2 e) 10 (-p)) (scaleUp (scaleUp c 10 p) 2 (-e))

/-- The largest `c` with `c * 10 ^ p ≤ a * 2 ^ e`. -/
def floorScaled (a : Nat) (e p : Int) : Nat :=
  scaleUp (scaleUp a 2 e) 10 (-p) / scaleUp (scaleUp 1 10 p) 2 (-e)

/-- The exponent of the leading decimal digit of `a * 2 ^ e`, for positive `a`. -/
def leadingExponent (a : Nat) (e : Int) : Int :=
  let guess := (((Nat.log2 a : Int) + e) * 30103) / 100000
  let tooBig (p : Int) : Bool := compareScaled a e 1 p == .lt
  if tooBig guess then guess - 1
  else if tooBig (guess + 1) then guess
  else guess + 1

/-- Digits and exponent of the shortest decimal that reads back as `m * 2 ^ e`, looking at grids of
`k` digits and more; `p` is the exponent of the leading digit. -/
def shortestFrom (m : Nat) (e p : Int) : Nat → Nat → Nat × Int
  | 0, _ => (0, 0)
  | fuel + 1, k =>
    -- The number is `4 * m` quarters of its unit; the interval that reads back reaches half a unit
    -- up and down, or a quarter down when the numbers below lie closer together.
    let quarter := e - 2
    let closer := m == Binary64.leastMantissa && Binary64.minExponent < e
    let below := if closer then 4 * m - 1 else 4 * m - 2
    let above := 4 * m + 2
    let inside (c : Nat) (g : Int) : Bool :=
      let lo := compareScaled below quarter c g
      let hi := compareScaled above quarter c g
      if m % 2 == 0 then lo != .gt && hi != .lt else lo == .lt && hi == .gt
    let g := p - (k : Int) + 1
    let c := floorScaled (4 * m) quarter g
    let lower := inside c g
    let upper := inside (c + 1) g
    let nearLower := match compareScaled (2 * (4 * m)) quarter (2 * c + 1) g with
      | .lt => true
      | .eq => c % 2 == 0
      | .gt => false
    if lower && (!upper || nearLower) then (c, g)
    else if upper then (c + 1, g)
    else shortestFrom m e p fuel (k + 1)

/-- Drops trailing zeros of a decimal. -/
def trimZeros : Nat → Nat → Int → Nat × Int
  | 0, digits, e => (digits, e)
  | fuel + 1, digits, e =>
    if digits != 0 && digits % 10 == 0 then trimZeros fuel (digits / 10) (e + 1) else (digits, e)

/-- The digits of the shortest decimal and the exponent of the first of them. -/
def shortest (m : Nat) (e : Int) : List Char × Int :=
  let (digits, g) := shortestFrom m e (leadingExponent m e) 18 1
  let (digits, g) := trimZeros 20 digits g
  let cs := Nat.toDigits 10 digits
  (cs, g + (cs.length : Int) - 1)

/-- How decimals are laid out: which exponents of the first digit are written positionally, and how
many digits an exponent has at least. -/
structure Layout where
  leastPositional : Int
  greatestPositional : Int
  exponentDigits : Nat

/-- Positional from `1e-4` up to `1e16`; exponents carry a sign and two digits. -/
def layout : Layout := ⟨-4, 15, 2⟩

/-- Digits laid out, the first of which has the exponent `e`. -/
def Layout.write (l : Layout) (cs : List Char) (e : Int) : String :=
  if l.leastPositional ≤ e && e ≤ l.greatestPositional then
    if e < 0 then "0." ++ String.ofList (List.replicate ((-e).toNat - 1) '0' ++ cs)
    else
      let whole := cs.take (e.toNat + 1)
      let padding := List.replicate (e.toNat + 1 - cs.length) '0'
      let fraction := cs.drop (e.toNat + 1)
      String.ofList (whole ++ padding) ++ "." ++
        (if fraction.isEmpty then "0" else String.ofList fraction)
  else
    let point := if cs.length ≤ 1 then cs else cs.take 1 ++ '.' :: cs.drop 1
    let digits := Nat.toDigits 10 e.natAbs
    String.ofList point ++ "e" ++ (if e < 0 then "-" else "+") ++
      String.ofList (List.replicate (l.exponentDigits - digits.length) '0' ++ digits)

/-- The text of a number. -/
def Binary64.text : Binary64 → String
  | .nan => "nan"
  | .infinity negative => if negative then "-inf" else "inf"
  | .finite negative m e =>
    let body := if m == 0 then "0.0" else
      let (cs, first) := shortest m e
      layout.write cs first
    if negative then "-" ++ body else body

end MarkdownLint.Decimal
