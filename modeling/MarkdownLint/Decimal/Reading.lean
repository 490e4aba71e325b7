import MarkdownLint.Decimal.Binary64
import MarkdownLint.Text.Blank
import MarkdownLint.Text.Digit

/-!
Floating-point numbers as they are written: blank characters around, an optional sign, then digits
of any script with at most one point among them and an optional exponent, or a word for infinity or
for no number.
-/
namespace MarkdownLint.Decimal

/-- The digits at the start of a text, and what follows them. -/
def spanDigits : List Char → List Nat × List Char
  | [] => ([], [])
  | c :: cs =>
    match Text.digitValue? c with
    | some d =>
      let (ds, rest) := spanDigits cs
      (d :: ds, rest)
    | none => ([], c :: cs)

/-- The number that decimal digits denote. -/
def ofDigits (ds : List Nat) : Nat := ds.foldl (fun n d => 10 * n + d) 0

/-- The exponent at the end of a number. -/
def readExponent? : List Char → Option Int
  | [] => some 0
  | c :: cs =>
    if c != 'e' && c != 'E' then none
    else
      let negative := cs.head? == some '-'
      let (ds, rest) := spanDigits (if negative || cs.head? == some '+' then cs.drop 1 else cs)
      let n : Int := ofDigits ds
      if ds.isEmpty || !rest.isEmpty then none else some (if negative then -n else n)

namespace Binary64

/-- A number without a sign of its own. -/
def ofUnsigned? (negative : Bool) (cs : List Char) : Option Binary64 :=
  match String.ofList (cs.map Char.toLower) with
  | "inf" => some (.infinity negative)
  | "infinity" => some (.infinity negative)
  | "nan" => some .nan
  | _ =>
    let (whole, rest) := spanDigits cs
    let (fraction, rest) := match rest with
      | '.' :: rest => spanDigits rest
      | rest => ([], rest)
    if whole.isEmpty && fraction.isEmpty then none
    else
      (readExponent? rest).map fun e =>
        ofDecimal negative (ofDigits (whole ++ fraction)) (e - (fraction.length : Int))

/-- The number that a text denotes. -/
def ofText? (cs : List Char) : Option Binary64 :=
  match Text.trim cs with
  | '-' :: cs => ofUnsigned? true cs
  | '+' :: cs => ofUnsigned? false cs
  | cs => ofUnsigned? false cs

end Binary64

end MarkdownLint.Decimal
