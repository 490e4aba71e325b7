import MarkdownLint.Text.Quoted

/-!
Text from bytes. Bytes that are not the encoding of a text are refused with the place and the reason
of the first mistake.
-/
namespace MarkdownLint.Text

/-- What is wrong with the bytes of a text. -/
inductive DecodeReason where
  | invalidStart
  | invalidContinuation
  | unexpectedEnd
deriving Repr, DecidableEq

/-- The wording of a reason. -/
def DecodeReason.message : DecodeReason → String
  | invalidStart => "invalid start byte"
  | invalidContinuation => "invalid continuation byte"
  | unexpectedEnd => "unexpected end of data"

/-- Bytes that do not decode: where they start and end, and the first of them. -/
structure DecodeError where
  start : Nat
  stop : Nat
  byte : Nat
  reason : DecodeReason
deriving Repr, DecidableEq

/-- The wording of a decoding error. -/
def DecodeError.message (e : DecodeError) : String :=
  let place :=
    if e.stop == e.start + 1 then
      "byte 0x" ++ hex 2 e.byte ++ " in position " ++ toString e.start
    else "bytes in position " ++ toString e.start ++ "-" ++ toString (e.stop - 1)
  "'utf-8' codec can't decode " ++ place ++ ": " ++ e.reason.message

/-- The first error of a sequence that starts with `b` and has `n` bytes after it, at position
`pos`. `second` decides whether the second byte fits the first. -/
def sequenceError? (pos n : Nat) (b : UInt8) (second : UInt8 → Bool) (rest : List UInt8) :
    Option DecodeError :=
  let continues (x : UInt8) : Bool := 0x80 ≤ x && x < 0xC0
  let given := rest.take n
  let good := match given with
    | [] => 0
    | x :: xs => if continues x && second x then 1 + (xs.takeWhile continues).length else 0
  if good == n then none
  else if good == given.length then
    some ⟨pos, pos + 1 + good, b.toNat, .unexpectedEnd⟩
  else some ⟨pos, pos + 1 + good, b.toNat, .invalidContinuation⟩

/-- How many bytes follow the first byte of a sequence, and which second bytes fit it. -/
def sequenceOf? (b : UInt8) : Option (Nat × (UInt8 → Bool)) :=
  if b < 0x80 then some (0, fun _ => true)
  else if b < 0xC2 then none
  else if b < 0xE0 then some (1, fun _ => true)
  else if b < 0xF0 then
    some (2, fun x => if b == 0xE0 then 0xA0 ≤ x else if b == 0xED then x < 0xA0 else true)
  else if b < 0xF5 then
    some (3, fun x => if b == 0xF0 then 0x90 ≤ x else if b == 0xF4 then x < 0x90 else true)
  else none

/-- The first error among bytes that start at position `pos`. -/
def decodeError? : Nat → Nat → List UInt8 → Option DecodeError
  | 0, _, _ => none
  | _, _, [] => none
  | fuel + 1, pos, b :: rest =>
    match sequenceOf? b with
    | none => some ⟨pos, pos + 1, b.toNat, .invalidStart⟩
    | some (n, second) =>
      match sequenceError? pos n b second rest with
      | some e => some e
      | none => decodeError? fuel (pos + n + 1) (rest.drop n)

/-- The text that bytes encode. -/
def decode (bytes : ByteArray) : Except DecodeError String :=
  match String.fromUTF8? bytes with
  | some s => .ok s
  | none =>
    let bs := bytes.toList
    .error ((decodeError? (bs.length + 1) 0 bs).getD ⟨0, 0, 0, .unexpectedEnd⟩)

end MarkdownLint.Text
