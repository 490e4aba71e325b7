import MarkdownLint.Text.Utf8
import MarkdownLint.Xml.Name

/-!
The text of an XML document: its bytes show whether it is written in units of one byte or of two,
and its declaration may name the encoding.
-/
namespace MarkdownLint.Xml

/-! ## The declaration -/

/-- Whether a character can stand in a value of an XML declaration. -/
def isDeclarationChar (c : Char) : Bool := c.isAlphanum || c == '.' || c == '-' || c == '_'

/-- A pseudo-attribute of an XML declaration: its name, its value and what follows it. -/
def declarationPart? (cs : List Char) : Option (String × String × List Char) :=
  match localName? (skipSpace cs) with
  | none => none
  | some (name, rest) =>
    match skipSpace rest with
    | '=' :: rest =>
      match skipSpace rest with
      | q :: rest =>
        let value := rest.takeWhile (· != q)
        match rest.drop value.length with
        | _ :: rest =>
          if (q == '"' || q == '\'') && value.all isDeclarationChar then
            some (String.ofList name, String.ofList value, rest)
          else none
        | [] => none
      | [] => none
    | _ => none

/-- The encoding that an XML declaration names, if any, and what follows the declaration. -/
def declaration? (cs : List Char) : Option (Option String × List Char) :=
  let finish (encoding : Option String) (rest : List Char) : Option (Option String × List Char) :=
    match skipSpace rest with
    | '?' :: '>' :: rest => some (encoding, rest)
    | _ => none
  let spaced (rest : List Char) : Bool := rest.head?.any isSpace
  let standalone (encoding : Option String) (rest : List Char) :
      Option (Option String × List Char) :=
    match declarationPart? rest with
    | some ("standalone", value, after) =>
      if spaced rest && (value == "yes" || value == "no") then finish encoding after else none
    | _ => finish encoding rest
  match declarationPart? cs with
  | some ("version", version, rest) =>
    if version.isEmpty || !spaced cs then none
    else
      match declarationPart? rest with
      | some ("encoding", value, after) =>
        if spaced rest && (value.toList.head?.any Char.isAlpha) then standalone (some value) after
        else none
      | _ => standalone none rest
  | _ => none

/-- The text of a document that follows its XML declaration, if it has one. -/
def afterDeclaration? (cs : List Char) : Option (List Char) :=
  if "<?xml".toList.isPrefixOf cs && (cs.drop 5).head?.any isSpace then
    (declaration? (cs.drop 5)).map (·.2)
  else some cs

/-- The encoding that the declaration of a document names, if it has one. -/
def namedEncoding (cs : List Char) : Option String :=
  if "<?xml".toList.isPrefixOf cs && (cs.drop 5).head?.any isSpace then
    (declaration? (cs.drop 5)).bind (·.1)
  else none

/-! ## Bytes -/

/-- Why bytes are not the text of a document. -/
inductive EncodingError where
  | malformed
  | unknown (name : String)
deriving Repr, DecidableEq

/-- The characters of which bytes are the codes. -/
def ofCodes (bytes : List UInt8) : List Char := bytes.map fun b => Char.ofNat b.toNat

/-- The units of two bytes that bytes make up. -/
def units? (bigEndian : Bool) : List UInt8 → Option (List Nat)
  | [] => some []
  | [_] => none
  | a :: b :: rest =>
    let (high, low) := if bigEndian then (a, b) else (b, a)
    (units? bigEndian rest).map ((256 * high.toNat + low.toNat) :: ·)

/-- The characters that units of two bytes encode: two surrogates make one character. -/
def ofUnits? : List Nat → Option (List Char)
  | [] => some []
  | [u] => if 0xD800 ≤ u && u < 0xE000 then none else some [Char.ofNat u]
  | u :: v :: rest =>
    if 0xD800 ≤ u && u < 0xDC00 then
      if 0xDC00 ≤ v && v < 0xE000 then
        (ofUnits? rest).map (Char.ofNat (0x10000 + 0x400 * (u - 0xD800) + (v - 0xDC00)) :: ·)
      else none
    else if 0xDC00 ≤ u && u < 0xE000 then none
    else (ofUnits? (v :: rest)).map (Char.ofNat u :: ·)

/-- Whether a document is written in units of two bytes, and then whether the high byte comes
first: a byte order mark or an ASCII character at the start shows it. -/
def wideOrder? : List UInt8 → Option Bool
  | a :: b :: _ =>
    if (a == 0xFE && b == 0xFF) || a == 0 then some true
    else if (a == 0xFF && b == 0xFE) || b == 0 then some false
    else none
  | _ => none

/-- The text of a document in units of two bytes. -/
def decodeWide (bigEndian : Bool) (bytes : List UInt8) : Except EncodingError (List Char) :=
  match (units? bigEndian bytes).bind ofUnits? with
  | none => .error .malformed
  | some cs =>
    let plain := if cs.head? == some '\uFEFF' then cs.drop 1 else cs
    match (namedEncoding plain).map String.toLower with
    | none => .ok cs
    | some name =>
      if name == "utf-16" || name == (if bigEndian then "utf-16be" else "utf-16le") then .ok cs
      else .error .malformed

/-- Names for one byte to a character. -/
def latinNames : List String :=
  ["iso-8859-1", "iso8859-1", "iso_8859-1", "latin-1", "latin1", "latin_1", "l1", "cp819"]

/-- Names for ASCII alone; names of UTF-8 other than the registered one are among them. -/
def asciiNames : List String := ["us-ascii", "ascii", "utf8", "utf_8", "u8"]

/-- The text of a document in units of one byte, with the encoding that its declaration names. -/
def decodeNamed (name : String) (bytes : ByteArray) : Except EncodingError (List Char) :=
  let key := name.toLower
  if latinNames.contains key then .ok (ofCodes bytes.toList)
  else if asciiNames.contains key then
    if bytes.toList.all (· < 0x80) then .ok (ofCodes bytes.toList) else .error .malformed
  else if ["utf-16", "utf-16le", "utf-16be"].contains key then .error .malformed
  else .error (.unknown name)

/-- The text of a document. -/
def decode (bytes : ByteArray) : Except EncodingError (List Char) :=
  let utf8 : Except EncodingError (List Char) :=
    match Text.decode bytes with
    | .ok s => .ok s.toList
    | .error _ => .error .malformed
  match wideOrder? bytes.toList with
  | some bigEndian => decodeWide bigEndian bytes.toList
  | none =>
    match namedEncoding (ofCodes bytes.toList) with
    | none => utf8
    | some name => if name.toLower == "utf-8" then utf8 else decodeNamed name bytes

end MarkdownLint.Xml
