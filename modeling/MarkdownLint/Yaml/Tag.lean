import MarkdownLint.Yaml.Number
import MarkdownLint.Yaml.Timestamp

/-!
Kinds of nodes. A node has the kind that its tag names; a plain scalar without a tag has the kind
that its text shows.
-/
namespace MarkdownLint.Yaml

/-- The kind of a node. -/
inductive Tag where
  | null
  | bool
  | int
  | float
  | timestamp
  | text
  /-- A key whose value lends its entries to the mapping around it. -/
  | merge
  /-- A key whose value stands for the mapping around it. -/
  | default
  | list
  | map
  /-- A kind that has no values here. -/
  | unknown
deriving Repr, DecidableEq

namespace Tag

/-- What the names of kinds start with. -/
def domain : String := "tag:yaml.org,2002:"

/-- The kinds that have values, by name. -/
def named : List (String × Tag) :=
  [("null", null), ("bool", bool), ("int", int), ("float", float), ("timestamp", timestamp),
   ("str", text), ("merge", merge), ("value", default), ("seq", list), ("map", map)]

/-- The kind with the given name. -/
def ofName (name : String) : Tag :=
  ((named.find? fun t => domain ++ t.1 == name).map (·.2)).getD unknown

/-- The truth value that a word stands for. -/
def truth? (word : String) : Option Bool :=
  if ["yes", "true", "on"].contains word then some true
  else if ["no", "false", "off"].contains word then some false
  else none

/-- Whether a plain scalar is a truth value: a word in lower case, upper case, or with a capital. -/
def isBool (cs : List Char) : Bool :=
  let lower := cs.map Char.toLower
  let shapes := [lower, lower.map Char.toUpper, (lower.take 1).map Char.toUpper ++ lower.drop 1]
  (truth? (String.ofList lower)).isSome && shapes.contains cs

/-- The kind that the text of a plain scalar shows. -/
def ofPlain (text : String) : Tag :=
  let cs := text.toList
  if isBool cs then bool
  else if isFloat cs then float
  else if isInt cs then int
  else if text == "<<" then merge
  else if ["~", "null", "Null", "NULL", ""].contains text then null
  else if isTimestamp cs then timestamp
  else if text == "=" then default
  else if ["!", "&", "*"].contains text then unknown
  else Tag.text

/-- The scalar that a text denotes as a value of a kind of scalars. -/
def scalarValue (tag : Tag) (text : String) : Except LoadError Scalar :=
  let cs := text.toList
  let lift {α : Type} (r : Except ScalarError α) (f : α → Scalar) : Except LoadError Scalar :=
    match r with
    | .ok a => .ok (f a)
    | .error e => .error (.scalar e)
  match tag with
  | null => .ok .null
  | bool =>
    let word := String.ofList (cs.map fun c => Char.ofNat (Text.lowerCode c.toNat))
    match truth? word with
    | some b => .ok (.bool b)
    | none => .error (.scalar (.truthValue word))
  | int => lift (intValue cs) .int
  | float => lift (floatValue cs) .float
  | timestamp => lift (timestampValue cs) id
  | Tag.text => .ok (.text text)
  | _ => .error .malformed

end Tag

end MarkdownLint.Yaml
