import MarkdownLint.Configuration.Builder
import MarkdownLint.Text.Identifier

/-!
Configurations given as mappings, the form they have in configuration files.
-/
namespace MarkdownLint.Configuration

open Decimal (Binary64)

/-- The keys of a configuration. -/
def topLevelKeys : List String := ["threshold", "reports", "rules"]

/-- Names that a parameter of a rule cannot have. -/
def reservedParams : List String := ["name", "setup"]

/-- The value of a number, for comparison. -/
def numeric? : Scalar → Option Binary64
  | .bool b => some (Binary64.ofInt (if b then 1 else 0))
  | .int n => some (Binary64.ofInt n)
  | .float x => some x
  | _ => none

/-- Whether one number is at most another. Integers are compared exactly. -/
def numberLe (a b : Scalar) : Bool :=
  match a.number?, b.number? with
  | some m, some n => m ≤ n
  | _, _ =>
    match numeric? a, numeric? b with
    | some x, some y => !y.lt x
    | _, _ => true

/-- The keys of a mapping in order, or `none` if there is no order among them. A single key needs
none. -/
def sortKeys? (keys : List Scalar) : Option (List Scalar) :=
  let isText : Scalar → Bool
    | .text _ => true
    | _ => false
  let isDate : Scalar → Bool
    | .date _ => true
    | _ => false
  let isMoment (zoned : Bool) : Scalar → Bool
    | .moment m => m.zone.isSome == zoned
    | _ => false
  let textLe (a b : Scalar) : Bool := !(b.display < a.display)
  let momentLe (a b : Scalar) : Bool :=
    match a, b with
    | .moment m, .moment n => m.instant ≤ n.instant
    | _, _ => true
  if keys.length ≤ 1 then some keys
  else if keys.all isText then some (keys.mergeSort textLe)
  else if keys.all fun k => (numeric? k).isSome then some (keys.mergeSort numberLe)
  else if keys.all isDate then some (keys.mergeSort textLe)
  else if keys.all (isMoment true) || keys.all (isMoment false) then some (keys.mergeSort momentLe)
  else none

/-- The text of a key. -/
def keyText (k : Scalar) : Except SetupError String :=
  if k.isWritable then .ok k.display else .error .tooManyDigits

/-- The keys that a configuration does not have. -/
def unknownKeys (entries : List (Scalar × Value)) : List Scalar :=
  (entries.map (·.1)).filter fun k => !(topLevelKeys.map Scalar.text).contains k

/-- Refuses keys that a configuration does not have. -/
def checkKeys (entries : List (Scalar × Value)) : Except SetupError Unit :=
  if (unknownKeys entries).isEmpty then .ok ()
  else
    match sortKeys? (unknownKeys entries) with
    | some keys => do
      let texts ← keys.mapM keyText
      throw (.configuration (.unknownKeys texts))
    | none => .error .unorderedKeys

/-- Takes over the threshold of a configuration. -/
def readThreshold (b : Builder) (entries : List (Scalar × Value)) : Except SetupError Builder :=
  match Value.lookup "threshold" entries with
  | none => .ok b
  | some v => b.setThreshold v

/-- Takes over the reports of a configuration: a name, a list of names, or something empty. -/
def readReports (b : Builder) (entries : List (Scalar × Value)) : Except SetupError Builder :=
  match Value.lookup "reports" entries with
  | none => .ok b
  | some v =>
    if !v.isTrue then b.setReports []
    else
      match v with
      | .scalar (.text s) => b.setReports [.text s]
      | .list items => b.setReports items
      | _ => .error (.configuration .reportsNotList)

/-- The settings of a rule, their names checked. -/
def namedSettings (rule : String) :
    List (Scalar × Value) → Except SetupError (List (String × Value))
  | [] => .ok []
  | (k, v) :: rest =>
    let name? := match k with
      | .text s =>
        if Builder.setupKeys.contains s || (Text.isIdentifier s && !reservedParams.contains s) then
          some s
        else none
      | _ => none
    match name? with
    | none => .error (.quoting (.scalar k) (.invalidSetting rule k))
    | some name => (namedSettings rule rest).map ((name, v) :: ·)

/-- The settings that the value of a rule stands for: nothing for the defaults, a truth value for
whether it runs, or a mapping. -/
def settingsOf (rule : String) : Value → Except SetupError (List (Scalar × Value))
  | .scalar .null => .ok []
  | .scalar (.bool b) => .ok [(.text "active", .bool b)]
  | .map entries => .ok entries
  | _ => .error (.configuration (.settingsNotMapping rule))

/-- Takes over the rules of a configuration. -/
def readRules (b : Builder) : List (Scalar × Value) → Except SetupError Builder
  | [] => .ok b
  | (k, v) :: rest => do
    let name ← keyText k
    let settings ← settingsOf name v
    let settings ← namedSettings name settings
    let b ← b.rule name settings
    readRules b rest

/-- The entries of the rules of a configuration. -/
def ruleEntries (entries : List (Scalar × Value)) : Except SetupError (List (Scalar × Value)) :=
  match Value.lookup "rules" entries with
  | none => .ok []
  | some v =>
    if !v.isTrue then .ok []
    else
      match v with
      | .map rules => .ok rules
      | _ => .error (.configuration .rulesNotMapping)

/-- The configuration that a value stands for (`configuration_from_mapping`). -/
def ofValue : Value → Except SetupError Configuration
  | .map entries => do
    checkKeys entries
    let b ← readThreshold {} entries
    let b ← readReports b entries
    let rules ← ruleEntries entries
    let b ← readRules b rules
    return b.build
  | _ => .error (.configuration .notMapping)

end MarkdownLint.Configuration
