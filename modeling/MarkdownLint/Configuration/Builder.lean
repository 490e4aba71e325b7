import MarkdownLint.Association
import MarkdownLint.Configuration.Error

/-!
Building a configuration step by step. A step that is refused leaves the builder as it was.
-/
namespace MarkdownLint

/-- A configuration in the making (`ConfigurationBuilder`). -/
structure Builder where
  rules : List (String × RuleSetup) := []
  reports : Reports := Reports.both
  threshold : Nat := 0

namespace Builder

/-- The texts of a list of values, if all are texts. -/
def textsOf? : List Value → Option (List String)
  | [] => some []
  | .scalar (.text s) :: rest => (textsOf? rest).map (s :: ·)
  | _ => none

/-- The patterns that a value stands for (`_patterns`): a single one, or those of a list or of the
keys of a mapping. -/
def patterns (rule key : String) (value : Option Value) (default : List String) :
    Except SetupError (List String) :=
  let texts (items : List Value) : Except SetupError (List String) :=
    match textsOf? items with
    | some ts => .ok ts
    | none => .error (.configuration (.patternsNotTexts rule key))
  match value with
  | none => .ok default
  | some (.scalar .null) => .ok default
  | some (.scalar (.text s)) => .ok [s]
  | some (.list items) => texts items
  | some (.map entries) => texts (entries.map fun e => .scalar e.1)
  | some (.scalar s) => .error (.notIterable s.typeName)

/-- The names of the settings that are not parameters. -/
def setupKeys : List String := ["active", "includes", "excludes"]

/-- The names that settings cannot have, since they are given already. -/
def givenArguments : List String := ["self", "name"]

/-- The setup that settings stand for. -/
def setupOf (rule : String) (settings : List (String × Value)) : Except SetupError RuleSetup :=
  match settings.find? fun s => givenArguments.contains s.1 with
  | some s => .error (.repeatedArgument s.1)
  | none =>
    match (settings.lookup "active").getD (.bool true) with
    | .scalar (.bool active) => do
      let includes ← patterns rule "includes" (settings.lookup "includes") [".*"]
      let excludes ← patterns rule "excludes" (settings.lookup "excludes") []
      return {
        active, includes, excludes
        params := settings.filter fun s => !setupKeys.contains s.1 }
    | _ => .error (.configuration (.activeNotBool rule))

/-- Sets up a rule, replacing what was set up for it before (`ConfigurationBuilder.rule`). -/
def rule (b : Builder) (name : String) (settings : List (String × Value)) :
    Except SetupError Builder := do
  let setup ← setupOf name settings
  return { b with rules := Association.assign b.rules name setup }

/-- The kinds of reports that values name. -/
def reportsOf : List Value → Except SetupError (List Report)
  | [] => .ok []
  | v :: rest =>
    let kind? := match v with
      | .scalar (.text s) => Report.ofName? s
      | _ => none
    match kind? with
    | none => .error (.quoting v (.unknownReport v))
    | some k => (reportsOf rest).map (k :: ·)

/-- Replaces the requested reports (`ConfigurationBuilder.reports`); without arguments none is
written. -/
def setReports (b : Builder) (values : List Value) : Except SetupError Builder := do
  let kinds ← reportsOf values
  return { b with reports := Reports.ofList kinds }

/-- The number of violations that a value allows. -/
def thresholdOf : Value → Except SetupError Nat
  | .scalar (.int (.ofNat n)) => .ok n
  | v => .error (.quoting v (.threshold v))

/-- Sets the number of violations that are tolerated (`ConfigurationBuilder.threshold`). -/
def setThreshold (b : Builder) (value : Value) : Except SetupError Builder := do
  let threshold ← thresholdOf value
  return { b with threshold }

/-- The configuration built so far (`ConfigurationBuilder.build`). -/
def build (b : Builder) : Configuration := ⟨b.rules, b.reports, b.threshold⟩

end Builder

end MarkdownLint
