import MarkdownLint.Rule.Basic

/-!
The rules that a configuration calls for, in the order of the catalog.
-/
namespace MarkdownLint.Configuration

/-- The configured names that no rule has, in order. -/
def unknownRules (c : Configuration) : List String :=
  ((c.rules.map (·.1)).filter fun n => (CheckKind.ofName? n).isNone).mergeSort
    fun a b => !(b < a)

/-- The rule of a kind under a configuration. -/
def makeRule (c : Configuration) (named : Pattern.CharacterNames) (kind : CheckKind) :
    Except SetupError Rule :=
  let setup := c.ruleSetup kind.name
  match Rule.make named kind setup setup.params with
  | .ok r => .ok r
  | .error e =>
    .error (if e.isOverflow then .repetitionTooLarge else .configuration (.rule kind e))

/-- The active rules of some kinds. -/
def makeRules (c : Configuration) (named : Pattern.CharacterNames) :
    List CheckKind → Except SetupError (List Rule)
  | [] => .ok []
  | kind :: rest =>
    if c.isActive kind.name then do
      let r ← c.makeRule named kind
      return r :: (← c.makeRules named rest)
    else c.makeRules named rest

/-- The active rules of a configuration (`instantiate`). -/
def instantiate (c : Configuration) (named : Pattern.CharacterNames) :
    Except SetupError (List Rule) :=
  match c.unknownRules with
  | [] => c.makeRules named CheckKind.all
  | names => .error (.configuration (.unknownRules names))

end MarkdownLint.Configuration
