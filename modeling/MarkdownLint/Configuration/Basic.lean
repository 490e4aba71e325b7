import MarkdownLint.Value

/-!
Configurations: which rules run, on which files and with which parameters, which reports are
written, and how many violations are tolerated.
-/
namespace MarkdownLint

/-- The kinds of reports. -/
inductive Report where
  | checkstyle
  | html
deriving Repr, DecidableEq

namespace Report

/-- The kinds, in declared order. -/
def all : List Report := [checkstyle, html]

/-- The name of a kind. -/
def name : Report → String
  | checkstyle => "checkstyle"
  | html => "html"

/-- The kind with the given name. -/
def ofName? (s : String) : Option Report := all.find? fun r => r.name == s

end Report

/-- A set of kinds of reports. -/
structure Reports where
  checkstyle : Bool
  html : Bool
deriving Repr, DecidableEq

namespace Reports

/-- Both kinds. -/
def both : Reports := ⟨true, true⟩

/-- Whether a kind is in the set. -/
def has (rs : Reports) : Report → Bool
  | .checkstyle => rs.checkstyle
  | .html => rs.html

/-- The set of the kinds in a list. -/
def ofList (kinds : List Report) : Reports := ⟨kinds.contains .checkstyle, kinds.contains .html⟩

/-- The kinds in the set, in declared order. -/
def toList (rs : Reports) : List Report := Report.all.filter rs.has

end Reports

/-- The settings of one rule: whether it runs, on the files whose names some include pattern and no
exclude pattern matches, and its parameters. -/
structure RuleSetup where
  active : Bool := true
  includes : List String := [".*"]
  excludes : List String := []
  params : List (String × Value) := []

/-- A configuration. The rules are in the order in which they were first set up. -/
structure Configuration where
  rules : List (String × RuleSetup) := []
  reports : Reports := Reports.both
  threshold : Nat := 0

namespace Configuration

/-- The settings of a rule (`rule_setup`); one that is not configured runs with the default ones. -/
def ruleSetup (c : Configuration) (name : String) : RuleSetup := (c.rules.lookup name).getD {}

/-- Whether a report is to be written (`wants`). -/
def wants (c : Configuration) (r : Report) : Bool := c.reports.has r

/-- Whether a rule runs (`Rule.is_active`). -/
def isActive (c : Configuration) (name : String) : Bool := (c.ruleSetup name).active

end Configuration

end MarkdownLint
