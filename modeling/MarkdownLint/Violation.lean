import MarkdownLint.Document

/-!
Violations: what rules report. A violation names its rule and the range of characters it concerns,
with the line and the column of its start.
-/
namespace MarkdownLint

/-- How severe a violation is. Rules report errors; the other levels are those that readers of
reports know besides. -/
inductive Severity where
  | error
  | warning
  | info
  | ignore
deriving Repr, DecidableEq

namespace Severity

/-- The levels, in declared order. -/
def all : List Severity := [error, warning, info, ignore]

/-- The name of a level. -/
def name : Severity → String
  | error => "error"
  | warning => "warning"
  | info => "info"
  | ignore => "ignore"

/-- The level with the given name. -/
def ofName? (s : String) : Option Severity := all.find? fun v => v.name == s

end Severity

/-- A violation of a rule (`Error`). -/
structure Violation where
  rule : String
  start : Nat
  stop : Nat
  line : Int
  column : Int
  message : String
  severity : Severity := .error
deriving Repr, DecidableEq

/-- The violation of a rule on the characters from `start` up to `stop`, which must lie inside the
document (`Error.at`). -/
def Document.violation (d : Document) (rule message : String) (start stop : Int) :
    Except Fault Violation :=
  if 0 ≤ start ∧ start ≤ stop ∧ stop ≤ d.length then
    .ok {
      rule
      start := start.toNat
      stop := stop.toNat
      line := d.lineNumberOf start
      column := d.columnNumberOf start
      message }
  else .error (.outside start stop d.length)

end MarkdownLint
