import MarkdownLint.Value
import MarkdownLint.Violation

/-!
Checks: what the rules look for, with the parameters that shape it, and how each is presented.
-/
namespace MarkdownLint

/-- A heading level as a configuration gives it, and the number it stands for. -/
structure Level where
  value : Value
  number : Nat

/-- The first level. -/
def Level.one : Level := ⟨.int 1, 1⟩

/-- The kinds of checks, in the order in which their violations are reported. -/
inductive CheckKind where
  | hardTabs
  | trailingSpaces
  | multipleBlanks
  | lineLength
  | firstHeading
  | singleHeading
  | blanksAroundHeadings
  | breakStyle
  | filename
deriving Repr, DecidableEq

namespace CheckKind

/-- All kinds, in order. -/
def all : List CheckKind :=
  [hardTabs, trailingSpaces, multipleBlanks, lineLength, firstHeading, singleHeading,
    blanksAroundHeadings, breakStyle, filename]

/-- The name of the rule. -/
def name : CheckKind → String
  | hardTabs => "NoHardTabsRule"
  | trailingSpaces => "NoTrailingSpacesRule"
  | multipleBlanks => "NoMultipleBlanksRule"
  | lineLength => "LineLengthRule"
  | firstHeading => "FirstHeaderH1Rule"
  | singleHeading => "SingleH1Rule"
  | blanksAroundHeadings => "BlanksAroundHeadersRule"
  | breakStyle => "HrStyleRule"
  | filename => "NoWhitespaceInFilenameRule"

/-- What the rule asks for. -/
def description : CheckKind → String
  | hardTabs => "Hard tabs"
  | trailingSpaces => "Trailing spaces"
  | multipleBlanks => "Multiple consecutive blank lines"
  | lineLength => "Line length"
  | firstHeading => "First header should be a top level header"
  | singleHeading => "Multiple top level headers in the same document"
  | blanksAroundHeadings => "Headers should be surrounded by blank lines"
  | breakStyle => "Horizontal rule style"
  | filename => "Filename contains whitespace"

/-- The groups that the rule belongs to. -/
def tags : CheckKind → List String
  | hardTabs => ["whitespace", "hard_tab"]
  | trailingSpaces => ["whitespace"]
  | multipleBlanks => ["whitespace", "blank_lines"]
  | lineLength => ["line_length"]
  | firstHeading => ["headers"]
  | singleHeading => ["headers"]
  | blanksAroundHeadings => ["headers", "blank_lines"]
  | breakStyle => ["hr"]
  | filename => ["filename"]

/-- The kind of the rule with the given name. -/
def ofName? (s : String) : Option CheckKind := all.find? fun k => k.name == s

end CheckKind

/-- A check with its parameters. -/
inductive Check where
  | hardTabs
  | trailingSpaces
  | multipleBlanks
  | lineLength (limit : Nat) (codeBlocks : Bool)
  | firstHeading (level : Level)
  | singleHeading (level : Level)
  | blanksAroundHeadings
  | breakStyle (style : String)
  | filename

namespace Check

/-- The kind of a check. -/
def kind : Check → CheckKind
  | hardTabs => .hardTabs
  | trailingSpaces => .trailingSpaces
  | multipleBlanks => .multipleBlanks
  | lineLength .. => .lineLength
  | firstHeading _ => .firstHeading
  | singleHeading _ => .singleHeading
  | blanksAroundHeadings => .blanksAroundHeadings
  | breakStyle _ => .breakStyle
  | filename => .filename

/-- The name of the rule that a check belongs to. -/
def name (c : Check) : String := c.kind.name

/-- What the rule that a check belongs to asks for. -/
def description (c : Check) : String := c.kind.description

/-- A violation of the check (`Rule.error`); without a message of its own it carries the
description. -/
def report (c : Check) (d : Document) (start stop : Int) (message : Option String) :
    Except Fault Violation :=
  let text := match message with
    | some m => if m.isEmpty then c.description else m
    | none => c.description
  d.violation c.name text start stop

end Check

namespace Document

/-- What `f` finds on each line, in order. -/
def collectLines (d : Document) (f : Nat → Except Fault (Option Violation)) :
    Except Fault (List Violation) := do
  return (← (List.range d.lineCount).mapM f).filterMap id

end Document

end MarkdownLint
