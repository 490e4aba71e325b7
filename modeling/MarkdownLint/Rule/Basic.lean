import MarkdownLint.Check.Visit
import MarkdownLint.Configuration.Error
import MarkdownLint.Pattern.Matcher

/-!
Rules: a check together with the patterns that choose the files it looks at.
-/
namespace MarkdownLint

/-- A rule. -/
structure Rule where
  check : Check
  setup : RuleSetup
  includes : List Pattern.Compiled
  excludes : List Pattern.Compiled

namespace Rule

/-- The name of a rule. -/
def name (r : Rule) : String := r.check.name

/-- Whether a rule looks at a file (`Rule.applies_to`): some include pattern and no exclude pattern
matches the whole of its name. -/
def appliesTo (r : Rule) (filename : String) : Bool :=
  r.includes.any (·.matchesAll filename) && !r.excludes.any (·.matchesAll filename)

/-- The violations of a rule in a document it looks at (`Rule.process`). -/
def process (r : Rule) (d : Document) : Except Fault (List Violation) :=
  if r.appliesTo d.filename then r.check.visit d else .ok []

/-! ## Making rules -/

/-- The parameters that a kind of check takes. -/
def acceptedParams : CheckKind → List String
  | .lineLength => ["max_line_length", "code_blocks"]
  | .firstHeading => ["level"]
  | .singleHeading => ["level"]
  | .breakStyle => ["style"]
  | _ => []

/-- Refuses parameters that a kind of check does not take. -/
def checkParams (kind : CheckKind) (params : List (String × Value)) : Except RuleError Unit :=
  if params.any fun p => p.1 == "setup" then .error (.repeatedSetup kind)
  else
    match params.find? fun p => !(acceptedParams kind).contains p.1 with
    | some p => .error (if p.1 == "self" then .repeatedSelf kind else .unexpectedParam kind p.1)
    | none => .ok ()

/-- The meanings of patterns. -/
def compileAll (named : Pattern.CharacterNames) :
    List String → Except RuleError (List Pattern.Compiled)
  | [] => .ok []
  | p :: rest =>
    match Pattern.compile named p with
    | .error e => .error (.pattern p e)
    | .ok c => (compileAll named rest).map (c :: ·)

/-- The heading level that a value stands for: a number from one to six. -/
def levelOf (value : Value) : Except RuleError Level :=
  match value with
  | .scalar s =>
    match s.number? with
    | some n => if 1 ≤ n ∧ n ≤ 6 then .ok ⟨value, n.toNat⟩ else .error (.level value)
    | none => .error (.level value)
  | _ => .error (.level value)

/-- The limit that a value stands for: a positive integer. -/
def limitOf (value : Value) : Except RuleError Nat :=
  match value with
  | .scalar (.int n) => if 1 ≤ n then .ok n.toNat else .error (.maxLineLength value)
  | _ => .error (.maxLineLength value)

/-- The style that a value stands for: a text that is not blank, without blanks around it. -/
def styleOf (value : Value) : Except RuleError String :=
  match value with
  | .scalar (.text s) =>
    if (Text.trim s.toList).isEmpty then .error (.style value) else .ok (Text.trimString s)
  | _ => .error (.style value)

/-- The check of a kind with the given parameters, defaults filled in. -/
def checkOf (kind : CheckKind) (params : List (String × Value)) : Except RuleError Check :=
  match kind with
  | .hardTabs => .ok .hardTabs
  | .trailingSpaces => .ok .trailingSpaces
  | .multipleBlanks => .ok .multipleBlanks
  | .lineLength => do
    let limit ← limitOf ((params.lookup "max_line_length").getD (.int 80))
    return .lineLength limit ((params.lookup "code_blocks").getD (.bool true)).isTrue
  | .firstHeading => return .firstHeading (← levelOf ((params.lookup "level").getD (.int 1)))
  | .singleHeading => return .singleHeading (← levelOf ((params.lookup "level").getD (.int 1)))
  | .blanksAroundHeadings => .ok .blanksAroundHeadings
  | .breakStyle =>
    return .breakStyle (← styleOf ((params.lookup "style").getD (.text Check.consistentStyle)))
  | .filename => .ok .filename

/-- The rule of a kind with the given setup. -/
def make (named : Pattern.CharacterNames) (kind : CheckKind) (setup : RuleSetup)
    (params : List (String × Value)) : Except RuleError Rule := do
  checkParams kind params
  let includes ← compileAll named setup.includes
  let excludes ← compileAll named setup.excludes
  let check ← checkOf kind params
  return ⟨check, setup, includes, excludes⟩

/-- The parameters of a rule, by name. -/
def attributes (r : Rule) : List (String × Value) :=
  match r.check with
  | .lineLength limit codeBlocks =>
    [("max_line_length", .int limit), ("code_blocks", .bool codeBlocks)]
  | .firstHeading level => [("level", level.value)]
  | .singleHeading level => [("level", level.value)]
  | .breakStyle style => [("style", .text style)]
  | _ => []

end Rule

end MarkdownLint
