import MarkdownLint.Check.Basic
import MarkdownLint.Configuration.Basic
import MarkdownLint.Pattern.Error
import MarkdownLint.Yaml.Error

/-!
Why a configuration is refused. Most causes are mistakes that the configuration's author can mend;
the others are reported as they arise.
-/
namespace MarkdownLint

/-- Why a rule cannot be made from its settings. -/
inductive RuleError where
  | repeatedSetup (kind : CheckKind)
  | unexpectedParam (kind : CheckKind) (param : String)
  | repeatedSelf (kind : CheckKind)
  | pattern (text : String) (error : Pattern.Error)
  | level (value : Value)
  | style (value : Value)
  | maxLineLength (value : Value)

namespace RuleError

/-- The module in which messages place a rule. -/
def moduleName : CheckKind → String
  | .hardTabs => "no_hard_tabs"
  | .trailingSpaces => "no_trailing_spaces"
  | .multipleBlanks => "no_multiple_blanks"
  | .lineLength => "line_length"
  | .firstHeading => "first_header_h1"
  | .singleHeading => "single_h1"
  | .blanksAroundHeadings => "blanks_around_headers"
  | .breakStyle => "hr_style"
  | .filename => "no_whitespace_in_filename"

/-- The function that messages name as the one that takes a rule's parameters. -/
def constructorName : CheckKind → String
  | .lineLength => "LineLengthRule.__init__()"
  | .firstHeading => "FirstHeaderH1Rule.__init__()"
  | .singleHeading => "SingleH1Rule.__init__()"
  | .breakStyle => "HrStyleRule.__init__()"
  | _ => "Rule.__init__()"

/-- The wording of a cause that quotes a value. -/
def quoting (text : String) (v : Value) : String :=
  if v.isWritable then text ++ v.quoted else Yaml.ScalarError.message (.tooManyDigits none)

/-- The wording of a cause. -/
def message : RuleError → String
  | repeatedSetup k =>
    "mdlint.rules." ++ moduleName k ++ "." ++ k.name ++
      "() got multiple values for keyword argument 'setup'"
  | unexpectedParam k p => constructorName k ++ " got an unexpected keyword argument '" ++ p ++ "'"
  | repeatedSelf k => constructorName k ++ " got multiple values for argument 'self'"
  | pattern text e => e.message text.toList
  | level v => quoting "level must be between 1 and 6, got " v
  | style v => quoting "style must be a non-empty string, got " v
  | maxLineLength v => quoting "max_line_length must be a positive integer, got " v

/-- Whether the cause is a repetition that cannot be counted, which is not put down to the
configuration. -/
def isOverflow : RuleError → Bool
  | pattern _ .repetitionTooLarge => true
  | _ => false

end RuleError

/-- A mistake in a configuration. -/
inductive ConfigurationError where
  | notMapping
  | unknownKeys (keys : List String)
  | threshold (value : Value)
  | reportsNotList
  | unknownReport (value : Value)
  | rulesNotMapping
  | settingsNotMapping (rule : String)
  | invalidSetting (rule : String) (key : Scalar)
  | activeNotBool (rule : String)
  | patternsNotTexts (rule key : String)
  | unknownRules (names : List String)
  | rule (kind : CheckKind) (error : RuleError)
  | file (path detail : String)
  | emptyFile (path : String)

/-- The wording of a mistake. -/
def ConfigurationError.message : ConfigurationError → String
  | notMapping => "expected a mapping at the top level"
  | unknownKeys keys => "unknown keys: " ++ ", ".intercalate keys
  | threshold v => "Threshold must be a non-negative integer, got " ++ v.quoted
  | reportsNotList => "'reports' must be a list"
  | unknownReport v =>
    "Unknown report '" ++ v.display ++ "' (expected one of: " ++
      ", ".intercalate (Report.all.map Report.name) ++ ")"
  | rulesNotMapping => "'rules' must be a mapping of rule name to settings"
  | settingsNotMapping r => "Rule '" ++ r ++ "': settings must be a mapping"
  | invalidSetting r k => "Rule '" ++ r ++ "': invalid setting " ++ k.quoted
  | activeNotBool r => "Rule '" ++ r ++ "': 'active' must be true or false"
  | patternsNotTexts r k =>
    "Rule '" ++ r ++ "': '" ++ k ++ "' must be a list of regular expressions"
  | unknownRules names => "Unknown rules in configuration: " ++ ", ".intercalate names
  | rule k e => "Invalid configuration for rule '" ++ k.name ++ "': " ++ e.message
  | file path detail => "Invalid configuration of markdownlint in " ++ path ++ ": " ++ detail
  | emptyFile path => "Invalid configuration of markdownlint in " ++ path

/-- Why no configuration comes about. -/
inductive SetupError where
  /-- A mistake in the configuration. -/
  | configuration (e : ConfigurationError)
  /-- Keys that have no order among them were to be listed in order. -/
  | unorderedKeys
  /-- A value that is not a collection was to be read as one. -/
  | notIterable (typeName : String)
  /-- A setting has the name of a parameter that is already given. -/
  | repeatedArgument (name : String)
  /-- A pattern repeats more often than can be counted. -/
  | repetitionTooLarge
  /-- A scalar of a configuration file has no value, or is not written out. -/
  | scalar (e : Yaml.ScalarError)

namespace SetupError

/-- Why an integer is not written out. -/
def tooManyDigits : SetupError := scalar (.tooManyDigits none)

/-- A mistake whose wording quotes a value. -/
def quoting (v : Value) (e : ConfigurationError) : SetupError :=
  if v.isWritable then configuration e else tooManyDigits

/-- The wording of a cause, for those that have one. -/
def message : SetupError → Option String
  | configuration e => some e.message
  | unorderedKeys => none
  | notIterable t => some ("'" ++ t ++ "' object is not iterable")
  | repeatedArgument name =>
    some ("ConfigurationBuilder.rule() got multiple values for argument '" ++ name ++ "'")
  | repetitionTooLarge => some (Pattern.Error.repetitionTooLarge.message [])
  | scalar e => some e.message

end SetupError

end MarkdownLint
