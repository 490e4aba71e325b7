import MarkdownLint.Text.Integer
import MarkdownLint.Text.Quoted

/-!
Why a pattern is refused, and the wording of each cause.
-/
namespace MarkdownLint.Pattern

/-- The causes found while a pattern is read. -/
inductive Reason where
  | escapeAtEnd
  | badEscape (text : String)
  | incompleteEscape (text : String)
  | octalTooLarge (text : String)
  | undefinedCharacterName (name : String)
  | missingBrace
  | missingName (what : String)
  | unterminatedName (terminator : Char)
  | badGroupName (name : String)
  | unknownGroupName (name : String)
  | redefinedGroup (name : String) (index old : Nat)
  | openGroup
  | groupInLookbehind
  | invalidGroup (index : Nat)
  | badGroupNumber
  | unterminatedSet
  | badRange (lo hi : String)
  | reversedRepeat
  | nothingToRepeat
  | multipleRepeat
  | unexpectedEnd
  | unknownExtension (text : String)
  | unterminatedComment
  | unterminatedGroup
  | unbalanced
  | tooManyBranches
  | lateOptions
  | unsupportedLocale
  | incompatibleOptions
  | missingOptionEnd
  | unknownOption
  | missingOption
  | missingColon
  | globalOptionOn
  | globalOptionOff
  | fixedRepertoire
  | contradictoryOptions
  | variableLookbehind
  | tooFarBehind
  | repeatInTemplate (operator : String)
deriving Repr, DecidableEq

/-- The wording of a cause. -/
def Reason.message : Reason → String
  | escapeAtEnd => "bad escape (end of pattern)"
  | badEscape t => "bad escape " ++ t
  | incompleteEscape t => "incomplete escape " ++ t
  | octalTooLarge t => "octal escape value " ++ t ++ " outside of range 0-0o377"
  | undefinedCharacterName n => "undefined character name " ++ Text.quoted n
  | missingBrace => "missing \x7b"
  | missingName what => "missing " ++ what
  | unterminatedName t => "missing " ++ String.singleton t ++ ", unterminated name"
  | badGroupName n => "bad character in group name " ++ Text.quoted n
  | unknownGroupName n => "unknown group name " ++ Text.quoted n
  | redefinedGroup n i o =>
    "redefinition of group name " ++ Text.quoted n ++ " as group " ++ toString i ++
      "; was group " ++ toString o
  | openGroup => "cannot refer to an open group"
  | groupInLookbehind => "cannot refer to group defined in the same lookbehind subpattern"
  | invalidGroup i => "invalid group reference " ++ toString i
  | badGroupNumber => "bad group number"
  | unterminatedSet => "unterminated character set"
  | badRange lo hi => "bad character range " ++ lo ++ "-" ++ hi
  | reversedRepeat => "min repeat greater than max repeat"
  | nothingToRepeat => "nothing to repeat"
  | multipleRepeat => "multiple repeat"
  | unexpectedEnd => "unexpected end of pattern"
  | unknownExtension t => "unknown extension " ++ t
  | unterminatedComment => "missing ), unterminated comment"
  | unterminatedGroup => "missing ), unterminated subpattern"
  | unbalanced => "unbalanced parenthesis"
  | tooManyBranches => "conditional backref with more than two branches"
  | lateOptions => "global flags not at the start of the expression"
  | unsupportedLocale => "bad inline flags: cannot use 'L' flag with a str pattern"
  | incompatibleOptions => "bad inline flags: flags 'a', 'u' and 'L' are incompatible"
  | missingOptionEnd => "missing -, : or )"
  | unknownOption => "unknown flag"
  | missingOption => "missing flag"
  | missingColon => "missing :"
  | globalOptionOn => "bad inline flags: cannot turn on global flag"
  | globalOptionOff => "bad inline flags: cannot turn off global flag"
  | fixedRepertoire => "bad inline flags: cannot turn off flags 'a', 'u' and 'L'"
  | contradictoryOptions => "bad inline flags: flag turned on and off"
  | variableLookbehind => "look-behind requires fixed-width pattern"
  | tooFarBehind => "looks too much behind"
  | repeatInTemplate op => "internal: unsupported template operator " ++ op

/-- Why a pattern is refused. -/
inductive Error where
  /-- A mistake in the pattern, with the place where it was noticed if it has one. -/
  | malformed (reason : Reason) (position : Option Nat)
  /-- A repetition bound beyond what a pattern can count. -/
  | repetitionTooLarge
  /-- A repetition bound with so many digits that it is not read. -/
  | tooManyDigits (count : Nat)
  /-- The pattern asks for two character repertoires at once. -/
  | repertoireConflict
deriving Repr, DecidableEq

/-- Where a position of a text lies: its line and its column, both counted from one. -/
def lineAndColumn (text : List Char) (position : Nat) : Nat × Nat :=
  let before := text.take position
  (before.count '\n' + 1, (before.reverse.takeWhile (· != '\n')).length + 1)

/-- The wording of an error in the pattern `text`. A pattern of several lines has the line and the
column named too. -/
def Error.message (text : List Char) : Error → String
  | .malformed r none => r.message
  | .malformed r (some p) =>
    let base := r.message ++ " at position " ++ toString p
    if text.contains '\n' then
      let (line, column) := lineAndColumn text p
      base ++ " (line " ++ toString line ++ ", column " ++ toString column ++ ")"
    else base
  | .repetitionTooLarge => "the repetition number is too large"
  | .tooManyDigits count => Text.tooManyDigitsMessage (some count)
  | .repertoireConflict => "ASCII and UNICODE flags are incompatible"

end MarkdownLint.Pattern
