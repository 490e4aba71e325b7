import MarkdownLint.Value

/-!
Why a YAML text has no value: it is not a well-formed document, or one of its scalars does not
denote what its kind asks for.
-/
namespace MarkdownLint.Yaml

/-- Why a scalar has no value. -/
inductive ScalarError where
  /-- An escaped code that no character has. -/
  | codePoint (code : Nat)
  /-- A number has no text at all. -/
  | emptyNumber
  /-- A text that is no integer in the given base. -/
  | integer (base : Nat) (text : String)
  /-- An integer has too many digits to be read, which are counted then, or to be written. -/
  | tooManyDigits (count : Option Nat)
  /-- A text that is no decimal. -/
  | decimal (text : String)
  /-- A text that is no truth value. -/
  | truthValue (text : String)
  /-- A text that is no moment. -/
  | moment
  | year (year : Nat)
  | month
  | day
  | hour
  | minute
  | second
  /-- A time zone that is a day or more away from universal time, in seconds. -/
  | zone (offset : Int)
deriving Repr, DecidableEq

/-- The greatest code that a request for a character can carry. -/
def maxCode : Nat := 0x7FFFFFFF

/-- The wording of a cause. -/
def ScalarError.message : ScalarError → String
  | codePoint code =>
    if maxCode < code then "Python int too large to convert to C int"
    else "chr() arg not in range(0x110000)"
  | emptyNumber => "string index out of range"
  | integer base text =>
    "invalid literal for int() with base " ++ toString base ++ ": " ++ Text.quoted text
  | tooManyDigits count => Text.tooManyDigitsMessage count
  | decimal text => "could not convert string to float: " ++ Text.quoted text
  | truthValue text => Text.quoted text
  | moment => "'NoneType' object has no attribute 'groupdict'"
  | year y => "year " ++ toString y ++ " is out of range"
  | month => "month must be in 1..12"
  | day => "day is out of range for month"
  | hour => "hour must be in 0..23"
  | minute => "minute must be in 0..59"
  | second => "second must be in 0..59"
  | zone offset =>
    "offset must be a timedelta strictly between -timedelta(hours=24) and timedelta(hours=24), " ++
      "not " ++ durationQuoted offset ++ "."

/-- Why a text has no value. -/
inductive LoadError where
  /-- The text is not a single well-formed document. -/
  | malformed
  | scalar (e : ScalarError)
deriving Repr, DecidableEq

end MarkdownLint.Yaml
