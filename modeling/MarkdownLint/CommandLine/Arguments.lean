import MarkdownLint.Text.Digit
import MarkdownLint.Text.Integer
import MarkdownLint.Text.Quoted

/-!
The arguments of the program. Long options may be shortened as long as one is meant, a value may be
attached to its option, short options may share a dash, and `--` ends the options. Mistakes are
found in two passes: first every argument is told to be an option or not, then they are taken in
order, and what is left over is reported last.
-/
namespace MarkdownLint.CommandLine

/-- The options. -/
inductive Flag where
  | help
  | config
  | reportsFolder
  | jobs
  | logLevel
deriving Repr, DecidableEq

namespace Flag

/-- The names of an option. -/
def names : Flag → List String
  | help => ["-h", "--help"]
  | config => ["--config", "-c"]
  | reportsFolder => ["--reports-dir"]
  | jobs => ["--jobs", "-j"]
  | logLevel => ["--log-level"]

/-- Whether an option has a value. -/
def takesValue : Flag → Bool
  | help => false
  | _ => true

/-- All names of options, with the option that each names. -/
def table : List (String × Flag) :=
  [help, config, reportsFolder, jobs, logLevel].flatMap fun f => f.names.map fun n => (n, f)

/-- The option with the given name. -/
def ofName? (name : String) : Option Flag := table.lookup name

end Flag

/-- What is wrong with an option. -/
inductive FlagProblem where
  | missingValue
  | unexpectedValue (text : String)
  | notInteger (text : String)
  | unknownChoice (text : String)
deriving Repr, DecidableEq

/-- Why the arguments are refused. -/
inductive UsageError where
  | ambiguous (argument : String) (names : List String)
  | option (flag : Flag) (problem : FlagProblem)
  | unrecognized (arguments : List String)
  | notFolder (path : String)
  | tooFewJobs
deriving Repr, DecidableEq

/-- The levels that may be chosen for diagnostics. -/
def logLevels : List String := ["DEBUG", "INFO", "WARNING", "ERROR"]

/-- The wording of what is wrong with an option. -/
def FlagProblem.message : FlagProblem → String
  | missingValue => "expected one argument"
  | unexpectedValue text => "ignored explicit argument " ++ Text.quoted text
  | notInteger text => "invalid int value: " ++ Text.quoted text
  | unknownChoice text =>
    "invalid choice: " ++ Text.quoted text ++ " (choose from " ++
      ", ".intercalate (logLevels.map Text.quoted) ++ ")"

/-- The wording of a refusal. -/
def UsageError.message : UsageError → String
  | ambiguous arg names =>
    "ambiguous option: " ++ arg ++ " could match " ++ ", ".intercalate names
  | option f p => "argument " ++ "/".intercalate f.names ++ ": " ++ p.message
  | unrecognized args => "unrecognized arguments: " ++ " ".intercalate args
  | notFolder path => path ++ " is not a directory"
  | tooFewJobs => "--jobs must be at least 1"

/-! ## Telling options from values -/

/-- What an argument is. -/
inductive Word where
  | value
  /-- The argument that ends the options. -/
  | separator
  /-- An option, unless its name is unknown, and the value attached to it. -/
  | option (flag : Option Flag) (name : List Char) (attached : Option (List Char))

/-- An option and the value after the first equals sign. -/
def splitEquals (cs : List Char) : List Char × Option (List Char) :=
  match cs.dropWhile (· != '=') with
  | [] => (cs, none)
  | _ :: value => (cs.takeWhile (· != '='), some value)

/-- Whether a text is a negative number. -/
def isNegativeNumber : List Char → Bool
  | '-' :: cs =>
    let whole := cs.takeWhile Text.isDigit
    match cs.dropWhile Text.isDigit with
    | [] => !whole.isEmpty
    | '.' :: fraction => !fraction.isEmpty && fraction.all Text.isDigit
    | _ => false
  | _ => false

/-- The options that a shortened or joined argument can mean, with the values attached to them. -/
def candidates (cs : List Char) : List (String × Flag × Option (List Char)) :=
  if cs.take 2 == ['-', '-'] then
    let (start, attached) := splitEquals cs
    (Flag.table.filter fun n => start.isPrefixOf n.1.toList).map fun n => (n.1, n.2, attached)
  else
    (Flag.table.filter fun n => n.1.toList == cs.take 2).map fun n => (n.1, n.2, some (cs.drop 2))

/-- Tells what an argument is that stands before the end of the options. -/
def classify (arg : String) : Except UsageError Word :=
  let cs := arg.toList
  if cs.head? != some '-' || cs.length == 1 then .ok .value
  else if arg == "--" then .ok .separator
  else
    let (name, attached) := splitEquals cs
    match Flag.ofName? arg, Flag.ofName? (String.ofList name) with
    | some f, _ => .ok (.option f cs none)
    | none, some f => .ok (.option f name attached)
    | none, none =>
      match candidates cs with
      | [(name, f, attached)] => .ok (.option f name.toList attached)
      | [] =>
        if isNegativeNumber cs || cs.contains ' ' then .ok .value else .ok (.option none cs none)
      | several => .error (.ambiguous arg (several.map (·.1)))

/-- Tells what each argument is: after the end of the options all are values. -/
def classifyAll : List String → Except UsageError (List (String × Word))
  | [] => .ok []
  | arg :: rest => do
    match ← classify arg with
    | .separator => return (arg, .separator) :: rest.map fun a => (a, .value)
    | word => return (arg, word) :: (← classifyAll rest)

/-! ## Taking arguments in order -/

/-- What the arguments ask for. -/
structure Arguments where
  root : String := "."
  configFile : Option String := none
  reportsFolder : Option String := none
  jobs : Int := 1
  logLevel : String := "WARNING"
deriving Repr, DecidableEq

/-- How far the arguments have been taken. -/
structure Progress where
  arguments : Arguments := {}
  /-- Whether the root has been given. -/
  rooted : Bool := false
  /-- Whether the root is the last argument that was taken. -/
  justRooted : Bool := false
  leftOver : List String := []

/-- Sets the value of an option. -/
def Arguments.set (a : Arguments) (f : Flag) (value : String) : Except UsageError Arguments :=
  match f with
  | .help => .ok a
  | .config => .ok { a with configFile := some (if value == "--" then "" else value) }
  | .reportsFolder => .ok { a with reportsFolder := some (if value == "--" then "" else value) }
  | .jobs =>
    match Text.readInteger? value with
    | some n => .ok { a with jobs := n }
    | none => .error (.option .jobs (.notInteger value))
  | .logLevel =>
    if logLevels.contains value then .ok { a with logLevel := value }
    else .error (.option .logLevel (.unknownChoice value))

namespace Progress

/-- Takes a value that belongs to no option. -/
def takeValue (p : Progress) (value : String) : Progress :=
  if p.rooted then { p with justRooted := false, leftOver := p.leftOver ++ [value] }
  else
    { p with arguments := { p.arguments with root := value }, rooted := true, justRooted := true }

/-- Takes the separator and the values after it. -/
def takeSeparator (p : Progress) (values : List String) : Progress :=
  if p.justRooted then { p with leftOver := p.leftOver ++ values }
  else if p.rooted then { p with leftOver := p.leftOver ++ "--" :: values }
  else
    match values with
    | [] => p
    | v :: rest => { p.takeValue v with leftOver := p.leftOver ++ rest }

/-- Sets the value of an option. -/
def set (p : Progress) (f : Flag) (value : String) : Except UsageError Progress := do
  return { p with arguments := ← p.arguments.set f value, justRooted := false }

end Progress

/-- What short options that share a dash come to: whether help is asked for, and the last of them,
if it has a value, with what is attached to it. -/
def unfoldShort (f : Flag) (isShort : Bool) :
    List Char → Except UsageError (Option (Flag × Option (List Char)))
  | [] => .error (.option f (.unexpectedValue ""))
  | c :: cs =>
    if !isShort then .error (.option f (.unexpectedValue (String.ofList (c :: cs))))
    else
      match Flag.ofName? (String.ofList ['-', c]) with
      | none => .error (.option f (.unexpectedValue (String.ofList (c :: cs))))
      | some g =>
        if g.takesValue then .ok (some (g, if cs.isEmpty then none else some cs))
        else if cs.isEmpty then .ok none
        else unfoldShort g isShort cs

/-- Takes arguments in order; the answer is nothing when help is asked for. -/
def take (p : Progress) : List (String × Word) → Except UsageError (Option Progress)
  | [] => .ok (some p)
  | (v, .value) :: rest => take (p.takeValue v) rest
  | (_, .separator) :: rest => .ok (some (p.takeSeparator (rest.map (·.1))))
  | (arg, .option none _ _) :: rest =>
    take { p with justRooted := false, leftOver := p.leftOver ++ [arg] } rest
  | (_, .option (some f) name attached) :: rest =>
    if f.takesValue then
      match attached, rest with
      | some value, rest => do take (← p.set f (String.ofList value)) rest
      | none, (v, .value) :: rest => do take (← p.set f v) rest
      | none, _ => .error (.option f .missingValue)
    else
      match attached with
      | none => .ok none
      | some cs => do
        match ← unfoldShort f ((name.drop 1).head? != some '-') cs, rest with
        | some (_, none), (_, .value) :: _ => return none
        | some (g, none), _ => throw (.option g .missingValue)
        | _, _ => return none

/-- What the arguments of the program ask for (`build_parser`); nothing when they ask for help. -/
def parse (argv : List String) : Except UsageError (Option Arguments) := do
  match ← take {} (← classifyAll argv) with
  | none => return none
  | some p =>
    if p.leftOver.isEmpty then return some p.arguments
    else throw (.unrecognized p.leftOver)

end MarkdownLint.CommandLine
