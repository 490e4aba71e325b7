import MarkdownLint.CommandLine.Arguments
import MarkdownLint.CommandLine.Usage
import MarkdownLint.Run
import MarkdownLint.Text.CharacterName
import MarkdownLint.Yaml.Load

/-!
The program as a function of the files around it and its arguments.
-/
namespace MarkdownLint

/-- The libraries that the program is built with. There is room for a thousand calls inside each
other, and some of it is taken when a folder is made. -/
def Libraries.standard : Libraries where
  load := Yaml.load
  parser options := options.grammar.map Markdown.Grammar.parser
  named := Text.characterNamed?
  depth := 970

namespace CommandLine

/-- How the program ends. -/
inductive Exit where
  /-- With a code. -/
  | code (n : Nat)
  /-- With a text that is the last thing it says. -/
  | message (text : String)
  /-- With a failure that nothing takes care of. -/
  | failure (e : RunError)

/-- What the program answers. -/
structure Response where
  exit : Exit
  tree : Entry
  stdout : String := ""
  stderr : String := ""
  /-- The files that were written. -/
  written : List Path := []

/-- The name of the configuration file that is looked for in a project. -/
def configurationName : String := "markdownlint.yaml"

/-- Where the configuration comes from: a file that is named, the project's own file, or, if there
is none, nowhere. An empty name means the project's own file, be it there or not. -/
def configurationSource (tree : Entry) (root : Path) (named : Option String) :
    ConfigurationSource :=
  let own := root.child configurationName
  match named with
  | some name => .file (if name.isEmpty then own else .ofString name)
  | none => if (tree.at? own).isSome then .file own else .standard

/-- What the arguments ask to be run, with a stream to print to. -/
def request (stdout : Stream) (tree : Entry) (a : Arguments) : Except UsageError RunRequest :=
  let root := Path.ofString a.root
  if !tree.isFolderAt root then .error (.notFolder root.text)
  else if a.jobs < 1 then .error .tooFewJobs
  else
    .ok { root
          reportsFolder := (a.reportsFolder.filter (!·.isEmpty)).map .ofString
          source := configurationSource tree root a.configFile
          stream := some stdout
          jobs := a.jobs.toNat }

/-- The logging of a program that has been told a level. -/
def logging (level : String) : Log.State := (Log.State.initial.configure level false).1

/-- What is written to the log for some records. -/
def logText (s : Log.State) (records : List Log.Record) : String :=
  String.join (records.map s.write)

/-- The answer to a refusal. -/
def refuse (tree : Entry) (e : UsageError) : Response :=
  { exit := .code 2, tree, stderr := refusalText e.message }

/-- The answer to a question for help. -/
def explain (stdout : Stream) (tree : Entry) : Response :=
  match stdout.refusal? [] helpText with
  | none => { exit := .code 0, tree, stdout := helpText }
  | some e => { exit := .failure (.interrupted (.refused e)), tree }

/-- How the program ends after a run. -/
def Exit.ofAnswer : Except RunError Outcome → Exit
  | .ok outcome => .code outcome.exitCode
  | .error (.setup (.configuration e)) => .message e.message
  | .error e => .failure e

/-- What is said of a run at its end. -/
def closingText : Except RunError Outcome → String
  | .ok outcome => String.join (outcome.failureMessage.toList.map (· ++ "\n"))
  | .error _ => ""

/-- The answer to a run. -/
def respond (s : Log.State) (answer : Except RunError Outcome) (o : Output) : Response :=
  { exit := .ofAnswer answer
    tree := o.tree
    stdout := String.join o.printed
    stderr := logText s o.records ++ closingText answer
    written := o.written.map (·.2) }

/-- Runs the program on some files (`main`). -/
def execute (libs : Libraries) (stdout : Stream) (tree : Entry) (argv : List String) : Response :=
  match parse argv with
  | .error e => refuse tree e
  | .ok none => explain stdout tree
  | .ok (some a) =>
    match request stdout tree a with
    | .error e => refuse tree e
    | .ok q =>
      let (answer, o) := run libs tree q
      respond (logging a.logLevel) answer o

end CommandLine

end MarkdownLint
