import MarkdownLint.Log.Template

/-!
Diagnostics: records with a level, and handlers that write the records of their level and above. One
handler belongs to this program; configuring replaces it and leaves those of others alone.
-/
namespace MarkdownLint.Log

/-- The levels of records. -/
inductive Level where
  | trace
  | debug
  | info
  | success
  | warning
  | error
  | critical
deriving Repr, DecidableEq

namespace Level

/-- The levels, the least severe first. -/
def all : List Level := [trace, debug, info, success, warning, error, critical]

/-- The name of a level. -/
def name : Level → String
  | trace => "TRACE"
  | debug => "DEBUG"
  | info => "INFO"
  | success => "SUCCESS"
  | warning => "WARNING"
  | error => "ERROR"
  | critical => "CRITICAL"

/-- How severe a level is. -/
def severity : Level → Nat
  | trace => 5
  | debug => 10
  | info => 20
  | success => 25
  | warning => 30
  | error => 40
  | critical => 50

/-- The level with the given name. -/
def ofName? (s : String) : Option Level := all.find? fun l => l.name == s

end Level

/-- A record: its level, the part of the program it comes from, and its text. -/
structure Record where
  level : Level
  source : String
  message : String
deriving Repr, DecidableEq

/-- A record as it is written: the level in eight columns, the source, the text. -/
def Record.text (r : Record) : String :=
  let padding := String.ofList (List.replicate (8 - r.level.name.length) ' ')
  r.level.name ++ padding ++ " | " ++ r.source ++ " - " ++ r.message ++ "\n"

/-- A handler that writes the records of its level and above. -/
structure Handler where
  id : Nat
  level : Level
deriving Repr, DecidableEq

/-- The state of logging: all handlers, the next free number, the handlers of this program, and the
level that was last configured. -/
structure State where
  handlers : List Handler
  nextId : Nat
  own : List Nat := []
  level : Option String := none
deriving Repr, DecidableEq

namespace State

/-- The state before anything is configured: the default handler, which writes everything from the
debug level on, is there. -/
def initial : State := { handlers := [⟨0, .debug⟩], nextId := 1 }

/-- Takes a handler away, if it is there. -/
def remove (s : State) (id : Nat) : State :=
  { s with handlers := s.handlers.filter fun h => h.id != id }

/-- Adds a handler; its number is fresh. -/
def addHandler (s : State) (level : Level) : State :=
  { s with handlers := s.handlers ++ [⟨s.nextId, level⟩], nextId := s.nextId + 1 }

/-- Sends the records of a level and above to the program's handler (`configure_logging`). The
handler that was there, and the default one, are taken away first; nothing happens if the level is
the configured one, unless `force` is set. An unknown level leaves no handler of the program behind;
the second component is then its name. -/
def configure (s : State) (level : String) (force : Bool) : State × Option String :=
  if !force && s.level == some level then (s, none)
  else
    let bare := (s.own.foldl remove s).remove 0
    let bare := { bare with own := [] }
    match Level.ofName? level with
    | none => (bare, some level)
    | some l =>
      ({ bare.addHandler l with own := [bare.nextId], level := some level }, none)

/-- What the handlers write of a record. -/
def write (s : State) (r : Record) : String :=
  String.join ((s.handlers.filter fun h => h.level.severity ≤ r.level.severity).map fun _ => r.text)

/-- Whether any handler looks at records of a level. -/
def listens (s : State) (level : Level) : Bool :=
  s.handlers.any fun h => h.level.severity ≤ level.severity

/-- What is written when a message is logged. The template is only filled in if a handler looks at
the record. -/
def log (s : State) (level : Level) (source template : String) (args : List Value) :
    Except TemplateError String :=
  if s.listens level then
    (format template args).map fun message => s.write ⟨level, source, message⟩
  else .ok ""

end State

/-- The wording for a level that does not exist. -/
def unknownLevelMessage (level : String) : String := "Level '" ++ level ++ "' does not exist"

end MarkdownLint.Log
