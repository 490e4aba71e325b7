import MarkdownLint.Yaml.Literal
import MarkdownLint.Yaml.Plain
import MarkdownLint.Yaml.Property
import MarkdownLint.Yaml.Quoted

/-!
The tokens of a text. Indentation becomes tokens that open and close blocks. A key without a mark of
its own is known only by the colon after it, so its tokens are put in front of it when the colon is
seen.
-/
namespace MarkdownLint.Yaml

/-- A piece of a text. -/
inductive Token where
  | directive (d : Directive)
  | documentStart
  | documentEnd
  | blockSequence
  | blockMapping
  | blockEnd
  | flowSequence
  | flowSequenceEnd
  | flowMapping
  | flowMappingEnd
  | blockEntry
  | flowEntry
  | key
  | value
  | reference (name : String)
  | anchor (name : String)
  | tag (name : TagName)
  | scalar (text : String) (plain : Bool)
  | textEnd
  /-- The text cannot be read from here on. -/
  | fault (e : LoadError)
deriving Repr, DecidableEq

/-- A place that may turn out to be the start of a key. -/
structure Candidate where
  /-- The number of brackets that are open. -/
  level : Nat
  /-- The number of tokens before it. -/
  position : Nat
  /-- Whether nothing but a key may stand there. -/
  required : Bool
  index : Nat
  line : Nat
  column : Nat

/-- A text that is being divided into tokens. -/
structure Lexer where
  cursor : Cursor
  tokens : List Token := []
  /-- The number of brackets that are open. -/
  level : Nat := 0
  /-- The column of the innermost block. -/
  indent : Int := -1
  /-- The columns of the blocks around it, from the inside. -/
  outer : List Int := []
  /-- Whether a key may start here. -/
  keyAllowed : Bool := true
  candidates : List Candidate := []

/-- An action on a text that is being divided. -/
abbrev Lex := StateT Lexer (Except LoadError)

namespace Lex

/-- Reads something at the cursor. -/
def read {α : Type} (r : Reader α) : Lex α := do
  let s ← get
  let (a, cursor) ← r s.cursor
  set { s with cursor }
  return a

/-- The text is not well-formed here. -/
def refuse {α : Type} : Lex α := throw .malformed

/-- Adds a token. -/
def emit (t : Token) : Lex Unit := modify fun s => { s with tokens := s.tokens ++ [t] }

/-- Adds a token of a number of characters. -/
def emitMark (n : Nat) (t : Token) : Lex Unit := do
  read (.skip n)
  emit t

/-- Puts a token in front of those from a position on. -/
def insertAt (position : Nat) (t : Token) : Lex Unit :=
  modify fun s => { s with tokens := s.tokens.take position ++ t :: s.tokens.drop position }

/-- Says whether a key may start after what comes next. -/
def allowKey (b : Bool) : Lex Unit := modify fun s => { s with keyAllowed := b }

/-- Drops the candidates for which a key can no longer come: its colon must follow on the same line
and not too far away. -/
def dropStale : Lex Unit := do
  let s ← get
  let stale (k : Candidate) : Bool := k.line != s.cursor.line || 1024 < s.cursor.index - k.index
  if s.candidates.any fun k => stale k && k.required then refuse
  set { s with candidates := s.candidates.filter (!stale ·) }

/-- Drops the candidate among the brackets that are open. -/
def dropCandidate : Lex Unit := do
  let s ← get
  if s.candidates.any fun k => k.level == s.level && k.required then refuse
  set { s with candidates := s.candidates.filter (·.level != s.level) }

/-- Notes that a key may start here. -/
def noteCandidate : Lex Unit := do
  if (← get).keyAllowed then
    dropCandidate
    modify fun s =>
      let k : Candidate :=
        { level := s.level
          position := s.tokens.length
          required := s.level == 0 && s.indent == s.cursor.column
          index := s.cursor.index
          line := s.cursor.line
          column := s.cursor.column }
      { s with candidates := k :: s.candidates }

/-- Closes the blocks that are indented by more than a column, going through those around. -/
def closeFrom (column : Int) : List Int → Lex Unit
  | [] => pure ()
  | around :: rest => do
    if column < (← get).indent then
      modify fun s => { s with indent := around, outer := rest }
      emit .blockEnd
      closeFrom column rest

/-- Closes the blocks that are indented by more than a column. Brackets suspend indentation. -/
def closeBlocks (column : Int) : Lex Unit := do
  let s ← get
  if s.level == 0 then closeFrom column s.outer

/-- Opens a block at a column, and says whether it is a new one. -/
def openBlock (column : Nat) : Lex Bool := do
  let s ← get
  if s.indent < column then
    set { s with indent := (column : Int), outer := s.indent :: s.outer }
    return true
  else return false

/-- Opens a block at the cursor, where a key must be allowed. Brackets suspend indentation. -/
def openHere (t : Token) : Lex Unit := do
  let s ← get
  if s.level == 0 then
    unless s.keyAllowed do refuse
    if ← openBlock s.cursor.column then emit t

/-- Ends all blocks before a token that stands outside them. -/
def leaveBlocks : Lex Unit := do
  closeBlocks (-1)
  dropCandidate
  allowKey false

/-- Reads an opening bracket. -/
def openBracket (t : Token) : Lex Unit := do
  noteCandidate
  modify fun s => { s with level := s.level + 1 }
  allowKey true
  emitMark 1 t

/-- Reads a closing bracket. -/
def closeBracket (t : Token) : Lex Unit := do
  dropCandidate
  if (← get).level == 0 then refuse
  modify fun s => { s with level := s.level - 1 }
  allowKey false
  emitMark 1 t

/-- Reads the mark of an entry. -/
def entry : Lex Unit := do
  openHere .blockSequence
  allowKey true
  dropCandidate
  emitMark 1 .blockEntry

/-- Reads the mark of a key. -/
def keyMark : Lex Unit := do
  openHere .blockMapping
  allowKey ((← get).level == 0)
  dropCandidate
  emitMark 1 .key

/-- Reads the mark of a value: what stands before it is a key, if it can be. -/
def valueMark : Lex Unit := do
  let s ← get
  match s.candidates.find? (·.level == s.level) with
  | some k =>
    set { s with candidates := s.candidates.filter (·.level != s.level) }
    insertAt k.position .key
    if s.level == 0 then
      if ← openBlock k.column then insertAt k.position .blockMapping
    allowKey false
  | none =>
    openHere .blockMapping
    allowKey (s.level == 0)
    dropCandidate
  emitMark 1 .value

/-- Reads something with which a key may start. -/
def keyStart (r : Reader Token) : Lex Unit := do
  noteCandidate
  allowKey false
  emit (← read r)

/-- Reads a plain scalar. -/
def plain : Lex Unit := do
  noteCandidate
  let s ← get
  let (text, broken) ← read (.plainScalar (s.level != 0) s.indent)
  allowKey broken
  emit (.scalar text true)

/-- Reads a block scalar. -/
def literal (folded : Bool) : Lex Unit := do
  allowKey true
  dropCandidate
  let text ← read (.blockScalar folded (← get).indent)
  emit (.scalar text false)

/-- Goes past spaces, comments and line breaks. After a line break a key may start. -/
def skipToToken : Nat → Lex Unit
  | 0 => refuse
  | fuel + 1 => do
    read .skipSpaces
    read .skipComment
    match ← read .lineBreak with
    | [] => pure ()
    | _ =>
      if (← get).level == 0 then allowKey true
      skipToToken fuel

/-- Reads the next token, and says whether the text goes on after it. -/
def next : Lex Bool := do
  if (← get).cursor.index == 0 && (← get).cursor.peek == '\uFEFF' then read (.skip 1)
  skipToToken (← read .bound)
  dropStale
  closeBlocks (← get).cursor.column
  let s ← get
  let c := s.cursor
  let inFlow := s.level != 0
  let alone := isBlankOrEnd (c.peekAt 1)
  let atMargin := c.column == 0
  match c.peek with
  | '\x00' =>
    leaveBlocks
    emit .textEnd
    return false
  | '[' => openBracket .flowSequence
  | '\x7b' => openBracket .flowMapping
  | ']' => closeBracket .flowSequenceEnd
  | '\x7d' => closeBracket .flowMappingEnd
  | ',' =>
    allowKey true
    dropCandidate
    emitMark 1 .flowEntry
  | '*' => keyStart (return .reference (← .anchorName))
  | '&' => keyStart (return .anchor (← .anchorName))
  | '!' => keyStart (return .tag (← .tagName))
  | '\'' => keyStart (return .scalar (← .quotedScalar false) false)
  | '"' => keyStart (return .scalar (← .quotedScalar true) false)
  | x =>
    if x == '%' && atMargin then
      leaveBlocks
      emit (.directive (← read .directive))
    else if atMargin && c.atMarker '-' then
      leaveBlocks
      emitMark 3 .documentStart
    else if atMargin && c.atMarker '.' then
      leaveBlocks
      emitMark 3 .documentEnd
    else if x == '-' && alone then entry
    else if x == '?' && (inFlow || alone) then keyMark
    else if x == ':' && (inFlow || alone) then valueMark
    else if x == '|' && !inFlow then literal false
    else if x == '>' && !inFlow then literal true
    else if c.startsPlain inFlow then plain
    else refuse
  return true

end Lex

namespace Lexer

/-- The tokens that no colon further on can change. -/
def settled (s : Lexer) : List Token :=
  s.candidates.foldl (fun ts k => ts.take k.position) s.tokens

/-- The tokens of a text from here on, after those that have been read. -/
def run : Nat → Lexer → List Token
  | 0, s => s.settled ++ [.fault .malformed]
  | fuel + 1, s =>
    match Lex.next s with
    | .ok (true, s) => run fuel s
    | .ok (false, s) => s.tokens
    | .error e => s.settled ++ [.fault e]

end Lexer

/-- The tokens of a text, up to the first fault. -/
def tokens (text : List Char) : List Token :=
  if text.all isAllowed then Lexer.run (text.length + 1) { cursor := { rest := text } }
  else [.fault .malformed]

end MarkdownLint.Yaml
