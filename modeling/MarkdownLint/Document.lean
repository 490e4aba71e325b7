import MarkdownLint.Markdown.Parser
import MarkdownLint.Text.Quoted

/-!
A document: its text, an index of its lines, and its block structure.

Line *indices* count from zero, as the spans of blocks do. Line and column *numbers* count from one,
as reports do. Offsets and columns count characters.
-/
namespace MarkdownLint

open Markdown (Block Kind Node Span)

/-- What can go wrong while a rule looks at a document. -/
inductive Fault where
  /-- There is no line with the index asked for. -/
  | noSuchLine
  /-- A violation was to be placed outside the document. -/
  | outside (start stop : Int) (length : Nat)
  /-- A rule gave up. -/
  | raised (kind message : String)
deriving Repr, DecidableEq

namespace Fault

/-- The class of a fault. -/
def kind : Fault → String
  | noSuchLine => "IndexError"
  | outside .. => "ValueError"
  | raised k _ => k

/-- The wording of a fault. -/
def message : Fault → String
  | noSuchLine => "tuple index out of range"
  | outside start stop length =>
    "Invalid error range " ++ toString start ++ ".." ++ toString stop ++
      " for document of length " ++ toString length
  | raised _ m => m

/-- A fault as it stands in messages. -/
def quoted (f : Fault) : String := f.kind ++ "(" ++ Text.quoted f.message ++ ")"

end Fault

/-- A document (`MarkdownDocument`). -/
structure Document where
  filename : String
  text : List Char
  blocks : List Block

namespace Document

variable (d : Document)

/-- The number of characters. -/
def length : Nat := d.text.length

/-- Where the lines start (`line_offsets`). -/
def lineOffsets : List Nat := Text.lineOffsets d.text

/-- The number of lines (`line_count`). -/
def lineCount : Nat := d.lineOffsets.length

/-! ## Offsets -/

/-- An offset moved to the nearest one inside the document. -/
def clamp (offset : Int) : Nat := min (max offset 0).toNat d.length

/-- The index of the line that an offset lies on (`line_index_of`): the last that does not start
behind it. -/
def lineIndexOf (offset : Int) : Nat :=
  Text.bisectRight d.lineOffsets (d.clamp offset) 0 d.lineCount - 1

/-- The number of the line that an offset lies on (`line_number_of`). -/
def lineNumberOf (offset : Int) : Nat := d.lineIndexOf offset + 1

/-- The number of the column that an offset lies on (`column_number_of`). -/
def columnNumberOf (offset : Int) : Nat :=
  d.clamp offset - (d.lineOffsets[d.lineIndexOf offset]?).getD 0 + 1

/-- A position of a slice: negative ones count from the end. -/
def slicePosition (i : Int) : Nat :=
  min (if i < 0 then (i + d.length).toNat else i.toNat) d.length

/-- The characters from `a` up to `b`. -/
def slice (a b : Nat) : List Char := (d.text.drop a).take (b - a)

/-- The characters between two positions, where negative ones count from the end. -/
def substring (a b : Int) : List Char := d.slice (d.slicePosition a) (d.slicePosition b)

/-! ## Lines -/

/-- Where a line starts (`line_start`). Negative indices count from the last line backwards. -/
def lineStart (i : Int) : Except Fault Nat :=
  let j := if i < 0 then i + d.lineCount else i
  if j < 0 then .error .noSuchLine
  else
    match d.lineOffsets[j.toNat]? with
    | some o => .ok o
    | none => .error .noSuchLine

/-- The end of the characters from `start` to `stop` once line terminators are dropped from it. -/
def dropTerminators (start stop : Nat) : Nat :=
  start + (Text.dropEndWhile Text.isTerminator (d.slice start stop)).length

/-- Where a line ends, its terminator excluded (`line_end`). -/
def lineEnd (i : Int) : Except Fault Nat := do
  let start ← d.lineStart i
  let stop ← if i + 1 < d.lineCount then d.lineStart (i + 1) else pure d.length
  return if stop < start then stop else d.dropTerminators start stop

/-- The text of a line, its terminator excluded (`line_text`). -/
def lineText (i : Int) : Except Fault (List Char) := do
  return d.slice (← d.lineStart i) (← d.lineEnd i)

/-- The texts of all lines. -/
def lines : Except Fault (List (List Char)) :=
  (List.range d.lineCount).mapM fun (i : Nat) => d.lineText i

/-- Whether a line holds blank characters only (`is_blank`). -/
def isBlank (i : Int) : Except Fault Bool := do
  return (← d.lineText i).all Text.isBlank

/-! ## Blocks -/

/-- All blocks, each with the blocks around it, in document order. -/
def nodes : List Node := Markdown.nodesOfList [] d.blocks

/-- The blocks of the kinds that satisfy `p` (`nodes`). -/
def nodesWhere (p : Kind → Bool) : List Node := d.nodes.filter fun n => p n.kind

/-- The headings with their levels (`headings`). -/
def headings : List (Nat × Node) :=
  d.nodes.filterMap fun n => match n.kind with
    | .heading level => some (level, n)
    | _ => none

/-- The offsets at which the lines of a block start and end (`block_range`). -/
def blockRange (s : Span) : Except Fault (Nat × Nat) := do
  let last := max (s.first : Int) (min (s.last : Int) d.lineCount - 1)
  return (← d.lineStart s.first, ← d.lineEnd last)

/-- Whether a block holds code. -/
def isCodeKind (k : Kind) : Bool := k == .fence || k == .codeBlock

/-- Whether a line lies in a block of code. -/
def isCodeLine (i : Nat) : Bool :=
  (d.nodesWhere isCodeKind).any fun n => n.span.first ≤ i && i < n.span.last

/-- The lines that lie in blocks of code, in increasing order (`code_block_lines`). -/
def codeLines : List Nat :=
  let spans := (d.nodesWhere isCodeKind).map (·.span)
  let bound := spans.foldl (fun b s => max b s.last) 0
  (List.range bound).filter d.isCodeLine

/-- A short description of the document. -/
def summary : String :=
  "MarkdownDocument(filename=" ++ Text.quoted d.filename ++ ", lines=" ++ toString d.lineCount ++
    ")"

end Document

/-- Why a parser rejects a text. -/
structure Rejection where
  kind : String
  message : String
deriving Repr, DecidableEq

/-- The message of a rejection, or its kind if it has none. -/
def Rejection.reason (r : Rejection) : String := if r.message.isEmpty then r.kind else r.message

/-- A parser finds the blocks of a text or rejects the text. -/
abbrev Parser := List Char → Except Rejection (List Block)

/-- The parser of a grammar. -/
def Markdown.Grammar.parser (g : Markdown.Grammar) : Parser := fun text =>
  match g.parse text with
  | .ok blocks => .ok blocks
  | .error message => .error ⟨"ModuleNotFoundError", message⟩

/-- A document could not be read or parsed (`ParseError`). -/
structure ParseFailure where
  filename : String
  reason : String
deriving Repr, DecidableEq

/-- The wording of a parse failure. -/
def ParseFailure.message (f : ParseFailure) : String :=
  "Unable to parse '" ++ f.filename ++ "': " ++ f.reason

/-- Parses a text into a document (`load_document`). -/
def loadDocument (parser : Parser) (text : List Char) (filename : String) :
    Except ParseFailure Document :=
  match parser text with
  | .ok blocks => .ok ⟨filename, text, blocks⟩
  | .error rejection => .error ⟨filename, rejection.reason⟩

end MarkdownLint
