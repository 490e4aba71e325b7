import MarkdownLint.Markdown.Source
import MarkdownLint.Markdown.Grammar
import MarkdownLint.Markdown.Block
import MarkdownLint.Markdown.Html
import MarkdownLint.Markdown.Table

/-!
What starts on a line. A `Scope` is the view of the document from inside a container; the tests
below say which constructs a line of it can begin, and hence which end a paragraph, a quote or a
list item.
-/
namespace MarkdownLint.Markdown

/-- The document as seen from inside a container. -/
structure Scope where
  grammar : Grammar
  text : Array Char
  /-- One entry per line and one, at the end of the text, behind them. -/
  lines : Array Line
  /-- The number of lines that may be looked at. -/
  lineMax : Nat
  /-- The indentation of the container's content. -/
  indent : Int := 0
  /-- Inside a list item, the indentation of the content around the list. -/
  listIndent : Option Int := none
  /-- The number of containers around the content, a list and its items counted apart. -/
  depth : Nat := 0

/-- Constructs whose lines another construct may cut short. -/
inductive Interrupted where
  | paragraph
  | reference
  | quote
  | list
deriving DecidableEq

namespace Scope

variable (s : Scope)

/-- A line of the document; there are only empty lines behind the last. -/
def line (i : Nat) : Line :=
  s.lines[i]?.getD ⟨s.text.size, s.text.size, 0, 0, 0⟩

/-- Whether nothing but indentation is on a line. -/
def isEmpty (i : Nat) : Bool := (s.line i).isEmpty

/-- The characters from `a` up to `b`. -/
def slice (a b : Nat) : List Char := (s.text.extract a b).toList

/-- The text of a line, indentation excluded. -/
def lineText (i : Nat) : List Char := s.slice (s.line i).text (s.line i).stop

/-- Whether a line is indented enough to be code. -/
def isCode (i : Nat) : Bool := s.grammar.code && 4 ≤ (s.line i).indent - s.indent

/-- The marker and the length of the fence that a line opens. -/
def fenceAt? (i : Nat) : Option (Char × Nat) :=
  if s.isCode i then none
  else
    match s.lineText i with
    | [] => none
    | c :: cs =>
      if c != '~' && c != '\x60' then none
      else
        let length := (cs.takeWhile (· == c)).length + 1
        let info := cs.drop (length - 1)
        if length < 3 || (c == '\x60' && info.contains c) then none else some (c, length)

/-- Whether a line carries the marker of a quote. -/
def quoteAt (i : Nat) : Bool := !s.isCode i && (s.lineText i).head? == some '>'

/-- Whether a line is a thematic break: three or more of one marker, and indentation. -/
def breakAt (i : Nat) : Bool :=
  !s.isCode i && match s.lineText i with
    | [] => false
    | c :: cs =>
      (c == '*' || c == '-' || c == '_') && cs.all (fun d => d == c || d == ' ' || d == '\t') &&
        2 ≤ cs.count c

/-- The level of the heading that a line holds. -/
def headingAt? (i : Nat) : Option Nat :=
  if s.isCode i then none
  else
    let cs := s.lineText i
    let level := (cs.takeWhile (· == '#')).length
    let after := (cs.drop level).head?
    if level == 0 || 6 < level then none
    else if after == none || after == some ' ' || after == some '\t' then some level
    else none

/-- The length of the marker of a bullet list item. -/
def bulletAt? (i : Nat) : Option Nat :=
  match s.lineText i with
  | c :: cs =>
    if (c == '*' || c == '-' || c == '+') &&
        (cs.isEmpty || cs.head? == some ' ' || cs.head? == some '\t') then some 1 else none
  | [] => none

/-- The length of the marker of an ordered list item: up to nine digits and a delimiter. -/
def ordinalAt? (i : Nat) : Option Nat :=
  let cs := s.lineText i
  let digits := (cs.takeWhile Char.isDigit).length
  match cs.drop digits with
  | d :: rest =>
    if 1 ≤ digits && digits ≤ 9 && (d == '.' || d == ')') &&
        (rest.isEmpty || rest.head? == some ' ' || rest.head? == some '\t') then
      some (digits + 1)
    else none
  | [] => none

/-- The marker of a list item: its length and whether it is a number. Inside a paragraph a list can
only begin with a first item that has text, and only with the number one. -/
def itemAt? (i : Nat) (inParagraph : Bool) : Option (Nat × Bool) :=
  let l := s.line i
  let tooDeep := match s.listIndent with
    | some outer => 4 ≤ l.indent - outer && l.indent < s.indent
    | none => false
  let interrupting := inParagraph && s.indent ≤ l.indent
  let hasText (length : Nat) : Bool :=
    ((s.lineText i).drop length).any fun c => c != ' ' && c != '\t'
  if s.isCode i || tooDeep then none
  else
    match s.ordinalAt? i with
    | some length =>
      let number := ((s.lineText i).take (length - 1)).foldl
        (fun n c => 10 * n + (c.toNat - 0x30)) 0
      if interrupting && (number != 1 || !hasText length) then none else some (length, true)
    | none =>
      match s.bulletAt? i with
      | some length => if interrupting && !hasText length then none else some (length, false)
      | none => none

/-- The form of HTML that a line opens. -/
def htmlAt? (i : Nat) : Option Html.Form :=
  if s.isCode i || !s.grammar.html then none else Html.opens? (s.lineText i)

/-- Whether a table starts on a line: a row of headers above a row of delimiters. -/
def tableAt? (i stop : Nat) : Option Nat :=
  let next := s.line (i + 1)
  if stop < i + 2 || next.indent < s.indent || s.isCode (i + 1) then none
  else
    match Table.delimiterCount? (s.lineText (i + 1)) with
    | none => none
    | some columns =>
      if s.isCode i then none
      else Table.headerCount? (s.lineText i) columns

/-- Whether a line, which the end `stop` of the content follows, cuts a construct short. -/
def interrupts (what : Interrupted) (i stop : Nat) : Bool :=
  let g := s.grammar
  (g.fence && (s.fenceAt? i).isSome) || (g.quote && s.quoteAt i) ||
    (g.thematicBreak && s.breakAt i) ||
    match what with
    | .list => false
    | _ =>
      (g.list && (s.itemAt? i (what == .paragraph)).isSome) ||
        (g.htmlBlock && ((s.htmlAt? i).map (·.interrupts)).getD false) ||
        (g.heading && (s.headingAt? i).isSome) ||
        (g.table && what != .quote && (s.tableAt? i stop).isSome)

end Scope

end MarkdownLint.Markdown
