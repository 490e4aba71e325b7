import MarkdownLint.Markdown.Scope

/-!
How far blocks without blocks inside them extend. Each function gives the line behind the block that
starts on a given line, where `stop` is the end of the content around it; the number of steps bounds
the number of lines looked at.
-/
namespace MarkdownLint.Markdown

namespace Scope

variable (s : Scope)

/-- The end of a paragraph whose lines before `i` are known. -/
def paragraphEnd : Nat → Nat → Nat
  | 0, i => i
  | n + 1, i =>
    if s.lineMax ≤ i || s.isEmpty i then i
    else if 3 < (s.line i).indent - s.indent || (s.line i).indent < 0 then paragraphEnd n (i + 1)
    else if s.interrupts .paragraph i s.lineMax then i
    else paragraphEnd n (i + 1)

/-- The level of the heading that a line underlines. -/
def underlineAt? (i : Nat) : Option Nat :=
  match s.lineText i with
  | c :: cs =>
    if (c == '-' || c == '=') && ((cs.dropWhile (· == c)).dropWhile Text.isIndent).isEmpty then
      some (if c == '=' then 1 else 2)
    else none
  | [] => none

/-- The underline of a heading, from line `i` on, and the level it gives. -/
def underline? (stop : Nat) : Nat → Nat → Option (Nat × Nat)
  | 0, _ => none
  | n + 1, i =>
    if stop ≤ i || s.isEmpty i then none
    else if 3 < (s.line i).indent - s.indent then underline? stop n (i + 1)
    else
      match if s.indent ≤ (s.line i).indent then s.underlineAt? i else none with
      | some level => some (i, level)
      | none =>
        if (s.line i).indent < 0 then underline? stop n (i + 1)
        else if s.interrupts .paragraph i stop then none
        else underline? stop n (i + 1)

/-- Whether a line closes a fence of the given marker and length. -/
def closesFence (marker : Char) (length i : Nat) : Bool :=
  let cs := s.lineText i
  let run := (cs.takeWhile (· == marker)).length
  !s.isCode i && run != 0 && length ≤ run && (cs.drop run).all Text.isIndent

/-- The end of a fenced block. A line at the very end of the text closes it without belonging to
it. -/
def fenceEnd (marker : Char) (length stop : Nat) : Nat → Nat → Nat
  | 0, i => i
  | n + 1, i =>
    let l := s.line i
    if stop ≤ i || (!l.isEmpty && l.indent < s.indent) || s.text.size ≤ l.text then i
    else if s.closesFence marker length i then i + 1
    else fenceEnd marker length stop n (i + 1)

/-- The end of indented code: the line behind its last line that is not empty, which is `last` so
far. -/
def codeEnd (stop : Nat) : Nat → Nat → Nat → Nat
  | 0, _, last => last
  | n + 1, i, last =>
    if stop ≤ i then last
    else if s.isEmpty i then codeEnd stop n (i + 1) last
    else if s.isCode i then codeEnd stop n (i + 1) (i + 1)
    else last

/-- The end of a block of HTML whose lines before `i` do not close it. -/
def htmlEnd (form : Html.Form) (stop : Nat) : Nat → Nat → Nat
  | 0, i => i
  | n + 1, i =>
    if stop ≤ i || (!s.isEmpty i && (s.line i).indent < s.indent) then i
    else
      let cs := s.lineText i
      if form.closes cs then (if cs.isEmpty then i else i + 1)
      else htmlEnd form stop n (i + 1)

/-- The end of a table; `filled` cells have been filled in for short rows so far. -/
def tableEnd (columns stop : Nat) : Nat → Nat → Int → Nat
  | 0, i, _ => i
  | n + 1, i, filled =>
    let row := s.lineText i
    let filled := filled + columns - Table.cellCount row
    if stop ≤ i || (s.line i).indent < s.indent || s.interrupts .quote i stop ||
        (Text.trim row).isEmpty || s.isCode i || Table.maxFilledCells < filled then i
    else tableEnd columns stop n (i + 1) filled

/-- The block without blocks inside it that starts on line `i` ahead of containers: a table, code or
a fence. -/
def earlyLeaf? (i stop : Nat) : Option (Block × Nat) :=
  let g := s.grammar
  let steps := stop - i
  let block (kind : Kind) (last : Nat) : Option (Block × Nat) := some (.mk kind ⟨i, last⟩ [], last)
  match if g.table then s.tableAt? i stop else none with
  | some columns => block .table (s.tableEnd columns stop steps (i + 2) 0)
  | none =>
    if g.code && s.isCode i then block .codeBlock (s.codeEnd stop steps (i + 1) (i + 1))
    else
      match if g.fence then s.fenceAt? i else none with
      | some (marker, length) => block .fence (s.fenceEnd marker length stop steps (i + 1))
      | none => none

/-- The block without blocks inside it that starts on line `i` behind all other constructs: HTML, a
heading or a paragraph. -/
def lateLeaf (i stop : Nat) : Block × Nat :=
  let g := s.grammar
  let steps := stop - i
  let block (kind : Kind) (last : Nat) : Block × Nat := (.mk kind ⟨i, last⟩ [], last)
  match if g.htmlBlock then s.htmlAt? i else none with
  | some form =>
    block .htmlBlock
      (if form.closes (s.lineText i) then i + 1 else s.htmlEnd form stop steps (i + 1))
  | none =>
    match if g.heading then s.headingAt? i else none with
    | some level => block (.heading level) (i + 1)
    | none =>
      let underlined := g.setextHeading && !s.isCode i
      match if underlined then s.underline? stop steps (i + 1) else none with
      | some (last, level) => block (.heading level) (last + 1)
      | none => block .paragraph (s.paragraphEnd (s.lineMax - i) (i + 1))

end Scope

end MarkdownLint.Markdown
