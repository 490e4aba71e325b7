import MarkdownLint.Markdown.Leaf
import MarkdownLint.Markdown.Reference

/-!
Block structure of a text. Containers are parsed by looking at the same lines again from inside: a
quote or a list item narrows the entries of the table of lines it covers, and its content is parsed
in the narrowed scope.

The number of steps given to the parser exceeds the product of the number of lines and the greatest
depth, since every block uses up a line.
-/
namespace MarkdownLint.Markdown

/-- Skips indentation from position `pos` up to `stop`; the width starts at `width`, and `column`
is what precedes the width zero. -/
def skipIndent (text : Array Char) (stop : Nat) (column : Int) : Nat → Nat → Int → Nat × Int
  | 0, pos, width => (pos, width)
  | n + 1, pos, width =>
    if stop ≤ pos then (pos, width)
    else
      match text[pos]? with
      | some ' ' => skipIndent text stop column n (pos + 1) (width + 1)
      | some '\t' => skipIndent text stop column n (pos + 1) (width + tabWidth (width + column))
      | _ => (pos, width)

namespace Scope

variable (s : Scope)

/-- The first line from `i` on that is not empty. -/
def skipEmpty : Nat → Nat → Nat
  | 0, i => i
  | n + 1, i => if i < s.lineMax && s.isEmpty i then skipEmpty n (i + 1) else i

/-- A line with the marker of a quote, seen from inside the quote. One space after the marker
belongs to it; a tab after it counts as a space and the rest of its width. -/
def insideQuote (l : Line) : Line :=
  let marker := l.text + 1
  let width := l.indent + 1
  let after := s.text[marker]?
  let spaced := after == some ' ' || after == some '\t'
  let wholeTab := after == some '\t' && (l.base + width) % 4 != 3
  let start := if spaced && !wholeTab then marker + 1 else marker
  let first := if spaced && !wholeTab then width + 1 else width
  let column := l.base + (if wholeTab then 1 else 0)
  let (pos, last) := skipIndent s.text l.stop column (l.stop - start) start first
  { start := start, stop := l.stop, shift := pos - start, indent := last - first,
    base := l.indent + 1 + (if spaced then 1 else 0) }

/-- The scope inside a quote whose lines before `i` have been narrowed, and the line behind it.
Lines without the marker belong to the quote as long as they may continue a paragraph. -/
def quoteScope (stop : Nat) : Nat → Nat → Scope → Bool → Scope × Nat
  | 0, i, inner, _ => (inner, i)
  | n + 1, i, inner, lastEmpty =>
    let l := s.line i
    if stop ≤ i || l.isEmpty then (inner, i)
    else if s.text[l.text]? == some '>' && s.indent ≤ l.indent then
      let l := s.insideQuote l
      quoteScope stop n (i + 1) { inner with lines := inner.lines.setIfInBounds i l } l.isEmpty
    else if lastEmpty then (inner, i)
    else if s.interrupts .quote i stop then ({ inner with lineMax := i }, i)
    else
      let l := { l with indent := -1 }
      quoteScope stop n (i + 1) { inner with lines := inner.lines.setIfInBounds i l } false

/-- The scope inside the list item whose marker of the given length stands on line `i`, and whether
nothing follows the marker. -/
def itemScope (i length : Nat) : Scope × Bool :=
  let l := s.line i
  let first := l.indent + length
  let (pos, last) := skipIndent s.text l.stop l.base (l.stop - l.text) (l.text + length) first
  let blank := l.stop ≤ pos
  let gap := if blank || 4 < last - first then 1 else last - first
  let l := { l with shift := pos - l.start, indent := last }
  ({ s with
      lines := s.lines.setIfInBounds i l
      indent := first + gap
      listIndent := some s.indent
      depth := s.depth + 2 },
    blank)

/-- The character that ends the marker of the given length on line `i`. -/
def markerChar? (i length : Nat) : Option Char := s.text[(s.line i).text + length - 1]?

/-- The length of the marker with which the list goes on at line `i`. -/
def nextItem? (ordered : Bool) (marker : Option Char) (i stop : Nat) : Option Nat :=
  if stop ≤ i || (s.line i).indent < s.indent || s.isCode i || s.interrupts .list i stop then none
  else
    match if ordered then s.ordinalAt? i else s.bulletAt? i with
    | some length => if s.markerChar? i length == marker then some length else none
    | none => none

end Scope

mutual

/-- The blocks from line `i` up to `stop`, and the line behind them. -/
def parseBlocks : Nat → Scope → Nat → Nat → List Block × Nat
  | 0, _, i, _ => ([], i)
  | n + 1, s, i, stop =>
    if stop ≤ i then ([], i)
    else
      let i := s.skipEmpty (s.lineMax - i) i
      if stop ≤ i || (s.line i).indent < s.indent then ([], i)
      else if s.grammar.maxNesting ≤ s.depth then ([], stop)
      else
        let (found, next) := parseBlock n s i stop
        let next := if next < stop && s.isEmpty next then next + 1 else next
        let (rest, last) := parseBlocks n s next stop
        (found ++ rest, last)

/-- The block that starts on line `i`, and the line behind it. A reference definition gives no
block. -/
def parseBlock : Nat → Scope → Nat → Nat → List Block × Nat
  | 0, _, i, _ => ([], i + 1)
  | n + 1, s, i, stop =>
    let g := s.grammar
    match s.earlyLeaf? i stop with
    | some (block, next) => ([block], next)
    | none =>
      if g.quote && s.quoteAt i then
        let inner := { s with indent := 0, depth := s.depth + 1 }
        let (inner, last) := s.quoteScope stop (stop - i) i inner false
        let (children, next) := parseBlocks n inner i last
        ([.mk .quote ⟨i, next⟩ children], next)
      else if g.thematicBreak && s.breakAt i then ([.mk .thematicBreak ⟨i, i + 1⟩ []], i + 1)
      else
        match if g.list then s.itemAt? i false else none with
        | some (length, ordered) =>
          let (items, next) := parseItems n s ordered (s.markerChar? i length) i length stop
          ([.mk (if ordered then .orderedList else .bulletList) ⟨i, next⟩ items], next)
        | none =>
          match if g.reference then s.referenceAt? i else none with
          | some next => ([], next)
          | none =>
            let (block, next) := s.lateLeaf i stop
            ([block], next)

/-- The items of a list from the one on line `i`, whose marker has the given length, on. -/
def parseItems : Nat → Scope → Bool → Option Char → Nat → Nat → Nat → List Block × Nat
  | 0, _, _, _, i, _, _ => ([], i + 1)
  | n + 1, s, ordered, marker, i, length, stop =>
    let (inner, blank) := s.itemScope i length
    let (children, next) :=
      if blank && s.isEmpty (i + 1) then ([], min (i + 2) stop) else parseBlocks n inner i stop
    let item := Block.mk .listItem ⟨i, next⟩ children
    match s.nextItem? ordered marker next stop with
    | some length =>
      let (items, last) := parseItems n s ordered marker next length stop
      (item :: items, last)
    | none => ([item], next)

end

/-- The block structure of a text under a grammar. -/
def parseText (g : Grammar) (text : List Char) : List Block :=
  let lines := (scanLines 0 {} text).toArray
  let scope : Scope := { grammar := g, text := text.toArray, lines, lineMax := lines.size }
  (parseBlocks ((lines.size + 2) * (2 * g.maxNesting + 8)) scope 0 lines.size).1

/-- Why a text is not parsed. -/
def linkifyMissing : String := "Linkify enabled but not installed."

/-- The parser of a grammar. Line terminators are unified before anything else. -/
def Grammar.parse (g : Grammar) (text : List Char) : Except String (List Block) :=
  if g.linkify then .error linkifyMissing else .ok (parseText g (normalize text))

end MarkdownLint.Markdown
