import MarkdownLint.Text.Line

/-!
The text of a document as the block parser sees it: terminators written as `\n`, NUL replaced, and a
table of lines whose entries can be narrowed when a line is looked at from inside a container.
-/
namespace MarkdownLint.Markdown

/-- NUL becomes the replacement character. -/
def replaceNul (c : Char) : Char := if c = '\x00' then '\uFFFD' else c

/-- The text that is parsed. -/
def normalize (cs : List Char) : List Char := (Text.universalNewlines cs).map replaceNul

/-- A line as seen from inside the containers that hold it. -/
structure Line where
  /-- Where the line starts, container markers excluded. -/
  start : Nat
  /-- Where the line ends, its terminator excluded. -/
  stop : Nat
  /-- The number of indenting characters at the start. -/
  shift : Nat
  /-- The width of the indentation, with tabs expanded. Negative for a line that continues a
  paragraph of a quote without carrying its marker. -/
  indent : Int
  /-- The width of the container markers that precede the start, for the expansion of tabs. -/
  base : Int
deriving Repr, Inhabited

/-- Where the text of a line starts, its indentation excluded. -/
def Line.text (l : Line) : Nat := l.start + l.shift

/-- Whether nothing but indentation is on a line. -/
def Line.isEmpty (l : Line) : Bool := l.stop ≤ l.text

/-- The width of a tab that starts at a column. -/
def tabWidth (column : Int) : Int := 4 - column % 4

/-- The state of the scan that finds lines: where the line starts, how many characters indent it
and how far, and whether its text has begun. -/
structure LineScan where
  start : Nat := 0
  shift : Nat := 0
  indent : Int := 0
  inText : Bool := false

/-- The lines of a text from position `pos` on. Indentation that the end of the text cuts short is
no line. -/
def scanLines (pos : Nat) (s : LineScan) : List Char → List Line
  | [] => []
  | c :: cs =>
    if !s.inText && (c == ' ' || c == '\t') then
      let width := if c == '\t' then tabWidth s.indent else 1
      scanLines (pos + 1) { s with shift := s.shift + 1, indent := s.indent + width } cs
    else if c == '\n' then
      ⟨s.start, pos, s.shift, s.indent, 0⟩ :: scanLines (pos + 1) { start := pos + 1 } cs
    else if cs.isEmpty then [⟨s.start, pos + 1, s.shift, s.indent, 0⟩]
    else scanLines (pos + 1) { s with inText := true } cs

end MarkdownLint.Markdown
