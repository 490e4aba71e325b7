import MarkdownLint.Pattern.Matcher

/-!
Lines that open and close blocks of raw HTML. There are seven ways to open one; each has its own way
to close it.
-/
namespace MarkdownLint.Markdown.Html

/-- Elements that open a block of HTML with either of their tags. -/
def blockNames : List String :=
  ["address", "article", "aside", "base", "basefont", "blockquote", "body", "caption", "center",
    "col", "colgroup", "dd", "details", "dialog", "dir", "div", "dl", "dt", "fieldset",
    "figcaption", "figure", "footer", "form", "frame", "frameset", "h1", "h2", "h3", "h4", "h5",
    "h6", "head", "header", "hr", "html", "iframe", "legend", "li", "link", "main", "menu",
    "menuitem", "nav", "noframes", "ol", "optgroup", "option", "p", "param", "search", "section",
    "summary", "table", "tbody", "td", "tfoot", "th", "thead", "title", "tr", "track", "ul"]

/-- An attribute of a tag, with the space before it. -/
def attributeText : String :=
  "(?:\\s+[a-zA-Z_:][a-zA-Z0-9:._-]*(?:\\s*=\\s*(?:[^\"'=<>\x60\\x00-\\x20]+|'[^']*'|\"[^\"]*\"))?)"

/-- A complete opening tag. -/
def openTag : String := "<[A-Za-z][A-Za-z0-9\\-]*" ++ attributeText ++ "*\\s*\\/?>"

/-- A complete closing tag. -/
def closeTag : String := "<\\/[A-Za-z][A-Za-z0-9\\-]*\\s*>"

/-- The meaning of a pattern that is known to be well formed and names no characters. -/
def pattern (text : String) : Pattern.Compiled :=
  match Pattern.compile (fun _ => none) text with
  | .ok p => p
  | .error _ => ⟨.look none true .empty, {}⟩

/-- How a block of HTML opens, how it closes, and whether it can end a paragraph. A block without a
closing pattern ends at an empty line. -/
structure Form where
  opening : Pattern.Compiled
  closing : Option Pattern.Compiled
  interrupts : Bool

/-- The forms, in the order in which they are tried. -/
def forms : List Form :=
  [⟨pattern "(?i)<(script|pre|style|textarea)(?=(\\s|>|$))",
      some (pattern "(?i)<\\/(script|pre|style|textarea)>"), true⟩,
    ⟨pattern "<!--", some (pattern "-->"), true⟩,
    ⟨pattern "<\\?", some (pattern "\\?>"), true⟩,
    ⟨pattern "<![A-Z]", some (pattern ">"), true⟩,
    ⟨pattern "<!\\[CDATA\\[", some (pattern "\\]\\]>"), true⟩,
    ⟨pattern ("(?i)</?(" ++ "|".intercalate blockNames ++ ")(?=(\\s|/?>|$))"), none, true⟩,
    ⟨pattern ("(?:" ++ openTag ++ "|" ++ closeTag ++ ")\\s*$"), none, false⟩]

/-- The form of HTML that a line opens. -/
def opens? (line : List Char) : Option Form :=
  if line.head? == some '<' then forms.find? fun f => f.opening.matchesStart line else none

/-- Whether a line closes a block of the given form. -/
def Form.closes (f : Form) (line : List Char) : Bool :=
  match f.closing with
  | some p => p.matchesSomewhere line
  | none => line.isEmpty

end MarkdownLint.Markdown.Html
