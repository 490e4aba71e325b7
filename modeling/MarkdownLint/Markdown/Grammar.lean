import MarkdownLint.Text.Quoted

/-!
Which constructs a parser knows. A parser is described by a preset and a list of constructs to turn
on in addition.
-/
namespace MarkdownLint.Markdown

/-- What a parser knows of block structure. -/
structure Grammar where
  table : Bool
  code : Bool
  fence : Bool
  quote : Bool
  thematicBreak : Bool
  list : Bool
  reference : Bool
  htmlBlock : Bool
  heading : Bool
  setextHeading : Bool
  /-- Whether raw HTML is allowed at all. -/
  html : Bool
  /-- The depth at which the content of containers is no longer parsed. -/
  maxNesting : Nat
  /-- Whether bare links would have to be found, for which there is no support. -/
  linkify : Bool
deriving Repr, DecidableEq

namespace Grammar

/-- Paragraphs only. -/
def bare : Grammar where
  table := false
  code := false
  fence := false
  quote := false
  thematicBreak := false
  list := false
  reference := false
  htmlBlock := false
  heading := false
  setextHeading := false
  html := false
  maxNesting := 20
  linkify := false

/-- All block constructs but tables, and raw HTML. -/
def commonMark : Grammar where
  table := false
  code := true
  fence := true
  quote := true
  thematicBreak := true
  list := true
  reference := true
  htmlBlock := true
  heading := true
  setextHeading := true
  html := true
  maxNesting := 20
  linkify := false

/-- All block constructs, no raw HTML. -/
def full : Grammar := { commonMark with table := true, html := false, maxNesting := 100 }

/-- All block constructs, raw HTML and bare links. -/
def extended : Grammar := { commonMark with table := true, linkify := true }

/-- The grammar of a preset. -/
def ofPreset? : String → Option Grammar
  | "commonmark" => some commonMark
  | "zero" => some bare
  | "js-default" => some full
  | "default" => some full
  | "gfm-like" => some extended
  | _ => none

/-- Names of constructs that have no bearing on block structure. -/
def otherConstructs : List String :=
  ["normalize", "block", "inline", "linkify", "replacements", "smartquotes", "text_join",
    "paragraph", "text", "newline", "escape", "backticks", "strikethrough", "emphasis", "link",
    "image", "autolink", "html_inline", "entity", "balance_pairs", "fragments_join"]

/-- Turns on the construct of the given name; `none` when there is none. -/
def enable? (g : Grammar) : String → Option Grammar
  | "table" => some { g with table := true }
  | "code" => some { g with code := true }
  | "fence" => some { g with fence := true }
  | "blockquote" => some { g with quote := true }
  | "hr" => some { g with thematicBreak := true }
  | "list" => some { g with list := true }
  | "reference" => some { g with reference := true }
  | "html_block" => some { g with htmlBlock := true }
  | "heading" => some { g with heading := true }
  | "lheading" => some { g with setextHeading := true }
  | name => if otherConstructs.contains name then some g else none

/-- Turns on all constructs of a list, or gives the names that stand for none. -/
def enableAll (g : Grammar) (names : List String) : Except (List String) Grammar :=
  match names.filter fun n => (g.enable? n).isNone with
  | [] => .ok (names.foldl (fun g n => (g.enable? n).getD g) g)
  | unknown => .error unknown

end Grammar

/-- The description of a parser. -/
structure ParserOptions where
  preset : String := "commonmark"
  extensions : List String := ["table", "strikethrough"]
deriving Repr, DecidableEq

/-- Why a description is refused. -/
inductive ParserError where
  | unknownPreset (name : String)
  | unknownExtensions (names : List String)
deriving Repr, DecidableEq

/-- The wording of a refusal. -/
def ParserError.message : ParserError → String
  | unknownPreset name =>
    Text.quoted ("Wrong \x60markdown-it\x60 preset '" ++ name ++ "', check name")
  | unknownExtensions names =>
    "MarkdownIt. Failed to enable unknown rule(s): [" ++
      ", ".intercalate (names.map Text.quoted) ++ "]"

/-- The grammar that a description stands for (`ParserOptions.build`). -/
def ParserOptions.grammar (o : ParserOptions) : Except ParserError Grammar :=
  match Grammar.ofPreset? o.preset with
  | none => .error (.unknownPreset o.preset)
  | some g =>
    match g.enableAll o.extensions with
    | .ok g => .ok g
    | .error names => .error (.unknownExtensions names)

end MarkdownLint.Markdown
