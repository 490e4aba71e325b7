import MarkdownLint.Pattern.Parser
import MarkdownLint.Text.Case

/-!
Matching by backtracking. A regular expression denotes a function from a place in the text and a
continuation to the first way, in order of preference, in which both succeed.
-/
namespace MarkdownLint.Pattern

/-- A place in a text, with the spans of the groups that have matched on the way there. -/
structure Cursor where
  pos : Nat
  groups : List (Nat × Nat × Nat) := []

/-- A way to go on from a place, or its failure. -/
abbrev Continuation := Cursor → Option Cursor

/-- The meaning of a regular expression. -/
abbrev Matcher := Cursor → Continuation → Option Cursor

/-- Whether a code point belongs to a class of characters. -/
def Category.has (ascii : Bool) (kind : Category) (code : Nat) : Bool :=
  let c := Char.ofNat code
  if ascii then
    code < 0x80 && match kind with
      | .digit => c.isDigit
      | .space => c == ' ' || (9 ≤ code && code ≤ 13)
      | .word => c.isAlphanum || c == '_'
  else
    match kind with
    | .digit => Text.isDigit c
    | .space => Text.isBlank c
    | .word => Text.isWord c

/-- The lower case of a code point under the options. -/
def Options.lower (o : Options) (code : Nat) : Nat :=
  if o.ascii then Text.lowerAsciiCode code else Text.lowerCode code

/-- The code points that count as equal to a code point when case is ignored. -/
def Options.variants (o : Options) (code : Nat) : List Nat :=
  let low := o.lower code
  if o.ascii then
    if 0x61 ≤ low && low ≤ 0x7A then [low, low - 32] else [low]
  else (Text.sameLetterCodes low).flatMap Text.codesWithLower

/-- Whether two code points are equal under the options. -/
def Options.same (o : Options) (a b : Nat) : Bool :=
  a == b || (o.ignoreCase && (o.variants a).contains b)

/-- Whether a member of a character set holds a code point. -/
def SetItem.has (o : Options) (code : Nat) : SetItem → Bool
  | .char a => o.same code a
  | .range lo hi =>
    (lo ≤ code && code ≤ hi) ||
      (o.ignoreCase && (o.variants code).any fun v => lo ≤ v && v ≤ hi)
  | .category kind negated => kind.has o.ascii code != negated

/-- Whether a place satisfies a condition on positions. -/
def Anchor.holds (o : Options) (text : Array Char) (p : Nat) : Anchor → Bool
  | .start => p == 0 || (o.multiline && text[p - 1]? == some '\n')
  | .finish =>
    p == text.size || (text[p]? == some '\n' && (o.multiline || p + 1 == text.size))
  | .textStart => p == 0
  | .textEnd => p == text.size
  | .boundary negated =>
    let word (i : Nat) : Bool := match text[i]? with
      | some c => Category.word.has o.ascii c.toNat
      | none => false
    let before := p != 0 && word (p - 1)
    text.size != 0 && ((before != word p) != negated)

/-- Matches one character that satisfies `p`. -/
def matchChar (text : Array Char) (p : Nat → Bool) : Matcher := fun c k =>
  match text[c.pos]? with
  | some x => if p x.toNat then k { c with pos := c.pos + 1 } else none
  | none => none

/-- A greedy repetition. `last` is where the latest optional round started: a round that did not
move is not followed by another. -/
def repeatGreedy (body : Matcher) : Nat → Nat → Option Nat → Option Nat → Matcher
  | 0, _, _, _ => fun c k => k c
  | n + 1, lo + 1, hi, last => fun c k =>
    body c fun d => repeatGreedy body n lo (hi.map (· - 1)) last d k
  | n + 1, 0, hi, last => fun c k =>
    if hi == some 0 || last == some c.pos then k c
    else (body c fun d => repeatGreedy body n 0 (hi.map (· - 1)) (some c.pos) d k) <|> k c

/-- A reluctant repetition. -/
def repeatReluctant (body : Matcher) : Nat → Nat → Option Nat → Option Nat → Matcher
  | 0, _, _, _ => fun c k => k c
  | n + 1, lo + 1, hi, last => fun c k =>
    body c fun d => repeatReluctant body n lo (hi.map (· - 1)) last d k
  | n + 1, 0, hi, last => fun c k =>
    match k c with
    | some r => some r
    | none =>
      if hi == some 0 || last == some c.pos then none
      else body c fun d => repeatReluctant body n 0 (hi.map (· - 1)) (some c.pos) d k

/-- Whether the texts of a span and of the place `p` are the same. -/
def sameText (o : Options) (text : Array Char) (start p : Nat) : Nat → Bool
  | 0 => true
  | n + 1 =>
    match text[start]?, text[p]? with
    | some a, some b =>
      (a == b || (o.ignoreCase && o.lower a.toNat == o.lower b.toNat)) &&
        sameText o text (start + 1) (p + 1) n
    | _, _ => false

/-- The meaning of a regular expression in a text. -/
def Regex.run (text : Array Char) : Regex → Options → Matcher
  | .empty, _ => fun c k => k c
  | .char a, o => matchChar text fun x => o.same x a
  | .notChar a, o => matchChar text fun x => !o.same x a
  | .any, o => matchChar text fun x => o.dotAll || x != 10
  | .set negated items, o => matchChar text fun x => items.any (·.has o x) != negated
  | .anchor a, o => fun c k => if a.holds o text c.pos then k c else none
  | .seq a b, o => fun c k => a.run text o c fun d => b.run text o d k
  | .alt a b, o => fun c k => a.run text o c k <|> b.run text o c k
  | .rep greed lo hi body, o => fun c k =>
    let rounds := lo + (text.size - c.pos) + 2
    match greed with
    | .greedy => repeatGreedy (body.run text o) rounds lo hi none c k
    | .reluctant => repeatReluctant (body.run text o) rounds lo hi none c k
    | .possessive => (repeatGreedy (body.run text o) rounds lo hi none c some).bind k
  | .group index add del body, o => fun c k =>
    body.run text (o.within add del) c fun d =>
      match index with
      | none => k d
      | some i => k { d with groups := (i, c.pos, d.pos) :: d.groups }
  | .atomic body, o => fun c k => (body.run text o c some).bind k
  | .look behind negated body, o => fun c k =>
    let start := c.pos - behind.getD 0
    let found :=
      if behind.getD 0 ≤ c.pos then body.run text o { c with pos := start } some else none
    match found with
    | some d => if negated then none else k { d with pos := c.pos }
    | none => if negated then k c else none
  | .backref i, o => fun c k =>
    match c.groups.lookup i with
    | none => none
    | some (a, b) =>
      if sameText o text a c.pos (b - a) then k { c with pos := c.pos + (b - a) } else none
  | .conditional i yes no, o => fun c k =>
    if (c.groups.lookup i).isSome then yes.run text o c k else no.run text o c k

/-- Whether a pattern matches a text from its start to its end. -/
def Compiled.matchesAll (p : Compiled) (s : String) : Bool :=
  let text := s.toList.toArray
  (p.regex.run text p.options ⟨0, []⟩ fun c =>
    if c.pos == text.size then some c else none).isSome

/-- Whether a pattern matches at the start of a text. -/
def Compiled.matchesStart (p : Compiled) (cs : List Char) : Bool :=
  (p.regex.run cs.toArray p.options ⟨0, []⟩ some).isSome

/-- Whether a pattern matches somewhere in a text. -/
def Compiled.matchesSomewhere (p : Compiled) (cs : List Char) : Bool :=
  let text := cs.toArray
  (List.range (text.size + 1)).any fun i => (p.regex.run text p.options ⟨i, []⟩ some).isSome

end MarkdownLint.Pattern
