/-!
Patterns over file names: the syntax of regular expressions, the options that change their meaning,
and the widths of the texts they match.
-/
namespace MarkdownLint.Pattern

/-- Options a pattern turns on and off, for the whole of it or for a group. -/
structure Options where
  ignoreCase : Bool := false
  multiline : Bool := false
  dotAll : Bool := false
  verbose : Bool := false
  ascii : Bool := false
  unicode : Bool := false
  template : Bool := false
deriving Repr, DecidableEq

namespace Options

/-- The options on in either of the two. -/
def union (a b : Options) : Options where
  ignoreCase := a.ignoreCase || b.ignoreCase
  multiline := a.multiline || b.multiline
  dotAll := a.dotAll || b.dotAll
  verbose := a.verbose || b.verbose
  ascii := a.ascii || b.ascii
  unicode := a.unicode || b.unicode
  template := a.template || b.template

/-- The options on in both. -/
def inter (a b : Options) : Options where
  ignoreCase := a.ignoreCase && b.ignoreCase
  multiline := a.multiline && b.multiline
  dotAll := a.dotAll && b.dotAll
  verbose := a.verbose && b.verbose
  ascii := a.ascii && b.ascii
  unicode := a.unicode && b.unicode
  template := a.template && b.template

/-- The options on in the first and not in the second. -/
def diff (a b : Options) : Options where
  ignoreCase := a.ignoreCase && !b.ignoreCase
  multiline := a.multiline && !b.multiline
  dotAll := a.dotAll && !b.dotAll
  verbose := a.verbose && !b.verbose
  ascii := a.ascii && !b.ascii
  unicode := a.unicode && !b.unicode
  template := a.template && !b.template

/-- The options inside a group that adds and removes some; the choice of a character repertoire
replaces the one around the group. -/
def within (outer add del : Options) : Options :=
  let base :=
    if add.ascii || add.unicode then { outer with ascii := false, unicode := false } else outer
  (base.union add).diff del

end Options

/-- Classes of characters with a name of their own. -/
inductive Category where
  | digit
  | space
  | word
deriving Repr, DecidableEq

/-- A member of a character set. Characters are code points, since a pattern can name a code point
that no text holds. -/
inductive SetItem where
  | char (code : Nat)
  | range (lo hi : Nat)
  | category (kind : Category) (negated : Bool)
deriving Repr, DecidableEq

/-- Conditions on a position of the text. -/
inductive Anchor where
  /-- `^` -/
  | start
  /-- `$` -/
  | finish
  /-- `\A` -/
  | textStart
  /-- `\Z` -/
  | textEnd
  /-- `\b` and, negated, `\B` -/
  | boundary (negated : Bool)
deriving Repr, DecidableEq

/-- How a repetition chooses its length. -/
inductive Greed where
  /-- As many as possible, fewer if the rest fails. -/
  | greedy
  /-- As few as possible, more if the rest fails. -/
  | reluctant
  /-- As many as possible, and never fewer. -/
  | possessive
deriving Repr, DecidableEq

/-- Regular expressions. -/
inductive Regex where
  | empty
  | char (code : Nat)
  | notChar (code : Nat)
  | any
  | set (negated : Bool) (items : List SetItem)
  | anchor (a : Anchor)
  | seq (first rest : Regex)
  | alt (left right : Regex)
  | rep (greed : Greed) (min : Nat) (max : Option Nat) (body : Regex)
  /-- A group, with its number when it captures. -/
  | group (index : Option Nat) (add del : Options) (body : Regex)
  | atomic (body : Regex)
  /-- A condition on the text ahead, or on the given number of characters behind. -/
  | look (behind : Option Nat) (negated : Bool) (body : Regex)
  | backref (index : Nat)
  | conditional (index : Nat) (yes no : Regex)
deriving Repr

namespace Regex

/-- The regular expressions of a list, one after the other. -/
def ofList (rs : List Regex) : Regex := rs.foldr seq empty

end Regex

/-- Widths above this bound are not told apart. -/
def maxWidth : Nat := 0x10000000000000000

/-- The least and the greatest width of the texts a regular expression matches, where `groups`
gives the widths of the groups that are closed. -/
def Regex.width (groups : Nat → Nat × Nat) : Regex → Nat × Nat
  | empty => (0, 0)
  | char _ => (1, 1)
  | notChar _ => (1, 1)
  | any => (1, 1)
  | set _ _ => (1, 1)
  | anchor _ => (0, 0)
  | seq a b =>
    let (i, j) := a.width groups
    let (k, l) := b.width groups
    (min maxWidth (i + k), min maxWidth (j + l))
  | alt a b =>
    let (i, j) := a.width groups
    let (k, l) := b.width groups
    (min i k, max j l)
  | rep _ lo hi body =>
    let (i, j) := body.width groups
    let upper := match hi with
      | none => if j == 0 then 0 else maxWidth
      | some h => j * h
    (min maxWidth (i * lo), min maxWidth upper)
  | group _ _ _ body => body.width groups
  | atomic body => body.width groups
  | look _ _ _ => (0, 0)
  | backref g => groups g
  | conditional _ yes no =>
    let (i, j) := yes.width groups
    let (k, l) := no.width groups
    (min i k, max j l)

end MarkdownLint.Pattern
