import MarkdownLint.Pattern.Basic
import MarkdownLint.Pattern.Error
import MarkdownLint.Text.Identifier
import MarkdownLint.Text.Integer
import MarkdownLint.Text.Word

/-!
Reading a pattern. The reader works on tokens, each a character or a backslash with the character
after it, and always knows the coming one; positions in errors count characters.

Recursion is bounded by a number of steps that exceeds the number of tokens, since every step but
the entry into an alternation consumes one.
-/
namespace MarkdownLint.Pattern

/-- A character of a pattern, escaped or not. -/
inductive Token where
  | plain (c : Char)
  | escaped (c : Char)
deriving Repr, DecidableEq

namespace Token

/-- The number of characters a token is written with. -/
def length : Token → Nat
  | plain _ => 1
  | escaped _ => 2

/-- The characters a token is written with. -/
def text : Token → String
  | plain c => String.singleton c
  | escaped c => String.ofList ['\\', c]

end Token

/-- The characters that have names. The names are no part of the language of patterns: whoever reads
a pattern says what they stand for. -/
abbrev CharacterNames := String → Option Char

/-- What the reader knows between two tokens. -/
structure Reader where
  /-- The characters that have names. -/
  named : CharacterNames
  /-- The characters after the coming token. -/
  rest : List Char
  /-- The number of characters up to and including the coming token. -/
  index : Nat
  /-- The coming token, if there is one. -/
  next : Option Token
  /-- The length of the whole pattern. -/
  size : Nat
  /-- The options turned on for the whole pattern. -/
  options : Options := {}
  /-- The number of groups opened so far, the whole match included. -/
  groups : Nat := 1
  /-- The names of groups. -/
  names : List (String × Nat) := []
  /-- The widths of the groups closed so far. -/
  widths : List (Nat × Nat × Nat) := []
  /-- Inside a condition on the text behind, the number of groups opened before it. -/
  behind : Option Nat := none
  /-- Groups that conditions mention by number, with the place of the first mention. -/
  mentioned : List (Nat × Nat) := []

/-- Computations that read a pattern. -/
abbrev Read := StateT Reader (Except Error)

namespace Read

/-- The position of the coming token. -/
def tell : Read Nat := do
  let r ← get
  return r.index - (r.next.map Token.length).getD 0

/-- Stops with a mistake noticed `back` characters before the coming token. -/
def fail {α : Type} (reason : Reason) (back : Nat := 0) : Read α := do
  let p ← tell
  throw (.malformed reason (some (p - back)))

/-- Moves past the coming token. -/
def advance : Read Unit := do
  let r ← get
  match r.rest with
  | [] => set { r with next := none }
  | '\\' :: c :: rest =>
    set { r with rest := rest, index := r.index + 2, next := some (.escaped c) }
  | ['\\'] => throw (.malformed .escapeAtEnd (some (r.size - 1)))
  | c :: rest => set { r with rest := rest, index := r.index + 1, next := some (.plain c) }

/-- The coming token, which is consumed. -/
def take : Read (Option Token) := do
  let t := (← get).next
  advance
  return t

/-- Consumes the coming token if it is the given character. -/
def accept (c : Char) : Read Bool := do
  if (← get).next == some (.plain c) then
    advance
    return true
  return false

/-- Consumes at most `n` characters that satisfy `p`. -/
def takeWhile (p : Char → Bool) : Nat → Read (List Char)
  | 0 => return []
  | n + 1 => do
    match (← get).next with
    | some (.plain c) =>
      if p c then
        advance
        return c :: (← takeWhile p n)
      else return []
    | _ => return []

/-- Everything before the character `terminator`, which is consumed too; `what` names it. -/
def takeUntil (terminator : Char) (what : String) : Nat → String → Read String
  | 0, _ => fail (.missingName what)
  | n + 1, found => do
    let t ← take
    match t with
    | none =>
      if found.isEmpty then fail (.missingName what)
      else fail (.unterminatedName terminator) found.length
    | some t =>
      if t == .plain terminator then
        if found.isEmpty then fail (.missingName what) 1
        else return found
      else takeUntil terminator what n (found ++ t.text)

/-- Refuses a reference, from a condition on the text behind, to a group that is open or that the
condition itself holds. -/
def checkBehind (group : Nat) : Read Unit := do
  let r ← get
  match r.behind with
  | none => return ()
  | some outer =>
    if (r.widths.lookup group).isNone then fail .openGroup
    if outer ≤ group then fail .groupInLookbehind

end Read

open Read
open Text (hexValue? numeral)

/-- Whether a character is an octal digit. -/
def isOctal (c : Char) : Bool := '0' ≤ c && c ≤ '7'

/-- An escape of the form `\x41` with exactly `n` hexadecimal digits. -/
def readHexEscape (c : Char) (n : Nat) : Read Nat := do
  let digits ← takeWhile (fun c => (hexValue? c).isSome) n
  let text := String.ofList ('\\' :: c :: digits)
  if digits.length != n then fail (.incompleteEscape text) text.length
  let code := numeral 16 digits
  if 0x110000 ≤ code then fail (.badEscape text) text.length
  return code

/-- An escape that names a character. -/
def readNamedEscape : Read Nat := do
  if !(← accept '{') then fail .missingBrace
  let name ← takeUntil '}' "character name" ((← get).rest.length + 2) ""
  match (← get).named name with
  | some c => return c.toNat
  | none => fail (.undefinedCharacterName name) (name.length + 4)

/-- The characters that escapes of one letter denote in every context. -/
def controlEscape? : Char → Option Nat
  | 'a' => some 7
  | 'f' => some 12
  | 'n' => some 10
  | 'r' => some 13
  | 't' => some 9
  | 'v' => some 11
  | '\\' => some 92
  | _ => none

/-- The classes that escapes denote. -/
def categoryEscape? : Char → Option SetItem
  | 'd' => some (.category .digit false)
  | 'D' => some (.category .digit true)
  | 's' => some (.category .space false)
  | 'S' => some (.category .space true)
  | 'w' => some (.category .word false)
  | 'W' => some (.category .word true)
  | _ => none

/-- The positions that escapes denote. -/
def anchorEscape? : Char → Option Anchor
  | 'A' => some .textStart
  | 'Z' => some .textEnd
  | 'b' => some (.boundary false)
  | 'B' => some (.boundary true)
  | _ => none

/-- An escape inside a character set. -/
def readSetEscape (c : Char) : Read SetItem := do
  if c == 'b' then return .char 8
  if let some code := controlEscape? c then return .char code
  if let some item := categoryEscape? c then return item
  match c with
  | 'x' => return .char (← readHexEscape 'x' 2)
  | 'u' => return .char (← readHexEscape 'u' 4)
  | 'U' => return .char (← readHexEscape 'U' 8)
  | 'N' => return .char (← readNamedEscape)
  | _ =>
    if isOctal c then
      let digits := c :: (← takeWhile isOctal 2)
      let code := numeral 8 digits
      let text := String.ofList ('\\' :: digits)
      if code > 0xFF then fail (.octalTooLarge text) text.length
      return .char code
    else if c.isDigit || c.isAlpha then fail (.badEscape (Token.escaped c).text) 2
    else return .char c.toNat

/-- An escape outside character sets. -/
def readEscape (c : Char) : Read Regex := do
  if let some a := anchorEscape? c then return .anchor a
  if let some item := categoryEscape? c then return .set false [item]
  if let some code := controlEscape? c then return .char code
  match c with
  | 'x' => return .char (← readHexEscape 'x' 2)
  | 'u' => return .char (← readHexEscape 'u' 4)
  | 'U' => return .char (← readHexEscape 'U' 8)
  | 'N' => return .char (← readNamedEscape)
  | '0' => return .char (numeral 8 (← takeWhile isOctal 2))
  | _ =>
    if c.isDigit then
      let second ← takeWhile Char.isDigit 1
      if isOctal c && !second.isEmpty && second.all isOctal then
        let third ← takeWhile isOctal 1
        if !third.isEmpty then
          let digits := c :: second ++ third
          let code := numeral 8 digits
          let text := String.ofList ('\\' :: digits)
          if code > 0xFF then fail (.octalTooLarge text) text.length
          return .char code
      let digits := c :: second
      let group := numeral 10 digits
      let r ← get
      if group < r.groups then
        if (r.widths.lookup group).isNone then fail .openGroup (digits.length + 1)
        checkBehind group
        return .backref group
      else fail (.invalidGroup group) digits.length
    else if c.isAlpha then fail (.badEscape (Token.escaped c).text) 2
    else return .char c.toNat

/-- The rest of a character set that starts at position `start`; `found` holds the members read so
far, the last one first. -/
def readSet (start : Nat) : Nat → List SetItem → Read (List SetItem)
  | 0, _ => fail .unterminatedSet
  | n + 1, found => do
    let endOfSet : Read (List SetItem) := do
      let p ← tell
      fail .unterminatedSet (p - start)
    let t ← take
    match t with
    | none => endOfSet
    | some t =>
      if t == .plain ']' && !found.isEmpty then return found.reverse
      let lo ← match t with
        | .escaped c => readSetEscape c
        | .plain c => pure (.char c.toNat)
      if ← accept '-' then
        let u ← take
        match u with
        | none => endOfSet
        | some u =>
          if u == .plain ']' then return (.char 45 :: lo :: found).reverse
          let hi ← match u with
            | .escaped c => readSetEscape c
            | .plain c => pure (.char c.toNat)
          match lo, hi with
          | .char a, .char b =>
            if b < a then fail (.badRange t.text u.text) (t.length + 1 + u.length)
            readSet start n (.range a b :: found)
          | _, _ => fail (.badRange t.text u.text) (t.length + 1 + u.length)
      else readSet start n (lo :: found)

/-- A character set, its members read. -/
def setOf (negated : Bool) (items : List SetItem) : Regex :=
  match items.eraseDups with
  | [.char c] => if negated then .notChar c else .char c
  | items => .set negated items

/-- The option a letter stands for. -/
def optionOf? : Char → Option Options
  | 'i' => some { ignoreCase := true }
  | 'm' => some { multiline := true }
  | 's' => some { dotAll := true }
  | 'x' => some { verbose := true }
  | 'a' => some { ascii := true }
  | 'u' => some { unicode := true }
  | 't' => some { template := true }
  | _ => none

/-- Whether a token is a letter. -/
def Token.isLetter : Token → Bool
  | .plain c => Text.isAlphanumeric c && !Text.isDigit c
  | .escaped _ => false

/-- The options that are turned on, starting with the letter `c`, and the character after them. -/
def readOptionsOn : Nat → Char → Options → Read (Options × Char)
  | 0, _, _ => fail .missingOptionEnd
  | n + 1, c, on => do
    if c == 'L' then fail .unsupportedLocale
    let on := on.union ((optionOf? c).getD {})
    if on.ascii && on.unicode && (c == 'a' || c == 'u') then fail .incompatibleOptions
    let t ← take
    match t with
    | none => fail .missingOptionEnd
    | some (.plain c) =>
      if c == ')' || c == '-' || c == ':' then return (on, c)
      else if (optionOf? c).isSome || c == 'L' then readOptionsOn n c on
      else if (Token.plain c).isLetter then fail .unknownOption 1
      else fail .missingOptionEnd 1
    | some (.escaped _) => fail .missingOptionEnd 2

/-- The options that are turned off, starting with the letter `c`. -/
def readOptionsOff : Nat → Char → Options → Read Options
  | 0, _, _ => fail .missingColon
  | n + 1, c, off => do
    if c == 'a' || c == 'u' || c == 'L' then fail .fixedRepertoire
    let off := off.union ((optionOf? c).getD {})
    let t ← take
    match t with
    | none => fail .missingColon
    | some (.plain c) =>
      if c == ':' then return off
      else if (optionOf? c).isSome || c == 'L' then readOptionsOff n c off
      else if (Token.plain c).isLetter then fail .unknownOption 1
      else fail .missingColon 1
    | some (.escaped _) => fail .missingColon 2

/-- The options of a group, or `none` when they hold for the whole pattern. -/
def readOptions (c : Char) : Read (Option (Options × Options)) := do
  let steps := (← get).rest.length + 2
  let (on, c) ← if c == '-' then pure ({}, c) else readOptionsOn steps c {}
  if c == ')' then
    modify fun r => { r with options := r.options.union on }
    return none
  if on.template then fail .globalOptionOn 1
  let off ← if c == '-' then do
      let t ← take
      match t with
      | none => fail .missingOption
      | some (.plain c) =>
        if (optionOf? c).isSome || c == 'L' then readOptionsOff steps c {}
        else if (Token.plain c).isLetter then fail .unknownOption 1
        else fail .missingOption 1
      | some (.escaped _) => fail .missingOption 2
    else pure {}
  if off.template then fail .globalOptionOff 1
  if on.inter off != {} then fail .contradictoryOptions 1
  return some (on, off)

/-- Opens a group that captures, with its name if it has one. -/
def openGroup (name : Option String) : Read Nat := do
  let r ← get
  let index := r.groups
  match name with
  | none => set { r with groups := index + 1 }
  | some name =>
    if let some old := r.names.lookup name then
      fail (.redefinedGroup name index old) (name.length + 1)
    set { r with groups := index + 1, names := (name, index) :: r.names }
  return index

/-- The widths of the closed groups. -/
def Reader.width (r : Reader) (body : Regex) : Nat × Nat :=
  body.width fun g => (r.widths.lookup g).getD (0, 0)

/-- The closing parenthesis of the group that starts at position `start`. -/
def closeParen (start : Nat) : Read Unit := do
  if !(← accept ')') then
    let p ← tell
    fail .unterminatedGroup (p - start)

/-- Skips a comment up to its closing parenthesis. -/
def skipComment (start : Nat) : Nat → Read Unit
  | 0 => fail .unterminatedComment
  | n + 1 => do
    if (← get).next.isNone then
      let p ← tell
      fail .unterminatedComment (p - start)
    let t ← take
    if t == some (.plain ')') then return ()
    skipComment start n

/-- Skips a comment up to the end of its line. -/
def skipLine : Nat → Read Unit
  | 0 => return ()
  | n + 1 => do
    let t ← take
    if t.isNone || t == some (.plain '\n') then return ()
    skipLine n

/-- The group a condition tests. -/
def readCondition : Read Nat := do
  let name ← takeUntil ')' "group name" ((← get).rest.length + 2) ""
  let r ← get
  let back := name.length + 1
  let group ← if Text.isIdentifier name then
      match r.names.lookup name with
      | none => fail (.unknownGroupName name) back
      | some g => pure g
    else
      match Text.readShortInteger? name with
      | none => fail (.badGroupName name) back
      | some i =>
        if i < 0 then fail (.badGroupName name) back
        else if i == 0 then fail .badGroupNumber back
        else if 1073741823 ≤ i then fail (.invalidGroup i.toNat) back
        else do
          if (r.mentioned.lookup i.toNat).isNone then
            let p ← tell
            set { r with mentioned := r.mentioned ++ [(i.toNat, p - back)] }
          pure i.toNat
  checkBehind group
  return group

/-- The largest bound of a repetition, and one more. -/
def repetitionLimit : Nat := 4294967295

/-- The number that a bound of a repetition is written as; no digits are zero. -/
def readBound (digits : List Char) : Read Nat := do
  if Text.maxDigits < digits.length then throw (.tooManyDigits digits.length)
  if repetitionLimit ≤ numeral 10 digits then throw .repetitionTooLarge
  return numeral 10 digits

/-- The bounds of a repetition written with the character `c`; `none` when a brace stands for
itself. -/
def readBounds (c : Char) : Read (Option (Nat × Option Nat)) := do
  match c with
  | '?' => return some (0, some 1)
  | '*' => return some (0, none)
  | '+' => return some (1, none)
  | _ =>
    let saved ← get
    if saved.next == some (.plain '}') then return none
    let here ← tell
    let steps := saved.rest.length + 2
    let lo ← takeWhile Char.isDigit steps
    let hi ← if ← accept ',' then takeWhile Char.isDigit steps else pure lo
    if !(← accept '}') then
      set saved
      return none
    let least ← readBound lo
    if hi.isEmpty then return some (least, none)
    let most ← readBound hi
    if most < least then
      let p ← tell
      fail .reversedRepeat (p - here)
    return some (least, some most)

/-- Whether a character repeats what stands before it. -/
def isRepeatChar (c : Char) : Bool := c == '*' || c == '+' || c == '?' || c == '{'

/-- The name of a repetition in messages. -/
def Greed.operator : Greed → String
  | .greedy => "MAX_REPEAT"
  | .reluctant => "MIN_REPEAT"
  | .possessive => "POSSESSIVE_REPEAT"

/-- How a repetition chooses, said by the mark after it. -/
def readGreed : Read Greed := do
  if ← accept '?' then return .reluctant
  if ← accept '+' then return .possessive
  return .greedy

/-- The repetition of the last of the items, which starts at position `here`. -/
def repeatLast (here : Nat) (bounds : Nat × Option Nat) (items : List Regex) :
    Read (List Regex) := do
  let back := (← tell) - here + 1
  match items with
  | [] => fail .nothingToRepeat back
  | .anchor _ :: _ => fail .nothingToRepeat back
  | .rep .. :: _ => fail .multipleRepeat back
  | item :: earlier =>
    let greed ← readGreed
    return .rep greed bounds.1 bounds.2 item :: earlier

mutual

/-- An alternation. `nested` is false at the top of the pattern. -/
def readAlternation : Nat → Bool → Bool → Read Regex
  | 0, _, _ => fail .unexpectedEnd
  | n + 1, verbose, nested => do
    let first ← readItems n verbose (!nested) []
    readBranches n verbose nested first

/-- The alternatives that follow the first one. -/
def readBranches : Nat → Bool → Bool → Regex → Read Regex
  | 0, _, _, _ => fail .unexpectedEnd
  | n + 1, verbose, nested, first => do
    if ← accept '|' then
      let r ← get
      let verbose := if nested then verbose else r.options.verbose
      let next ← readItems n verbose false []
      return .alt first (← readBranches n verbose nested next)
    else return first

/-- A sequence; `items` are the items read so far, the last one first, and `first` says whether
options for the whole pattern may stand before them. -/
def readItems : Nat → Bool → Bool → List Regex → Read Regex
  | 0, _, _, _ => fail .unexpectedEnd
  | n + 1, verbose, first, items => do
    match (← get).next with
    | none => return Regex.ofList items.reverse
    | some (.escaped c) =>
      advance
      readItems n verbose first ((← readEscape c) :: items)
    | some (.plain c) =>
      if c == '|' || c == ')' then return Regex.ofList items.reverse
      advance
      let steps := (← get).rest.length + 2
      if verbose && (c == ' ' || (9 ≤ c.toNat && c.toNat ≤ 13)) then
        readItems n verbose first items
      else if verbose && c == '#' then
        skipLine steps
        readItems n verbose first items
      else if c == '[' then
        let start := (← tell) - 1
        let negated ← accept '^'
        let members ← readSet start (steps + 1) []
        readItems n verbose first (setOf negated members :: items)
      else if isRepeatChar c then
        let here ← tell
        match ← readBounds c with
        | none => readItems n verbose first (.char c.toNat :: items)
        | some bounds => readItems n verbose first (← repeatLast here bounds items)
      else if c == '.' then readItems n verbose first (.any :: items)
      else if c == '^' then readItems n verbose first (.anchor .start :: items)
      else if c == '$' then readItems n verbose first (.anchor .finish :: items)
      else if c == '(' then
        let start := (← tell) - 1
        if ← accept '?' then
          let t ← take
          match t with
          | none => fail .unexpectedEnd
          | some (.escaped c) => fail (.unknownExtension ("?" ++ (Token.escaped c).text)) 3
          | some (.plain c) =>
            if c == 'P' then
              if ← accept '<' then
                let name ← takeUntil '>' "group name" steps ""
                if !Text.isIdentifier name then fail (.badGroupName name) (name.length + 1)
                let g ← readGroup n start (some (some name)) verbose {} {}
                readItems n verbose first (g :: items)
              else if ← accept '=' then
                let name ← takeUntil ')' "group name" steps ""
                if !Text.isIdentifier name then fail (.badGroupName name) (name.length + 1)
                let r ← get
                match r.names.lookup name with
                | none => fail (.unknownGroupName name) (name.length + 1)
                | some g =>
                  if (r.widths.lookup g).isNone then fail .openGroup (name.length + 1)
                  checkBehind g
                  readItems n verbose first (.backref g :: items)
              else
                let t ← take
                match t with
                | none => fail .unexpectedEnd
                | some t => fail (.unknownExtension ("?P" ++ t.text)) (t.length + 2)
            else if c == ':' then
              let g ← readGroup n start none verbose {} {}
              readItems n verbose first (g :: items)
            else if c == '#' then
              skipComment start steps
              readItems n verbose first items
            else if c == '=' || c == '!' then
              let body ← readAlternation n verbose true
              closeParen start
              readItems n verbose first (.look none (c == '!') body :: items)
            else if c == '<' then
              let t ← take
              match t with
              | none => fail .unexpectedEnd
              | some t =>
                if t != .plain '=' && t != .plain '!' then
                  fail (.unknownExtension ("?<" ++ t.text)) (t.length + 2)
                let outer := (← get).behind
                modify fun r => { r with behind := r.behind.or (some r.groups) }
                let body ← readAlternation n verbose true
                modify fun r => { r with behind := outer }
                closeParen start
                let lo := ((← get).width body).1
                readItems n verbose first (.look (some lo) (t == .plain '!') body :: items)
            else if c == '(' then
              let group ← readCondition
              let yes ← readItems n verbose false []
              let no ← if ← accept '|' then
                  let no ← readItems n verbose false []
                  if (← get).next == some (.plain '|') then fail .tooManyBranches
                  pure no
                else pure .empty
              closeParen start
              readItems n verbose first (.conditional group yes no :: items)
            else if c == '>' then
              let g ← readGroup n start none verbose {} {}
              readItems n verbose first (.atomic g :: items)
            else if (optionOf? c).isSome || c == 'L' || c == '-' then
              match ← readOptions c with
              | none =>
                if !first || !items.isEmpty then
                  let p ← tell
                  fail .lateOptions (p - start)
                let r ← get
                readItems n r.options.verbose first items
              | some (on, off) =>
                let g ← readGroup n start none ((verbose || on.verbose) && !off.verbose) on off
                readItems n verbose first (g :: items)
            else fail (.unknownExtension ("?" ++ String.singleton c)) 2
        else
          let g ← readGroup n start (some none) verbose {} {}
          readItems n verbose first (g :: items)
      else readItems n verbose first (.char c.toNat :: items)

/-- The body of a group that starts at position `start`, and its closing parenthesis. `capture` is
the name of a capturing group, if it captures and has one. -/
def readGroup : Nat → Nat → Option (Option String) → Bool → Options → Options → Read Regex
  | 0, _, _, _, _, _ => fail .unexpectedEnd
  | n + 1, start, capture, verbose, on, off => do
    let index ← match capture with
      | none => pure none
      | some name => pure (some (← openGroup name))
    let body ← readAlternation n verbose true
    closeParen start
    if let some i := index then
      modify fun r => { r with widths := (i, r.width body) :: r.widths }
    return .group index on off body

end

/-- The farthest that a condition looks behind. -/
def maxBehind : Nat := 4294967295

/-- Why a regular expression that has been read is refused: a condition looks too far behind or
by no fixed width, or something is repeated in a template. The first cause from the left counts, and
a condition comes before what it holds. -/
def Regex.refusal? (template : Bool) (groups : Nat → Nat × Nat) : Regex → Option Reason
  | seq a b => (a.refusal? template groups).or (b.refusal? template groups)
  | alt a b => (a.refusal? template groups).or (b.refusal? template groups)
  | rep greed _ _ body =>
    if template then some (.repeatInTemplate greed.operator) else body.refusal? template groups
  | group _ _ _ body => body.refusal? template groups
  | atomic body => body.refusal? template groups
  | look none _ body => body.refusal? template groups
  | look (some _) _ body =>
    let (lo, hi) := body.width groups
    if maxBehind < lo then some .tooFarBehind
    else if lo != hi then some .variableLookbehind
    else body.refusal? template groups
  | conditional _ yes no => (yes.refusal? template groups).or (no.refusal? template groups)
  | _ => none

/-- A pattern that has been read: its meaning and the options that hold for the whole of it. -/
structure Compiled where
  regex : Regex
  options : Options

/-- Why a pattern that has been read is refused. -/
def Reader.refusal? (r : Reader) (body : Regex) : Option Reason :=
  body.refusal? r.options.template fun g => (r.widths.lookup g).getD (0, 0)

/-- Reads a whole pattern. -/
def readPattern (size : Nat) : Read Compiled := do
  advance
  let body ← readAlternation (3 * size + 10) false false
  let r ← get
  if r.options.ascii && r.options.unicode then throw .repertoireConflict
  if r.next.isSome then fail .unbalanced
  if let some (g, p) := r.mentioned.find? (fun m => r.groups ≤ m.1) then
    throw (.malformed (.invalidGroup g) (some p))
  if let some reason := r.refusal? body then throw (.malformed reason none)
  return ⟨body, r.options⟩

/-- The meaning of a pattern, or why it has none. -/
def compile (named : CharacterNames) (text : String) : Except Error Compiled :=
  let cs := text.toList
  let start : Reader := { named, rest := cs, index := 0, next := none, size := cs.length }
  (readPattern cs.length).run' start

end MarkdownLint.Pattern
