import MarkdownLint.Yaml.Tag
import MarkdownLint.Yaml.Token

/-!
The nodes of a document: scalars, lists and mappings with their kinds. A reference stands for the
node that was given its name earlier.

Reading takes at most three steps for every token, so four times their number bounds it.
-/
namespace MarkdownLint.Yaml

/-- A node. -/
inductive Node where
  | scalar (tag : Tag) (text : String)
  | list (tag : Tag) (items : List Node)
  | map (tag : Tag) (entries : List (Node × Node))
  /-- A mapping that is to take over entries from something that is no mapping. -/
  | invalid
deriving Inhabited

namespace Node

/-- The kind of a node. -/
def tag : Node → Tag
  | scalar t _ => t
  | list t _ => t
  | map t _ => t
  | invalid => .unknown

/-- The node that stands where nothing is written. -/
def empty : Node := .scalar .null ""

end Node

/-- Tokens that are being read. -/
structure TokenStream where
  tokens : List Token
  /-- What the handles of tags stand for. -/
  handles : List (String × String) := []
  /-- The names that have been given to nodes. -/
  names : List String := []
  /-- The nodes that have been read, by name. -/
  nodes : List (String × Node) := []

/-- Reads something from tokens. -/
abbrev Compose := StateT TokenStream (Except LoadError)

namespace Compose

/-- The token here. -/
def peek : Compose Token := return (← get).tokens.headD .textEnd

/-- Goes past the token here. -/
def skip : Compose Unit := modify fun s => { s with tokens := s.tokens.drop 1 }

/-- The token here cannot stand here. -/
def refuse {α : Type} : Compose α := do
  match ← peek with
  | .fault e => throw e
  | _ => throw .malformed

/-- Goes past a token that must stand here. -/
def expect (t : Token) : Compose Unit := do
  if (← peek) == t then skip else refuse

/-- Whether one of some tokens stands here. -/
def isAt (ts : List Token) : Compose Bool := return ts.contains (← peek)

/-- What the handles stand for without a directive. -/
def standardHandles : List (String × String) := [("!", "!"), ("!!", Tag.domain)]

/-- The full name of a tag. -/
def fullName (t : TagName) : Compose String := do
  match t.handle with
  | none => return t.suffix
  | some h =>
    match (← get).handles.lookup h with
    | some target => return target ++ t.suffix
    | none => refuse

/-- Reads an anchor, if one stands here. -/
def anchor? : Compose (Option String) := do
  match ← peek with
  | .anchor name =>
    skip
    return some name
  | _ => return none

/-- Reads a tag, if one stands here. -/
def tag? : Compose (Option TagName) := do
  match ← peek with
  | .tag name =>
    skip
    return some name
  | _ => return none

/-- Reads an anchor and a tag in either order. -/
def properties : Compose (Option String × Option String) := do
  let first ← anchor?
  let tag ← tag?
  let anchor ← if first.isNone && tag.isSome then anchor? else pure first
  match tag with
  | none => return (anchor, none)
  | some t => return (anchor, some (← fullName t))

/-- The kind of a node with the given tag; one without a tag, or with the tag that names none, has
the kind `fallback`. -/
def kindOf (tag : Option String) (fallback : Tag) : Tag :=
  match tag with
  | none => fallback
  | some name => if name == "!" then fallback else .ofName name

/-- The node of a scalar. -/
def scalarNode (tag : Option String) (text : String) (plain : Bool) : Node :=
  let untagged := if plain || tag.isSome then Tag.ofPlain text else .text
  .scalar (kindOf tag untagged) text

/-- Takes up a name for a node that is about to be read. -/
def declare (anchor : Option String) : Compose Unit := do
  match anchor with
  | none => pure ()
  | some name =>
    if (← get).names.contains name then throw .malformed
    modify fun s => { s with names := name :: s.names }

/-- Gives a node its name. -/
def define (anchor : Option String) (n : Node) : Compose Node := do
  match anchor with
  | none => pure ()
  | some name => modify fun s => { s with nodes := (name, n) :: s.nodes }
  return n

/-- The node with a name. -/
def resolve (name : String) : Compose Node := do
  match (← get).nodes.lookup name with
  | some n => return n
  | none => throw .malformed

mutual

/-- Reads a node. Blocks are read where they may stand, and so are entries that are not indented. -/
def node (block unindented : Bool) : Nat → Compose Node
  | 0 => refuse
  | fuel + 1 => do
    match ← peek with
    | .reference name =>
      skip
      resolve name
    | _ =>
      let (anchor, tag) ← properties
      declare anchor
      let n ← content block unindented (anchor.isSome || tag.isSome) tag fuel
      define anchor n

/-- Reads what follows the properties of a node. -/
def content (block unindented marked : Bool) (tag : Option String) : Nat → Compose Node
  | 0 => refuse
  | fuel + 1 => do
    match ← peek with
    | .scalar text plain =>
      skip
      return scalarNode tag text plain
    | .flowSequence =>
      skip
      return .list (kindOf tag .list) (← flowItems true fuel)
    | .flowMapping =>
      skip
      return .map (kindOf tag .map) (← flowEntries true fuel)
    | t =>
      if unindented && t == .blockEntry then
        return .list (kindOf tag .list) (← unindentedItems fuel)
      else if block && t == .blockSequence then
        skip
        return .list (kindOf tag .list) (← blockItems fuel)
      else if block && t == .blockMapping then
        skip
        return .map (kindOf tag .map) (← blockEntries fuel)
      else if marked then return scalarNode tag "" true
      else refuse

/-- Reads a node, or nothing if one of some tokens follows. -/
def nodeUnless (stops : List Token) (block unindented : Bool) : Nat → Compose Node
  | 0 => refuse
  | fuel + 1 => do
    if ← isAt stops then return .empty
    node block unindented fuel

/-- Reads the value after a key, if there is one. -/
def valueUnless (stops : List Token) (block unindented : Bool) : Nat → Compose Node
  | 0 => refuse
  | fuel + 1 => do
    if ← isAt [.value] then
      skip
      nodeUnless stops block unindented fuel
    else return .empty

/-- Reads the items of a block up to its end. -/
def blockItems : Nat → Compose (List Node)
  | 0 => refuse
  | fuel + 1 => do
    match ← peek with
    | .blockEntry =>
      skip
      let n ← nodeUnless [.blockEntry, .blockEnd] true false fuel
      return n :: (← blockItems fuel)
    | _ =>
      expect .blockEnd
      return []

/-- Reads items that are not indented. -/
def unindentedItems : Nat → Compose (List Node)
  | 0 => refuse
  | fuel + 1 => do
    match ← peek with
    | .blockEntry =>
      skip
      let n ← nodeUnless [.blockEntry, .key, .value, .blockEnd] true false fuel
      return n :: (← unindentedItems fuel)
    | _ => return []

/-- Reads the entries of a block up to its end. -/
def blockEntries : Nat → Compose (List (Node × Node))
  | 0 => refuse
  | fuel + 1 => do
    match ← peek with
    | .key =>
      skip
      let stops := [Token.key, .value, .blockEnd]
      let k ← nodeUnless stops true true fuel
      let v ← valueUnless stops true true fuel
      return (k, v) :: (← blockEntries fuel)
    | _ =>
      expect .blockEnd
      return []

/-- Reads the items between brackets up to the closing one. An item with a mark for a key is a
mapping of its own. -/
def flowItems (first : Bool) : Nat → Compose (List Node)
  | 0 => refuse
  | fuel + 1 => do
    unless first || (← isAt [.flowSequenceEnd]) do expect .flowEntry
    match ← peek with
    | .flowSequenceEnd =>
      skip
      return []
    | .key =>
      skip
      let stops := [Token.flowEntry, .flowSequenceEnd]
      let k ← nodeUnless (.value :: stops) false false fuel
      let v ← valueUnless stops false false fuel
      return .map .map [(k, v)] :: (← flowItems false fuel)
    | _ =>
      let n ← node false false fuel
      return n :: (← flowItems false fuel)

/-- Reads the entries between braces up to the closing one. -/
def flowEntries (first : Bool) : Nat → Compose (List (Node × Node))
  | 0 => refuse
  | fuel + 1 => do
    unless first || (← isAt [.flowMappingEnd]) do expect .flowEntry
    match ← peek with
    | .flowMappingEnd =>
      skip
      return []
    | .key =>
      skip
      let stops := [Token.flowEntry, .flowMappingEnd]
      let k ← nodeUnless (.value :: stops) false false fuel
      let v ← valueUnless stops false false fuel
      return (k, v) :: (← flowEntries false fuel)
    | _ =>
      let k ← node false false fuel
      return (k, .empty) :: (← flowEntries false fuel)

end

/-- Reads the directives before a document. -/
def directives (versioned : Bool) (handles : List (String × String)) : List Token → Compose Unit
  | .directive d :: rest => do
    skip
    match d with
    | .version major _ =>
      if versioned || major != 1 then throw .malformed
      directives true handles rest
    | .tag handle target =>
      if (handles.lookup handle).isSome then throw .malformed
      directives versioned ((handle, target) :: handles) rest
    | .other => directives versioned handles rest
  | _ => modify fun s => { s with handles := handles ++ standardHandles }

/-- Goes past the marks that end a document. -/
def skipEnds : List Token → Compose Unit
  | .documentEnd :: rest => do
    skip
    skipEnds rest
  | _ => pure ()

/-- Reads the only document of a text, if there is one. -/
def document : Compose (Option Node) := do
  let fuel := 4 * (← get).tokens.length + 8
  match ← peek with
  | .textEnd => return none
  | .directive _ | .documentStart =>
    directives false [] (← get).tokens
    expect .documentStart
    let n ←
      match ← peek with
      | .directive _ | .documentStart | .documentEnd | .textEnd => pure Node.empty
      | _ => node true false fuel
    skipEnds (← get).tokens
    expect .textEnd
    return some n
  | _ =>
    modify fun s => { s with handles := standardHandles }
    let n ← node true false fuel
    skipEnds (← get).tokens
    expect .textEnd
    return some n

end Compose

/-- The only node of a text that stands in no other, if there is one. -/
def parse (text : List Char) : Except LoadError (Option Node) :=
  (·.1) <$> Compose.document { tokens := tokens text }

end MarkdownLint.Yaml
