import MarkdownLint.Yaml.Node

/-!
The value of a document. Keys that merge bring in the entries of other mappings, which a mapping's
own entries override. Of several faults the one that lies least deep in the document counts, and
among those the first.
-/
namespace MarkdownLint.Yaml

namespace Node

/-- The entries that a value lends to the mapping around it: of several mappings the first
prevails. -/
def lent? : Node → Option (List (Node × Node))
  | map _ entries => some entries
  | list _ items =>
    let entries? : Node → Option (List (Node × Node))
      | map _ entries => some entries
      | _ => none
    (items.mapM entries?).map fun lists => lists.reverse.flatten
  | _ => none

/-- The entries of a mapping with those that are merged in front of its own. -/
def mergeEntries? (merged own : List (Node × Node)) :
    List (Node × Node) → Option (List (Node × Node))
  | [] => some (merged ++ own)
  | (k, v) :: rest =>
    match k.tag with
    | .merge => (lent? v).bind fun entries => mergeEntries? (merged ++ entries) own rest
    | .default =>
      let key := match k with
        | scalar _ text => scalar .text text
        | k => k
      mergeEntries? merged (own ++ [(key, v)]) rest
    | _ => mergeEntries? merged (own ++ [(k, v)]) rest

mutual

/-- The node without keys that merge. -/
def flatten : Node → Node
  | scalar t text => scalar t text
  | list t items => list t (flattenItems items)
  | map t entries =>
    match mergeEntries? [] [] (flattenEntries entries) with
    | some entries => map t entries
    | none => invalid
  | invalid => invalid

/-- Each item without keys that merge. -/
def flattenItems : List Node → List Node
  | [] => []
  | n :: rest => flatten n :: flattenItems rest

/-- Each entry without keys that merge inside. -/
def flattenEntries : List (Node × Node) → List (Node × Node)
  | [] => []
  | (k, v) :: rest => (flatten k, flatten v) :: flattenEntries rest

end

/-- A fault and how deep in the document it lies. -/
structure Flaw where
  depth : Nat
  cause : LoadError

/-- Two results, or the fault that lies less deep. -/
def both {α β : Type} (a : Except Flaw α) (b : Except Flaw β) : Except Flaw (α × β) :=
  match a, b with
  | .ok x, .ok y => .ok (x, y)
  | .error e, .ok _ => .error e
  | .ok _, .error f => .error f
  | .error e, .error f => .error (if f.depth < e.depth then f else e)

/-- A value as a key, which must be a scalar. -/
def keyOf (depth : Nat) : Value → Except Flaw Scalar
  | .scalar s => .ok s
  | _ => .error ⟨depth, .malformed⟩

mutual

/-- The value of a node that lies at a depth. -/
def value (depth : Nat) : Node → Except Flaw Value
  | scalar t text =>
    match t with
    | .list | .map => .error ⟨depth + 1, .malformed⟩
    | t =>
      match t.scalarValue text with
      | .ok s => .ok (.scalar s)
      | .error cause => .error ⟨depth, cause⟩
  | list t items =>
    match t with
    | .list => Value.list <$> itemValues (depth + 1) items
    | .map => .error ⟨depth + 1, .malformed⟩
    | _ => .error ⟨depth, .malformed⟩
  | map t entries =>
    match t with
    | .map => Value.ofEntries <$> entryValues (depth + 1) entries
    | .list => .error ⟨depth + 1, .malformed⟩
    | _ => .error ⟨depth, .malformed⟩
  | invalid => .error ⟨depth + 1, .malformed⟩

/-- The values of items that lie at a depth. -/
def itemValues (depth : Nat) : List Node → Except Flaw (List Value)
  | [] => .ok []
  | n :: rest => (fun r => r.1 :: r.2) <$> both (value depth n) (itemValues depth rest)

/-- The keys and values of entries that lie at a depth. -/
def entryValues (depth : Nat) : List (Node × Node) → Except Flaw (List (Scalar × Value))
  | [] => .ok []
  | (k, v) :: rest =>
    (fun r => r.1 :: r.2) <$>
      both (both (value depth k >>= keyOf depth) (value depth v)) (entryValues depth rest)

end

end Node

/-- The value of a text: nothing for a text without a document. -/
def load (text : List Char) : Except LoadError Value := do
  match ← parse text with
  | none => return .null
  | some n =>
    match n.flatten.value 0 with
    | .ok v => return v
    | .error flaw => throw flaw.cause

end MarkdownLint.Yaml
