/-!
Block structure of a Markdown document: a forest of blocks, each with the lines it covers. Text
inside blocks is not analysed further.
-/
namespace MarkdownLint.Markdown

/-- The kinds of blocks. -/
inductive Kind where
  | paragraph
  | heading (level : Nat)
  | thematicBreak
  | fence
  | codeBlock
  | htmlBlock
  | quote
  | bulletList
  | orderedList
  | listItem
  | table
deriving Repr, DecidableEq

/-- The name of a kind of block. -/
def Kind.name : Kind → String
  | paragraph => "paragraph"
  | heading _ => "heading"
  | thematicBreak => "hr"
  | fence => "fence"
  | codeBlock => "code_block"
  | htmlBlock => "html_block"
  | quote => "blockquote"
  | bulletList => "bullet_list"
  | orderedList => "ordered_list"
  | listItem => "list_item"
  | table => "table"

/-- Lines `first` up to, but not including, `last`, counted from zero. -/
structure Span where
  first : Nat
  last : Nat
deriving Repr, DecidableEq

/-- A block with the blocks inside it, in document order. -/
inductive Block where
  | mk (kind : Kind) (span : Span) (children : List Block)
deriving Repr

namespace Block

/-- What a block is. -/
def kind : Block → Kind
  | mk k _ _ => k

/-- The lines a block covers. -/
def span : Block → Span
  | mk _ s _ => s

/-- The blocks inside a block. -/
def children : Block → List Block
  | mk _ _ cs => cs

/-- Blocks are compared with all that is inside them. -/
def decEq : DecidableEq Block
  | mk k s bs, mk k' s' bs' =>
    have := decEqs bs bs'
    decidable_of_iff (k = k' ∧ s = s' ∧ bs = bs') (by simp)
where
  decEqs : DecidableEq (List Block)
    | [], [] => isTrue rfl
    | [], _ :: _ => isFalse nofun
    | _ :: _, [] => isFalse nofun
    | b :: bs, b' :: bs' =>
      have := decEq b b'
      have := decEqs bs bs'
      decidable_of_iff (b = b' ∧ bs = bs') (by simp)

instance : DecidableEq Block := decEq

end Block

/-- A block stripped of its children: what rules look at. -/
structure Label where
  kind : Kind
  span : Span
deriving Repr, DecidableEq

/-- A block of a document together with the blocks around it, outermost first. -/
structure Node where
  label : Label
  ancestors : List Label
deriving Repr, DecidableEq

namespace Node

/-- What the block is. -/
def kind (n : Node) : Kind := n.label.kind

/-- The lines the block covers. -/
def span (n : Node) : Span := n.label.span

end Node

mutual

/-- A block and all blocks inside it, each before those inside it. -/
def Block.nodes (ancestors : List Label) : Block → List Node
  | .mk k s children =>
    ⟨⟨k, s⟩, ancestors⟩ :: nodesOfList (ancestors ++ [⟨k, s⟩]) children

/-- The blocks of a list and all blocks inside them, in document order. -/
def nodesOfList (ancestors : List Label) : List Block → List Node
  | [] => []
  | b :: bs => b.nodes ancestors ++ nodesOfList ancestors bs

end

end MarkdownLint.Markdown
