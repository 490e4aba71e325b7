import MarkdownLint.Document
import MarkdownLint.Proofs.Text.Pieces

/-!
What the parser of every grammar does to the lines of a text: it does not see how they are
terminated (`Grammar.parser_universalNewlines`), and every thematic break it finds covers one line
(`Grammar.parser_breaksOnOneLine`).
-/
namespace MarkdownLint.Markdown

/-- Every thematic break among some blocks, and inside them, satisfies `P`, where the blocks lie
inside the given ones. -/
def EachBreak (P : Node → Prop) (around : List Label) (bs : List Block) : Prop :=
  ∀ n ∈ nodesOfList around bs, n.kind = .thematicBreak → P n

/-- Every thematic break among some blocks, and inside them, covers one line. -/
def BreaksOnOneLine (bs : List Block) : Prop :=
  ∀ ancestors, ∀ n ∈ nodesOfList ancestors bs, n.kind = .thematicBreak →
    n.span.last = n.span.first + 1

/-! ## Lists of blocks -/

theorem nodesOfList_append (ancestors : List Label) (as bs : List Block) :
    nodesOfList ancestors (as ++ bs) = nodesOfList ancestors as ++ nodesOfList ancestors bs := by
  induction as with
  | nil => rfl
  | cons a as ih => simp only [List.cons_append, nodesOfList, ih, List.append_assoc]

namespace EachBreak

variable {P : Node → Prop} {around : List Label}

theorem nil : EachBreak P around [] := by
  intro n hn
  cases hn

theorem append {as bs : List Block} (ha : EachBreak P around as) (hb : EachBreak P around bs) :
    EachBreak P around (as ++ bs) := by
  intro n hn
  rw [nodesOfList_append] at hn
  rcases List.mem_append.mp hn with hn | hn
  · exact ha n hn
  · exact hb n hn

theorem cons {kind : Kind} {s : Span} {children bs : List Block}
    (hs : kind = .thematicBreak → P ⟨⟨kind, s⟩, around⟩)
    (hc : EachBreak P (around ++ [⟨kind, s⟩]) children) (hb : EachBreak P around bs) :
    EachBreak P around (.mk kind s children :: bs) := by
  intro n hn
  simp only [nodesOfList, Block.nodes, List.cons_append] at hn
  rcases List.mem_cons.mp hn with rfl | hn
  · exact hs
  · rcases List.mem_append.mp hn with hn | hn
    · exact hc n hn
    · exact hb n hn

/-- A block that is no break and has nothing inside it. -/
theorem leaf {kind : Kind} {s : Span} (hk : kind ≠ .thematicBreak) :
    EachBreak P around [.mk kind s []] :=
  .cons (fun h => absurd h hk) .nil .nil

/-! ## Leaves -/

theorem of_earlyLeaf? {s : Scope} {i stop next : Nat} {b : Block}
    (h : s.earlyLeaf? i stop = some (b, next)) : EachBreak P around [b] := by
  simp only [Scope.earlyLeaf?] at h
  split at h
  · cases h
    exact .leaf (by simp)
  · split at h
    · cases h
      exact .leaf (by simp)
    · split at h
      · cases h
        exact .leaf (by simp)
      · cases h

theorem of_lateLeaf (s : Scope) (i stop : Nat) : EachBreak P around [(s.lateLeaf i stop).1] := by
  simp only [Scope.lateLeaf]
  split
  · exact .leaf (by simp)
  · split
    · exact .leaf (by simp)
    · split <;> exact .leaf (by simp)

end EachBreak

/-! ## Containers -/

/-- Whatever number of steps the parser is given, it finds breaks of one line only. -/
theorem parse_breaksOnOneLine (n : Nat) :
    (∀ s i stop, BreaksOnOneLine (parseBlocks n s i stop).1) ∧
    (∀ s i stop, BreaksOnOneLine (parseBlock n s i stop).1) ∧
    (∀ s ordered marker i length stop,
      BreaksOnOneLine (parseItems n s ordered marker i length stop).1) := by
  -- the three functions call each other with one step less
  induction n with
  | zero =>
    refine ⟨fun s i stop _ => ?_, fun s i stop _ => ?_,
      fun s ordered marker i length stop _ => ?_⟩
    · simp only [parseBlocks]
      exact EachBreak.nil
    · simp only [parseBlock]
      exact EachBreak.nil
    · simp only [parseItems]
      exact EachBreak.nil
  | succ n ih =>
    obtain ⟨ihBlocks, ihBlock, ihItems⟩ := ih
    refine ⟨fun s i stop around => ?_, fun s i stop around => ?_,
      fun s ordered marker i length stop around => ?_⟩
    · simp only [parseBlocks]
      split
      · exact EachBreak.nil
      · split
        · exact EachBreak.nil
        · split
          · exact EachBreak.nil
          · exact EachBreak.append (ihBlock _ _ _ around) (ihBlocks _ _ _ around)
    · simp only [parseBlock]
      split
      · rename_i block next hleaf
        exact EachBreak.of_earlyLeaf? hleaf
      · split
        · exact EachBreak.cons (by simp) (ihBlocks _ _ _ _) .nil
        · split
          · -- the break itself
            exact EachBreak.cons (fun _ => rfl) .nil .nil
          · split
            · rename_i length ordered _
              refine EachBreak.cons (fun h => ?_) (ihItems _ _ _ _ _ _ _) .nil
              cases ordered <;> cases h
            · split
              · exact EachBreak.nil
              · exact EachBreak.of_lateLeaf s i stop
    · have hchildren : ∀ inner : Scope, ∀ blank : Bool, BreaksOnOneLine
          (if blank && s.isEmpty (i + 1) then (([] : List Block), min (i + 2) stop)
            else parseBlocks n inner i stop).1 := by
        intro inner blank around
        split
        · exact EachBreak.nil
        · exact ihBlocks inner i stop around
      simp only [parseItems]
      split
      · exact EachBreak.cons (by simp) (hchildren _ _ _) (ihItems _ _ _ _ _ _ around)
      · exact EachBreak.cons (by simp) (hchildren _ _ _) .nil

/-! ## Grammars -/

namespace Grammar

theorem parser_breaksOnOneLine (g : Grammar) {text : List Char} {blocks : List Block}
    (h : g.parser text = .ok blocks) : BreaksOnOneLine blocks := by
  simp only [parser, parse] at h
  split at h
  · rename_i found hfound
    cases h
    split at hfound
    · cases hfound
    · cases hfound
      exact (parse_breaksOnOneLine _).1 _ _ _
  · cases h

/-- The parser unifies line terminators itself, so unifying them beforehand changes nothing. -/
theorem parser_universalNewlines (g : Grammar) (text : List Char) :
    g.parser (Text.universalNewlines text) = g.parser text := by
  simp only [parser, parse, normalize, Text.universalNewlines_universalNewlines]

end Grammar

end MarkdownLint.Markdown
