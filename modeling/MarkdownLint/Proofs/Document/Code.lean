import MarkdownLint.Proofs.Document.Blocks

/-!
The lines of code of a document: those that a block of code covers, wherever in the forest of blocks
it stands (`IsCode`). Looking at one line (`isCodeLine_iff`) and listing all of them
(`mem_codeLines_iff`) come to the same. Blocks of code may overlap, reach behind the last line, or
cover nothing.
-/
namespace MarkdownLint

namespace Markdown

/-- A block is one of some blocks or stands inside one of them, at any depth. -/
inductive Occurs (b : Block) : List Block → Prop where
  | here {bs : List Block} : b ∈ bs → Occurs b bs
  | inside {c : Block} {bs : List Block} : c ∈ bs → Occurs b c.children → Occurs b bs

/-- What a block looks like from outside. -/
def Block.label (b : Block) : Label := ⟨b.kind, b.span⟩

theorem mem_nodesOfList {n : Node} {ancestors : List Label} {bs : List Block} :
    n ∈ nodesOfList ancestors bs ↔ ∃ b ∈ bs, n ∈ b.nodes ancestors := by
  induction bs with
  | nil => simp [nodesOfList]
  | cons b bs ih => simp [nodesOfList, ih]

theorem mem_nodes {n : Node} {ancestors : List Label} {b : Block} :
    n ∈ b.nodes ancestors ↔
      n = ⟨b.label, ancestors⟩ ∨ n ∈ nodesOfList (ancestors ++ [b.label]) b.children := by
  cases b with
  | mk kind span children => exact List.mem_cons

mutual

/-- The nodes of a block are the block itself and blocks inside it. -/
theorem label_of_mem_nodes {n : Node} {ancestors : List Label} :
    ∀ b : Block, n ∈ b.nodes ancestors →
      n.label = b.label ∨ ∃ c, Occurs c b.children ∧ n.label = c.label
  | .mk kind span children, hn => by
    rcases List.mem_cons.mp hn with rfl | hn
    · exact .inl rfl
    · exact .inr (exists_occurs_of_mem children hn)

/-- The nodes of some blocks are blocks that occur among them. -/
theorem exists_occurs_of_mem {n : Node} {ancestors : List Label} :
    ∀ bs : List Block, n ∈ nodesOfList ancestors bs → ∃ c, Occurs c bs ∧ n.label = c.label
  | b :: bs, hn => by
    rcases List.mem_append.mp hn with hn | hn
    · rcases label_of_mem_nodes b hn with hlabel | ⟨c, hc, hlabel⟩
      · exact ⟨b, .here List.mem_cons_self, hlabel⟩
      · exact ⟨c, .inside List.mem_cons_self hc, hlabel⟩
    · obtain ⟨c, hc, hlabel⟩ := exists_occurs_of_mem bs hn
      refine ⟨c, ?_, hlabel⟩
      cases hc with
      | here hmem => exact .here (List.mem_cons_of_mem b hmem)
      | inside hmem hc => exact .inside (List.mem_cons_of_mem b hmem) hc

end

/-- Every block that occurs among some blocks is one of their nodes. -/
theorem Occurs.exists_node {b : Block} {bs : List Block} (h : Occurs b bs)
    (ancestors : List Label) : ∃ n ∈ nodesOfList ancestors bs, n.label = b.label := by
  induction h generalizing ancestors with
  | here hmem =>
    exact ⟨_, mem_nodesOfList.mpr ⟨b, hmem, mem_nodes.mpr (.inl rfl)⟩, rfl⟩
  | @inside c bs hmem _ ih =>
    obtain ⟨n, hn, hlabel⟩ := ih (ancestors ++ [c.label])
    exact ⟨n, mem_nodesOfList.mpr ⟨c, hmem, mem_nodes.mpr (.inr hn)⟩, hlabel⟩

end Markdown

namespace Document

open Markdown (Occurs Block Span)

variable {d : Document} {i : Nat}

/-- A line lies in a block of code. -/
def IsCode (d : Document) (i : Nat) : Prop :=
  ∃ b, Occurs b d.blocks ∧ (b.kind = .fence ∨ b.kind = .codeBlock) ∧ b.span.Covers i

theorem isCodeLine_iff : d.isCodeLine i = true ↔ d.IsCode i := by
  simp only [isCodeLine, nodesWhere, nodes, isCodeKind, List.any_eq_true, List.mem_filter,
    Bool.or_eq_true, beq_iff_eq, Bool.and_eq_true, decide_eq_true_eq]
  constructor
  · rintro ⟨n, ⟨hn, hkind⟩, hcovers⟩
    obtain ⟨b, hb, hlabel⟩ := Markdown.exists_occurs_of_mem d.blocks hn
    simp only [Markdown.Node.kind, Markdown.Node.span, hlabel] at hkind hcovers
    exact ⟨b, hb, hkind, hcovers⟩
  · rintro ⟨b, hb, hkind, hcovers⟩
    obtain ⟨n, hn, hlabel⟩ := hb.exists_node []
    refine ⟨n, ⟨hn, ?_⟩, ?_⟩
    · rw [Markdown.Node.kind, hlabel]
      exact hkind
    · rw [Markdown.Node.span, hlabel]
      exact hcovers

/-- The end of all spans together is behind the start of the count and behind each of them. -/
theorem le_foldl_last (spans : List Span) (start : Nat) :
    start ≤ spans.foldl (fun b s => max b s.last) start ∧
      ∀ s ∈ spans, s.last ≤ spans.foldl (fun b s => max b s.last) start := by
  induction spans generalizing start with
  | nil => simp
  | cons t rest ih =>
    obtain ⟨hstart, hrest⟩ := ih (max start t.last)
    simp only [List.foldl_cons]
    refine ⟨Nat.le_trans (Nat.le_max_left ..) hstart, fun s hs => ?_⟩
    rcases List.mem_cons.mp hs with rfl | hs
    · exact Nat.le_trans (Nat.le_max_right ..) hstart
    · exact hrest s hs

/-- The lines of code are listed however far the blocks of code reach. -/
theorem mem_codeLines_iff : i ∈ d.codeLines ↔ d.IsCode i := by
  rw [codeLines, List.mem_filter, isCodeLine_iff, List.mem_range, and_iff_right_iff_imp]
  intro hcode
  obtain ⟨n, hn, hcovers⟩ := List.any_eq_true.mp (isCodeLine_iff.mpr hcode)
  simp only [Bool.and_eq_true, decide_eq_true_eq] at hcovers
  exact Nat.lt_of_lt_of_le hcovers.2 ((le_foldl_last _ 0).2 n.span (List.mem_map_of_mem hn))

end Document

end MarkdownLint
