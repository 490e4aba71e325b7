import MarkdownLint.Proofs.Check.Sites
import MarkdownLint.Proofs.Document.Code
import Mathlib.Data.List.Forall2

/-!
Checks that look at lines one by one and report the rest of a line from some column on, up to its
end. Such a check is described by the lines that it reports (`ReportsRests`); which lines these are
is what tells the checks apart.
-/
namespace MarkdownLint

/-- Items that are kept stand in the order of those they come from, each beside its own. -/
theorem forall₂_filterMap {α β : Type} {R : α → β → Prop} {g : α → Option β} {as : List α}
    (h : ∀ a ∈ as, ∀ b, g a = some b → R a b) :
    List.Forall₂ R (as.filter fun a => (g a).isSome) (as.filterMap g) := by
  induction as with
  | nil => exact .nil
  | cons a as ih =>
    have hrest := ih fun x hx => h x (List.mem_cons_of_mem a hx)
    cases ha : g a with
    | none =>
      rw [List.filter_cons_of_neg (by simp [ha]), List.filterMap_cons_none ha]
      exact hrest
    | some b =>
      rw [List.filter_cons_of_pos (by simp [ha]), List.filterMap_cons_some ha]
      exact .cons (h a List.mem_cons_self b ha) hrest

namespace Check

/-- A violation covers what stands on line `i` behind its first `k` characters, up to the end of the
line. -/
structure IsRest (c : Check) (d : Document) (k : Nat) (message : String) (i : Nat)
    (v : Violation) : Prop where
  rule : v.rule = c.name
  message : v.message = message
  severity : v.severity = .error
  line : v.line = i + 1
  column : v.column = k + 1
  start : ∃ o, d.lineStart i = .ok o ∧ v.start = o + k
  stop : d.lineEnd i = .ok v.stop

/-- A check succeeds and reports the rests of some lines, one behind the other. -/
structure ReportsRests (c : Check) (d : Document) (k : Nat) (message : String)
    (lines : List Nat) : Prop where
  ascending : lines.Pairwise (· < ·)
  violations : ∃ vs, c.visit d = .ok vs ∧ List.Forall₂ (c.IsRest d k message) lines vs

variable {c : Check} {d : Document} {i k : Nat}

theorem isRest_violationAt (c : Check) (k : Nat) (message : Option String) (hi : i < d.lineCount) :
    c.IsRest d k (c.messageOf message) i
      (c.violationAt d i k (d.offset i + (d.textAt i).length) message) where
  rule := rfl
  message := rfl
  severity := rfl
  line := rfl
  column := rfl
  start := ⟨d.offset i, Document.lineStart_eq hi, rfl⟩
  stop := Document.lineEnd_eq hi

/-- A check that looks at each line for itself. -/
theorem reportsRests_of_visit {message : String} {g : Nat → Option Violation}
    (hvisit : c.visit d = .ok ((List.range d.lineCount).filterMap g))
    (hg : ∀ i < d.lineCount, ∀ v, g i = some v → c.IsRest d k message i v) :
    c.ReportsRests d k message ((List.range d.lineCount).filter fun i => (g i).isSome) where
  ascending := List.pairwise_lt_range.filter _
  violations := ⟨_, hvisit, forall₂_filterMap fun i hi => hg i (List.mem_range.mp hi)⟩

end Check

end MarkdownLint
