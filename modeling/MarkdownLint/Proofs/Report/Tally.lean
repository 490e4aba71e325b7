import MarkdownLint.Proofs.Association
import MarkdownLint.Proofs.Lists
import MarkdownLint.Proofs.Report.Layout
import Mathlib.Algebra.GroupWithZero.Nat

/-!
The counts of a report. Counting one name after the other leaves an entry for each name that was
counted, with the number of times it was (`tallies_foldl`); the table of rules is this tally in the
order of the names (`mem_ruleCounts`, `pairwise_ruleCounts`).
-/
namespace MarkdownLint.Html

open Checkstyle (FileItems Item)

/-- The counts tell how often each name stands in a list, and have no entry for other names. -/
structure Tallies (names : List String) (counts : List (String × Nat)) : Prop where
  nodup : (counts.map Prod.fst).Nodup
  lookup : ∀ name, (counts.lookup name).getD 0 = names.count name
  positive : ∀ c ∈ counts, 0 < c.2

theorem increment_eq_assign (counts : List (String × Nat)) (key : String) :
    increment counts key =
      Association.assign counts key ((counts.lookup key).getD 0 + 1) := by
  induction counts with
  | nil => rfl
  | cons c rest ih =>
    obtain ⟨k, n⟩ := c
    by_cases hk : k = key
    · subst hk
      simp [increment, Association.assign]
    · have hbeq : (key == k) = false := beq_eq_false_iff_ne.mpr fun h => hk h.symm
      simp [increment, Association.assign, hk, ih, List.lookup_cons, hbeq]

/-- Counting one more name. -/
theorem Tallies.increment {names : List String} {counts : List (String × Nat)}
    (h : Tallies names counts) (key : String) :
    Tallies (names ++ [key]) (increment counts key) := by
  rw [increment_eq_assign]
  refine ⟨Association.nodup_keys_assign h.nodup, ?_, ?_⟩
  · intro name
    rw [Association.lookup_assign, List.count_append]
    by_cases hname : name = key
    · subst hname
      rw [if_pos rfl, Option.getD_some, h.lookup, List.count_singleton_self]
    · rw [if_neg hname, h.lookup, List.count_singleton, if_neg]
      · rfl
      · simpa using fun h => hname h.symm
  · intro c hc
    rcases Association.mem_of_mem_assign hc with rfl | hc
    · exact Nat.succ_pos _
    · exact h.positive c hc

theorem tallies_foldl (names : List String) : Tallies names (names.foldl Html.increment []) :=
  foldl_keeps ⟨List.nodup_nil, fun _ => rfl, by simp⟩ (fun _ _ key h => h.increment key) names

/-- The entries of a tally. -/
theorem Tallies.mem_iff {names : List String} {counts : List (String × Nat)}
    (h : Tallies names counts) {name : String} {n : Nat} :
    (name, n) ∈ counts ↔ 0 < n ∧ n = names.count name := by
  rw [← Association.lookup_eq_some_iff h.nodup]
  have hlookup := h.lookup name
  constructor
  · intro hn
    have hmem := (Association.lookup_eq_some_iff h.nodup).mp hn
    rw [hn, Option.getD_some] at hlookup
    exact ⟨h.positive _ hmem, hlookup⟩
  · rintro ⟨hpos, rfl⟩
    cases hfound : counts.lookup name with
    | none =>
      rw [hfound, Option.getD_none] at hlookup
      omega
    | some m =>
      rw [hfound, Option.getD_some] at hlookup
      rw [hlookup]

theorem sum_increment (counts : List (String × Nat)) (key : String) :
    ((increment counts key).map Prod.snd).sum = (counts.map Prod.snd).sum + 1 := by
  induction counts with
  | nil => rfl
  | cons c rest ih =>
    by_cases hc : c.1 = key
    · simp [increment, hc]
      omega
    · simp [increment, hc, ih]
      omega

/-- The counts add up to the number of names. -/
theorem sum_foldl_increment (names : List String) :
    ((names.foldl increment []).map Prod.snd).sum = names.length := by
  refine foldl_keeps (P := fun (done : List String) (counts : List (String × Nat)) =>
    (counts.map Prod.snd).sum = done.length) rfl ?_ names
  intro done counts key h
  rw [sum_increment, h, List.length_append, List.length_singleton]

/-- The names of the rules that are violated, once for each violation. -/
def sources (files : List FileItems) : List String := (files.flatMap (·.items)).map (·.source)

theorem sortedBy_ruleCounts (files : List FileItems) :
    SortedBy Prod.fst ((sources files).foldl increment []) (ruleCounts files) :=
  sortedBy_mergeSort Prod.fst _

/-- The table of rules has an entry for each rule that is violated. -/
theorem mem_ruleCounts {files : List FileItems} {name : String} {n : Nat} :
    (name, n) ∈ ruleCounts files ↔ 0 < n ∧ n = (sources files).count name := by
  rw [(sortedBy_ruleCounts files).perm.mem_iff]
  exact (tallies_foldl (sources files)).mem_iff

/-- Its names are in strictly increasing order. -/
theorem pairwise_ruleCounts (files : List FileItems) :
    ((ruleCounts files).map Prod.fst).Pairwise (· < ·) := by
  have hsorted := sortedBy_ruleCounts files
  have hnodup : ((ruleCounts files).map Prod.fst).Nodup :=
    (hsorted.perm.map Prod.fst).nodup_iff.mpr (tallies_foldl (sources files)).nodup
  rw [List.nodup_iff_pairwise_ne, List.pairwise_map] at hnodup
  rw [List.pairwise_map]
  refine (hsorted.ascending.and hnodup).imp ?_
  rintro a b ⟨hle, hne⟩
  exact Std.lt_of_le_of_ne hle hne

theorem sum_ruleCounts (files : List FileItems) :
    ((ruleCounts files).map Prod.snd).sum = (files.flatMap (·.items)).length := by
  have hperm := ((sortedBy_ruleCounts files).perm.map Prod.snd).sum_nat
  rw [hperm, sum_foldl_increment]
  simp [sources]

end MarkdownLint.Html
