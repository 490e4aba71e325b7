import MarkdownLint.Proofs.Report.Checkstyle
import MarkdownLint.Proofs.Report.Page
import MarkdownLint.Proofs.Report.Tally

/-!
The page of a scan tells the scan. A page is made from the structured report; what is found in it
from outside (`Tells`) is every file with violations, in the order of the cleaned names, every
violation in order, the totals and how often each rule was violated.
-/
namespace MarkdownLint

/-! ## Recorded files -/

/-- The record of some files with their violations, added one after the other. -/
def ScanResult.ofFiles (added : List (String × List Violation)) : ScanResult :=
  added.foldl (fun r f => r.addFile f.1 f.2) {}

/-- A result has one entry for each file that was added with violations, and no other. -/
structure Recorded (added : List (String × List Violation)) (r : ScanResult) : Prop where
  nodup : (r.violations.map Prod.fst).Nodup
  entries : ∀ f ∈ r.violations, f ∈ added ∧ f.2 ≠ []
  names : ∀ name, name ∈ r.violations.map Prod.fst ↔ ∃ vs, (name, vs) ∈ added ∧ vs ≠ []

theorem exists_added_append {added : List (String × List Violation)}
    {f : String × List Violation} {name : String} :
    (∃ vs, (name, vs) ∈ added ++ [f] ∧ vs ≠ []) ↔
      (∃ vs, (name, vs) ∈ added ∧ vs ≠ []) ∨ name = f.1 ∧ f.2 ≠ [] := by
  constructor
  · rintro ⟨vs, hvs, hne⟩
    rcases List.mem_append.mp hvs with hvs | hvs
    · exact .inl ⟨vs, hvs, hne⟩
    · obtain rfl := List.mem_singleton.mp hvs
      exact .inr ⟨rfl, hne⟩
  · rintro (⟨vs, hvs, hne⟩ | ⟨rfl, hne⟩)
    · exact ⟨vs, List.mem_append_left _ hvs, hne⟩
    · exact ⟨f.2, List.mem_append_right _ List.mem_cons_self, hne⟩

/-- Adding one more file. -/
theorem Recorded.addFile {added : List (String × List Violation)} {r : ScanResult}
    (h : Recorded added r) (f : String × List Violation) :
    Recorded (added ++ [f]) (r.addFile f.1 f.2) := by
  by_cases hempty : f.2 = []
  · -- a file without violations leaves no entry
    have hsame : (r.addFile f.1 f.2).violations = r.violations := by
      simp [ScanResult.addFile, hempty]
    refine ⟨hsame ▸ h.nodup, ?_, ?_⟩
    · intro g hg
      obtain ⟨hmem, hne⟩ := h.entries g (hsame ▸ hg)
      exact ⟨List.mem_append_left _ hmem, hne⟩
    · intro name
      rw [hsame, h.names, exists_added_append]
      simp [hempty]
  · have hassign : (r.addFile f.1 f.2).violations =
        Association.assign r.violations f.1 f.2 := by
      simp [ScanResult.addFile, hempty]
    refine ⟨?_, ?_, ?_⟩
    · rw [hassign]
      exact Association.nodup_keys_assign h.nodup
    · intro g hg
      rw [hassign] at hg
      rcases Association.mem_of_mem_assign hg with rfl | hg
      · exact ⟨List.mem_append_right _ List.mem_cons_self, hempty⟩
      · obtain ⟨hmem, hne⟩ := h.entries g hg
        exact ⟨List.mem_append_left _ hmem, hne⟩
    · intro name
      rw [hassign, Association.mem_keys_assign, h.names, exists_added_append]
      simp [hempty]

theorem recorded_ofFiles (added : List (String × List Violation)) :
    Recorded added (.ofFiles added) :=
  foldl_keeps ⟨List.nodup_nil, by simp, by simp⟩ (fun _ _ f h => h.addFile f) added

/-! ## What the page tells -/

namespace Html

open Checkstyle (FileItems cleaned itemFor itemsFor)

/-- What is found in a page is what a scan found. -/
structure Tells (r : ScanResult) (page : List Char) : Prop where
  /-- One section for each file with violations, in the order of the cleaned names, with one row for
  each violation, in order. -/
  sections : ∃ files, SortedBy (·.name) (r.violations.map itemsFor) files ∧
    sections page = files.map fun f => (f.name, f.items.map itemValues)
  /-- The number of files with violations. -/
  files : cells "<td class=\"summary-files\">" page = [toString r.violations.length]
  /-- The number of violations. -/
  errors : cells "<td class=\"summary-errors\">" page = [toString r.total]
  /-- Behind a row of titles, one row for each cleaned name of a rule, with the number of its
  violations. -/
  rules : ∃ counts : List (String × Nat), ruleTables page = [[] :: counts.map countValues] ∧
    (counts.map Prod.fst).Pairwise (· < ·) ∧
    (∀ name n, (name, n) ∈ counts ↔
      0 < n ∧ n = (r.violations.flatMap (·.2)).countP fun v => cleaned v.rule == name) ∧
    (counts.map Prod.snd).sum = r.total

theorem items_itemsFor (r : ScanResult) :
    (r.violations.map itemsFor).flatMap (·.items) = (r.violations.flatMap (·.2)).map itemFor := by
  rw [List.flatMap_map, List.map_flatMap]
  rfl

/-- The page of a structured report tells the scan. -/
theorem tells_page (r : ScanResult) :
    Tells r (page (Checkstyle.sortFiles (r.violations.map itemsFor))).toList := by
  have hsorted := Checkstyle.sortedBy_sortFiles (r.violations.map itemsFor)
  -- the totals and the counts do not depend on the order of the files
  have hitems := hsorted.perm.flatMap_right (·.items)
  rw [items_itemsFor] at hitems
  have htotal : ((Checkstyle.sortFiles (r.violations.map itemsFor)).flatMap (·.items)).length =
      r.total := by
    rw [hitems.length_eq, List.length_map]
    rfl
  refine ⟨⟨_, hsorted, sections_page _⟩, ?_, ?_,
    ⟨_, ruleTables_page _, pairwise_ruleCounts _, ?_, ?_⟩⟩
  · rw [cells_page_files, hsorted.perm.length_eq, List.length_map]
  · rw [cells_page_errors, htotal]
  · intro name n
    rw [mem_ruleCounts, sources, (hitems.map (·.source)).count_eq, List.map_map, List.count,
      List.countP_map]
    rfl
  · rw [sum_ruleCounts, htotal]

end Html

/-- Whatever files are added to a result, its page can be made and tells the files that were added
with violations, each of them once. -/
theorem render_tells (added : List (String × List Violation)) :
    Recorded added (.ofFiles added) ∧
      ∃ page, Html.render (Checkstyle.render (.ofFiles added)).toUTF8 = .ok page ∧
        Html.Tells (.ofFiles added) page.toList := by
  refine ⟨recorded_ofFiles added, _, ?_, Html.tells_page (.ofFiles added)⟩
  rw [Html.render, Checkstyle.read_render_eq]
  rfl

end MarkdownLint
