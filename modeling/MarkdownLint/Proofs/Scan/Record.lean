import MarkdownLint.Proofs.Association
import MarkdownLint.Proofs.Lists
import MarkdownLint.Scan
import Mathlib.Data.List.Nodup

/-!
The record of a scan. Files with distinct names are recorded one behind the other, those without
violations only by their number (`ScanResult.ofScans_eq`), so that what a record holds under the
name of a file is what was found in that file (`ScanResult.entriesOf_ofScans`).
-/
namespace MarkdownLint

/-! ## Rules on one document -/

namespace Checker

/-- What a rule finds in a document; one that fails finds nothing. -/
def found (r : Checker) (d : Document) : List Violation :=
  match r.process d with
  | .ok vs => vs
  | .error _ => []

/-- The failure of a rule on a document. -/
def failure? (r : Checker) (d : Document) : Option RuleFailure :=
  match r.process d with
  | .ok _ => none
  | .error cause => some ⟨r.name, d.filename, cause⟩

theorem filename_of_failure? {r : Checker} {d : Document} {f : RuleFailure}
    (h : r.failure? d = some f) : f.filename = d.filename := by
  rw [failure?] at h
  cases hprocess : r.process d with
  | ok vs => simp [hprocess] at h
  | error cause =>
    simp only [hprocess, Option.some.injEq] at h
    rw [← h]

end Checker

/-- Rules are run one after the other, and the failure of one stops no other. -/
theorem applyRules_eq_collected (d : Document) (rules : List Checker) :
    applyRules d rules =
      { filename := d.filename
        violations := rules.flatMap (·.found d)
        ruleFailures := rules.filterMap (·.failure? d) } := by
  induction rules with
  | nil => rfl
  | cons r rest ih =>
    rw [applyRules, ih, List.flatMap_cons, List.filterMap_cons]
    cases hprocess : r.process d with
    | ok vs => simp [Checker.found, Checker.failure?, hprocess]
    | error cause => simp [Checker.found, Checker.failure?, hprocess]

/-! ## Recording files -/

namespace ScanResult

/-- The record in which each file stands behind those before it. -/
def listed (scans : List FileScan) : ScanResult where
  fileCount := scans.length
  violations :=
    (scans.filter fun s => !s.violations.isEmpty).map fun s => (s.filename, s.violations)
  parseFailures := scans.flatMap fun s => s.parseFailure.toList
  ruleFailures := scans.flatMap fun s => s.ruleFailures

theorem keys_listed (scans : List FileScan) :
    ((listed scans).violations.map Prod.fst).Sublist (scans.map (·.filename)) := by
  rw [listed, List.map_map]
  exact List.filter_sublist.map _

theorem mem_violations_listed {scans : List FileScan} {name : String} {vs : List Violation} :
    (name, vs) ∈ (listed scans).violations ↔
      vs ≠ [] ∧ ∃ s ∈ scans, s.filename = name ∧ s.violations = vs := by
  simp only [listed, List.mem_map, List.mem_filter, Bool.not_eq_true', List.isEmpty_eq_false_iff,
    Prod.mk.injEq]
  constructor
  · rintro ⟨s, ⟨hs, hne⟩, rfl, rfl⟩
    exact ⟨hne, s, hs, rfl, rfl⟩
  · rintro ⟨hne, s, hs, rfl, rfl⟩
    exact ⟨s, ⟨hs, hne⟩, rfl, rfl⟩

theorem add_listed {done : List FileScan} {s : FileScan}
    (h : s.filename ∉ done.map (·.filename)) : (listed done).add s = listed (done ++ [s]) := by
  have hkey : s.filename ∉ (listed done).violations.map Prod.fst :=
    fun hmem => h ((keys_listed done).subset hmem)
  by_cases hempty : s.violations = []
  · simp [add, addFile, listed, hempty]
  · simp only [add, addFile, Association.assign_of_not_mem hkey]
    simp [listed, hempty]

/-- Files with distinct names are recorded one behind the other. -/
theorem ofScans_eq {scans : List FileScan} (h : (scans.map (·.filename)).Nodup) :
    ofScans scans = listed scans := by
  have hkeeps : (scans.map (·.filename)).Nodup → scans.foldl add {} = listed scans := by
    refine foldl_keeps
      (P := fun done r => (done.map (·.filename)).Nodup → r = listed done) (fun _ => rfl) ?_ scans
    intro done r s hdone hnodup
    rw [List.map_append, List.nodup_append] at hnodup
    obtain ⟨hnodup, -, hdisjoint⟩ := hnodup
    rw [hdone hnodup]
    refine add_listed fun hmem => ?_
    exact hdisjoint _ hmem s.filename (by simp) rfl
  exact hkeeps h

/-! ## What is recorded of one file -/

/-- The violations of a file. -/
def violationsOf (r : ScanResult) (name : String) : List Violation :=
  (r.violations.lookup name).getD []

/-- All that a record holds of a file: its violations, if there is an entry for it, and what went
wrong with it. -/
def entriesOf (r : ScanResult) (name : String) :
    Option (List Violation) × List ParseFailure × List RuleFailure :=
  (r.violations.lookup name, r.parseFailures.filter (·.filename == name),
    r.ruleFailures.filter (·.filename == name))

end ScanResult

/-- What went wrong with a file carries its name. -/
structure FileScan.NamesOwn (s : FileScan) : Prop where
  parseFailure : ∀ f ∈ s.parseFailure.toList, f.filename = s.filename
  ruleFailures : ∀ f ∈ s.ruleFailures, f.filename = s.filename

namespace ScanResult

variable {scans : List FileScan}

theorem lookup_listed (hnodup : (scans.map (·.filename)).Nodup) {s : FileScan} (hs : s ∈ scans) :
    (listed scans).violations.lookup s.filename =
      if s.violations = [] then none else some s.violations := by
  have hkeys := (keys_listed scans).nodup hnodup
  split
  · rename_i hempty
    rw [Option.eq_none_iff_forall_ne_some]
    intro vs hvs
    rw [Association.lookup_eq_some_iff hkeys] at hvs
    obtain ⟨hne, other, hother, hname, rfl⟩ := mem_violations_listed.mp hvs
    obtain rfl := List.inj_on_of_nodup_map hnodup hother hs hname
    exact hne hempty
  · rename_i hne
    rw [Association.lookup_eq_some_iff hkeys]
    exact mem_violations_listed.mpr ⟨hne, s, hs, rfl, rfl⟩

/-- A record holds of a file what was found in it. -/
theorem entriesOf_ofScans (hnodup : (scans.map (·.filename)).Nodup)
    (hnames : ∀ s ∈ scans, s.NamesOwn) {s : FileScan} (hs : s ∈ scans) :
    (ofScans scans).entriesOf s.filename =
      (if s.violations = [] then none else some s.violations, s.parseFailure.toList,
        s.ruleFailures) := by
  have hparse := filter_flatMap_key (fun a ha => (hnames a ha).parseFailure) hnodup hs
  have hrules := filter_flatMap_key (fun a ha => (hnames a ha).ruleFailures) hnodup hs
  rw [ofScans_eq hnodup, entriesOf, lookup_listed hnodup hs]
  exact congrArg _ (Prod.ext hparse hrules)

theorem violationsOf_ofScans (hnodup : (scans.map (·.filename)).Nodup) {s : FileScan}
    (hs : s ∈ scans) : (ofScans scans).violationsOf s.filename = s.violations := by
  rw [ofScans_eq hnodup, violationsOf, lookup_listed hnodup hs]
  split
  · rename_i hempty
    rw [hempty, Option.getD_none]
  · rw [Option.getD_some]

/-- A record holds no violations of other files. -/
theorem violationsOf_eq_nil (hnodup : (scans.map (·.filename)).Nodup) {name : String}
    (h : name ∉ scans.map (·.filename)) : (ofScans scans).violationsOf name = [] := by
  rw [ofScans_eq hnodup, violationsOf]
  cases hlookup : (listed scans).violations.lookup name with
  | none => rfl
  | some vs =>
    have hkeys := (keys_listed scans).nodup hnodup
    have hmem := (Association.lookup_eq_some_iff hkeys).mp hlookup
    exact absurd ((keys_listed scans).subset (List.mem_map_of_mem hmem)) h

end ScanResult

end MarkdownLint
