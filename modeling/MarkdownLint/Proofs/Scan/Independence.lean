import MarkdownLint.Proofs.Rule.Making
import MarkdownLint.Proofs.Scan.Accounts

/-!
Rules do not depend on each other. Two scans of one tree under configurations that agree on all
rules but one find the same of the other rules in every file, and what they find of that rule is
told by its own settings (`DifferBy`).
-/
namespace MarkdownLint

/-! ## One document -/

variable {d : Document} {rules rules' : List Rule} {kind : CheckKind}

/-- The violations of all rules but one are those that the other rules find. -/
theorem filter_found (hd : d.WellParsed) (rules : List Rule) (kind : CheckKind) :
    ((rules.map Rule.checker).flatMap (·.found d)).filter (fun v => v.rule != kind.name) =
      ((Configuration.others kind rules).map Rule.checker).flatMap (·.found d) := by
  induction rules with
  | nil => rfl
  | cons r rules ih =>
    rw [List.map_cons, List.flatMap_cons, List.filter_append, ih]
    by_cases hkind : r.check.kind = kind
    · have hnone : (r.checker.found d).filter (fun v => v.rule != kind.name) = [] := by
        rw [List.filter_eq_nil_iff]
        intro v hv
        rw [r.rule_of_mem_found hd hv, ← hkind]
        simp [Rule.name, Check.name]
      rw [hnone, List.nil_append, Configuration.others_cons, if_pos hkind]
    · have hall : (r.checker.found d).filter (fun v => v.rule != kind.name) =
          r.checker.found d := by
        rw [List.filter_eq_self]
        intro v hv
        rw [r.rule_of_mem_found hd hv, bne_iff_ne]
        exact fun heq => hkind (CheckKind.name_injective heq)
      rw [hall, Configuration.others_cons, if_neg hkind, List.map_cons, List.flatMap_cons]

/-- The violations of one rule are those that it finds. -/
theorem filter_found_own (hd : d.WellParsed) (hnodup : (rules.map Rule.name).Nodup) {r : Rule}
    (hr : r ∈ rules) :
    ((rules.map Rule.checker).flatMap (·.found d)).filter (fun v => v.rule == r.name) =
      r.checker.found d := by
  rw [List.flatMap_map]
  exact filter_flatMap_key (fun s _ v hv => s.rule_of_mem_found hd hv) hnodup hr

/-! ## All files -/

variable {tree : Entry} {root : Path} {parser : Parser}

theorem parseFailure_outcomeAt (tree : Entry) (root : Path) (parser : Parser)
    (checkers checkers' : List Checker) (p : List String) :
    (outcomeAt tree root parser checkers p).parseFailure =
      (outcomeAt tree root parser checkers' p).parseFailure := by
  rw [outcomeAt, outcomeAt, scanFile, scanFile]
  cases tree.read (root ++ ⟨p⟩) with
  | error e => rfl
  | ok content =>
    simp only [Except.map, scanContent]
    split
    · rfl
    · rw [applyRules_eq_collected, applyRules_eq_collected]

/-- What cannot be parsed does not depend on the rules. -/
theorem parseFailures_record_eq (htree : tree.WellFormed) (root : Path) (parser : Parser)
    (checkers checkers' : List Checker) :
    (record tree root parser checkers).parseFailures =
      (record tree root parser checkers').parseFailures := by
  rw [record_eq_listed htree, record_eq_listed htree]
  show (outcomes tree root parser checkers).flatMap (fun s => s.parseFailure.toList) =
    (outcomes tree root parser checkers').flatMap fun s => s.parseFailure.toList
  rw [outcomes, outcomes, List.flatMap_map, List.flatMap_map]
  simp only [parseFailure_outcomeAt tree root parser checkers checkers']

/-- What rules find in the file at a position. -/
def foundAt (tree : Entry) (root : Path) (parser : Parser) (checkers : List Checker)
    (p : List String) : List Violation :=
  (tree.document? root parser p).toList.flatMap fun d => checkers.flatMap (·.found d)

theorem violationsOf_record (htree : tree.WellFormed) (checkers : List Checker) {p : List String}
    (hp : p ∈ discover tree root markdownExtensions) :
    (record tree root parser checkers).violationsOf (positionText p) =
      foundAt tree root parser checkers p := by
  have hyields := yields_of_mem_discover parser checkers htree hp
  have hviolations := ScanResult.violationsOf_ofScans
    (nodup_filenames_outcomes htree root parser checkers) (List.mem_map_of_mem hp)
  rw [hyields.filename, hyields.violations] at hviolations
  exact hviolations

theorem violationsOf_record_eq_nil (htree : tree.WellFormed) (checkers : List Checker)
    {name : String} (h : name ∉ (discover tree root markdownExtensions).map positionText) :
    (record tree root parser checkers).violationsOf name = [] := by
  refine ScanResult.violationsOf_eq_nil (nodup_filenames_outcomes htree root parser checkers) ?_
  rwa [filenames_outcomes htree root parser checkers]

/-- The entries of a scan: the files in which something is found, in order. -/
theorem violations_record_eq (htree : tree.WellFormed) (root : Path) (parser : Parser)
    (checkers : List Checker) :
    (record tree root parser checkers).violations =
      ((discover tree root markdownExtensions).filter fun p =>
        !(foundAt tree root parser checkers p).isEmpty).map fun p =>
          (positionText p, foundAt tree root parser checkers p) := by
  rw [record_eq_listed htree root parser checkers]
  show ((outcomes tree root parser checkers).filter fun s => !s.violations.isEmpty).map
    (fun s => (s.filename, s.violations)) = _
  rw [outcomes, List.filter_map, List.map_map]
  have hyields : ∀ p ∈ discover tree root markdownExtensions,
      Yields checkers (positionText p) (tree.document? root parser p)
        (outcomeAt tree root parser checkers p) :=
    fun p hp => yields_of_mem_discover parser checkers htree hp
  have hfilter : (discover tree root markdownExtensions).filter
      ((fun s : FileScan => !s.violations.isEmpty) ∘ outcomeAt tree root parser checkers) =
      (discover tree root markdownExtensions).filter fun p =>
        !(foundAt tree root parser checkers p).isEmpty := by
    refine List.filter_congr fun p hp => ?_
    rw [Function.comp_apply, (hyields p hp).violations, foundAt]
  rw [hfilter]
  refine List.map_congr_left fun p hp => ?_
  have hp := (List.mem_filter.mp hp).1
  rw [Function.comp_apply, (hyields p hp).filename, (hyields p hp).violations, foundAt]

/-- An entry without the violations of a rule; nothing if no others are left. -/
def withoutRule (rule : String) (f : String × List Violation) : Option (String × List Violation) :=
  let kept := f.2.filter fun v => v.rule != rule
  if kept.isEmpty then none else some (f.1, kept)

theorem filterMap_withoutRule {α : Type} (rule : String) (l : List α) (name : α → String)
    (g : α → List Violation) :
    ((l.filter fun a => !(g a).isEmpty).map fun a => (name a, g a)).filterMap (withoutRule rule) =
      (l.filter fun a => !((g a).filter fun v => v.rule != rule).isEmpty).map fun a =>
        (name a, (g a).filter fun v => v.rule != rule) := by
  induction l with
  | nil => rfl
  | cons a l ih =>
    by_cases hall : g a = []
    · simpa [hall] using ih
    · by_cases hkept : (g a).filter (fun v => v.rule != rule) = []
      · rw [List.filter_cons_of_pos (by simpa using hall), List.map_cons,
          List.filterMap_cons_none (by simp [withoutRule, hkept]), ih,
          List.filter_cons_of_neg (by simp [hkept])]
      · rw [List.filter_cons_of_pos (by simpa using hall), List.map_cons,
          List.filterMap_cons_some (b := (name a, (g a).filter fun v => v.rule != rule))
            (by simp [withoutRule, hkept]), ih, List.filter_cons_of_pos (by simpa using hkept),
          List.map_cons]

/-- What the rules of all kinds but one find in a file is what is left without that rule. -/
theorem filter_foundAt {p : List String}
    (hd : ∀ d, tree.document? root parser p = some d → d.WellParsed) (rules : List Rule)
    (kind : CheckKind) :
    (foundAt tree root parser (rules.map Rule.checker) p).filter (fun v => v.rule != kind.name) =
      foundAt tree root parser ((Configuration.others kind rules).map Rule.checker) p := by
  rw [foundAt, foundAt]
  cases hdocument : tree.document? root parser p with
  | none => rfl
  | some d =>
    simp only [Option.toList_some, List.flatMap_singleton]
    exact filter_found (hd d hdocument) rules kind

/-! ## Two configurations -/

/-- What two scans of one tree have in common, and what sets them apart, if their configurations
agree on all kinds of rules but one. -/
structure DifferBy (named : Pattern.CharacterNames) (kind : CheckKind) (tree : Entry) (root : Path)
    (parser : Parser) (c c' : Configuration) (r r' : ScanResult) : Prop where
  fileCount : r'.fileCount = r.fileCount
  parseFailures : r'.parseFailures = r.parseFailures
  ruleFailures : r.ruleFailures = [] ∧ r'.ruleFailures = []
  /-- Of every file the other rules tell the same. -/
  others : ∀ name, (r'.violationsOf name).filter (fun v => v.rule != kind.name) =
    (r.violationsOf name).filter fun v => v.rule != kind.name
  /-- Without the rule, what the others tell is all there is. -/
  inactive : c'.isActive kind.name = false →
    r'.violations = r.violations.filterMap (withoutRule kind.name)
  /-- With the rule, its violations are what its check finds in the files that its patterns let it
  look at. -/
  active : c'.isActive kind.name = true →
    ∃ check, Rule.checkOf kind (c'.ruleSetup kind.name).params = .ok check ∧
      ∀ p ∈ discover tree root markdownExtensions, ∀ d,
        tree.document? root parser p = some d → ∃ vs, check.visit d = .ok vs ∧
          (r'.violationsOf (positionText p)).filter (fun v => v.rule == kind.name) =
            if (c'.ruleSetup kind.name).covers named (positionText p) then vs else []
  /-- How a rule is set up that does not run makes no difference. -/
  unused : c.isActive kind.name = false → c'.isActive kind.name = false → r' = r

variable {named : Pattern.CharacterNames} {c c' : Configuration}

section

variable (htree : tree.WellFormed)
  (hparser : ∀ p ∈ discover tree root markdownExtensions, ∀ d,
    tree.document? root parser p = some d → d.WellParsed)
  (hc : c.instantiate named = .ok rules) (hc' : c'.instantiate named = .ok rules')
  (hagree : ∀ k ≠ kind, (c.ruleSetup k.name).Agrees (c'.ruleSetup k.name))

include htree hparser in
theorem ruleFailures_record_eq_nil (rules : List Rule) :
    (record tree root parser (rules.map Rule.checker)).ruleFailures = [] := by
  rw [ruleFailures_record htree, List.flatMap_eq_nil_iff]
  intro p hp
  rw [List.flatMap_eq_nil_iff]
  intro d hd
  rw [List.filterMap_eq_nil_iff]
  intro checker hchecker
  obtain ⟨r, -, rfl⟩ := List.mem_map.mp hchecker
  exact r.failure?_eq_none (hparser p hp d (Option.mem_toList.mp hd))

include hparser hc hc' hagree in
/-- The rules of the other kinds find the same in every file. -/
theorem filter_foundAt_eq {p : List String} (hp : p ∈ discover tree root markdownExtensions) :
    (foundAt tree root parser (rules'.map Rule.checker) p).filter (fun v => v.rule != kind.name) =
      (foundAt tree root parser (rules.map Rule.checker) p).filter fun v => v.rule != kind.name := by
  rw [filter_foundAt (hparser p hp), filter_foundAt (hparser p hp),
    Configuration.checkers_eq hagree hc hc']

include htree hparser hc hc' hagree in
theorem violationsOf_record_others (name : String) :
    ((record tree root parser (rules'.map Rule.checker)).violationsOf name).filter
        (fun v => v.rule != kind.name) =
      ((record tree root parser (rules.map Rule.checker)).violationsOf name).filter
        fun v => v.rule != kind.name := by
  by_cases hname : name ∈ (discover tree root markdownExtensions).map positionText
  · obtain ⟨p, hp, rfl⟩ := List.mem_map.mp hname
    rw [violationsOf_record htree _ hp, violationsOf_record htree _ hp]
    exact filter_foundAt_eq hparser hc hc' hagree hp
  · rw [violationsOf_record_eq_nil htree _ hname, violationsOf_record_eq_nil htree _ hname]

include htree hparser hc hc' hagree in
theorem violations_record_inactive (hoff : c'.isActive kind.name = false) :
    (record tree root parser (rules'.map Rule.checker)).violations =
      (record tree root parser (rules.map Rule.checker)).violations.filterMap
        (withoutRule kind.name) := by
  have hfound : ∀ p ∈ discover tree root markdownExtensions,
      foundAt tree root parser (rules'.map Rule.checker) p =
        (foundAt tree root parser (rules.map Rule.checker) p).filter
          fun v => v.rule != kind.name := by
    intro p hp
    rw [← filter_foundAt_eq hparser hc hc' hagree hp, filter_foundAt (hparser p hp),
      Configuration.others_eq_self hc' hoff]
  rw [violations_record_eq htree, violations_record_eq htree, filterMap_withoutRule]
  rw [List.filter_congr fun p hp => by rw [hfound p hp]]
  exact List.map_congr_left fun p hp => by rw [hfound p (List.mem_filter.mp hp).1]

include htree hparser hc' in
/-- The violations of a rule that runs are what its check finds in the files that its patterns let
it look at. -/
theorem violationsOf_record_own (hon : c'.isActive kind.name = true) :
    ∃ check, Rule.checkOf kind (c'.ruleSetup kind.name).params = .ok check ∧
      ∀ p ∈ discover tree root markdownExtensions, ∀ d,
        tree.document? root parser p = some d → ∃ vs, check.visit d = .ok vs ∧
          ((record tree root parser (rules'.map Rule.checker)).violationsOf (positionText p)).filter
              (fun v => v.rule == kind.name) =
            if (c'.ruleSetup kind.name).covers named (positionText p) then vs else [] := by
  obtain ⟨r, hmade⟩ := Configuration.makeRule_of_instantiate hc' hon
  have hr : r ∈ rules' := (Configuration.mem_of_instantiate hc').mpr ⟨kind, hon, hmade⟩
  have hmake := Configuration.make_of_makeRule hmade
  obtain ⟨-, -, hcheck⟩ := Rule.parts_of_make hmake
  have hname : r.name = kind.name := by
    rw [Rule.name, Check.name, Configuration.kind_of_makeRule hmade]
  refine ⟨r.check, hcheck, fun p hp d hdocument => ?_⟩
  have hd := hparser p hp d hdocument
  obtain ⟨vs, hvs⟩ := r.check.exists_finds hd
  refine ⟨vs, hvs.visit, ?_⟩
  rw [violationsOf_record htree _ hp, foundAt, hdocument, Option.toList_some,
    List.flatMap_singleton, ← hname,
    filter_found_own hd (Configuration.names_nodup_of_instantiate hc') hr, hname,
    r.found_eq hvs.visit, filename_of_document? hdocument, Rule.appliesTo_eq_covers hmake]

include hc hc' hagree in
theorem record_eq_of_inactive (hoff : c.isActive kind.name = false)
    (hoff' : c'.isActive kind.name = false) :
    record tree root parser (rules'.map Rule.checker) =
      record tree root parser (rules.map Rule.checker) := by
  have hcheckers := Configuration.checkers_eq hagree hc hc'
  rw [Configuration.others_eq_self hc hoff, Configuration.others_eq_self hc' hoff'] at hcheckers
  rw [hcheckers]

end

/-- If two configurations agree on the settings of all kinds of rules but one, then the scans under
them differ by that rule alone. -/
theorem scan_independent
    (htree : tree.WellFormed)
    (hparser : ∀ p ∈ discover tree root markdownExtensions, ∀ d,
      tree.document? root parser p = some d → d.WellParsed)
    (hc : c.instantiate named = .ok rules) (hc' : c'.instantiate named = .ok rules')
    (hagree : ∀ k ≠ kind, (c.ruleSetup k.name).Agrees (c'.ruleSetup k.name)) :
    ∃ r r', scan tree root parser (rules.map Rule.checker) = .ok r ∧
      scan tree root parser (rules'.map Rule.checker) = .ok r' ∧
      DifferBy named kind tree root parser c c' r r' := by
  refine ⟨_, _, scan_eq_ok htree root parser _, scan_eq_ok htree root parser _, ?_⟩
  constructor
  case fileCount =>
    rw [record_eq_listed htree, record_eq_listed htree]
    show (outcomes _ _ _ _).length = (outcomes _ _ _ _).length
    rw [outcomes, outcomes, List.length_map, List.length_map]
  case parseFailures => exact parseFailures_record_eq htree root parser _ _
  case ruleFailures =>
    exact ⟨ruleFailures_record_eq_nil htree hparser rules,
      ruleFailures_record_eq_nil htree hparser rules'⟩
  case others => exact violationsOf_record_others htree hparser hc hc' hagree
  case inactive => exact violations_record_inactive htree hparser hc hc' hagree
  case active => exact violationsOf_record_own htree hparser hc'
  case unused => exact record_eq_of_inactive hc hc' hagree

/-- The rules as they are, but for tabs, which nothing looks for. -/
def tabsIgnored : Configuration where
  rules := [(CheckKind.hardTabs.name, { active := false, excludes := ["("] })]

theorem agrees_tabsIgnored : ∀ k ≠ CheckKind.hardTabs,
    (Configuration.ruleSetup {} k.name).Agrees (tabsIgnored.ruleSetup k.name) := by
  intro k hk
  have hsetup : tabsIgnored.ruleSetup k.name = {} := by
    cases k with
    | hardTabs => exact absurd rfl hk
    | _ => rfl
  rw [hsetup]
  exact ⟨rfl, rfl, rfl, fun _ => rfl⟩

theorem wellParsed_of_nonemptyParser {p : List String}
    (h : tree.document? root nonemptyParser p = some d) : d.WellParsed := by
  have hblocks : d.blocks = [.mk .paragraph ⟨0, 1⟩ []] := by
    simp only [Entry.document?, bind, Option.bind_eq_some_iff, pure, Option.some.injEq] at h
    obtain ⟨_, -, text, -, blocks, hparse, rfl⟩ := h
    simp only [nonemptyParser] at hparse
    split at hparse
    · cases hparse
    · cases hparse
      rfl
  have hnodes : d.nodes = [⟨⟨.paragraph, ⟨0, 1⟩⟩, []⟩] := by
    rw [Document.nodes, hblocks]
    rfl
  constructor
  · simp [hnodes, Markdown.Node.kind, Markdown.Kind.isLocated]
  · simp [Document.headings, hnodes, Markdown.Node.kind]
  · simp [Document.headings, hnodes, Markdown.Node.kind]
  · simp [Document.nodesWhere, hnodes, Markdown.Node.kind]

theorem scan_independent_tabsIgnored :
    ∃ rules rules' r r', Configuration.instantiate {} (fun _ => none) = .ok rules ∧
      tabsIgnored.instantiate (fun _ => none) = .ok rules' ∧
      scan mixedFiles ⟨[]⟩ nonemptyParser (rules.map Rule.checker) = .ok r ∧
      scan mixedFiles ⟨[]⟩ nonemptyParser (rules'.map Rule.checker) = .ok r' ∧
      DifferBy (fun _ => none) .hardTabs mixedFiles ⟨[]⟩ nonemptyParser {} tabsIgnored r r' ∧
      DifferBy (fun _ => none) .hardTabs mixedFiles ⟨[]⟩ nonemptyParser tabsIgnored {} r' r := by
  have hmade' : ∃ rules, tabsIgnored.instantiate (fun _ => none) = .ok rules := by
    have hknown : tabsIgnored.unknownRules = [] := by
      simp [Configuration.unknownRules, tabsIgnored, CheckKind.ofName?_name]
    simp only [Configuration.instantiate, hknown]
    exact ⟨_, rfl⟩
  obtain ⟨rules, hrules⟩ := Configuration.exists_instantiate_standard fun _ => none
  obtain ⟨rules', hrules'⟩ := hmade'
  obtain ⟨r, r', hscan, hscan', hdiffer⟩ := scan_independent wellFormed_mixedFiles
    (fun _ _ _ hd => wellParsed_of_nonemptyParser hd) hrules hrules' agrees_tabsIgnored
  obtain ⟨s', s, hback', hback, hdiffer'⟩ := scan_independent wellFormed_mixedFiles
    (fun _ _ _ hd => wellParsed_of_nonemptyParser hd) hrules' hrules
    fun k hk => (agrees_tabsIgnored k hk).symm
  obtain rfl : r' = s' := Except.ok.inj (hscan'.symm.trans hback')
  obtain rfl : r = s := Except.ok.inj (hscan.symm.trans hback)
  exact ⟨rules, rules', r, r', hrules, hrules', hscan, hscan', hdiffer, hdiffer'⟩

end MarkdownLint
