import MarkdownLint.Proofs.Check.Placement
import MarkdownLint.Proofs.Scan.Record

/-!
Making rules. A rule is made from the settings of its kind alone: its check from what is set for
each parameter, and the files it looks at from its patterns (`Rule.appliesTo_eq_covers`). The rules
of a configuration are those of its active kinds (`Configuration.mem_of_instantiate`), and two
configurations that agree on the settings of all kinds but one have the same other rules
(`Configuration.checkers_eq`).
-/
namespace MarkdownLint

/-! ## Settings -/

/-- Two setups say the same: parameters are told by their names, in whatever order. -/
structure RuleSetup.Agrees (s s' : RuleSetup) : Prop where
  active : s.active = s'.active
  includes : s.includes = s'.includes
  excludes : s.excludes = s'.excludes
  params : ∀ key, s.params.lookup key = s'.params.lookup key

theorem RuleSetup.Agrees.symm {s s' : RuleSetup} (h : s.Agrees s') : s'.Agrees s :=
  ⟨h.active.symm, h.includes.symm, h.excludes.symm, fun key => (h.params key).symm⟩

/-- Whether a pattern matches the whole of a name. -/
def fullyMatches (named : Pattern.CharacterNames) (name pattern : String) : Bool :=
  match Pattern.compile named pattern with
  | .ok c => c.matchesAll name
  | .error _ => false

/-- Whether a setup lets its rule look at a file: some include pattern and no exclude pattern
matches the whole of its name. -/
def RuleSetup.covers (named : Pattern.CharacterNames) (s : RuleSetup) (name : String) : Bool :=
  s.includes.any (fullyMatches named name) && !s.excludes.any (fullyMatches named name)

/-! ## One rule -/

namespace Rule

variable {named : Pattern.CharacterNames}

theorem any_of_compileAll {patterns : List String} {compiled : List Pattern.Compiled}
    (h : compileAll named patterns = .ok compiled) (name : String) :
    compiled.any (·.matchesAll name) = patterns.any (fullyMatches named name) := by
  induction patterns generalizing compiled with
  | nil =>
    cases h
    rfl
  | cons p rest ih =>
    rw [compileAll] at h
    cases hp : Pattern.compile named p with
    | error e => simp [hp] at h
    | ok c =>
      cases hrest : compileAll named rest with
      | error e => simp [hp, hrest, Except.map] at h
      | ok cs =>
        simp only [hp, hrest, Except.map, Except.ok.injEq] at h
        subst h
        rw [List.any_cons, List.any_cons, ih hrest, fullyMatches, hp]

/-- What a rule is made of. -/
theorem parts_of_make {kind : CheckKind} {setup : RuleSetup} {params : List (String × Value)}
    {r : Rule} (h : make named kind setup params = .ok r) :
    compileAll named setup.includes = .ok r.includes ∧ compileAll named setup.excludes = .ok r.excludes ∧
      checkOf kind params = .ok r.check := by
  simp only [make, bind, Except.bind] at h
  split at h
  · cases h
  split at h
  · cases h
  rename_i includes hincludes
  split at h
  · cases h
  rename_i excludes hexcludes
  split at h
  · cases h
  rename_i check hcheck
  cases h
  exact ⟨hincludes, hexcludes, hcheck⟩

/-- The check of a rule depends on what is set for each parameter, not on the order. -/
theorem checkOf_congr {params params' : List (String × Value)}
    (h : ∀ key, params.lookup key = params'.lookup key) (kind : CheckKind) :
    checkOf kind params = checkOf kind params' := by
  cases kind <;> simp only [checkOf, h]

/-- Rules that are made from setups that say the same do the same. -/
theorem checker_eq_of_agrees {kind : CheckKind} {s s' : RuleSetup} {r r' : Rule}
    (h : s.Agrees s') (hr : make named kind s s.params = .ok r)
    (hr' : make named kind s' s'.params = .ok r') : r.checker = r'.checker := by
  obtain ⟨hincludes, hexcludes, hcheck⟩ := parts_of_make hr
  obtain ⟨hincludes', hexcludes', hcheck'⟩ := parts_of_make hr'
  rw [h.includes, hincludes'] at hincludes
  rw [h.excludes, hexcludes'] at hexcludes
  rw [checkOf_congr h.params, hcheck'] at hcheck
  have hprocess : r.process = r'.process := by
    funext d
    rw [process, process, appliesTo, appliesTo, Except.ok.inj hincludes, Except.ok.inj hexcludes,
      Except.ok.inj hcheck]
  rw [checker, checker, name, name, Except.ok.inj hcheck, hprocess]

theorem appliesTo_eq_covers {kind : CheckKind} {setup : RuleSetup}
    {params : List (String × Value)} {r : Rule} (h : make named kind setup params = .ok r)
    (name : String) : r.appliesTo name = setup.covers named name := by
  obtain ⟨hincludes, hexcludes, -⟩ := parts_of_make h
  rw [appliesTo, RuleSetup.covers, any_of_compileAll hincludes, any_of_compileAll hexcludes]

/-- A rule finds what its check finds, in the documents that it looks at. -/
theorem found_eq (r : Rule) {d : Document} {vs : List Violation} (h : r.check.visit d = .ok vs) :
    r.checker.found d = if r.appliesTo d.filename then vs else [] := by
  have hprocess : r.checker.process d = if r.appliesTo d.filename then .ok vs else .ok [] := by
    rw [← h]
    rfl
  rw [Checker.found, hprocess]
  cases r.appliesTo d.filename <;> rfl

/-- On a document whose blocks meet the contract a rule does not fail, and reports under its own
name. -/
theorem failure?_eq_none (r : Rule) {d : Document} (hd : d.WellParsed) :
    r.checker.failure? d = none := by
  obtain ⟨vs, hvs, -⟩ := r.process_ok hd
  have hprocess : r.checker.process d = .ok vs := hvs
  rw [Checker.failure?, hprocess]

theorem rule_of_mem_found (r : Rule) {d : Document} (hd : d.WellParsed) {v : Violation}
    (hv : v ∈ r.checker.found d) : v.rule = r.name := by
  obtain ⟨vs, hvs, hnames, -⟩ := r.process_ok hd
  have hprocess : r.checker.process d = .ok vs := hvs
  rw [Checker.found, hprocess] at hv
  exact (hnames v hv).1

end Rule

/-! ## The rules of a configuration -/

theorem CheckKind.ofName?_name (k : CheckKind) : ofName? k.name = some k := by
  cases k <;> rfl

theorem CheckKind.name_injective {k k' : CheckKind} (h : k.name = k'.name) : k = k' := by
  have hsome : some k = some k' := by rw [← ofName?_name k, h, ofName?_name k']
  exact Option.some.inj hsome

theorem CheckKind.mem_all (k : CheckKind) : k ∈ all := by
  cases k <;> decide

namespace Configuration

variable {named : Pattern.CharacterNames} {c c' : Configuration} {kind skipped : CheckKind}
  {kinds : List CheckKind} {rules rules' : List Rule} {r : Rule}

theorem make_of_makeRule (h : c.makeRule named kind = .ok r) :
    Rule.make named kind (c.ruleSetup kind.name) (c.ruleSetup kind.name).params = .ok r := by
  rw [makeRule] at h
  cases hmake : Rule.make named kind (c.ruleSetup kind.name) (c.ruleSetup kind.name).params with
  | error e => simp [hmake] at h
  | ok made =>
    simp only [hmake, Except.ok.injEq] at h
    rw [h]

/-- The rules of some kinds, one kind more. -/
theorem makeRules_cons (h : c.makeRules named (kind :: kinds) = .ok rules) :
    (c.isActive kind.name = true ∧ ∃ r rest, c.makeRule named kind = .ok r ∧
        c.makeRules named kinds = .ok rest ∧ rules = r :: rest) ∨
      c.isActive kind.name = false ∧ c.makeRules named kinds = .ok rules := by
  rw [makeRules] at h
  cases hactive : c.isActive kind.name with
  | false => exact .inr ⟨rfl, by simpa [hactive] using h⟩
  | true =>
    rw [if_pos hactive] at h
    cases hr : c.makeRule named kind with
    | error e => simp [hr, bind, Except.bind] at h
    | ok r =>
      cases hrest : c.makeRules named kinds with
      | error e => simp [hr, hrest, bind, Except.bind] at h
      | ok rest =>
        simp only [hr, hrest, bind, Except.bind, pure, Except.pure, Except.ok.injEq] at h
        exact .inl ⟨rfl, r, rest, rfl, rfl, h.symm⟩

theorem mem_of_makeRules (h : c.makeRules named kinds = .ok rules) :
    r ∈ rules ↔ ∃ kind ∈ kinds, c.isActive kind.name = true ∧ c.makeRule named kind = .ok r := by
  induction kinds generalizing rules with
  | nil =>
    cases h
    simp
  | cons kind kinds ih =>
    rcases makeRules_cons h with ⟨hactive, first, rest, hfirst, hrest, rfl⟩ | ⟨hactive, hrest⟩
    · rw [List.mem_cons, ih hrest, List.exists_mem_cons_iff, hfirst, Except.ok.injEq]
      simp only [hactive, true_and]
      rw [eq_comm]
    · rw [ih hrest, List.exists_mem_cons_iff, hactive]
      simp

theorem makeRules_of_instantiate (h : c.instantiate named = .ok rules) :
    c.makeRules named CheckKind.all = .ok rules := by
  rw [instantiate] at h
  split at h
  · exact h
  · cases h

theorem mem_of_instantiate (h : c.instantiate named = .ok rules) :
    r ∈ rules ↔ ∃ kind : CheckKind, c.isActive kind.name = true ∧ c.makeRule named kind = .ok r := by
  rw [mem_of_makeRules (makeRules_of_instantiate h)]
  simp [CheckKind.mem_all]

/-- Every active kind has a rule. -/
theorem makeRule_of_makeRules (h : c.makeRules named kinds = .ok rules) (hkind : kind ∈ kinds)
    (hactive : c.isActive kind.name = true) : ∃ r, c.makeRule named kind = .ok r := by
  induction kinds generalizing rules with
  | nil => cases hkind
  | cons first kinds ih =>
    rcases makeRules_cons h with ⟨-, r, rest, hr, hrest, -⟩ | ⟨hoff, hrest⟩
    · rcases List.mem_cons.mp hkind with rfl | hkind
      · exact ⟨r, hr⟩
      · exact ih hrest hkind
    · rcases List.mem_cons.mp hkind with rfl | hkind
      · rw [hactive] at hoff
        cases hoff
      · exact ih hrest hkind

theorem makeRule_of_instantiate (h : c.instantiate named = .ok rules)
    (hactive : c.isActive kind.name = true) : ∃ r, c.makeRule named kind = .ok r :=
  makeRule_of_makeRules (makeRules_of_instantiate h) (CheckKind.mem_all kind) hactive

/-- The standard configuration has rules. -/
theorem exists_instantiate_standard (named : Pattern.CharacterNames) :
    ∃ rules, instantiate {} named = .ok rules := by
  have hknown : unknownRules {} = [] := by simp [unknownRules]
  simp only [instantiate, hknown]
  exact ⟨_, rfl⟩

/-- The rules of all kinds but one. -/
def others (skipped : CheckKind) (rules : List Rule) : List Rule :=
  rules.filter fun r => decide (r.check.kind ≠ skipped)

theorem others_cons (skipped : CheckKind) (r : Rule) (rules : List Rule) :
    others skipped (r :: rules) =
      if r.check.kind = skipped then others skipped rules else r :: others skipped rules := by
  by_cases h : r.check.kind = skipped <;> simp [others, h]

/-- Configurations that agree on some kinds have the same rules of these kinds. -/
theorem checkers_of_makeRules (keep : CheckKind → Bool)
    (hagree : ∀ k, keep k = true → (c.ruleSetup k.name).Agrees (c'.ruleSetup k.name))
    (h : c.makeRules named kinds = .ok rules) (h' : c'.makeRules named kinds = .ok rules') :
    (rules.filter fun r => keep r.check.kind).map Rule.checker =
      (rules'.filter fun r => keep r.check.kind).map Rule.checker := by
  induction kinds generalizing rules rules' with
  | nil =>
    cases h
    cases h'
    rfl
  | cons kind kinds ih =>
    by_cases hkeep : keep kind = true
    · have hsetup := hagree kind hkeep
      have hactive : c.isActive kind.name = c'.isActive kind.name := hsetup.active
      rcases makeRules_cons h with ⟨hon, r, rest, hr, hrest, rfl⟩ | ⟨hoff, hrest⟩
      · rcases makeRules_cons h' with ⟨-, r', rest', hr', hrest', rfl⟩ | ⟨hoff', -⟩
        · have hcheckers := Rule.checker_eq_of_agrees hsetup (make_of_makeRule hr)
            (make_of_makeRule hr')
          have hkind : keep r.check.kind = true := by rwa [kind_of_makeRule hr]
          have hkind' : keep r'.check.kind = true := by rwa [kind_of_makeRule hr']
          rw [List.filter_cons, if_pos hkind, List.filter_cons, if_pos hkind', List.map_cons,
            List.map_cons, hcheckers, ih hrest hrest']
        · rw [hactive, hoff'] at hon
          cases hon
      · rcases makeRules_cons h' with ⟨hon', -⟩ | ⟨-, hrest'⟩
        · rw [hactive, hon'] at hoff
          cases hoff
        · exact ih hrest hrest'
    · -- whether or not a rule of the kind is made, it is left out
      have hdrop : ∀ {c : Configuration} {rules : List Rule},
          c.makeRules named (kind :: kinds) = .ok rules →
          ∃ rest, c.makeRules named kinds = .ok rest ∧
            (rules.filter fun r => keep r.check.kind) = rest.filter fun r => keep r.check.kind := by
        intro c rules h
        rcases makeRules_cons h with ⟨-, r, rest, hr, hrest, rfl⟩ | ⟨-, hrest⟩
        · refine ⟨rest, hrest, List.filter_cons_of_neg ?_⟩
          rwa [kind_of_makeRule hr]
        · exact ⟨rules, hrest, rfl⟩
      obtain ⟨rest, hrest, heq⟩ := hdrop h
      obtain ⟨rest', hrest', heq'⟩ := hdrop h'
      rw [heq, heq']
      exact ih hrest hrest'

/-- Configurations that agree on all kinds but one have the same rules of the other kinds. -/
theorem checkers_eq (hagree : ∀ k ≠ skipped, (c.ruleSetup k.name).Agrees (c'.ruleSetup k.name))
    (h : c.instantiate named = .ok rules) (h' : c'.instantiate named = .ok rules') :
    (others skipped rules).map Rule.checker = (others skipped rules').map Rule.checker :=
  checkers_of_makeRules (fun k => decide (k ≠ skipped))
    (fun k hk => hagree k (of_decide_eq_true hk)) (makeRules_of_instantiate h)
    (makeRules_of_instantiate h')

/-- Configurations that agree on all kinds have the same rules. -/
theorem checkers_eq_of_agrees
    (hagree : ∀ k : CheckKind, (c.ruleSetup k.name).Agrees (c'.ruleSetup k.name))
    (h : c.instantiate named = .ok rules) (h' : c'.instantiate named = .ok rules') :
    rules.map Rule.checker = rules'.map Rule.checker := by
  have hall := checkers_of_makeRules (fun _ => true) (fun k _ => hagree k)
    (makeRules_of_instantiate h) (makeRules_of_instantiate h')
  rwa [List.filter_true, List.filter_true] at hall

/-- Without a rule of a kind, the rules of the other kinds are all there are. -/
theorem others_eq_self (h : c.instantiate named = .ok rules) (hoff : c.isActive skipped.name = false) :
    others skipped rules = rules := by
  rw [others, List.filter_eq_self]
  intro r hr
  obtain ⟨kind, hactive, hmade⟩ := (mem_of_instantiate h).mp hr
  rw [decide_eq_true_iff, kind_of_makeRule hmade]
  rintro rfl
  rw [hoff] at hactive
  cases hactive

end Configuration

end MarkdownLint
