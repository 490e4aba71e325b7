import MarkdownLint.Proofs.Configuration.Calls
import MarkdownLint.Proofs.Configuration.Refusal
import Mathlib.Data.List.Induction

/-!
The values that are configurations, and what they mean. The language is said on the values alone
(`IsConfiguration`), the meaning of a value as a relation (`Means`). A value is read exactly if it
belongs to the language and the names of its rules can be written out, and then as what it means
(`ofValue_eq_ok_iff`).
-/
namespace MarkdownLint.Configuration

open Builder (PatternsOf SetupOf)

/-! ## The language -/

/-- What gives patterns: nothing, a text, a list of texts, or a mapping whose keys are texts. -/
inductive IsPatterns : Value → Prop where
  | null : IsPatterns .null
  | text (pattern : String) : IsPatterns (.text pattern)
  | list (patterns : List String) : IsPatterns (.list (patterns.map .text))
  | map {entries : List (Scalar × Value)} : (∀ e ∈ entries, ∃ pattern, e.1 = .text pattern) →
      IsPatterns (.map entries)

/-- What a setting can be called: one of the settings that every rule has, or an identifier that is
not taken. -/
def IsSettingName (name : String) : Prop :=
  name ∈ ["active", "includes", "excludes"] ∨
    Text.isIdentifier name = true ∧ name ∉ ["name", "setup", "self"]

/-- Whether the entries of a mapping are the settings of a rule. -/
structure IsSettings (entries : List (Scalar × Value)) : Prop where
  active : ∀ v, Value.lookup "active" entries = some v → ∃ b, v = .bool b
  includes : ∀ v, Value.lookup "includes" entries = some v → IsPatterns v
  excludes : ∀ v, Value.lookup "excludes" entries = some v → IsPatterns v
  names : ∀ e ∈ entries, ∃ name, e.1 = .text name ∧ IsSettingName name

/-- What sets up a rule: nothing, a truth value, or settings. -/
inductive IsRule : Value → Prop where
  | null : IsRule .null
  | bool (active : Bool) : IsRule (.bool active)
  | settings {entries : List (Scalar × Value)} : IsSettings entries → IsRule (.map entries)

/-- What asks for reports: something empty, the name of one, or a list of names. -/
inductive IsReports : Value → Prop where
  | empty {v : Value} : v.isTrue = false → IsReports v
  | name (kind : Report) : IsReports (.text kind.name)
  | list (kinds : List Report) : IsReports (.list (kinds.map fun kind => .text kind.name))

/-- What gives rules: something empty, or a mapping of names to what sets up a rule. -/
inductive IsRules : Value → Prop where
  | empty {v : Value} : v.isTrue = false → IsRules v
  | map {rules : List (Scalar × Value)} : (∀ e ∈ rules, IsRule e.2) → IsRules (.map rules)

/-- Whether the entries of a mapping describe a configuration. -/
structure IsConfiguration (entries : List (Scalar × Value)) : Prop where
  keys : ∀ e ∈ entries, e.1 ∈ [.text "threshold", .text "reports", .text "rules"]
  threshold : ∀ v, Value.lookup "threshold" entries = some v → ∃ n : Nat, v = .int n
  reports : ∀ v, Value.lookup "reports" entries = some v → IsReports v
  rules : ∀ v, Value.lookup "rules" entries = some v → IsRules v

/-- Whether the names of all rules can be written out. An integer with too many digits cannot. -/
def NamesWritable (entries : List (Scalar × Value)) : Prop :=
  ∀ k v, HasRule entries k v → k.isWritable = true

/-! ## The meaning -/

/-- The number of violations that is allowed, none unless a number is given. -/
inductive ThresholdOf : Option Value → Nat → Prop where
  | missing : ThresholdOf none 0
  | given (n : Nat) : ThresholdOf (some (.int n)) n

/-- The reports that are asked for: both unless something is said about them. -/
inductive ReportsOf : Option Value → Reports → Prop where
  | missing : ReportsOf none .both
  | empty {v : Value} : v.isTrue = false → ReportsOf (some v) ⟨false, false⟩
  | name (kind : Report) : ReportsOf (some (.text kind.name)) (.ofList [kind])
  | list (kinds : List Report) :
      ReportsOf (some (.list (kinds.map fun kind => .text kind.name))) (.ofList kinds)

/-- The entries of the rules that are given. -/
inductive RulesOf : Option Value → List (Scalar × Value) → Prop where
  | missing : RulesOf none []
  | empty {v : Value} : v.isTrue = false → RulesOf (some v) []
  | map (rules : List (Scalar × Value)) : RulesOf (some (.map rules)) rules

/-- The setup of a rule, with the standard settings where none is given. -/
inductive SetupGiven : Value → RuleSetup → Prop where
  | null : SetupGiven .null {}
  | bool (active : Bool) : SetupGiven (.bool active) { active }
  | settings {named : List (String × Value)} {setup : RuleSetup} : SetupOf named setup →
      SetupGiven (.map (entriesOf named)) setup

/-- The setups of rules, one for each name in the order in which the names first come, and of the
entries with a name the last counts. -/
structure Lists (rules : List (Scalar × Value)) (setups : List (String × RuleSetup)) : Prop where
  names : setups.map Prod.fst = (rules.map fun e => e.1.display).eraseDups
  last : ∀ name setup, setups.lookup name = some setup →
    ∃ e, (rules.reverse.find? fun e => e.1.display == name) = some e ∧ SetupGiven e.2 setup

/-- The configuration that the entries of a mapping mean. -/
structure Means (entries : List (Scalar × Value)) (c : Configuration) : Prop where
  threshold : ThresholdOf (Value.lookup "threshold" entries) c.threshold
  reports : ReportsOf (Value.lookup "reports" entries) c.reports
  rules : ∃ rules, RulesOf (Value.lookup "rules" entries) rules ∧ Lists rules c.rules

/-! ## Patterns -/

theorem isPatterns_of_patternsOf {standard patterns : List String} {value : Option Value}
    (h : PatternsOf standard value patterns) {v : Value} (hv : value = some v) : IsPatterns v := by
  subst hv
  cases h with
  | null => exact .null
  | single pattern => exact .text pattern
  | list => exact .list patterns
  | @keys entries _ hkeys =>
    refine .map fun e he => ?_
    have hkey : e.1 ∈ patterns.map Scalar.text := hkeys ▸ List.mem_map_of_mem he
    obtain ⟨pattern, -, hpattern⟩ := List.mem_map.mp hkey
    exact ⟨pattern, hpattern.symm⟩

/-- A mapping whose keys are texts has named entries. -/
theorem exists_entriesOf {entries : List (Scalar × Value)}
    (h : ∀ e ∈ entries, ∃ text, e.1 = .text text) : ∃ named, entries = entriesOf named := by
  induction entries with
  | nil => exact ⟨[], rfl⟩
  | cons e entries ih =>
    obtain ⟨k, v⟩ := e
    obtain ⟨name, rfl⟩ := h (k, v) List.mem_cons_self
    obtain ⟨named, rfl⟩ := ih fun e' he' => h e' (List.mem_cons_of_mem _ he')
    exact ⟨(name, v) :: named, rfl⟩

theorem exists_patternsOf (standard : List String) {value : Option Value}
    (h : ∀ v, value = some v → IsPatterns v) : ∃ patterns, PatternsOf standard value patterns := by
  cases value with
  | none => exact ⟨standard, .missing⟩
  | some v =>
    cases h v rfl with
    | null => exact ⟨standard, .null⟩
    | text pattern => exact ⟨[pattern], .single pattern⟩
    | list patterns => exact ⟨patterns, .list patterns⟩
    | map hkeys =>
      obtain ⟨named, rfl⟩ := exists_entriesOf hkeys
      exact ⟨named.map Prod.fst, .keys (by simp [entriesOf])⟩

theorem patternsOf_unique {standard patterns patterns' : List String} {value : Option Value}
    (h : PatternsOf standard value patterns) (h' : PatternsOf standard value patterns') :
    patterns = patterns' := by
  have hok := Builder.patterns_of_patternsOf h "" ""
  rw [Builder.patterns_of_patternsOf h' "" ""] at hok
  exact (Except.ok.inj hok).symm

/-! ## Settings of a rule -/

theorem isSettingName_iff (name : String) :
    IsSettingName name ↔ (Builder.setupKeys.contains name ||
        (Text.isIdentifier name && !reservedParams.contains name)) = true ∧
      name ≠ "self" ∧ name ≠ "name" := by
  rw [IsSettingName, Bool.or_eq_true, List.contains_iff_mem, Bool.and_eq_true]
  constructor
  · rintro (hsetup | ⟨hidentifier, hfree⟩)
    · refine ⟨.inl hsetup, ?_, ?_⟩
      · rintro rfl
        exact absurd hsetup (by decide)
      · rintro rfl
        exact absurd hsetup (by decide)
    · simp only [List.mem_cons, List.not_mem_nil, or_false, not_or] at hfree
      exact ⟨.inr ⟨hidentifier, by simp [reservedParams, hfree]⟩, hfree.2.2, hfree.1⟩
  · rintro ⟨hsetup | ⟨hidentifier, hfree⟩, hself, hname⟩
    · exact .inl hsetup
    · have hsetup : name ≠ "setup" := by
        rintro rfl
        exact absurd hfree (by decide)
      exact .inr ⟨hidentifier, by simp [hname, hsetup, hself]⟩

/-- Settings are accepted if their names are texts, and as what these name. -/
theorem namedSettings_eq_ok_iff {rule : String} {settings : List (Scalar × Value)}
    {named : List (String × Value)} :
    namedSettings rule settings = .ok named ↔ settings = entriesOf named ∧
      ∀ p ∈ named, (Builder.setupKeys.contains p.1 ||
        (Text.isIdentifier p.1 && !reservedParams.contains p.1)) = true := by
  constructor
  · intro h
    induction settings generalizing named with
    | nil =>
      cases h
      exact ⟨rfl, by simp⟩
    | cons entry rest ih =>
      obtain ⟨k, v⟩ := entry
      simp only [namedSettings] at h
      split at h
      · cases h
      · rename_i name hname
        obtain ⟨rfl, hallowed⟩ : k = .text name ∧ (Builder.setupKeys.contains name ||
            (Text.isIdentifier name && !reservedParams.contains name)) = true := by
          split at hname
          · split at hname
            · rename_i hs
              cases hname
              exact ⟨rfl, hs⟩
            · cases hname
          · cases hname
        cases hrest : namedSettings rule rest with
        | error e =>
          rw [hrest] at h
          cases h
        | ok others =>
          rw [hrest] at h
          cases h
          obtain ⟨rfl, hothers⟩ := ih hrest
          exact ⟨rfl, List.forall_mem_cons.mpr ⟨hallowed, hothers⟩⟩
  · rintro ⟨rfl, hnames⟩
    induction named with
    | nil => rfl
    | cons p named ih =>
      obtain ⟨hp, hnamed⟩ := List.forall_mem_cons.mp hnames
      rw [entriesOf, List.map_cons, ← entriesOf]
      simp only [namedSettings, if_pos hp, ih hnamed]
      rfl

theorem isSettings_of_setupOf {named : List (String × Value)} {setup : RuleSetup}
    (h : SetupOf named setup) (hnames : ∀ p ∈ named, IsSettingName p.1) :
    IsSettings (entriesOf named) := by
  constructor
  case active =>
    intro v hv
    rw [lookup_entriesOf] at hv
    have hactive := h.active
    rw [hv] at hactive
    exact ⟨setup.active, hactive⟩
  case includes =>
    intro v hv
    rw [lookup_entriesOf] at hv
    exact isPatterns_of_patternsOf h.includes hv
  case excludes =>
    intro v hv
    rw [lookup_entriesOf] at hv
    exact isPatterns_of_patternsOf h.excludes hv
  case names =>
    intro e he
    obtain ⟨p, hp, rfl⟩ := List.mem_map.mp he
    exact ⟨p.1, rfl, hnames p hp⟩

/-- What sets up a rule has a setup. -/
theorem IsRule.exists_setupGiven {v : Value} (h : IsRule v) : ∃ setup, SetupGiven v setup := by
  cases h with
  | null => exact ⟨_, .null⟩
  | bool active => exact ⟨_, .bool active⟩
  | settings h =>
    obtain ⟨named, rfl⟩ := exists_entriesOf fun e he => (h.names e he).imp fun _ => And.left
    obtain ⟨includes, hincludes⟩ := exists_patternsOf [".*"] h.includes
    obtain ⟨excludes, hexcludes⟩ := exists_patternsOf [] h.excludes
    rw [lookup_entriesOf] at hincludes hexcludes
    obtain ⟨active, hactive⟩ : ∃ active,
        (named.lookup "active").getD (.bool true) = .bool active := by
      cases hlookup : named.lookup "active" with
      | none => exact ⟨true, rfl⟩
      | some v => exact h.active v (by rw [lookup_entriesOf, hlookup])
    exact ⟨⟨active, includes, excludes, _⟩, .settings ⟨hactive, hincludes, hexcludes, rfl⟩⟩

theorem entriesOf_injective : Function.Injective entriesOf := by
  refine List.map_injective_iff.mpr fun p p' h => ?_
  obtain ⟨hname, hvalue⟩ := Prod.mk.inj h
  exact Prod.ext (Scalar.text.inj hname) hvalue

theorem setupOf_unique {named : List (String × Value)} {setup setup' : RuleSetup}
    (h : SetupOf named setup) (h' : SetupOf named setup') : setup = setup' := by
  have hactive : Value.bool setup.active = .bool setup'.active := h.active.symm.trans h'.active
  cases setup
  cases setup'
  congr 1
  · exact Scalar.bool.inj (Value.scalar.inj hactive)
  · exact patternsOf_unique h.includes h'.includes
  · exact patternsOf_unique h.excludes h'.excludes
  · exact h.params.trans h'.params.symm

/-- Nothing is short for no settings, and a truth value for whether the rule runs. -/
theorem setupOf_nil : SetupOf [] {} := ⟨rfl, .missing, .missing, rfl⟩

theorem setupOf_active (active : Bool) : SetupOf [("active", .bool active)] { active } :=
  ⟨rfl, .missing, .missing, rfl⟩

theorem setupGiven_unique {v : Value} {setup setup' : RuleSetup} (h : SetupGiven v setup)
    (h' : SetupGiven v setup') : setup = setup' := by
  cases h with
  | null =>
    cases h'
    rfl
  | bool active =>
    cases h'
    rfl
  | @settings named _ h =>
    generalize hentries : entriesOf named = entries at h'
    cases h' with
    | @settings named' _ h' =>
      obtain rfl : named = named' := entriesOf_injective hentries
      exact setupOf_unique h h'

/-- A rule is read exactly from what sets one up, and as the setup that is given. -/
theorem settings_eq_ok_iff {name : String} {v : Value} {setup : RuleSetup} :
    (∃ settings, settingsOf name v = .ok settings ∧ ∃ named, namedSettings name settings = .ok named ∧
        Builder.setupOf name named = .ok setup) ↔ IsRule v ∧ SetupGiven v setup := by
  constructor
  · rintro ⟨settings, hsettings, named, hnamed, hsetup⟩
    obtain ⟨rfl, hallowed⟩ := namedSettings_eq_ok_iff.mp hnamed
    obtain ⟨hgiven, hsetup⟩ := Builder.setupOf_eq_ok_iff.mp hsetup
    have hnames : ∀ p ∈ named, IsSettingName p.1 :=
      fun p hp => (isSettingName_iff p.1).mpr ⟨hallowed p hp, hgiven p hp⟩
    unfold settingsOf at hsettings
    split at hsettings
    · obtain rfl : [] = named := entriesOf_injective (Except.ok.inj hsettings)
      rw [setupOf_unique hsetup setupOf_nil]
      exact ⟨.null, .null⟩
    · rename_i active
      obtain rfl : [("active", .bool active)] = named :=
        entriesOf_injective (Except.ok.inj hsettings)
      rw [setupOf_unique hsetup (setupOf_active active)]
      exact ⟨.bool active, .bool active⟩
    · cases hsettings
      exact ⟨.settings (isSettings_of_setupOf hsetup hnames), .settings hsetup⟩
    · cases hsettings
  · rintro ⟨hrule, hsetup⟩
    cases hsetup with
    | null =>
      exact ⟨[], rfl, [], rfl, Builder.setupOf_eq_ok_iff.mpr ⟨by simp, setupOf_nil⟩⟩
    | bool active =>
      exact ⟨_, rfl, _, rfl, Builder.setupOf_eq_ok_iff.mpr ⟨by simp, setupOf_active active⟩⟩
    | @settings named _ hsetup =>
      cases hrule with
      | settings hsettings =>
        have hnames : ∀ p ∈ named, IsSettingName p.1 := by
          intro p hp
          obtain ⟨name, hname, hallowed⟩ := hsettings.names _ (List.mem_map_of_mem hp)
          cases hname
          exact hallowed
        refine ⟨_, rfl, named, namedSettings_eq_ok_iff.mpr ⟨rfl, fun p hp => ?_⟩,
          Builder.setupOf_eq_ok_iff.mpr ⟨fun p hp => ?_, hsetup⟩⟩
        · exact ((isSettingName_iff p.1).mp (hnames p hp)).1
        · exact ((isSettingName_iff p.1).mp (hnames p hp)).2

/-! ## Rules -/

theorem nodup_eraseDups (names : List String) : names.eraseDups.Nodup := by
  induction names using List.reverseRecOn with
  | nil => exact List.nodup_nil
  | append_singleton names name ih =>
    rw [Builder.eraseDups_concat]
    split
    · exact ih
    · rename_i hname
      exact List.nodup_append.mpr ⟨ih, by simp, by
        rintro a ha b hb rfl
        exact hname (List.mem_singleton.mp hb ▸ ha)⟩

namespace Lists

theorem start : Lists [] [] where
  names := rfl
  last := by
    intro name setup hlookup
    cases hlookup

/-- A rule that is set up again keeps its place. -/
theorem assign {rules : List (Scalar × Value)} {setups : List (String × RuleSetup)}
    (h : Lists rules setups) {k : Scalar} {v : Value} {setup : RuleSetup}
    (hsetup : SetupGiven v setup) :
    Lists (rules ++ [(k, v)]) (Association.assign setups k.display setup) where
  names := by
    rw [Association.keys_assign, h.names, List.map_append, List.map_singleton,
      Builder.eraseDups_concat]
  last := by
    intro name found hlookup
    rw [Association.lookup_assign] at hlookup
    rw [List.reverse_append, List.reverse_singleton, List.singleton_append]
    split at hlookup
    · rename_i hname
      cases hlookup
      exact ⟨(k, v), List.find?_cons_of_pos (by simp [hname]), hsetup⟩
    · rename_i hname
      rw [List.find?_cons_of_neg (by simpa using Ne.symm hname)]
      exact h.last name found hlookup

theorem nodup {rules : List (Scalar × Value)} {setups : List (String × RuleSetup)}
    (h : Lists rules setups) : (setups.map Prod.fst).Nodup := by
  rw [h.names]
  exact nodup_eraseDups _

/-- Rules have their setups in one way only. -/
theorem unique {rules : List (Scalar × Value)} {setups setups' : List (String × RuleSetup)}
    (h : Lists rules setups) (h' : Lists rules setups') : setups = setups' := by
  have hnames : setups.map Prod.fst = setups'.map Prod.fst := h.names.trans h'.names.symm
  have hlength : setups.length = setups'.length := by simpa using congrArg List.length hnames
  refine List.ext_getElem hlength fun i hi hi' => ?_
  have hname : setups[i].1 = setups'[i].1 := by
    have := congrArg (fun names => names[i]?) hnames
    simpa [hi, hi'] using this
  obtain ⟨e, he, hsetup⟩ := h.last setups[i].1 setups[i].2
    ((Association.lookup_eq_some_iff h.nodup).mpr (List.getElem_mem hi))
  obtain ⟨e', he', hsetup'⟩ := h'.last setups'[i].1 setups'[i].2
    ((Association.lookup_eq_some_iff h'.nodup).mpr (List.getElem_mem hi'))
  -- both setups are given by the last entry with the name
  obtain rfl : e = e' := by
    rw [hname, he'] at he
    exact (Option.some.inj he).symm
  exact Prod.ext hname (setupGiven_unique hsetup hsetup')

end Lists

theorem keyText_eq_ok_iff {k : Scalar} {name : String} :
    keyText k = .ok name ↔ k.isWritable = true ∧ name = k.display := by
  rw [keyText]
  cases k.isWritable <;> simp [eq_comm]

/-- One step: the rule of an entry is set up if its name can be written out. -/
theorem readRules_cons_eq_ok_iff {b b' : Builder} {k : Scalar} {v : Value}
    {rest : List (Scalar × Value)} :
    readRules b ((k, v) :: rest) = .ok b' ↔ k.isWritable = true ∧ ∃ setup,
      (IsRule v ∧ SetupGiven v setup) ∧
        readRules { b with rules := Association.assign b.rules k.display setup } rest = .ok b' := by
  constructor
  · intro h
    rw [readRules] at h
    obtain ⟨name, hname, h⟩ := bind_eq_ok.mp h
    obtain ⟨settings, hsettings, h⟩ := bind_eq_ok.mp h
    obtain ⟨named, hnamed, h⟩ := bind_eq_ok.mp h
    obtain ⟨b₁, hrule, hrest⟩ := bind_eq_ok.mp h
    obtain ⟨setup, hsetup, hb₁⟩ := bind_eq_ok.mp hrule
    cases hb₁
    obtain ⟨hk, rfl⟩ := keyText_eq_ok_iff.mp hname
    exact ⟨hk, setup, settings_eq_ok_iff.mp ⟨settings, hsettings, named, hnamed, hsetup⟩, hrest⟩
  · rintro ⟨hk, setup, hrule, hrest⟩
    obtain ⟨settings, hsettings, named, hnamed, hsetup⟩ := settings_eq_ok_iff.mpr hrule
    rw [readRules]
    refine bind_eq_ok.mpr ⟨k.display, keyText_eq_ok_iff.mpr ⟨hk, rfl⟩, ?_⟩
    refine bind_eq_ok.mpr ⟨settings, hsettings, bind_eq_ok.mpr ⟨named, hnamed, ?_⟩⟩
    exact bind_eq_ok.mpr ⟨_, bind_eq_ok.mpr ⟨setup, hsetup, rfl⟩, hrest⟩

/-- Whatever rules are read, they are listed behind those read before, and nothing else changes. -/
theorem lists_of_readRules {b b' : Builder} {done rest : List (Scalar × Value)}
    (h : readRules b rest = .ok b') (hdone : Lists done b.rules) :
    Lists (done ++ rest) b'.rules ∧ b' = { b with rules := b'.rules } ∧
      ∀ e ∈ rest, e.1.isWritable = true ∧ IsRule e.2 := by
  induction rest generalizing b done with
  | nil =>
    cases h
    exact ⟨by rwa [List.append_nil], rfl, by simp⟩
  | cons e rest ih =>
    obtain ⟨k, v⟩ := e
    obtain ⟨hk, setup, ⟨hrule, hsetup⟩, hrest⟩ := readRules_cons_eq_ok_iff.mp h
    obtain ⟨hlists, hb', hothers⟩ := ih hrest (hdone.assign hsetup)
    rw [List.append_assoc, List.singleton_append] at hlists
    exact ⟨hlists, hb', List.forall_mem_cons.mpr ⟨⟨hk, hrule⟩, hothers⟩⟩

/-- Rules can be read whose names can be written out. -/
theorem exists_readRules {rules : List (Scalar × Value)}
    (h : ∀ e ∈ rules, e.1.isWritable = true ∧ IsRule e.2) (b : Builder) :
    ∃ b', readRules b rules = .ok b' := by
  induction rules generalizing b with
  | nil => exact ⟨b, rfl⟩
  | cons e rest ih =>
    obtain ⟨⟨hk, hrule⟩, hrest⟩ := List.forall_mem_cons.mp h
    obtain ⟨setup, hsetup⟩ := hrule.exists_setupGiven
    obtain ⟨b', hb'⟩ :=
      ih hrest { b with rules := Association.assign b.rules e.1.display setup }
    exact ⟨b', readRules_cons_eq_ok_iff.mpr ⟨hk, setup, ⟨hrule, hsetup⟩, hb'⟩⟩

/-! ## Entries of a configuration -/

theorem checkKeys_eq_ok_iff {entries : List (Scalar × Value)} :
    checkKeys entries = .ok () ↔
      ∀ e ∈ entries, e.1 ∈ [.text "threshold", .text "reports", .text "rules"] := by
  have hknown : (∀ e ∈ entries, e.1 ∈ [.text "threshold", .text "reports", .text "rules"]) ↔
      unknownKeys entries = [] := by
    simp [unknownKeys, topLevelKeys, or_iff_not_imp_left]
  rw [hknown, checkKeys]
  split
  · rename_i hempty
    exact iff_of_true rfl (List.isEmpty_iff.mp hempty)
  · rename_i hunknown
    refine iff_of_false ?_ fun hnil => hunknown (by rw [hnil]; rfl)
    split
    · intro h
      obtain ⟨texts, -, h⟩ := bind_eq_ok.mp h
      cases h
    · intro h
      cases h

theorem readThreshold_eq_ok_iff {b : Builder} {entries : List (Scalar × Value)} :
    readThreshold {} entries = .ok b ↔
      ∃ n, ThresholdOf (Value.lookup "threshold" entries) n ∧ b = { threshold := n } := by
  rw [readThreshold]
  cases Value.lookup "threshold" entries with
  | none =>
    constructor
    · intro h
      cases h
      exact ⟨0, .missing, rfl⟩
    · rintro ⟨n, ⟨⟩, rfl⟩
      rfl
  | some v =>
    constructor
    · intro h
      obtain ⟨n, hn, hb⟩ := bind_eq_ok.mp h
      cases hb
      obtain rfl := Builder.thresholdOf_sound hn
      exact ⟨n, .given n, rfl⟩
    · rintro ⟨n, ⟨⟩, rfl⟩
      rfl

theorem reportsOf_eq_ok_iff {values : List Value} {kinds : List Report} :
    Builder.reportsOf values = .ok kinds ↔ values = kinds.map fun kind => .text kind.name := by
  induction values generalizing kinds with
  | nil =>
    cases kinds with
    | nil => simp [Builder.reportsOf]
    | cons kind kinds => simp [Builder.reportsOf]
  | cons v rest ih =>
    constructor
    · intro h
      obtain ⟨first, others, rfl, hrest, rfl⟩ := Builder.reportsOf_cons h
      rw [List.map_cons, ← ih.mp hrest]
    · intro h
      cases kinds with
      | nil => cases h
      | cons kind kinds =>
        obtain ⟨rfl, hrest⟩ := List.cons.inj h
        simp only [Builder.reportsOf, Value.text, Report.ofName?_eq_some.mpr rfl, ih.mpr hrest]
        rfl

theorem setReports_eq_ok_iff {b b' : Builder} {values : List Value} :
    b.setReports values = .ok b' ↔ ∃ kinds : List Report,
      values = kinds.map (fun kind => .text kind.name) ∧
        b' = { b with reports := .ofList kinds } := by
  rw [Builder.setReports, bind_eq_ok]
  constructor
  · rintro ⟨kinds, hkinds, hb'⟩
    cases hb'
    exact ⟨kinds, reportsOf_eq_ok_iff.mp hkinds, rfl⟩
  · rintro ⟨kinds, hkinds, rfl⟩
    exact ⟨kinds, reportsOf_eq_ok_iff.mpr hkinds, rfl⟩

/-- Reports are read from what asks for reports, and are those that it asks for. -/
theorem readReports_eq_ok_iff {n : Nat} {b : Builder} {entries : List (Scalar × Value)} :
    readReports { threshold := n } entries = .ok b ↔
      ∃ reports, ReportsOf (Value.lookup "reports" entries) reports ∧
        b = { reports, threshold := n } := by
  rw [readReports]
  cases Value.lookup "reports" entries with
  | none =>
    constructor
    · intro h
      cases h
      exact ⟨.both, .missing, rfl⟩
    · rintro ⟨reports, ⟨⟩, rfl⟩
      rfl
  | some v =>
    constructor
    · intro h
      dsimp only at h
      split at h
      · rename_i hempty
        cases h
        exact ⟨_, .empty (by simpa using hempty), rfl⟩
      · split at h
        · rename_i s _
          obtain ⟨kinds, hkinds, rfl⟩ := setReports_eq_ok_iff.mp h
          obtain ⟨kind, rfl, hname⟩ := List.map_eq_singleton_iff.mp hkinds.symm
          cases hname
          exact ⟨_, .name kind, rfl⟩
        · obtain ⟨kinds, rfl, rfl⟩ := setReports_eq_ok_iff.mp h
          exact ⟨_, .list kinds, rfl⟩
        · cases h
    · rintro ⟨reports, hreports, rfl⟩
      cases hreports with
      | empty hempty =>
        simp only [hempty]
        rfl
      | name kind => cases kind <;> rfl
      | list kinds =>
        cases kinds with
        | nil => rfl
        | cons kind kinds => exact setReports_eq_ok_iff.mpr ⟨kind :: kinds, rfl, rfl⟩

theorem ruleEntries_eq_ok_iff {entries rules : List (Scalar × Value)} :
    ruleEntries entries = .ok rules ↔ RulesOf (Value.lookup "rules" entries) rules := by
  rw [ruleEntries]
  cases Value.lookup "rules" entries with
  | none =>
    constructor
    · intro h
      cases h
      exact .missing
    · intro h
      cases h
      rfl
  | some v =>
    constructor
    · intro h
      dsimp only at h
      split at h
      · rename_i hempty
        cases h
        exact .empty (by simpa using hempty)
      · split at h
        · cases h
          exact .map rules
        · cases h
    · intro h
      cases h with
      | empty hempty =>
        simp only [hempty]
        rfl
      | map =>
        cases rules with
        | nil => rfl
        | cons e rest => rfl

/-! ## Configurations -/

/-- What asks for reports asks for some. -/
theorem exists_reportsOf {value : Option Value} (h : ∀ v, value = some v → IsReports v) :
    ∃ reports, ReportsOf value reports := by
  cases value with
  | none => exact ⟨_, .missing⟩
  | some v =>
    cases h v rfl with
    | empty hempty => exact ⟨_, .empty hempty⟩
    | name kind => exact ⟨_, .name kind⟩
    | list kinds => exact ⟨_, .list kinds⟩

theorem isReports_of_reportsOf {value : Option Value} {reports : Reports}
    (h : ReportsOf value reports) {v : Value} (hv : value = some v) : IsReports v := by
  subst hv
  cases h with
  | empty hempty => exact .empty hempty
  | name kind => exact .name kind
  | list kinds => exact .list kinds

theorem exists_rulesOf {value : Option Value} (h : ∀ v, value = some v → IsRules v) :
    ∃ rules, RulesOf value rules := by
  cases value with
  | none => exact ⟨_, .missing⟩
  | some v =>
    cases h v rfl with
    | empty hempty => exact ⟨_, .empty hempty⟩
    | map => exact ⟨_, .map _⟩

/-- What gives rules sets up each of them. -/
theorem RulesOf.isRules_iff {value : Option Value} {rules : List (Scalar × Value)}
    (h : RulesOf value rules) :
    (∀ v, value = some v → IsRules v) ↔ ∀ e ∈ rules, IsRule e.2 := by
  cases h with
  | missing => simp
  | empty hempty =>
    refine iff_of_true ?_ (by simp)
    rintro v ⟨⟩
    exact .empty hempty
  | map =>
    constructor
    · intro h
      cases h _ rfl with
      | empty hempty =>
        obtain rfl : rules = [] := by simpa [Value.isTrue] using hempty
        simp
      | map hrules => exact hrules
    · rintro hrules v ⟨⟩
      exact .map hrules

theorem RulesOf.mem_iff {entries rules : List (Scalar × Value)}
    (h : RulesOf (Value.lookup "rules" entries) rules) (k : Scalar) (v : Value) :
    (k, v) ∈ rules ↔ HasRule entries k v := by
  unfold HasRule
  generalize Value.lookup "rules" entries = value at h ⊢
  cases h with
  | missing => simp
  | empty hempty =>
    constructor
    · intro hmem
      cases hmem
    · rintro ⟨others, hvalue, hmem⟩
      cases hvalue
      obtain rfl : others = [] := by simpa [Value.isTrue] using hempty
      exact hmem
  | map => simp

/-- What is read belongs to the language, and is read as what it means. -/
theorem means_of_ofValue {entries : List (Scalar × Value)} {c : Configuration}
    (h : ofValue (.map entries) = .ok c) :
    (IsConfiguration entries ∧ NamesWritable entries) ∧ Means entries c := by
  rw [ofValue] at h
  obtain ⟨_, hkeys, h⟩ := bind_eq_ok.mp h
  obtain ⟨b₁, hthreshold, h⟩ := bind_eq_ok.mp h
  obtain ⟨b₂, hreports, h⟩ := bind_eq_ok.mp h
  obtain ⟨rules, hrules, h⟩ := bind_eq_ok.mp h
  obtain ⟨b, hread, h⟩ := bind_eq_ok.mp h
  cases h
  obtain ⟨n, hn, rfl⟩ := readThreshold_eq_ok_iff.mp hthreshold
  obtain ⟨reports, hasked, rfl⟩ := readReports_eq_ok_iff.mp hreports
  have hgiven : RulesOf (Value.lookup "rules" entries) rules := ruleEntries_eq_ok_iff.mp hrules
  obtain ⟨hlists, hb, hall⟩ := lists_of_readRules hread .start
  refine ⟨⟨⟨checkKeys_eq_ok_iff.mp hkeys, ?_, ?_, ?_⟩, ?_⟩, ?_, ?_, rules, hgiven, hlists⟩
  · intro v hv
    rw [hv] at hn
    cases hn
    exact ⟨n, rfl⟩
  · intro v hv
    exact isReports_of_reportsOf hasked hv
  · exact hgiven.isRules_iff.mpr fun e he => (hall e he).2
  · intro k v hrule
    exact (hall (k, v) ((hgiven.mem_iff k v).mpr hrule)).1
  · rw [hb]
    exact hn
  · rw [hb]
    exact hasked

/-- What belongs to the language is read if the names of rules can be written out. -/
theorem exists_ofValue {entries rules : List (Scalar × Value)} {n : Nat} {reports : Reports}
    (h : IsConfiguration entries) (hnames : NamesWritable entries)
    (hn : ThresholdOf (Value.lookup "threshold" entries) n)
    (hreports : ReportsOf (Value.lookup "reports" entries) reports)
    (hrules : RulesOf (Value.lookup "rules" entries) rules) :
    ∃ setups, Lists rules setups ∧ ofValue (.map entries) = .ok ⟨setups, reports, n⟩ := by
  have hall : ∀ e ∈ rules, e.1.isWritable = true ∧ IsRule e.2 := by
    intro e he
    exact ⟨hnames e.1 e.2 ((hrules.mem_iff e.1 e.2).mp he), hrules.isRules_iff.mp h.rules e he⟩
  obtain ⟨b, hread⟩ := exists_readRules hall { reports, threshold := n }
  obtain ⟨hlists, hb, -⟩ := lists_of_readRules hread .start
  refine ⟨b.rules, hlists, ?_⟩
  rw [ofValue]
  refine bind_eq_ok.mpr ⟨(), checkKeys_eq_ok_iff.mpr h.keys, ?_⟩
  refine bind_eq_ok.mpr ⟨_, readThreshold_eq_ok_iff.mpr ⟨n, hn, rfl⟩, ?_⟩
  refine bind_eq_ok.mpr ⟨_, readReports_eq_ok_iff.mpr ⟨reports, hreports, rfl⟩, ?_⟩
  refine bind_eq_ok.mpr ⟨rules, ruleEntries_eq_ok_iff.mpr hrules, bind_eq_ok.mpr ⟨b, hread, ?_⟩⟩
  rw [hb]
  rfl

theorem ofValue_eq_ok_iff {entries : List (Scalar × Value)} {c : Configuration} :
    ofValue (.map entries) = .ok c ↔
      (IsConfiguration entries ∧ NamesWritable entries) ∧ Means entries c := by
  constructor
  · exact means_of_ofValue
  · rintro ⟨⟨h, hnames⟩, hmeans⟩
    obtain ⟨rules, hrules, hlists⟩ := hmeans.rules
    obtain ⟨setups, hlists', hok⟩ :=
      exists_ofValue h hnames hmeans.threshold hmeans.reports hrules
    rw [hok, hlists'.unique hlists]

/-- Everything in the language has a meaning. -/
theorem IsConfiguration.exists_ofValue {entries : List (Scalar × Value)} (h : IsConfiguration entries)
    (hnames : NamesWritable entries) : ∃ c, ofValue (.map entries) = .ok c := by
  obtain ⟨n, hn⟩ : ∃ n, ThresholdOf (Value.lookup "threshold" entries) n := by
    cases hv : Value.lookup "threshold" entries with
    | none => exact ⟨0, .missing⟩
    | some v =>
      obtain ⟨n, rfl⟩ := h.threshold v hv
      exact ⟨n, .given n⟩
  obtain ⟨reports, hreports⟩ := exists_reportsOf h.reports
  obtain ⟨rules, hrules⟩ := exists_rulesOf h.rules
  obtain ⟨setups, -, hok⟩ := Configuration.exists_ofValue h hnames hn hreports hrules
  exact ⟨_, hok⟩

/-- A value is a configuration exactly if it is a mapping that belongs to the language and the names
of its rules can be written out, and the configuration is the one that it means. -/
theorem ofValue_accepts (v : Value) :
    ((∃ c, ofValue v = .ok c) ↔
      ∃ entries, v = .map entries ∧ IsConfiguration entries ∧ NamesWritable entries) ∧
    ∀ c, ofValue v = .ok c ↔ ∃ entries, v = .map entries ∧
      (IsConfiguration entries ∧ NamesWritable entries) ∧ Means entries c := by
  have hmap : ∀ c, ofValue v = .ok c → ∃ entries, v = .map entries := by
    intro c hc
    cases v with
    | map entries => exact ⟨entries, rfl⟩
    | scalar s => cases hc
    | list items => cases hc
  constructor
  · constructor
    · rintro ⟨c, hc⟩
      obtain ⟨entries, rfl⟩ := hmap c hc
      exact ⟨entries, rfl, (ofValue_eq_ok_iff.mp hc).1⟩
    · rintro ⟨entries, rfl, h, hnames⟩
      exact h.exists_ofValue hnames
  · intro c
    constructor
    · intro hc
      obtain ⟨entries, rfl⟩ := hmap c hc
      exact ⟨entries, rfl, ofValue_eq_ok_iff.mp hc⟩
    · rintro ⟨entries, rfl, h⟩
      exact ofValue_eq_ok_iff.mpr h

-- A truth value and a text can be written alike. The later entry counts, in the place of the first.
example : (ofValue (.map [(.text "rules", .map [(.bool true, .null), (.text "a", .null),
      (.text "True", .bool false)])])).toOption.map (fun c => c.rules.map fun r => (r.1, r.2.active)) =
    some [("True", false), ("a", true)] := by cbv

/-- A mapping that names one rule and says nothing about it. -/
def naming (k : Scalar) : List (Scalar × Value) := [(.text "rules", .map [(k, .null)])]

theorem isConfiguration_naming (k : Scalar) : IsConfiguration (naming k) where
  keys := by
    intro e he
    obtain rfl := List.mem_singleton.mp he
    simp
  threshold := by
    intro v hv
    cases hv
  reports := by
    intro v hv
    cases hv
  rules := by
    rintro v ⟨⟩
    refine .map fun e he => ?_
    obtain rfl := List.mem_singleton.mp he
    exact .null

/-- The least integer with too many digits cannot be written out. -/
theorem isWritable_least : (Scalar.int (Nat.pow 10 Scalar.maxDigits : Nat)).isWritable = false := by
  rw [Scalar.isWritable, Int.natAbs_natCast]
  exact decide_eq_false (Nat.lt_irrefl _)

/-- The language alone is not what is accepted: some names cannot be written out. -/
theorem not_only_language :
    ¬∀ v, (∃ c, ofValue v = .ok c) ↔ ∃ entries, v = .map entries ∧ IsConfiguration entries := by
  intro h
  let k : Scalar := .int (Nat.pow 10 Scalar.maxDigits : Nat)
  obtain ⟨c, hc⟩ := (h (.map (naming k))).mpr ⟨naming k, rfl, isConfiguration_naming k⟩
  have hwritable : k.isWritable = true :=
    (ofValue_eq_ok_iff.mp hc).1.2 k .null ⟨_, rfl, List.mem_singleton.mpr rfl⟩
  rw [isWritable_least] at hwritable
  cases hwritable

end MarkdownLint.Configuration
