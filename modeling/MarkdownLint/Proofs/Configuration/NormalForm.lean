import MarkdownLint.Proofs.Configuration.Language

/-!
The normal form of a configuration: one value that spells out everything the configuration holds,
whatever shorthands it was read from. What is read has distinct rules, whose parameters have names
that are free (`regular_of_ofValue`), and such a configuration is what its normal form is read as
(`Regular.ofValue_eq`).
-/
namespace MarkdownLint

/-! ## The normal form -/

/-- All settings of a setup, none left out: those that every rule has, and then the parameters. -/
def RuleSetup.settings (s : RuleSetup) : List (String × Value) :=
  ("active", .bool s.active) :: ("includes", .list (s.includes.map .text)) ::
    ("excludes", .list (s.excludes.map .text)) :: s.params

namespace Configuration

open Builder (SetupOf)

/-- The rules of a configuration, each name with all settings of its rule. -/
def ruleValues (rules : List (String × RuleSetup)) : List (Scalar × Value) :=
  rules.map fun r => (.text r.1, .map (entriesOf r.2.settings))

/-- The entries of the normal form. -/
def normalEntries (c : Configuration) : List (Scalar × Value) :=
  [(.text "threshold", .int c.threshold),
    (.text "reports", .list (c.reports.toList.map fun kind => .text kind.name)),
    (.text "rules", .map (ruleValues c.rules))]

/-- The normal form of a configuration. -/
def toValue (c : Configuration) : Value := .map c.normalEntries

/-! ## What configurations that are read have in common -/

/-- A name that a parameter can have: that of a setting, but not of one that every rule has. -/
def IsParamName (name : String) : Prop :=
  IsSettingName name ∧ name ∉ ["active", "includes", "excludes"]

/-- Rules are set up once each, with parameters that can be given. -/
structure Regular (c : Configuration) : Prop where
  names : (c.rules.map Prod.fst).Nodup
  params : ∀ r ∈ c.rules, ∀ p ∈ r.2.params, IsParamName p.1

/-- The parameters of a setup are settings of the rule that it was given by. -/
theorem isParamName_of_setupGiven {v : Value} {setup : RuleSetup} (hrule : IsRule v)
    (h : SetupGiven v setup) : ∀ p ∈ setup.params, IsParamName p.1 := by
  intro p hp
  cases h with
  | null => cases hp
  | bool active => cases hp
  | @settings named _ h =>
    cases hrule with
    | settings hsettings =>
      rw [h.params, List.mem_filter] at hp
      obtain ⟨hmem, hown⟩ := hp
      obtain ⟨name, hname, hallowed⟩ := hsettings.names (.text p.1, p.2) (List.mem_map_of_mem hmem)
      cases hname
      exact ⟨hallowed, of_decide_eq_true hown⟩

theorem regular_of_ofValue {v : Value} {c : Configuration} (h : ofValue v = .ok c) :
    c.Regular := by
  cases v with
  | scalar s => cases h
  | list items => cases h
  | map entries =>
    obtain ⟨⟨hconfiguration, -⟩, hmeans⟩ := ofValue_eq_ok_iff.mp h
    obtain ⟨rules, hrules, hlists⟩ := hmeans.rules
    refine ⟨hlists.nodup, ?_⟩
    intro r hr
    obtain ⟨e, he, hsetup⟩ :=
      hlists.last r.1 r.2 ((Association.lookup_eq_some_iff hlists.nodup).mpr hr)
    have hmem : e ∈ rules := List.mem_reverse.mp (List.mem_of_find?_eq_some he)
    exact isParamName_of_setupGiven (hrules.isRules_iff.mp hconfiguration.rules e hmem) hsetup

/-! ## Reading the normal form -/

theorem setupOf_settings {s : RuleSetup} (h : ∀ p ∈ s.params, IsParamName p.1) :
    SetupOf s.settings s where
  active := rfl
  includes := .list s.includes
  excludes := .list s.excludes
  params := by
    have hparams : s.params.filter (fun p => p.1 ∉ ["active", "includes", "excludes"]) =
        s.params := List.filter_eq_self.mpr fun p hp => decide_eq_true (h p hp).2
    -- the three settings before the parameters are those that are left out
    exact hparams.symm

theorem isSettingName_of_mem_settings {s : RuleSetup} (h : ∀ p ∈ s.params, IsParamName p.1) :
    ∀ p ∈ s.settings, IsSettingName p.1 := by
  intro p hp
  simp only [RuleSetup.settings, List.mem_cons] at hp
  rcases hp with rfl | rfl | rfl | hp
  · exact .inl (by simp)
  · exact .inl (by simp)
  · exact .inl (by simp)
  · exact (h p hp).1

/-- All settings of a setup give the setup back. -/
theorem isRule_settings {s : RuleSetup} (h : ∀ p ∈ s.params, IsParamName p.1) :
    IsRule (.map (entriesOf s.settings)) :=
  .settings (isSettings_of_setupOf (setupOf_settings h) (isSettingName_of_mem_settings h))

/-- Rules that are set up once each are listed as they stand. -/
theorem lists_ruleValues {rules : List (String × RuleSetup)} (hnames : (rules.map Prod.fst).Nodup)
    (hparams : ∀ r ∈ rules, ∀ p ∈ r.2.params, IsParamName p.1) :
    Lists (ruleValues rules) rules := by
  induction rules using List.reverseRecOn with
  | nil => exact .start
  | append_singleton rules r ih =>
    rw [List.map_append, List.nodup_append] at hnames
    obtain ⟨hbefore, -, hdistinct⟩ := hnames
    have hnew : r.1 ∉ rules.map Prod.fst := fun hmem => hdistinct r.1 hmem r.1 (by simp) rfl
    have hrest := ih hbefore fun r' hr' => hparams r' (List.mem_append_left _ hr')
    have hsetup : SetupGiven (.map (entriesOf r.2.settings)) r.2 :=
      .settings (setupOf_settings (hparams r (by simp)))
    have hlists := hrest.assign (k := .text r.1) hsetup
    rw [Scalar.display, Association.assign_of_not_mem hnew] at hlists
    rwa [ruleValues, List.map_append, List.map_singleton, ← ruleValues]

theorem ofList_toList (reports : Reports) : Reports.ofList reports.toList = reports := by
  obtain ⟨checkstyle, html⟩ := reports
  cases checkstyle <;> cases html <;> rfl

namespace Regular

variable {c : Configuration}

/-- A normal form belongs to the language. -/
theorem isConfiguration (h : c.Regular) : IsConfiguration c.normalEntries where
  keys := by
    intro e he
    simp only [normalEntries, List.mem_cons, List.not_mem_nil, or_false] at he
    rcases he with rfl | rfl | rfl <;> simp
  threshold := by
    rintro v ⟨⟩
    exact ⟨c.threshold, rfl⟩
  reports := by
    rintro v ⟨⟩
    exact .list c.reports.toList
  rules := by
    rintro v ⟨⟩
    refine .map fun e he => ?_
    obtain ⟨r, hr, rfl⟩ := List.mem_map.mp he
    exact isRule_settings (h.params r hr)

/-- A normal form means what it is the normal form of. -/
theorem means (h : c.Regular) : Means c.normalEntries c where
  threshold := .given c.threshold
  reports := by
    have hreports := ReportsOf.list c.reports.toList
    rwa [ofList_toList] at hreports
  rules := ⟨_, .map _, lists_ruleValues h.names h.params⟩

theorem ofValue_eq (h : c.Regular) : ofValue c.toValue = .ok c := by
  refine ofValue_eq_ok_iff.mpr ⟨⟨h.isConfiguration, ?_⟩, h.means⟩
  rintro k v ⟨rules, hrules, hmem⟩
  cases hrules
  obtain ⟨r, -, hr⟩ := List.mem_map.mp hmem
  cases hr
  rfl

end Regular

/-- Whatever a configuration was read from, it is what its normal form is read as, rules and
parameters in the same order. -/
theorem ofValue_toValue {v : Value} {c : Configuration} (h : ofValue v = .ok c) :
    ofValue c.toValue = .ok c := by
  have hregular : c.Regular := regular_of_ofValue h
  exact hregular.ofValue_eq

/-- Rules given by shorthands, two of them under names that are written alike. -/
def shorthands : Value :=
  .map [(.text "reports", .text "html"), (.text "rules", .map [(.bool true, .bool false),
    (.text "HrStyleRule", .map [(.text "style", .text "dash"), (.text "includes", .text "docs/.*"),
      (.text "excludes", .map [(.text "a.md", .null)])]), (.text "True", .null)])]

theorem ofValue_toValue_shorthands : ∃ c, ofValue shorthands = .ok c ∧
    c.rules.map Prod.fst = ["True", "HrStyleRule"] ∧ ofValue c.toValue = .ok c := by
  have h : ofValue shorthands = .ok {
      rules := [("True", {}), ("HrStyleRule", {
        includes := ["docs/.*"], excludes := ["a.md"], params := [("style", .text "dash")] })]
      reports := ⟨false, true⟩ } := by rfl
  exact ⟨_, h, rfl, ofValue_toValue h⟩

end Configuration

end MarkdownLint
