import MarkdownLint.Configuration.Mapping
import MarkdownLint.Proofs.Rule.Validity
import MarkdownLint.Text.CharacterName

/-!
Why configurations have no rules. A configuration that has none is refused for a mistake in it, or
because a pattern repeats more often than can be counted (`Configuration.instantiate_cases`). The
latter takes a configuration whose first rule that cannot be made has such a pattern as the first
one without a meaning (`Configuration.Overflows`): names of rules and parameters, and all that comes
before it in the order of the catalog, are looked at first.
-/
namespace MarkdownLint

/-- Texts of which the first one that is no pattern repeats more often than can be counted. -/
def Pattern.Overflow (named : CharacterNames) (texts : List String) : Prop :=
  StopsAt (IsPattern named) (fun text => compile named text = .error .repetitionTooLarge) texts

/-- Settings whose patterns repeat too often. Parameters that the kind does not take are noticed
before the patterns, and the values of the others after them. -/
structure RuleSetup.Overflows (named : Pattern.CharacterNames) (kind : CheckKind) (s : RuleSetup) :
    Prop where
  names : ∀ p ∈ s.params, kind.Takes p.1
  patterns : Pattern.Overflow named (s.includes ++ s.excludes)

/-- A configuration of known rules whose first active rule that cannot be made has patterns which
repeat too often. -/
structure Configuration.Overflows (named : Pattern.CharacterNames) (c : Configuration) : Prop where
  known : c.Known
  setups : StopsAt (fun kind => (c.ruleSetup kind.name).Valid named kind)
    (fun kind => (c.ruleSetup kind.name).Overflows named kind) c.activeKinds

namespace Rule

variable {named : Pattern.CharacterNames} {kind : CheckKind} {params : List (String × Value)}
  {v : Value} {e : RuleError}

/-- A computation fails because a pattern repeats too often. -/
def Overflowing {α : Type} (x : Except RuleError α) : Prop := FailsWith (·.isOverflow = true) x

instance {α : Type} (x : Except RuleError α) : Decidable (Overflowing x) :=
  inferInstanceAs (Decidable (FailsWith (·.isOverflow = true) x))

theorem overflowing_compileAll_iff {texts : List String} :
    Overflowing (compileAll named texts) ↔ Pattern.Overflow named texts := by
  have hpasses : ∀ text,
      (∃ p, (Pattern.compile named text).mapError (RuleError.pattern text) = .ok p) ↔
        Pattern.IsPattern named text := by
    intro text
    rw [Pattern.IsPattern]
    cases Pattern.compile named text <;> simp
  have hstops : ∀ text, FailsWith (·.isOverflow = true)
      ((Pattern.compile named text).mapError (RuleError.pattern text)) ↔
        Pattern.compile named text = .error .repetitionTooLarge := by
    intro text
    cases Pattern.compile named text with
    | ok p => simp
    | error e => cases e <;> simp [RuleError.isOverflow]
  rw [compileAll_eq_mapM, Overflowing, failsWith_mapM, Pattern.Overflow]
  simp only [hpasses, hstops]

theorem not_overflowing_checkParams : ¬Overflowing (checkParams kind params) := by
  rw [checkParams, Overflowing]
  split
  · simp [RuleError.isOverflow]
  · split
    · split <;> simp [RuleError.isOverflow]
    · simp

/-! A value that a parameter cannot have is refused as such. -/

theorem cause_of_limitOf (h : limitOf v = .error e) : e = .maxLineLength v := by
  unfold limitOf at h
  split at h
  · split at h
    · cases h
    · exact (Except.error.inj h).symm
  · exact (Except.error.inj h).symm

theorem cause_of_levelOf (h : levelOf v = .error e) : e = .level v := by
  unfold levelOf at h
  split at h
  · split at h
    · split at h
      · cases h
      · exact (Except.error.inj h).symm
    · exact (Except.error.inj h).symm
  · exact (Except.error.inj h).symm

theorem cause_of_styleOf (h : styleOf v = .error e) : e = .style v := by
  unfold styleOf at h
  split at h
  · split at h
    · exact (Except.error.inj h).symm
    · cases h
  · exact (Except.error.inj h).symm

theorem cause_of_checkOf (h : checkOf kind params = .error e) :
    ∃ v, e = .maxLineLength v ∨ e = .level v ∨ e = .style v := by
  have hvalue : ∀ {α : Type} {x : Except RuleError α} {f : α → Check},
      (x >>= fun a => pure (f a)) = .error e → x = .error e := by
    intro α x f h
    cases x with
    | ok a => cases h
    | error e' =>
      cases h
      rfl
  cases kind with
  | lineLength => exact ⟨_, .inl (cause_of_limitOf (hvalue h))⟩
  | firstHeading => exact ⟨_, .inr (.inl (cause_of_levelOf (hvalue h)))⟩
  | singleHeading => exact ⟨_, .inr (.inl (cause_of_levelOf (hvalue h)))⟩
  | breakStyle => exact ⟨_, .inr (.inr (cause_of_styleOf (hvalue h)))⟩
  | _ => cases h

theorem not_overflowing_checkOf : ¬Overflowing (checkOf kind params) := by
  rintro ⟨e, he, hoverflow⟩
  obtain ⟨v, rfl | rfl | rfl⟩ := cause_of_checkOf he
  all_goals cases hoverflow

/-- Making a rule fails because of a pattern that repeats too often exactly for such settings. -/
theorem overflowing_make_iff {s : RuleSetup} :
    Overflowing (make named kind s s.params) ↔ s.Overflows named kind := by
  have hcheck : ∀ includes excludes,
      ¬Overflowing (checkOf kind s.params >>= fun check =>
        pure (⟨check, s, includes, excludes⟩ : Rule)) := by
    intro includes excludes h
    rcases failsWith_bind.mp h with h | ⟨check, -, h⟩
    · exact not_overflowing_checkOf h
    · exact not_failsWith_ok _ h
  constructor
  · intro h
    rcases failsWith_bind.mp h with h | ⟨⟨⟩, hparams, h⟩
    · exact absurd h not_overflowing_checkParams
    refine ⟨checkParams_eq_ok_iff.mp hparams, stopsAt_append.mpr ?_⟩
    rcases failsWith_bind.mp h with h | ⟨includes, hincludes, h⟩
    · exact .inl (overflowing_compileAll_iff.mp h)
    refine .inr ⟨exists_compileAll_iff.mp ⟨includes, hincludes⟩, ?_⟩
    rcases failsWith_bind.mp h with h | ⟨excludes, -, h⟩
    · exact overflowing_compileAll_iff.mp h
    · exact absurd h (hcheck includes excludes)
  · rintro ⟨hnames, hpatterns⟩
    refine failsWith_bind.mpr (.inr ⟨(), checkParams_eq_ok_iff.mpr hnames, ?_⟩)
    rcases stopsAt_append.mp hpatterns with h | ⟨hincludes, h⟩
    · exact failsWith_bind.mpr (.inl (overflowing_compileAll_iff.mpr h))
    obtain ⟨includes, hincludes⟩ := exists_compileAll_iff.mpr hincludes
    refine failsWith_bind.mpr (.inr ⟨includes, hincludes, ?_⟩)
    exact failsWith_bind.mpr (.inl (overflowing_compileAll_iff.mpr h))

end Rule

namespace Configuration

variable {named : Pattern.CharacterNames} {c : Configuration} {kind : CheckKind} {e : SetupError}

theorem makeRule_error_cases (h : c.makeRule named kind = .error e) :
    (∃ m, e = .configuration m) ∨ e = .repetitionTooLarge := by
  rw [makeRule] at h
  cases hmake : Rule.make named kind (c.ruleSetup kind.name) (c.ruleSetup kind.name).params with
  | ok r => simp [hmake] at h
  | error cause =>
    simp only [hmake, Except.error.injEq] at h
    subst h
    split
    · exact .inr rfl
    · exact .inl ⟨_, rfl⟩

theorem makeRule_overflows_iff : c.makeRule named kind = .error .repetitionTooLarge ↔
    (c.ruleSetup kind.name).Overflows named kind := by
  rw [← Rule.overflowing_make_iff, makeRule, Rule.Overflowing]
  cases Rule.make named kind (c.ruleSetup kind.name) (c.ruleSetup kind.name).params with
  | ok r => simp
  | error cause => simp

/-- A configuration without rules is refused for a mistake, or because a pattern repeats too
often. -/
theorem instantiate_cases (named : Pattern.CharacterNames) (c : Configuration) :
    (∃ rules, c.instantiate named = .ok rules) ∨
      (∃ m, c.instantiate named = .error (.configuration m)) ∨
      c.instantiate named = .error .repetitionTooLarge := by
  by_cases hknown : c.Known
  · rw [instantiate_of_known hknown]
    cases hrules : c.activeKinds.mapM (c.makeRule named) with
    | ok rules => exact .inl ⟨rules, rfl⟩
    | error e =>
      obtain ⟨kind, -, hkind⟩ := (mapM_eq_error_iff.mp hrules).exists_mem
      rcases makeRule_error_cases hkind with ⟨m, rfl⟩ | rfl
      · exact .inr (.inl ⟨m, rfl⟩)
      · exact .inr (.inr rfl)
  · exact .inr (.inl ⟨_, instantiate_of_not_known hknown⟩)

theorem instantiate_overflows_iff :
    c.instantiate named = .error .repetitionTooLarge ↔ c.Overflows named := by
  by_cases hknown : c.Known
  · rw [instantiate_of_known hknown, mapM_eq_error_iff]
    simp only [exists_makeRule_iff, makeRule_overflows_iff]
    exact ⟨fun h => ⟨hknown, h⟩, fun h => h.setups⟩
  · rw [instantiate_of_not_known hknown]
    exact ⟨nofun, fun h => absurd h.known hknown⟩

/-- A configuration has rules, or is refused for a mistake, or is one of those whose patterns repeat
too often, and these alone are refused for that. -/
theorem refused_for_mistakes_and_overflows (named : Pattern.CharacterNames) (c : Configuration) :
    ((∃ rules, c.instantiate named = .ok rules) ∨
      (∃ m, c.instantiate named = .error (.configuration m)) ∨
      c.instantiate named = .error .repetitionTooLarge) ∧
    (c.instantiate named = .error .repetitionTooLarge ↔ c.Overflows named) :=
  ⟨instantiate_cases named c, instantiate_overflows_iff⟩

/-- A configuration with a pattern that repeats too often. -/
def repetitive : Configuration where
  rules := [("LineLengthRule", { excludes := ["x\x7b99999999999\x7d"] })]

/-- A pattern that repeats too often is not put down to the configuration. -/
theorem not_only_mistakes_of_rules :
    ¬∀ v c, ofValue v = .ok c →
      (∃ rules, c.instantiate Text.characterNamed? = .ok rules) ∨
        ∃ m, c.instantiate Text.characterNamed? = .error (.configuration m) := by
  intro h
  have hvalue : ofValue (.map [(.text "rules", .map [(.text "LineLengthRule",
      .map [(.text "excludes", .list [.text "x\x7b99999999999\x7d"])])])]) = .ok repetitive := by
    rfl
  have hactive : repetitive.activeKinds = CheckKind.all := by decide +kernel
  have hsetup : repetitive.ruleSetup CheckKind.lineLength.name =
      { excludes := ["x\x7b99999999999\x7d"] } := rfl
  have hpatterns : Pattern.Overflow Text.characterNamed? [".*", "x\x7b99999999999\x7d"] :=
    Rule.overflowing_compileAll_iff.mp (by decide +kernel)
  have hoverflows : repetitive.Overflows Text.characterNamed? := by
    refine ⟨List.forall_mem_singleton.mpr ⟨.lineLength, rfl⟩, ?_⟩
    rw [hactive]
    -- the rules ahead of it in the catalog have no settings
    refine .later ?_ (.later ?_ (.later ?_ (.here ?overflows)))
    case overflows =>
      rw [hsetup]
      exact ⟨by simp, hpatterns⟩
    all_goals exact exists_makeRule_iff.mp ⟨_, rfl⟩
  have hoverflow := instantiate_overflows_iff.mpr hoverflows
  rcases h _ _ hvalue with ⟨rules, hrules⟩ | ⟨m, hm⟩
  · rw [hoverflow] at hrules
    cases hrules
  · rw [hoverflow] at hm
    cases hm

end Configuration

end MarkdownLint
