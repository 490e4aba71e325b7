import MarkdownLint.Configuration.File
import MarkdownLint.Proofs.Lists
import Mathlib.Tactic.SplitIfs

/-!
What a value is refused for that is no configuration. Most causes are mistakes, which are told to
its author; the others, the flaws of `Flawed`, go past those who wait for mistakes. No other causes
arise, and nothing flawed is a configuration (`ofValue_answers`); a mistake in a file is told with
its path (`ofFile_cases`).
-/
namespace MarkdownLint.Configuration

/-! ## Flaws -/

/-- The kinds of keys; there is an order among those of one kind. -/
inductive KeyKind where
  | text
  | number
  | date
  | moment (zoned : Bool)

/-- The kind of a key. Nothing has no order, not even to itself. -/
def keyKind? : Scalar → Option KeyKind
  | .null => none
  | .bool _ => some .number
  | .int _ => some .number
  | .float _ => some .number
  | .text _ => some .text
  | .date _ => some .date
  | .moment m => some (.moment m.zone.isSome)

/-- Whether there is an order among two keys. -/
def Comparable (a b : Scalar) : Prop := ∃ kind, keyKind? a = some kind ∧ keyKind? b = some kind

/-- The flaws of the settings of a rule, with what is said of them: a name that is too long to be
written, a name that is given already, and patterns that are neither a text nor a collection. -/
inductive FlawedSettings (settings : List (Scalar × Value)) : SetupError → Prop where
  | unwritable {key : Scalar} {v : Value} : (key, v) ∈ settings → key.isWritable = false →
      FlawedSettings settings .tooManyDigits
  | repeated {v : Value} : (.text "self", v) ∈ settings →
      FlawedSettings settings (.repeatedArgument "self")
  | patterns {key : String} {s : Scalar} : key ∈ ["includes", "excludes"] →
      Value.lookup key settings = some (.scalar s) → s ≠ .null → (∀ t, s ≠ .text t) →
      FlawedSettings settings (.notIterable s.typeName)

/-- Whether a configuration gives a value to a rule. -/
def HasRule (entries : List (Scalar × Value)) (k : Scalar) (v : Value) : Prop :=
  ∃ rules, Value.lookup "rules" entries = some (.map rules) ∧ (k, v) ∈ rules

/-- The flaws of a value, with what is said of them: unknown keys without an order, what is to be
written and is too long for it, and the flaws of the settings of rules. -/
inductive Flawed : Value → SetupError → Prop where
  | unordered {entries : List (Scalar × Value)} : ¬(unknownKeys entries).Pairwise Comparable →
      Flawed (.map entries) .unorderedKeys
  | unwritableKey {entries : List (Scalar × Value)} {k : Scalar} : k ∈ unknownKeys entries →
      k.isWritable = false → Flawed (.map entries) .tooManyDigits
  | unwritableThreshold {entries : List (Scalar × Value)} {v : Value} :
      Value.lookup "threshold" entries = some v → (∀ n : Nat, v ≠ .int n) → v.isWritable = false →
      Flawed (.map entries) .tooManyDigits
  | unwritableReport {entries : List (Scalar × Value)} {items : List Value} {v : Value} :
      Value.lookup "reports" entries = some (.list items) → v ∈ items → v.isWritable = false →
      Flawed (.map entries) .tooManyDigits
  | unwritableRule {entries : List (Scalar × Value)} {k : Scalar} {v : Value} :
      HasRule entries k v → k.isWritable = false → Flawed (.map entries) .tooManyDigits
  | settings {entries settings : List (Scalar × Value)} {k : Scalar} {e : SetupError} :
      HasRule entries k (.map settings) → FlawedSettings settings e → Flawed (.map entries) e

/-! ## Steps -/

/-- What comes of a step: a result of which something holds, or a refusal, for a mistake or for one
of some flaws. -/
def Answers {α : Type} (good : α → Prop) (flaw : SetupError → Prop) (x : Except SetupError α) :
    Prop :=
  (∃ a, x = .ok a ∧ good a) ∨ (∃ m, x = .error (.configuration m)) ∨ ∃ e, x = .error e ∧ flaw e

namespace Answers

variable {α β : Type} {good : α → Prop} {good' : β → Prop} {flaw flaw' : SetupError → Prop}
variable {x : Except SetupError α}

theorem ok {a : α} (h : good a) : Answers good flaw (.ok a) := .inl ⟨a, rfl, h⟩

theorem mistake (m : ConfigurationError) : Answers good flaw (.error (.configuration m)) :=
  .inr (.inl ⟨m, rfl⟩)

theorem error {e : SetupError} (h : flaw e) : Answers good flaw (.error e) :=
  .inr (.inr ⟨e, rfl, h⟩)

/-- A mistake is told unless its value is too long to be written. -/
theorem quoting {v : Value} (h : v.isWritable = false → flaw .tooManyDigits)
    (m : ConfigurationError) : Answers good flaw (.error (.quoting v m)) := by
  cases hv : v.isWritable with
  | true =>
    rw [SetupError.quoting, hv, if_pos rfl]
    exact mistake m
  | false =>
    rw [SetupError.quoting, hv, if_neg (by decide)]
    exact error (h hv)

theorem mono {good' : α → Prop} (hx : Answers good flaw x) (hgood : ∀ a, good a → good' a)
    (hflaw : ∀ e, flaw e → flaw' e) : Answers good' flaw' x := by
  rcases hx with ⟨a, rfl, ha⟩ | ⟨m, rfl⟩ | ⟨e, rfl, he⟩
  · exact ok (hgood a ha)
  · exact mistake m
  · exact error (hflaw e he)

/-- A step after another one. -/
theorem bind {f : α → Except SetupError β} (hx : Answers good flaw x)
    (hf : ∀ a, good a → Answers good' flaw (f a)) : Answers good' flaw (x >>= f) := by
  rcases hx with ⟨a, rfl, ha⟩ | ⟨m, rfl⟩ | ⟨e, rfl, he⟩
  · exact hf a ha
  · exact mistake m
  · exact error he

theorem map {f : α → β} (hx : Answers good flaw x) (hf : ∀ a, good a → good' (f a)) :
    Answers good' flaw (x.map f) := by
  rcases hx with ⟨a, rfl, ha⟩ | ⟨m, rfl⟩ | ⟨e, rfl, he⟩
  · exact ok (hf a ha)
  · exact mistake m
  · exact error he

end Answers

/-! ## Keys -/

theorem keyText_answers {flaw : SetupError → Prop} {k : Scalar}
    (h : k.isWritable = false → flaw .tooManyDigits) :
    Answers (fun _ => k.isWritable = true) flaw (keyText k) := by
  rw [keyText]
  split
  · rename_i hk
    exact .ok hk
  · rename_i hk
    exact .error (h (Bool.eq_false_iff.mpr hk))

theorem keyTexts_answers {flaw : SetupError → Prop} {keys : List Scalar}
    (h : ∀ k ∈ keys, k.isWritable = false → flaw .tooManyDigits) :
    Answers (fun _ => True) flaw (keys.mapM keyText) := by
  induction keys with
  | nil => exact .ok trivial
  | cons k rest ih =>
    rw [List.mapM_cons]
    refine .bind (keyText_answers (h k List.mem_cons_self)) fun text _ => ?_
    exact .bind (ih fun k' hk' => h k' (List.mem_cons_of_mem k hk')) fun texts _ => .ok trivial

theorem perm_of_sortKeys? {keys sorted : List Scalar} (h : sortKeys? keys = some sorted) :
    sorted.Perm keys := by
  simp only [sortKeys?] at h
  split at h
  · cases h
    exact .refl _
  · split_ifs at h <;> cases h <;> exact List.mergeSort_perm _ _

/-- Keys of one kind have an order. -/
theorem sortKeys?_ne_none {keys : List Scalar} {kind : KeyKind}
    (h : ∀ k ∈ keys, keyKind? k = some kind) : sortKeys? keys ≠ none := by
  have hall : ∀ p : Scalar → Bool, (∀ k, keyKind? k = some kind → p k = true) → keys.all p = true :=
    fun p hp => List.all_eq_true.mpr fun k hk => hp k (h k hk)
  simp only [sortKeys?]
  split_ifs with hshort htexts hnumbers hdates hmoments
  iterate 5 exact Option.some_ne_none _
  cases kind with
  | text =>
    refine absurd (hall _ fun k hk => ?_) htexts
    cases k <;> simp [keyKind?] at hk ⊢
  | number =>
    refine absurd (hall _ fun k hk => ?_) hnumbers
    cases k <;> simp [keyKind?, numeric?] at hk ⊢
  | date =>
    refine absurd (hall _ fun k hk => ?_) hdates
    cases k <;> simp [keyKind?] at hk ⊢
  | moment zoned =>
    refine absurd ?_ hmoments
    rw [Bool.or_eq_true]
    cases zoned with
    | false =>
      refine .inr (hall _ fun k hk => ?_)
      cases k <;> simp [keyKind?] at hk ⊢
      exact hk
    | true =>
      refine .inl (hall _ fun k hk => ?_)
      cases k <;> simp [keyKind?] at hk ⊢
      exact hk

/-- Keys that have no order among them are of different kinds. -/
theorem not_pairwise_of_sortKeys? {keys : List Scalar} (h : sortKeys? keys = none) :
    ¬keys.Pairwise Comparable := by
  intro hpairwise
  cases hpairwise with
  | nil => cases h
  | cons hfirst hrest =>
    rename_i first rest
    cases rest with
    | nil => cases h
    | cons second rest =>
      obtain ⟨kind, hkind, -⟩ := hfirst second List.mem_cons_self
      have hall : ∀ k ∈ first :: second :: rest, keyKind? k = some kind := by
        intro k hk
        rcases List.mem_cons.mp hk with rfl | hk
        · exact hkind
        · obtain ⟨kind', hkind', hother⟩ := hfirst k hk
          rw [hother, ← hkind', hkind]
      exact sortKeys?_ne_none hall h

theorem checkKeys_answers (entries : List (Scalar × Value)) :
    Answers (fun _ => unknownKeys entries = []) (Flawed (.map entries)) (checkKeys entries) := by
  rw [checkKeys]
  split
  · rename_i hempty
    exact .ok (List.isEmpty_iff.mp hempty)
  · split
    · rename_i keys hkeys
      refine .bind (keyTexts_answers fun k hk hlong => ?_) fun texts _ => .mistake _
      exact .unwritableKey ((perm_of_sortKeys? hkeys).mem_iff.mp hk) hlong
    · rename_i hkeys
      exact .error (.unordered (not_pairwise_of_sortKeys? hkeys))

/-! ## Threshold and reports -/

theorem thresholdOf_answers {flaw : SetupError → Prop} {v : Value}
    (h : (∀ n : Nat, v ≠ .int n) → v.isWritable = false → flaw .tooManyDigits) :
    Answers (fun n : Nat => v = .int n) flaw (Builder.thresholdOf v) := by
  unfold Builder.thresholdOf
  split
  · exact .ok rfl
  · rename_i hother
    exact .quoting (h fun n hn => hother n hn) _

theorem readThreshold_answers (b : Builder) (entries : List (Scalar × Value)) :
    Answers (fun _ => ∀ v, Value.lookup "threshold" entries = some v → ∃ n : Nat, v = .int n)
      (Flawed (.map entries)) (readThreshold b entries) := by
  rw [readThreshold]
  cases hv : Value.lookup "threshold" entries with
  | none => exact .ok nofun
  | some v =>
    refine .bind (thresholdOf_answers (.unwritableThreshold hv)) fun n hn => .ok ?_
    rintro w ⟨⟩
    exact ⟨n, hn⟩

theorem reportsOf_answers {flaw : SetupError → Prop} {values : List Value}
    (h : ∀ v ∈ values, v.isWritable = false → flaw .tooManyDigits) :
    Answers (fun _ => ∀ v ∈ values, v.isWritable = true) flaw (Builder.reportsOf values) := by
  induction values with
  | nil => exact .ok (by simp)
  | cons v rest ih =>
    simp only [Builder.reportsOf]
    split
    · exact .quoting (h v List.mem_cons_self) _
    · rename_i kind hkind
      refine .map (ih fun w hw => h w (List.mem_cons_of_mem v hw)) fun kinds hrest => ?_
      intro w hw
      rcases List.mem_cons.mp hw with rfl | hw
      · split at hkind
        · rfl
        · cases hkind
      · exact hrest w hw

theorem readReports_answers (b : Builder) (entries : List (Scalar × Value)) :
    Answers (fun _ => ∀ items, Value.lookup "reports" entries = some (.list items) →
        ∀ v ∈ items, v.isWritable = true)
      (Flawed (.map entries)) (readReports b entries) := by
  rw [readReports]
  cases hv : Value.lookup "reports" entries with
  | none => exact .ok nofun
  | some v =>
    dsimp only
    split
    · rename_i hempty
      refine .ok ?_
      rintro items ⟨⟩ w hw
      cases items with
      | nil => cases hw
      | cons first rest => cases hempty
    · split
      · refine .bind (reportsOf_answers fun w hw hlong => ?_) fun _ _ => .ok nofun
        obtain rfl := List.mem_singleton.mp hw
        cases hlong
      · refine .bind (reportsOf_answers fun w hw hlong => ?_) fun _ hitems => .ok ?_
        · exact .unwritableReport hv hw hlong
        · rintro items' ⟨⟩
          exact hitems
      · exact .mistake _

/-! ## Rules -/

/-- Settings are given by a mapping, or they hold nothing but whether the rule runs. -/
theorem settingsOf_answers {flaw : SetupError → Prop} (rule : String) (v : Value) :
    Answers (fun settings => v = .map settings ∨
        (∀ entries, v ≠ .map entries) ∧ ∀ e ∈ settings, e.1 = .text "active")
      flaw (settingsOf rule v) := by
  unfold settingsOf
  split
  · exact .ok (.inr ⟨by simp, by simp⟩)
  · exact .ok (.inr ⟨by simp, by simp⟩)
  · exact .ok (.inl rfl)
  · exact .mistake _

theorem mem_of_lookup {key : String} {v : Value} {entries : List (Scalar × Value)}
    (h : Value.lookup key entries = some v) : (.text key, v) ∈ entries := by
  obtain ⟨entry, hfind, rfl⟩ := Option.map_eq_some_iff.mp h
  have hkey := List.find?_some hfind
  rw [← beq_iff_eq.mp hkey]
  exact List.mem_of_find?_eq_some hfind

/-- Whether a rule runs is no flaw. -/
theorem not_flawedSettings_of_active {settings : List (Scalar × Value)}
    (h : ∀ e ∈ settings, e.1 = .text "active") (e : SetupError) : ¬FlawedSettings settings e := by
  intro hflaw
  cases hflaw with
  | unwritable hmem hlong =>
    have hkey := h _ hmem
    subst hkey
    cases hlong
  | repeated hmem => exact absurd (h _ hmem) (by simp)
  | patterns hkey hlookup hnull htext =>
    have hactive := h _ (mem_of_lookup hlookup)
    cases hactive
    exact absurd hkey (by decide)

theorem setupKeys_free : ∀ key ∈ Builder.setupKeys, key ∉ reservedParams := by decide

/-- The entries of a mapping whose keys are texts. -/
def entriesOf (named : List (String × Value)) : List (Scalar × Value) :=
  named.map fun p => (.text p.1, p.2)

/-- Settings that are accepted have texts as names, those of every rule or others that are free. -/
theorem namedSettings_answers {flaw : SetupError → Prop} (rule : String)
    {settings : List (Scalar × Value)}
    (h : ∀ e ∈ settings, e.1.isWritable = false → flaw .tooManyDigits) :
    Answers (fun named => settings = entriesOf named ∧ ∀ p ∈ named, p.1 ∉ reservedParams)
      flaw (namedSettings rule settings) := by
  induction settings with
  | nil => exact .ok ⟨rfl, by simp⟩
  | cons entry rest ih =>
    obtain ⟨k, v⟩ := entry
    simp only [namedSettings]
    split
    · exact .quoting (v := .scalar k) (h (k, v) List.mem_cons_self) _
    · rename_i name hname
      refine .map (ih fun e he => h e (List.mem_cons_of_mem _ he)) ?_
      rintro named ⟨rfl, hfree⟩
      have hk : k = .text name ∧ name ∉ reservedParams := by
        split at hname
        · split at hname
          · rename_i hs
            cases hname
            refine ⟨rfl, ?_⟩
            rcases Bool.or_eq_true_iff.mp hs with hsetup | hs
            · exact setupKeys_free _ (List.contains_iff_mem.mp hsetup)
            · simpa using (Bool.and_eq_true_iff.mp hs).2
          · cases hname
        · cases hname
      obtain ⟨rfl, hkfree⟩ := hk
      exact ⟨rfl, List.forall_mem_cons.mpr ⟨hkfree, hfree⟩⟩

theorem lookup_entriesOf (key : String) (named : List (String × Value)) :
    Value.lookup key (entriesOf named) = named.lookup key := by
  induction named with
  | nil => rfl
  | cons p rest ih =>
    obtain ⟨name, v⟩ := p
    by_cases hkey : key = name
    · simp [Value.lookup, entriesOf, hkey]
    · have hbeq : (key == name) = false := beq_eq_false_iff_ne.mpr hkey
      rw [List.lookup_cons, hbeq, ← ih]
      simp [Value.lookup, entriesOf, Ne.symm hkey]

theorem patterns_answers {flaw : SetupError → Prop} (rule key : String) {value : Option Value}
    (standard : List String)
    (h : ∀ s, value = some (.scalar s) → s ≠ .null → (∀ t, s ≠ .text t) →
      flaw (.notIterable s.typeName)) :
    Answers (fun _ => ∀ s, value = some (.scalar s) → s = .null ∨ ∃ t, s = .text t) flaw
      (Builder.patterns rule key value standard) := by
  simp only [Builder.patterns]
  split
  · exact .ok (by simp)
  · exact .ok (by simp)
  · exact .ok (by simp)
  · split
    · exact .ok (by simp)
    · exact .mistake _
  · split
    · exact .ok (by simp)
    · exact .mistake _
  · rename_i s hnull htext
    exact .error (h s rfl (fun hs => hnull (by rw [hs])) fun t ht => htext t (by rw [ht]))

theorem not_flawedSettings_entriesOf {named : List (String × Value)}
    (hself : ∀ p ∈ named, p.1 ≠ "self")
    (hpatterns : ∀ key ∈ ["includes", "excludes"], ∀ s, named.lookup key = some (.scalar s) →
      s = .null ∨ ∃ t, s = .text t) (e : SetupError) : ¬FlawedSettings (entriesOf named) e := by
  intro hflaw
  cases hflaw with
  | unwritable hmem hlong =>
    obtain ⟨p, -, hp⟩ := List.mem_map.mp hmem
    cases hp
    cases hlong
  | repeated hmem =>
    obtain ⟨p, hp, heq⟩ := List.mem_map.mp hmem
    exact hself p hp (Scalar.text.inj (congrArg Prod.fst heq))
  | patterns hkey hlookup hnull htext =>
    rw [lookup_entriesOf] at hlookup
    rcases hpatterns _ hkey _ hlookup with hs | ⟨t, ht⟩
    · exact hnull hs
    · exact htext t ht

theorem setupOf_answers (rule : String) {named : List (String × Value)}
    (hfree : ∀ p ∈ named, p.1 ∉ reservedParams) :
    Answers (fun _ => ∀ e, ¬FlawedSettings (entriesOf named) e) (FlawedSettings (entriesOf named))
      (Builder.setupOf rule named) := by
  rw [Builder.setupOf]
  split
  · rename_i p hp
    have hmem : p ∈ named := List.mem_of_find?_eq_some hp
    have hself : p.1 = "self" := by
      have hgiven := List.find?_some hp
      have hname : p.1 ≠ "name" := fun hname => hfree p hmem (by simp [hname, reservedParams])
      simpa [Builder.givenArguments, hname] using hgiven
    rw [hself]
    exact .error (.repeated (v := p.2) (List.mem_map.mpr ⟨p, hmem, by rw [hself]⟩))
  · rename_i hgiven
    split
    · have hflaw : ∀ key ∈ ["includes", "excludes"], ∀ s, named.lookup key = some (.scalar s) →
          s ≠ .null → (∀ t, s ≠ .text t) →
          FlawedSettings (entriesOf named) (.notIterable s.typeName) :=
        fun key hkey s hs => .patterns hkey (by rw [lookup_entriesOf, hs])
      refine .bind (patterns_answers rule "includes" _ (hflaw _ (by simp))) fun _ hincludes => ?_
      refine .bind (patterns_answers rule "excludes" _ (hflaw _ (by simp))) fun _ hexcludes => ?_
      refine .ok (not_flawedSettings_entriesOf ?_ ?_)
      · intro p hp hself
        exact List.find?_eq_none.mp hgiven p hp (by simp [hself, Builder.givenArguments])
      · simpa using ⟨hincludes, hexcludes⟩
    · exact .mistake _

theorem rule_answers (b : Builder) (name : String) {named : List (String × Value)}
    (hfree : ∀ p ∈ named, p.1 ∉ reservedParams) :
    Answers (fun _ => ∀ e, ¬FlawedSettings (entriesOf named) e) (FlawedSettings (entriesOf named))
      (b.rule name named) :=
  .bind (setupOf_answers name hfree) fun _ h => .ok h

/-- A rule is refused for its name, or for a mistake or a flaw of its settings. -/
theorem readRules_answers {flaw : SetupError → Prop} {rules : List (Scalar × Value)}
    (hname : ∀ k v, (k, v) ∈ rules → k.isWritable = false → flaw .tooManyDigits)
    (hsettings : ∀ k settings e, (k, .map settings) ∈ rules → FlawedSettings settings e → flaw e)
    (b : Builder) :
    Answers (fun _ => (∀ k v, (k, v) ∈ rules → k.isWritable = true) ∧
        ∀ k settings e, (k, .map settings) ∈ rules → ¬FlawedSettings settings e)
      flaw (readRules b rules) := by
  induction rules generalizing b with
  | nil => exact .ok (by simp)
  | cons entry rest ih =>
    obtain ⟨k, v⟩ := entry
    rw [readRules]
    refine .bind (keyText_answers (hname k v List.mem_cons_self)) fun name hk => ?_
    refine .bind (settingsOf_answers name v) fun settings hv => ?_
    have hflaw : ∀ e, FlawedSettings settings e → flaw e := by
      intro e he
      rcases hv with rfl | ⟨-, hactive⟩
      · exact hsettings k settings e List.mem_cons_self he
      · exact absurd he (not_flawedSettings_of_active hactive e)
    refine .bind (namedSettings_answers name fun e he hlong => hflaw _ (.unwritable he hlong)) ?_
    rintro named ⟨rfl, hfree⟩
    refine .bind ((rule_answers b name hfree).mono (fun _ h => h) hflaw) fun b' hsound => ?_
    have hrest := ih (fun k v h => hname k v (List.mem_cons_of_mem _ h))
      (fun k settings e h => hsettings k settings e (List.mem_cons_of_mem _ h)) b'
    refine hrest.mono ?_ fun _ h => h
    rintro _ ⟨hnames, hothers⟩
    constructor
    · intro k' v' hmem
      rcases List.mem_cons.mp hmem with heq | hmem
      · cases heq
        exact hk
      · exact hnames k' v' hmem
    · intro k' settings' e hmem
      rcases List.mem_cons.mp hmem with heq | hmem
      · cases heq
        rcases hv with hv | ⟨hv, -⟩
        · cases hv
          exact hsound e
        · exact absurd rfl (hv settings')
      · exact hothers k' settings' e hmem

theorem ruleEntries_answers {flaw : SetupError → Prop} (entries : List (Scalar × Value)) :
    Answers (fun rules => ∀ k v, (k, v) ∈ rules ↔ HasRule entries k v) flaw
      (ruleEntries entries) := by
  rw [ruleEntries]
  unfold HasRule
  cases Value.lookup "rules" entries with
  | none => exact .ok (by simp)
  | some v =>
    dsimp only
    split
    · rename_i hempty
      refine .ok fun k w => ⟨nofun, ?_⟩
      rintro ⟨others, ⟨⟩, hmem⟩
      cases others with
      | nil => exact hmem
      | cons first rest => cases hempty
    · split
      · exact .ok (by simp)
      · exact .mistake _

/-! ## Values -/

/-- A value is a configuration without flaws, or it is refused for a mistake or for one of its
flaws. -/
theorem ofValue_answers (v : Value) :
    Answers (fun _ => ∀ e, ¬Flawed v e) (Flawed v) (ofValue v) := by
  cases v with
  | scalar s => exact .mistake _
  | list items => exact .mistake _
  | map entries =>
    rw [ofValue]
    refine .bind (checkKeys_answers entries) fun _ hkeys => ?_
    refine .bind (readThreshold_answers {} entries) fun b hthreshold => ?_
    refine .bind (readReports_answers b entries) fun b hreports => ?_
    refine .bind (ruleEntries_answers entries) fun rules hrules => ?_
    refine .bind (readRules_answers
      (fun k v hmem => .unwritableRule ((hrules k v).mp hmem))
      (fun k settings e hmem => .settings ((hrules k _).mp hmem)) b) ?_
    rintro b' ⟨hnames, hsettings⟩
    refine .ok ?_
    intro e hflaw
    cases hflaw with
    | unordered hpairwise =>
      rw [hkeys] at hpairwise
      exact hpairwise .nil
    | unwritableKey hk =>
      rw [hkeys] at hk
      cases hk
    | unwritableThreshold hv hother =>
      obtain ⟨n, hn⟩ := hthreshold _ hv
      exact hother n hn
    | unwritableReport hitems hmem hlong =>
      rw [hreports _ hitems _ hmem] at hlong
      cases hlong
    | unwritableRule hrule hlong =>
      rw [hnames _ _ ((hrules _ _).mpr hrule)] at hlong
      cases hlong
    | settings hrule hflaw => exact hsettings _ _ e ((hrules _ _).mpr hrule) hflaw

/-! ## Files -/

/-- The flaws of a file, with what is said of them: those of its value, and scalars that have no
value. -/
inductive FlawedFile (load : Loader) (tree : Entry) (p : Path) : SetupError → Prop where
  | value {content : ByteArray} {v : Value} {e : SetupError} :
      tree.at? p = some (.file content) → fileValue load p.text content = .ok v → Flawed v e →
      FlawedFile load tree p e
  | scalar {content : ByteArray} {e : Yaml.ScalarError} :
      tree.at? p = some (.file content) → fileValue load p.text content = .error (.scalar e) →
      FlawedFile load tree p (.scalar e)

/-- Whether the wording of a mistake names the file in which it was made. -/
def Names (p : Path) (m : ConfigurationError) : Prop :=
  ∃ rest, m.message = "Invalid configuration of markdownlint in " ++ p.text ++ rest

theorem names_file (p : Path) (detail : String) : Names p (.file p.text detail) :=
  ⟨": " ++ detail, String.append_assoc⟩

theorem names_emptyFile (p : Path) : Names p (.emptyFile p.text) :=
  ⟨"", String.append_empty.symm⟩

/-- Flaws are not put down to the file. -/
theorem Flawed.inFile_eq {v : Value} {e : SetupError} (h : Flawed v e) (path : String) :
    inFile path e = e := by
  cases h with
  | settings _ hsettings => cases hsettings <;> rfl
  | _ => rfl

/-- A file has no value because of a mistake in it or of a scalar. -/
theorem fileValue_error_cases {load : Loader} {path : String} {content : ByteArray} {e : SetupError}
    (h : fileValue load path content = .error e) :
    (∃ detail, e = .configuration (.file path detail)) ∨ ∃ s, e = .scalar s := by
  rw [fileValue] at h
  split at h
  · cases h
    exact .inl ⟨_, rfl⟩
  · split at h
    · cases h
    · cases h
      exact .inl ⟨_, rfl⟩
    · cases h
      exact .inr ⟨_, rfl⟩

section File

variable {load : Loader} {tree : Entry} {p : Path} {content : ByteArray}

theorem ofFile_of_fileValue_error {e : SetupError} (htree : tree.at? p = some (.file content))
    (he : fileValue load p.text content = .error e) : ofFile load tree p = .error e := by
  rw [ofFile, htree]
  simp only [he]
  rfl

/-- A file with a value is empty or is what its value is. -/
theorem ofFile_of_fileValue {v : Value} (htree : tree.at? p = some (.file content))
    (hv : fileValue load p.text content = .ok v) :
    ofFile load tree p = .error (.configuration (.emptyFile p.text)) ∨
      ofFile load tree p = (ofValue v).mapError (inFile p.text) := by
  rw [ofFile, htree]
  simp only [hv]
  rcases v with s | items | entries
  · cases s with
    | null => exact .inl rfl
    | _ => exact .inr rfl
  · exact .inr rfl
  · exact .inr rfl

theorem not_flawedFile {v : Value} (htree : tree.at? p = some (.file content))
    (hv : fileValue load p.text content = .ok v) (h : ∀ e, ¬Flawed v e) (e : SetupError) :
    ¬FlawedFile load tree p e := by
  intro hflaw
  cases hflaw with
  | value htree' hv' hflaw =>
    rw [htree] at htree'
    cases htree'
    rw [hv] at hv'
    cases hv'
    exact h e hflaw
  | scalar htree' he =>
    rw [htree] at htree'
    cases htree'
    rw [hv] at he
    cases he

end File

/-- A file is a configuration without flaws, or it is refused for a mistake whose wording names it,
or for one of its flaws. -/
theorem ofFile_cases (load : Loader) (tree : Entry) (p : Path) :
    (∃ c, ofFile load tree p = .ok c ∧ ∀ e, ¬FlawedFile load tree p e) ∨
      (∃ m, ofFile load tree p = .error (.configuration m) ∧ Names p m) ∨
      ∃ e, ofFile load tree p = .error e ∧ FlawedFile load tree p e := by
  cases htree : tree.at? p with
  | none =>
    refine .inr (.inl ⟨.emptyFile p.text, ?_, names_emptyFile p⟩)
    rw [ofFile, htree]
  | some entry =>
    cases entry with
    | folder entries =>
      refine .inr (.inl ⟨.file p.text (FileError.isFolder p.text).message, ?_, names_file p _⟩)
      rw [ofFile, htree]
    | file content =>
      cases hv : fileValue load p.text content with
      | error e =>
        have hfile := ofFile_of_fileValue_error htree hv
        rcases fileValue_error_cases hv with ⟨detail, rfl⟩ | ⟨s, rfl⟩
        · exact .inr (.inl ⟨_, hfile, names_file p detail⟩)
        · exact .inr (.inr ⟨_, hfile, .scalar htree hv⟩)
      | ok v =>
        rcases ofFile_of_fileValue htree hv with hempty | hfile
        · exact .inr (.inl ⟨_, hempty, names_emptyFile p⟩)
        rcases ofValue_answers v with ⟨c, hc, hflawless⟩ | ⟨m, hm⟩ | ⟨e, he, hflaw⟩
        · refine .inl ⟨c, ?_, not_flawedFile htree hv hflawless⟩
          rw [hfile, hc]
          rfl
        · refine .inr (.inl ⟨_, ?_, names_file p m.message⟩)
          rw [hfile, hm]
          rfl
        · refine .inr (.inr ⟨e, ?_, .value htree hv hflaw⟩)
          rw [hfile, he]
          exact congrArg Except.error (hflaw.inFile_eq p.text)

/-- A value is a configuration without flaws, or it is refused for a mistake, or for one of its
flaws; and so is a file, whose mistakes name it. -/
theorem refused_for_mistakes_and_flaws (v : Value) (load : Loader) (tree : Entry) (p : Path) :
    ((∃ c, ofValue v = .ok c ∧ ∀ e, ¬Flawed v e) ∨
      (∃ m, ofValue v = .error (.configuration m)) ∨ ∃ e, ofValue v = .error e ∧ Flawed v e) ∧
    ((∃ c, ofFile load tree p = .ok c ∧ ∀ e, ¬FlawedFile load tree p e) ∨
      (∃ m, ofFile load tree p = .error (.configuration m) ∧ Names p m) ∨
      ∃ e, ofFile load tree p = .error e ∧ FlawedFile load tree p e) :=
  ⟨ofValue_answers v, ofFile_cases load tree p⟩

/-- Unknown keys that are a number and a text are refused for no mistake. -/
theorem not_only_mistakes :
    ¬∀ v, (∃ c, ofValue v = .ok c) ∨ ∃ m, ofValue v = .error (.configuration m) := by
  intro h
  have hmixed : ofValue (.map [(.int 1, .text "a"), (.text "x", .text "b")]) =
      .error .unorderedKeys := by rfl
  rcases h (.map [(.int 1, .text "a"), (.text "x", .text "b")]) with ⟨c, hc⟩ | ⟨m, hm⟩
  · rw [hmixed] at hc
    cases hc
  · rw [hmixed] at hm
    cases hm

-- Nor are patterns that are a number, and a setting with a name that is given already.
example : ofValue (.map [(.text "rules", .map [(.text "SingleH1Rule",
    .map [(.text "includes", .int 5)])])]) = .error (.notIterable "int") := by cbv

example : ofValue (.map [(.text "rules", .map [(.text "LineLengthRule",
    .map [(.text "self", .int 1)])])]) = .error (.repeatedArgument "self") := by cbv

end MarkdownLint.Configuration
