import MarkdownLint.Proofs.Association
import MarkdownLint.Proofs.Report.Layout
import MarkdownLint.Proofs.Rule.Making
import MarkdownLint.Proofs.Text.Trimming
import Mathlib.Data.List.Forall2

/-!
Which configurations have rules. A setup is valid (`RuleSetup.Valid`) if its patterns have a meaning
and its parameters are those that the kind of check takes, with values that they can have; a
configuration is valid (`Configuration.Valid`) if it names no other rules than those of the catalog
and the setups of the active ones are valid. Exactly the valid configurations have rules
(`Configuration.exists_instantiate_iff`), one for each active kind in the order of the catalog
(`Configuration.instantiate_eq_ok_iff`), and each is made with its setup (`Rule.madeWith_of_make`).
The settings of other rules and the order of the settings do not count
(`Configuration.makeRules_congr`, `Configuration.ruleSetup_eq_of_perm`).
-/
namespace MarkdownLint

open Decimal (Binary64)

/-- Each item of a list has a partner exactly if there is a list of partners. -/
theorem exists_forall₂_iff {α β : Type} {R : α → β → Prop} {as : List α} :
    (∃ bs, List.Forall₂ R as bs) ↔ ∀ a ∈ as, ∃ b, R a b := by
  constructor
  · rintro ⟨bs, h⟩
    induction h with
    | nil => simp
    | cons hab _ ih => exact List.forall_mem_cons.mpr ⟨⟨_, hab⟩, ih⟩
  · intro h
    induction as with
    | nil => exact ⟨[], .nil⟩
    | cons a as ih =>
      obtain ⟨⟨b, hb⟩, hrest⟩ := List.forall_mem_cons.mp h
      obtain ⟨bs, hbs⟩ := ih hrest
      exact ⟨b :: bs, .cons hb hbs⟩

/-- A list of computations succeeds exactly if each of them does. -/
theorem mapM_eq_ok_iff {α β ε : Type} {f : α → Except ε β} {as : List α} {bs : List β} :
    as.mapM f = .ok bs ↔ List.Forall₂ (fun a b => f a = .ok b) as bs := by
  induction as generalizing bs with
  | nil => cases bs <;> simp [pure, Except.pure]
  | cons a as ih =>
    rw [List.mapM_cons, List.forall₂_cons_left_iff, bind_eq_ok]
    simp only [bind_eq_ok, ih, pure, Except.pure, Except.ok.injEq]
    constructor
    · rintro ⟨b, hb, rest, hrest, rfl⟩
      exact ⟨b, rest, hb, hrest, rfl⟩
    · rintro ⟨b, rest, hb, hrest, rfl⟩
      exact ⟨b, hb, rest, hrest, rfl⟩

/-- Whether a text is a pattern: it has a meaning. -/
def Pattern.IsPattern (named : CharacterNames) (text : String) : Prop :=
  ∃ p, Pattern.compile named text = .ok p

/-! ## Values of parameters -/

/-- Whether a scalar equals an integer. Truth values count as zero and one, and a floating-point
number counts if its value `n / d` is an integer. -/
inductive Scalar.Equals : Scalar → Int → Prop where
  | false : Equals (.bool false) 0
  | true : Equals (.bool true) 1
  | int (n : Int) : Equals (.int n) n
  | float {x : Binary64} {n k : Int} {d : Nat} : x.ratio? = some (n, d) → n = k * d →
      Equals (.float x) k

/-- A value that is a limit: a positive integer. -/
def IsLimit (v : Value) (n : Nat) : Prop := 1 ≤ n ∧ v = .int n

/-- A value that is a heading level: it equals a number from one to six. -/
def IsLevel (v : Value) (n : Nat) : Prop := (1 ≤ n ∧ n ≤ 6) ∧ ∃ s, v = .scalar s ∧ s.Equals n

/-- A value that is a style: a text that is not blank, without the blanks around it. -/
def IsStyle (v : Value) (style : String) : Prop :=
  style ≠ "" ∧ ∃ text, v = .text text ∧ Text.Trims text.toList style.toList

/-- The parameters that kinds of checks take. -/
inductive CheckKind.Takes : CheckKind → String → Prop where
  | maxLineLength : Takes .lineLength "max_line_length"
  | codeBlocks : Takes .lineLength "code_blocks"
  | firstLevel : Takes .firstHeading "level"
  | singleLevel : Takes .singleHeading "level"
  | style : Takes .breakStyle "style"

/-- Parameters that a kind of check takes, with values that they can have. -/
structure ValidParams (kind : CheckKind) (params : List (String × Value)) : Prop where
  names : ∀ p ∈ params, kind.Takes p.1
  limit : ∀ v, params.lookup "max_line_length" = some v → ∃ n, IsLimit v n
  level : ∀ v, params.lookup "level" = some v → ∃ n, IsLevel v n
  style : ∀ v, params.lookup "style" = some v →
    ∃ text, v = .text text ∧ ∃ c ∈ text.toList, Text.isBlank c = false

/-- Settings that a rule can be made with: patterns that have a meaning, and valid parameters. -/
structure RuleSetup.Valid (named : Pattern.CharacterNames) (kind : CheckKind) (s : RuleSetup) :
    Prop where
  includes : ∀ text ∈ s.includes, Pattern.IsPattern named text
  excludes : ∀ text ∈ s.excludes, Pattern.IsPattern named text
  params : ValidParams kind s.params

/-- The check of a kind with parameters, the standard ones where none are given. -/
inductive Check.GivenBy (params : List (String × Value)) : CheckKind → Check → Prop where
  | hardTabs : GivenBy params .hardTabs .hardTabs
  | trailingSpaces : GivenBy params .trailingSpaces .trailingSpaces
  | multipleBlanks : GivenBy params .multipleBlanks .multipleBlanks
  | lineLength {limit : Nat} : IsLimit ((params.lookup "max_line_length").getD (.int 80)) limit →
      GivenBy params .lineLength
        (.lineLength limit ((params.lookup "code_blocks").getD (.bool true)).isTrue)
  | firstHeading {n : Nat} : IsLevel ((params.lookup "level").getD (.int 1)) n →
      GivenBy params .firstHeading (.firstHeading ⟨(params.lookup "level").getD (.int 1), n⟩)
  | singleHeading {n : Nat} : IsLevel ((params.lookup "level").getD (.int 1)) n →
      GivenBy params .singleHeading (.singleHeading ⟨(params.lookup "level").getD (.int 1), n⟩)
  | blanksAroundHeadings : GivenBy params .blanksAroundHeadings .blanksAroundHeadings
  | breakStyle {style : String} :
      IsStyle ((params.lookup "style").getD (.text "consistent")) style →
      GivenBy params .breakStyle (.breakStyle style)
  | filename : GivenBy params .filename .filename

/-- A rule of a kind that carries its setup, the meanings of its patterns and the values of its
parameters. -/
structure Rule.MadeWith (named : Pattern.CharacterNames) (kind : CheckKind) (s : RuleSetup)
    (r : Rule) : Prop where
  setup : r.setup = s
  includes : List.Forall₂ (fun text p => Pattern.compile named text = .ok p) s.includes r.includes
  excludes : List.Forall₂ (fun text p => Pattern.compile named text = .ok p) s.excludes r.excludes
  check : Check.GivenBy s.params kind r.check

/-- A floating-point number is an integer if its value is. -/
theorem toInt?_eq_some_iff {x : Binary64} {k : Int} :
    x.toInt? = some k ↔ ∃ n d, x.ratio? = some (n, d) ∧ n = k * (d : Nat) := by
  have hpositive : ∀ n d, x.ratio? = some (n, d) → (d : Int) ≠ 0 := by
    intro n d h
    cases x with
    | nan => cases h
    | infinity negative => cases h
    | finite negative m e =>
      obtain ⟨-, rfl⟩ := Prod.mk.inj (Option.some.inj h)
      have hpow : 0 < 2 ^ (-e).toNat := Nat.pow_pos (by decide)
      simp only [Decimal.scaleUp, Nat.pow_eq, Nat.one_mul]
      omega
  rw [Binary64.toInt?]
  cases hratio : x.ratio? with
  | none => simp
  | some ratio =>
    obtain ⟨n, d⟩ := ratio
    have hd := hpositive n d hratio
    constructor
    · intro h
      dsimp only at h
      split at h
      · rename_i hdvd
        refine ⟨n, d, rfl, ?_⟩
        rw [← Option.some.inj h]
        exact (Int.ediv_mul_cancel (Int.dvd_of_emod_eq_zero (beq_iff_eq.mp hdvd))).symm
      · cases h
    · rintro ⟨n', d', hsome, rfl⟩
      cases hsome
      simp [Int.mul_ediv_cancel _ hd]

theorem Scalar.number?_eq_some_iff {s : Scalar} {n : Int} : s.number? = some n ↔ s.Equals n := by
  constructor
  · intro h
    cases s with
    | bool b =>
      cases b with
      | false =>
        cases h
        exact .false
      | true =>
        cases h
        exact .true
    | int m =>
      cases h
      exact .int _
    | float x =>
      obtain ⟨m, d, hratio, hm⟩ := toInt?_eq_some_iff.mp h
      exact .float hratio hm
    | _ => cases h
  · intro h
    cases h with
    | float hratio hm => exact toInt?_eq_some_iff.mpr ⟨_, _, hratio, hm⟩
    | _ => rfl

namespace Rule

variable {kind : CheckKind} {params : List (String × Value)} {v : Value}

theorem limitOf_eq_ok_iff {n : Nat} : limitOf v = .ok n ↔ IsLimit v n := by
  unfold limitOf IsLimit
  split
  · rename_i m
    simp only [Value.int, Value.scalar.injEq, Scalar.int.injEq]
    split
    · simp only [Except.ok.injEq]
      omega
    · simp only [reduceCtorEq, false_iff]
      omega
  · rename_i hother
    simp only [reduceCtorEq, false_iff]
    rintro ⟨-, rfl⟩
    exact hother n rfl

theorem levelOf_eq_ok_iff {level : Level} :
    levelOf v = .ok level ↔ level.value = v ∧ IsLevel v level.number := by
  cases v with
  | list items => simp [levelOf, IsLevel]
  | map entries => simp [levelOf, IsLevel]
  | scalar s =>
    simp only [levelOf]
    cases hn : s.number? with
    | none =>
      refine iff_of_false nofun ?_
      rintro ⟨-, -, s', hs, hequals⟩
      cases hs
      rw [Scalar.number?_eq_some_iff.mpr hequals] at hn
      cases hn
    | some n =>
      -- a scalar equals one number only
      have hunique : ∀ m : Nat, s.Equals m ↔ (m : Int) = n := by
        intro m
        rw [← Scalar.number?_eq_some_iff, hn, Option.some.injEq, eq_comm]
      obtain ⟨value, number⟩ := level
      simp only [IsLevel, Value.scalar.injEq, exists_eq_left', hunique]
      split
      · simp only [Except.ok.injEq, Level.mk.injEq]
        constructor
        · rintro ⟨rfl, rfl⟩
          exact ⟨rfl, by omega, by omega⟩
        · rintro ⟨rfl, hrange, rfl⟩
          exact ⟨rfl, by omega⟩
      · simp only [reduceCtorEq, false_iff]
        omega

theorem isStyle_of_styleOf {style : String} (h : styleOf v = .ok style) : IsStyle v style := by
  unfold styleOf at h
  split at h
  · rename_i text
    split at h
    · cases h
    · rename_i hblank
      cases h
      refine ⟨?_, text, rfl, ?_⟩
      · intro hempty
        rw [Text.trimString, String.ofList_eq_empty_iff] at hempty
        exact hblank (List.isEmpty_iff.mpr hempty)
      · rw [Text.trimString, String.toList_ofList]
        exact Text.trims_trim text.toList
  · cases h

/-- A style is that of a text which is not blank. -/
theorem exists_char_of_isStyle {style : String} (h : IsStyle v style) :
    ∃ text, v = .text text ∧ ∃ c ∈ text.toList, Text.isBlank c = false := by
  obtain ⟨hne, text, rfl, htrims⟩ := h
  obtain ⟨before, after, htext, -, -⟩ := htrims.around
  have hchars : style.toList ≠ [] := fun hnil => hne (String.toList_eq_nil_iff.mp hnil)
  refine ⟨text, rfl, style.toList.head hchars, ?_, htrims.first _ (List.head_mem_head? hchars)⟩
  rw [htext]
  simp

theorem exists_styleOf {text : String} (h : ∃ c ∈ text.toList, Text.isBlank c = false) :
    ∃ style, styleOf (.text text) = .ok style := by
  obtain ⟨c, hc, hblank⟩ := h
  have hne : (Text.trim text.toList).isEmpty = false := by
    rw [Bool.eq_false_iff, Ne, List.isEmpty_iff, Text.trim_eq_nil_iff]
    intro hall
    rw [hall c hc] at hblank
    cases hblank
  refine ⟨Text.trimString text, ?_⟩
  simp only [styleOf, Value.text, hne]
  rfl

/-! ## Making a rule -/

theorem takes_iff {name : String} : kind.Takes name ↔ name ∈ acceptedParams kind := by
  constructor
  · intro h
    cases h <;> decide
  · intro h
    cases kind <;> simp only [acceptedParams, List.mem_cons, List.not_mem_nil, or_false] at h
    · rcases h with rfl | rfl
      · exact .maxLineLength
      · exact .codeBlocks
    · exact h ▸ .firstLevel
    · exact h ▸ .singleLevel
    · exact h ▸ .style

theorem checkParams_eq_ok_iff :
    checkParams kind params = .ok () ↔ ∀ p ∈ params, kind.Takes p.1 := by
  have hsetup : ¬kind.Takes "setup" := by
    rw [takes_iff]
    cases kind <;> decide
  rw [checkParams]
  split
  · rename_i hany
    refine iff_of_false nofun ?_
    intro hall
    obtain ⟨p, hp, hname⟩ := List.any_eq_true.mp hany
    rw [beq_iff_eq] at hname
    exact hsetup (hname ▸ hall p hp)
  · split
    · rename_i p hp
      refine iff_of_false nofun ?_
      intro hall
      have hother := List.find?_some hp
      rw [Bool.not_eq_true', ← Bool.not_eq_true, List.contains_iff_mem] at hother
      exact hother (takes_iff.mp (hall p (List.mem_of_find?_eq_some hp)))
    · rename_i hnone
      refine iff_of_true rfl ?_
      intro p hp
      have hfound := List.find?_eq_none.mp hnone p hp
      rw [Bool.not_eq_true', Bool.not_eq_false, List.contains_iff_mem] at hfound
      exact takes_iff.mpr hfound

variable {named : Pattern.CharacterNames}

/-- Patterns are given their meanings one by one. -/
theorem compileAll_eq_mapM (texts : List String) : compileAll named texts =
    texts.mapM fun text => (Pattern.compile named text).mapError (RuleError.pattern text) := by
  induction texts with
  | nil => rfl
  | cons text texts ih =>
    rw [compileAll, List.mapM_cons, ← ih]
    cases Pattern.compile named text with
    | error e => rfl
    | ok p => cases compileAll named texts <;> rfl

theorem compileAll_eq_ok_iff {texts : List String} {patterns : List Pattern.Compiled} :
    compileAll named texts = .ok patterns ↔
      List.Forall₂ (fun text p => Pattern.compile named text = .ok p) texts patterns := by
  have hok : ∀ text p, (Pattern.compile named text).mapError (RuleError.pattern text) = .ok p ↔
      Pattern.compile named text = .ok p := by
    intro text p
    cases Pattern.compile named text <;> simp
  rw [compileAll_eq_mapM, mapM_eq_ok_iff]
  simp only [hok]

theorem exists_compileAll_iff {texts : List String} :
    (∃ patterns, compileAll named texts = .ok patterns) ↔
      ∀ text ∈ texts, Pattern.IsPattern named text := by
  simp only [compileAll_eq_ok_iff]
  exact exists_forall₂_iff

theorem givenBy_of_checkOf {check : Check} (h : checkOf kind params = .ok check) :
    Check.GivenBy params kind check := by
  cases kind with
  | lineLength =>
    obtain ⟨limit, hlimit, h⟩ := bind_eq_ok.mp h
    cases h
    exact .lineLength (limitOf_eq_ok_iff.mp hlimit)
  | firstHeading =>
    obtain ⟨⟨value, n⟩, hlevel, h⟩ := bind_eq_ok.mp h
    cases h
    obtain ⟨rfl, hn⟩ := levelOf_eq_ok_iff.mp hlevel
    exact .firstHeading hn
  | singleHeading =>
    obtain ⟨⟨value, n⟩, hlevel, h⟩ := bind_eq_ok.mp h
    cases h
    obtain ⟨rfl, hn⟩ := levelOf_eq_ok_iff.mp hlevel
    exact .singleHeading hn
  | breakStyle =>
    obtain ⟨style, hstyle, h⟩ := bind_eq_ok.mp h
    cases h
    exact .breakStyle (isStyle_of_styleOf hstyle)
  | hardTabs =>
    cases h
    exact .hardTabs
  | trailingSpaces =>
    cases h
    exact .trailingSpaces
  | multipleBlanks =>
    cases h
    exact .multipleBlanks
  | blanksAroundHeadings =>
    cases h
    exact .blanksAroundHeadings
  | filename =>
    cases h
    exact .filename

theorem takes_of_lookup {name : String} (h : ∀ p ∈ params, kind.Takes p.1)
    (hv : params.lookup name = some v) : kind.Takes name := by
  obtain ⟨before, after, rfl, -⟩ := List.lookup_eq_some_iff.mp hv
  exact h (name, v) (by simp)

/-- The values of the parameters of a check are those that they can have. -/
theorem validParams_of_givenBy {check : Check} (hnames : ∀ p ∈ params, kind.Takes p.1)
    (h : Check.GivenBy params kind check) : ValidParams kind params where
  names := hnames
  limit := by
    intro v hv
    have htakes := takes_of_lookup hnames hv
    obtain rfl : kind = .lineLength := by
      rw [takes_iff] at htakes
      cases kind <;> simp [acceptedParams] at htakes ⊢
    cases h with
    | lineLength hlimit =>
      rw [hv] at hlimit
      exact ⟨_, hlimit⟩
  level := by
    intro v hv
    have htakes := takes_of_lookup hnames hv
    have hkind : kind = .firstHeading ∨ kind = .singleHeading := by
      rw [takes_iff] at htakes
      cases kind <;> simp [acceptedParams] at htakes ⊢
    rcases hkind with rfl | rfl
    · cases h with
      | firstHeading hlevel =>
        rw [hv] at hlevel
        exact ⟨_, hlevel⟩
    · cases h with
      | singleHeading hlevel =>
        rw [hv] at hlevel
        exact ⟨_, hlevel⟩
  style := by
    intro v hv
    have htakes := takes_of_lookup hnames hv
    obtain rfl : kind = .breakStyle := by
      rw [takes_iff] at htakes
      cases kind <;> simp [acceptedParams] at htakes ⊢
    cases h with
    | breakStyle hstyle =>
      rw [hv] at hstyle
      exact exists_char_of_isStyle hstyle

/-- With values that parameters can have there is a check. -/
theorem exists_checkOf (h : ValidParams kind params) : ∃ check, checkOf kind params = .ok check := by
  have hlevel : ∃ level, levelOf ((params.lookup "level").getD (.int 1)) = .ok level := by
    cases hv : params.lookup "level" with
    | none => exact ⟨_, rfl⟩
    | some v =>
      obtain ⟨n, hn⟩ := h.level v hv
      exact ⟨⟨v, n⟩, levelOf_eq_ok_iff.mpr ⟨rfl, hn⟩⟩
  cases kind with
  | lineLength =>
    have hlimit : ∃ n, limitOf ((params.lookup "max_line_length").getD (.int 80)) = .ok n := by
      cases hv : params.lookup "max_line_length" with
      | none => exact ⟨_, rfl⟩
      | some v =>
        obtain ⟨n, hn⟩ := h.limit v hv
        exact ⟨n, limitOf_eq_ok_iff.mpr hn⟩
    obtain ⟨n, hn⟩ := hlimit
    exact ⟨_, bind_eq_ok.mpr ⟨n, hn, rfl⟩⟩
  | firstHeading =>
    obtain ⟨level, hlevel⟩ := hlevel
    exact ⟨_, bind_eq_ok.mpr ⟨level, hlevel, rfl⟩⟩
  | singleHeading =>
    obtain ⟨level, hlevel⟩ := hlevel
    exact ⟨_, bind_eq_ok.mpr ⟨level, hlevel, rfl⟩⟩
  | breakStyle =>
    have hstyle : ∃ style,
        styleOf ((params.lookup "style").getD (.text Check.consistentStyle)) = .ok style := by
      cases hv : params.lookup "style" with
      | none => exact exists_styleOf ⟨'c', by decide, by decide⟩
      | some v =>
        obtain ⟨text, rfl, hchar⟩ := h.style v hv
        exact exists_styleOf hchar
    obtain ⟨style, hstyle⟩ := hstyle
    exact ⟨_, bind_eq_ok.mpr ⟨style, hstyle, rfl⟩⟩
  | _ => exact ⟨_, rfl⟩

theorem make_eq_ok_iff {setup : RuleSetup} {r : Rule} :
    make named kind setup params = .ok r ↔
      checkParams kind params = .ok () ∧ compileAll named setup.includes = .ok r.includes ∧
        compileAll named setup.excludes = .ok r.excludes ∧ checkOf kind params = .ok r.check ∧
        r.setup = setup := by
  constructor
  · intro h
    obtain ⟨⟨⟩, hparams, h⟩ := bind_eq_ok.mp h
    obtain ⟨includes, hincludes, h⟩ := bind_eq_ok.mp h
    obtain ⟨excludes, hexcludes, h⟩ := bind_eq_ok.mp h
    obtain ⟨check, hcheck, h⟩ := bind_eq_ok.mp h
    cases h
    exact ⟨hparams, hincludes, hexcludes, hcheck, rfl⟩
  · rintro ⟨hparams, hincludes, hexcludes, hcheck, rfl⟩
    refine bind_eq_ok.mpr ⟨(), hparams, bind_eq_ok.mpr ⟨_, hincludes, ?_⟩⟩
    exact bind_eq_ok.mpr ⟨_, hexcludes, bind_eq_ok.mpr ⟨_, hcheck, rfl⟩⟩

/-- A rule can be made exactly with a valid setup. -/
theorem exists_make_iff {s : RuleSetup} :
    (∃ r, make named kind s s.params = .ok r) ↔ s.Valid named kind := by
  constructor
  · rintro ⟨r, h⟩
    obtain ⟨hparams, hincludes, hexcludes, hcheck, -⟩ := make_eq_ok_iff.mp h
    exact ⟨exists_compileAll_iff.mp ⟨_, hincludes⟩, exists_compileAll_iff.mp ⟨_, hexcludes⟩,
      validParams_of_givenBy (checkParams_eq_ok_iff.mp hparams) (givenBy_of_checkOf hcheck)⟩
  · rintro ⟨hincludes, hexcludes, hparams⟩
    obtain ⟨includes, hincludes⟩ := exists_compileAll_iff.mpr hincludes
    obtain ⟨excludes, hexcludes⟩ := exists_compileAll_iff.mpr hexcludes
    obtain ⟨check, hcheck⟩ := exists_checkOf hparams
    exact ⟨⟨check, s, includes, excludes⟩, make_eq_ok_iff.mpr
      ⟨checkParams_eq_ok_iff.mpr hparams.names, hincludes, hexcludes, hcheck, rfl⟩⟩

theorem madeWith_of_make {s : RuleSetup} {r : Rule} (h : make named kind s s.params = .ok r) :
    r.MadeWith named kind s := by
  obtain ⟨-, hincludes, hexcludes, hcheck, hsetup⟩ := make_eq_ok_iff.mp h
  exact ⟨hsetup, compileAll_eq_ok_iff.mp hincludes, compileAll_eq_ok_iff.mp hexcludes,
    givenBy_of_checkOf hcheck⟩

end Rule

/-! ## The rules of a configuration -/

namespace Configuration

/-- All rules that are named are in the catalog. -/
def Known (c : Configuration) : Prop := ∀ r ∈ c.rules, ∃ kind : CheckKind, r.1 = kind.name

/-- A configuration that has rules: it names no rules but those of the catalog, and the setups of
the active ones are valid. -/
structure Valid (named : Pattern.CharacterNames) (c : Configuration) : Prop where
  known : c.Known
  setups : ∀ kind : CheckKind, c.isActive kind.name = true →
    (c.ruleSetup kind.name).Valid named kind

/-- The kinds whose rules run, in the order of the catalog. -/
def activeKinds (c : Configuration) : List CheckKind :=
  CheckKind.all.filter fun kind => c.isActive kind.name

/-- Two configurations have the same rules run, with the same settings. -/
structure RunsAlike (c c' : Configuration) : Prop where
  active : ∀ kind : CheckKind, c.isActive kind.name = c'.isActive kind.name
  setups : ∀ kind : CheckKind, c.isActive kind.name = true →
    c.ruleSetup kind.name = c'.ruleSetup kind.name

variable {named : Pattern.CharacterNames} {c c' : Configuration} {rules : List Rule}

theorem ofName?_eq_none_iff {name : String} :
    (CheckKind.ofName? name).isNone = true ↔ ¬∃ kind : CheckKind, name = kind.name := by
  rw [Option.isNone_iff_eq_none, CheckKind.ofName?, List.find?_eq_none]
  constructor
  · rintro h ⟨kind, rfl⟩
    exact h kind (CheckKind.mem_all kind) (by simp)
  · intro h kind _ hname
    exact h ⟨kind, (beq_iff_eq.mp hname).symm⟩

theorem unknownRules_eq_nil_iff : c.unknownRules = [] ↔ c.Known := by
  have hperm : c.unknownRules.Perm
      ((c.rules.map Prod.fst).filter fun name => (CheckKind.ofName? name).isNone) :=
    List.mergeSort_perm _ _
  rw [← List.length_eq_zero_iff, hperm.length_eq, List.length_eq_zero_iff,
    List.filter_eq_nil_iff]
  simp only [ofName?_eq_none_iff, not_not]
  exact List.forall_mem_map

theorem makeRule_eq_ok_iff {kind : CheckKind} {r : Rule} : c.makeRule named kind = .ok r ↔
    Rule.make named kind (c.ruleSetup kind.name) (c.ruleSetup kind.name).params = .ok r := by
  refine ⟨make_of_makeRule, ?_⟩
  intro h
  rw [makeRule, h]

/-- Rules are made one by one, for the kinds that are active. -/
theorem makeRules_eq_mapM (c : Configuration) (kinds : List CheckKind) :
    c.makeRules named kinds =
      (kinds.filter fun kind => c.isActive kind.name).mapM (c.makeRule named) := by
  induction kinds with
  | nil => rfl
  | cons kind kinds ih =>
    rw [makeRules, List.filter_cons, ih]
    split
    · rw [List.mapM_cons]
    · rfl

theorem instantiate_of_known (h : c.Known) :
    c.instantiate named = c.activeKinds.mapM (c.makeRule named) := by
  rw [instantiate, unknownRules_eq_nil_iff.mpr h]
  exact makeRules_eq_mapM c CheckKind.all

theorem instantiate_of_not_known (h : ¬c.Known) :
    c.instantiate named = .error (.configuration (.unknownRules c.unknownRules)) := by
  rw [instantiate]
  split
  · rename_i hnil
    exact absurd (unknownRules_eq_nil_iff.mp hnil) h
  · rfl

theorem known_of_instantiate (h : c.instantiate named = .ok rules) : c.Known := by
  by_contra hknown
  rw [instantiate_of_not_known hknown] at h
  cases h

/-- The rules of a configuration are those of its active kinds. -/
theorem instantiate_eq_ok_iff : c.instantiate named = .ok rules ↔
    c.Known ∧ List.Forall₂ (fun kind r => c.makeRule named kind = .ok r) c.activeKinds rules := by
  constructor
  · intro h
    have hknown := known_of_instantiate h
    rw [instantiate_of_known hknown] at h
    exact ⟨hknown, mapM_eq_ok_iff.mp h⟩
  · rintro ⟨hknown, h⟩
    rw [instantiate_of_known hknown]
    exact mapM_eq_ok_iff.mpr h

theorem mem_activeKinds {kind : CheckKind} :
    kind ∈ c.activeKinds ↔ c.isActive kind.name = true := by
  rw [activeKinds, List.mem_filter, and_iff_right (CheckKind.mem_all kind)]

theorem exists_makeRule_iff {kind : CheckKind} :
    (∃ r, c.makeRule named kind = .ok r) ↔ (c.ruleSetup kind.name).Valid named kind := by
  simp only [makeRule_eq_ok_iff]
  exact Rule.exists_make_iff

theorem exists_instantiate_iff : (∃ rules, c.instantiate named = .ok rules) ↔ c.Valid named := by
  simp only [instantiate_eq_ok_iff, exists_and_left, exists_forall₂_iff, mem_activeKinds,
    exists_makeRule_iff]
  exact ⟨fun ⟨hknown, hsetups⟩ => ⟨hknown, hsetups⟩, fun h => ⟨h.known, h.setups⟩⟩

/-! ## What the rules do not depend on -/

/-- The settings of rules that do not run do not count. -/
theorem makeRules_congr (h : c.RunsAlike c') (kinds : List CheckKind) :
    c.makeRules named kinds = c'.makeRules named kinds := by
  have hkinds : (kinds.filter fun kind => c.isActive kind.name) =
      kinds.filter fun kind => c'.isActive kind.name := by simp only [h.active]
  rw [makeRules_eq_mapM, makeRules_eq_mapM, ← hkinds]
  apply mapM_congr
  intro kind hkind
  rw [makeRule, makeRule, h.setups kind (List.mem_filter.mp hkind).2]

theorem instantiate_congr (h : c.RunsAlike c') (hnames : c.unknownRules = c'.unknownRules) :
    c.instantiate named = c'.instantiate named := by
  rw [instantiate, instantiate, hnames, makeRules_congr h]

theorem runsAlike_of_ruleSetup (h : ∀ name, c.ruleSetup name = c'.ruleSetup name) :
    c.RunsAlike c' :=
  ⟨fun kind => congrArg RuleSetup.active (h kind.name), fun kind _ => h kind.name⟩

/-- With distinct names, the order in which rules are set up does not change what is set. -/
theorem ruleSetup_eq_of_perm (hnodup : (c.rules.map Prod.fst).Nodup)
    (hperm : c.rules.Perm c'.rules) (name : String) : c.ruleSetup name = c'.ruleSetup name := by
  have hnodup' := (hperm.map Prod.fst).nodup_iff.mp hnodup
  have hlookup : c.rules.lookup name = c'.rules.lookup name := by
    apply Option.ext
    intro s
    rw [Association.lookup_eq_some_iff hnodup, Association.lookup_eq_some_iff hnodup',
      hperm.mem_iff]
  rw [ruleSetup, ruleSetup, hlookup]

theorem unknownRules_eq_of_perm (hperm : c.rules.Perm c'.rules) :
    c.unknownRules = c'.unknownRules :=
  mergeSort_eq_of_perm id ((hperm.map Prod.fst).filter _) fun _ _ _ _ h => h

/-- A configuration has rules exactly if it is valid, and then one for each active kind in the order
of the catalog, made with its setup. Neither the order in which rules are set up nor the settings of
rules that do not run count. -/
theorem instantiate_valid (named : Pattern.CharacterNames) (c : Configuration) :
    ((∃ rules, c.instantiate named = .ok rules) ↔ c.Valid named) ∧
    (∀ rules, c.instantiate named = .ok rules →
      List.Forall₂ (fun kind r => Rule.MadeWith named kind (c.ruleSetup kind.name) r) c.activeKinds
        rules) ∧
    (∀ c' : Configuration, (c.rules.map Prod.fst).Nodup → c.rules.Perm c'.rules →
      c'.instantiate named = c.instantiate named) ∧
    ∀ c' : Configuration, c.RunsAlike c' → c.Known → c'.Known →
      c'.instantiate named = c.instantiate named := by
  refine ⟨exists_instantiate_iff, ?_, ?_, ?_⟩
  · intro rules h
    obtain ⟨-, hmade⟩ := instantiate_eq_ok_iff.mp h
    exact hmade.imp fun kind r hr => Rule.madeWith_of_make (make_of_makeRule hr)
  · intro c' hnodup hperm
    exact (instantiate_congr (runsAlike_of_ruleSetup (ruleSetup_eq_of_perm hnodup hperm))
      (unknownRules_eq_of_perm hperm)).symm
  · intro c' halike hknown hknown'
    refine (instantiate_congr halike ?_).symm
    rw [unknownRules_eq_nil_iff.mpr hknown, unknownRules_eq_nil_iff.mpr hknown']

end Configuration

end MarkdownLint
