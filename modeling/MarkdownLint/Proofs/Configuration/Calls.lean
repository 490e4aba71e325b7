import MarkdownLint.Configuration.Builder
import MarkdownLint.Proofs.Association
import MarkdownLint.Proofs.Lists
import Mathlib.Data.List.Basic

/-!
A builder that is called again and again. Calls change it in place, and one that fails midway might
leave it changed; it does not (`Call.run_eq`). So a builder is what the calls that did not fail make
of it, and of these the last one for each thing counts (`Built`). Whether a call fails is up to what
it asks for alone (`mem_accepted_iff`).
-/
namespace MarkdownLint

theorem Report.ofName?_eq_some {s : String} {kind : Report} :
    ofName? s = some kind ↔ s = kind.name := by
  constructor
  · intro h
    have hname := List.find?_some h
    exact (beq_iff_eq.mp hname).symm
  · rintro rfl
    cases kind <;> rfl

namespace Builder

/-! ## Calls -/

/-- A call on a builder. -/
inductive Call where
  | rule (name : String) (settings : List (String × Value))
  | reports (values : List Value)
  | threshold (value : Value)

namespace Call

/-- What a call does to a builder, in place. Where it fails, the builder stays as it is by then. -/
def perform : Call → ExceptT SetupError (StateM Builder) Unit
  | rule name settings => do
    let setup ← setupOf name settings
    modify fun b => { b with rules := Association.assign b.rules name setup }
  | reports values => do
    let kinds ← reportsOf values
    modify fun b => { b with reports := .ofList kinds }
  | threshold value => do
    let threshold ← thresholdOf value
    modify fun b => { b with threshold }

/-- The answer to a call, and the builder after it. -/
def run (b : Builder) (call : Call) : Except SetupError Unit × Builder :=
  StateT.run (ExceptT.run call.perform) b

/-- A call as the builder that it makes of another one. -/
def apply (b : Builder) : Call → Except SetupError Builder
  | rule name settings => b.rule name settings
  | reports values => b.setReports values
  | threshold value => b.setThreshold value

/-- A change that is made when all that it needs has been computed is made as a whole or not at
all. -/
theorem run_bind_modify {α : Type} (x : Except SetupError α) (change : α → Builder → Builder)
    (b : Builder) :
    let act : ExceptT SetupError (StateM Builder) Unit := do
      let a ← x
      modify (change a)
    StateT.run (ExceptT.run act) b = match x with
      | .ok a => (.ok (), change a b)
      | .error e => (.error e, b) := by
  cases x <;> rfl

/-- A call that fails has changed nothing. -/
theorem run_eq (b : Builder) (call : Call) :
    call.run b = match call.apply b with
      | .ok b' => (.ok (), b')
      | .error e => (.error e, b) := by
  cases call with
  | rule name settings =>
    rw [run, perform, run_bind_modify, apply, Builder.rule]
    cases setupOf name settings <;> rfl
  | reports values =>
    rw [run, perform, run_bind_modify, apply, setReports]
    cases reportsOf values <;> rfl
  | threshold value =>
    rw [run, perform, run_bind_modify, apply, setThreshold]
    cases thresholdOf value <;> rfl

end Call

/-- The builder after some calls, whatever the answers. -/
def after (b : Builder) (calls : List Call) : Builder :=
  calls.foldl (fun b call => (call.run b).2) b

/-- The calls, made one after the other, that do not fail. -/
def accepted (b : Builder) : List Call → List Call
  | [] => []
  | call :: rest =>
    match call.run b with
    | (.ok (), b') => call :: accepted b' rest
    | (.error _, b') => accepted b' rest

/-- Builders come about by the calls that do not fail. -/
theorem accepted_cons (b : Builder) (call : Call) (rest : List Call) :
    (∃ b', call.apply b = .ok b' ∧ accepted b (call :: rest) = call :: accepted b' rest ∧
        after b (call :: rest) = after b' rest) ∨
      (∃ e, call.apply b = .error e) ∧ accepted b (call :: rest) = accepted b rest ∧
        after b (call :: rest) = after b rest := by
  have hrun := call.run_eq b
  cases happly : call.apply b with
  | ok b' =>
    rw [happly] at hrun
    exact .inl ⟨b', rfl, by simp only [accepted, hrun], by simp only [after, List.foldl_cons, hrun]⟩
  | error e =>
    rw [happly] at hrun
    exact .inr ⟨⟨e, rfl⟩, by simp only [accepted, hrun],
      by simp only [after, List.foldl_cons, hrun]⟩

/-- The calls that do not fail do not fail without the others either, and come to the same. -/
theorem after_accepted (b : Builder) (calls : List Call) :
    accepted b (accepted b calls) = accepted b calls ∧
      after b (accepted b calls) = after b calls := by
  induction calls generalizing b with
  | nil => exact ⟨rfl, rfl⟩
  | cons call rest ih =>
    rcases accepted_cons b call rest with ⟨b', happly, haccepted, hafter⟩ | ⟨-, haccepted, hafter⟩
    · obtain ⟨hsame, hbuilt⟩ := ih b'
      rw [haccepted, hafter]
      rcases accepted_cons b call (accepted b' rest) with
        ⟨b'', happly', haccepted', hafter'⟩ | ⟨⟨e, he⟩, -⟩
      · rw [happly] at happly'
        cases happly'
        rw [haccepted', hafter', hsame, hbuilt]
        exact ⟨rfl, rfl⟩
      · rw [happly] at he
        cases he
    · rw [haccepted, hafter]
      exact ih b

/-! ## What calls ask for -/

/-- The patterns that a setting stands for: the standard ones if nothing is given, a single one, or
those of a list or of the keys of a mapping. -/
inductive PatternsOf (standard : List String) : Option Value → List String → Prop where
  | missing : PatternsOf standard none standard
  | null : PatternsOf standard (some .null) standard
  | single (pattern : String) : PatternsOf standard (some (.text pattern)) [pattern]
  | list (patterns : List String) : PatternsOf standard (some (.list (patterns.map .text))) patterns
  | keys {entries : List (Scalar × Value)} {patterns : List String} :
      entries.map Prod.fst = patterns.map .text → PatternsOf standard (some (.map entries)) patterns

/-- The setup that settings ask for. What is no setting of every rule is a parameter. -/
structure SetupOf (settings : List (String × Value)) (s : RuleSetup) : Prop where
  active : (settings.lookup "active").getD (.bool true) = .bool s.active
  includes : PatternsOf [".*"] (settings.lookup "includes") s.includes
  excludes : PatternsOf [] (settings.lookup "excludes") s.excludes
  params : s.params = settings.filter fun p => p.1 ∉ ["active", "includes", "excludes"]

/-- Whether one of some values is the name of a report. -/
def names (values : List Value) (kind : Report) : Bool :=
  values.any fun
    | .scalar (.text s) => s == kind.name
    | _ => false

/-- Whether what a call asks for can be had. -/
inductive Acceptable : Call → Prop where
  | rule {name : String} {settings : List (String × Value)} {setup : RuleSetup} :
      (∀ s ∈ settings, s.1 ≠ "self" ∧ s.1 ≠ "name") → SetupOf settings setup →
      Acceptable (.rule name settings)
  | reports {values : List Value} : (∀ v ∈ values, ∃ kind : Report, v = .text kind.name) →
      Acceptable (.reports values)
  | threshold (n : Nat) : Acceptable (.threshold (.int n))

namespace Call

/-- The rule that a call is for. -/
def ruleName? : Call → Option String
  | rule name _ => some name
  | _ => none

/-- The reports that a call asks for. -/
def reports? : Call → Option Reports
  | reports values => some ⟨names values .checkstyle, names values .html⟩
  | _ => none

/-- The number of violations that a call allows. -/
def threshold? : Call → Option Nat
  | threshold (.scalar (.int n)) => some n.toNat
  | _ => none

end Call

/-- The configuration that calls ask for which do not fail: the last threshold, the last reports,
and for each rule in the order of the first calls the setup of the last one. -/
structure Built (calls : List Call) (c : Configuration) : Prop where
  threshold : c.threshold = (calls.filterMap Call.threshold?).getLast?.getD 0
  reports : c.reports = (calls.filterMap Call.reports?).getLast?.getD .both
  names : c.rules.map Prod.fst = (calls.filterMap Call.ruleName?).eraseDups
  setups : ∀ name setup, c.rules.lookup name = some setup →
    ∃ before settings rest, calls = before ++ .rule name settings :: rest ∧
      name ∉ rest.filterMap Call.ruleName? ∧ SetupOf settings setup

/-! ## One call -/

theorem eq_of_textsOf? {items : List Value} {texts : List String}
    (h : textsOf? items = some texts) : items = texts.map .text := by
  fun_induction textsOf? items generalizing texts with
  | case1 =>
    cases h
    rfl
  | case2 text rest ih =>
    obtain ⟨others, hothers, rfl⟩ := Option.map_eq_some_iff.mp h
    rw [ih hothers, List.map_cons]
    rfl
  | case3 => cases h

theorem textsOf?_texts (texts : List String) : textsOf? (texts.map .text) = some texts := by
  induction texts with
  | nil => rfl
  | cons text rest ih =>
    rw [List.map_cons, Value.text, textsOf?, ih]
    rfl

theorem patterns_of_patternsOf {value : Option Value} {standard texts : List String}
    (h : PatternsOf standard value texts) (rule key : String) :
    patterns rule key value standard = .ok texts := by
  cases h with
  | missing => rfl
  | null => rfl
  | single pattern => rfl
  | list => simp only [patterns, textsOf?_texts]
  | @keys entries patterns hkeys =>
    have htexts := congrArg (List.map Value.scalar) hkeys
    rw [List.map_map, List.map_map] at htexts
    change (entries.map fun e => Value.scalar e.1) = texts.map .text at htexts
    simp only [patterns, htexts, textsOf?_texts]

theorem patternsOf_of_patterns {rule key : String} {value : Option Value}
    {standard texts : List String} (h : patterns rule key value standard = .ok texts) :
    PatternsOf standard value texts := by
  simp only [patterns] at h
  split at h
  · cases h
    exact .missing
  · cases h
    exact .null
  · cases h
    exact .single _
  · split at h
    · rename_i hts
      cases h
      rw [eq_of_textsOf? hts]
      exact .list texts
    · cases h
  · rename_i entries
    split at h
    · rename_i hts
      cases h
      have hkeys : (entries.map Prod.fst).map Value.scalar =
          (texts.map Scalar.text).map Value.scalar := by
        rw [List.map_map, List.map_map]
        exact eq_of_textsOf? hts
      exact .keys (List.map_injective_iff.mpr (fun _ _ => Value.scalar.inj) hkeys)
    · cases h
  · cases h

/-- The setup that settings ask for can be had unless they repeat an argument. -/
theorem setupOf_eq_ok_iff {name : String} {settings : List (String × Value)} {setup : RuleSetup} :
    setupOf name settings = .ok setup ↔
      (∀ s ∈ settings, s.1 ≠ "self" ∧ s.1 ≠ "name") ∧ SetupOf settings setup := by
  have hgiven : (∀ s ∈ settings, s.1 ≠ "self" ∧ s.1 ≠ "name") ↔
      settings.find? (fun s => givenArguments.contains s.1) = none := by
    simp [givenArguments]
  rw [hgiven, setupOf]
  constructor
  · intro h
    split at h
    · cases h
    · rename_i hnone
      split at h
      · rename_i active hactive
        obtain ⟨includes, hincludes, h⟩ := bind_eq_ok.mp h
        obtain ⟨excludes, hexcludes, h⟩ := bind_eq_ok.mp h
        cases h
        refine ⟨hnone, hactive, patternsOf_of_patterns hincludes,
          patternsOf_of_patterns hexcludes, ?_⟩
        simp [setupKeys]
      · cases h
  · rintro ⟨hnone, hactive, hincludes, hexcludes, hparams⟩
    have hfilter : (settings.filter fun s => !setupKeys.contains s.1) = setup.params := by
      rw [hparams]
      simp [setupKeys]
    rw [hnone, hactive]
    simp only [Value.bool, patterns_of_patternsOf hincludes, patterns_of_patternsOf hexcludes,
      hfilter]
    rfl

/-- Values that are accepted as reports are the names of some, one by one. -/
theorem reportsOf_cons {v : Value} {rest : List Value} {kinds : List Report}
    (h : reportsOf (v :: rest) = .ok kinds) :
    ∃ first others,
      v = .text first.name ∧ reportsOf rest = .ok others ∧ kinds = first :: others := by
  simp only [reportsOf] at h
  split at h
  · cases h
  · rename_i first hfirst
    have hnamed : v = .text first.name := by
      split at hfirst
      · rw [← Report.ofName?_eq_some.mp hfirst]
        rfl
      · cases hfirst
    cases hrest : reportsOf rest with
    | error e =>
      rw [hrest] at h
      cases h
    | ok others =>
      rw [hrest] at h
      cases h
      exact ⟨first, others, hnamed, rfl, rfl⟩

/-- The names of reports are accepted. -/
theorem exists_reportsOf {values : List Value}
    (h : ∀ v ∈ values, ∃ kind : Report, v = .text kind.name) :
    ∃ kinds, reportsOf values = .ok kinds := by
  induction values with
  | nil => exact ⟨[], rfl⟩
  | cons v rest ih =>
    obtain ⟨kind, rfl⟩ := h v List.mem_cons_self
    obtain ⟨kinds, hkinds⟩ := ih fun w hw => h w (List.mem_cons_of_mem _ hw)
    refine ⟨kind :: kinds, ?_⟩
    simp only [reportsOf, Value.text, Report.ofName?_eq_some.mpr rfl, hkinds]
    rfl

theorem names_of_reportsOf {values : List Value} {kinds : List Report}
    (h : reportsOf values = .ok kinds) : ∀ v ∈ values, ∃ kind : Report, v = .text kind.name := by
  induction values generalizing kinds with
  | nil => simp
  | cons v rest ih =>
    obtain ⟨first, others, rfl, hrest, -⟩ := reportsOf_cons h
    exact List.forall_mem_cons.mpr ⟨⟨first, rfl⟩, ih hrest⟩

/-- The kinds that values name are those whose names are among them. -/
theorem reportsOf_sound {values : List Value} {kinds : List Report}
    (h : reportsOf values = .ok kinds) (kind : Report) :
    kinds.contains kind = names values kind := by
  induction values generalizing kinds with
  | nil =>
    cases h
    rfl
  | cons v rest ih =>
    obtain ⟨first, others, rfl, hrest, rfl⟩ := reportsOf_cons h
    have hown : (kind == first) = (first.name == kind.name) := by
      cases kind <;> cases first <;> rfl
    rw [List.contains_cons, ih hrest, hown]
    rfl

theorem thresholdOf_sound {value : Value} {n : Nat} (h : thresholdOf value = .ok n) :
    value = .int n := by
  unfold thresholdOf at h
  split at h
  · cases h
    rfl
  · cases h

/-- Whether a call fails is up to what it asks for, whatever the builder. -/
theorem Call.exists_apply_iff (b : Builder) (call : Call) :
    (∃ b', call.apply b = .ok b') ↔ Acceptable call := by
  constructor
  · rintro ⟨b', happly⟩
    cases call with
    | rule name settings =>
      obtain ⟨setup, hsetup, -⟩ := bind_eq_ok.mp happly
      obtain ⟨hgiven, hsetup⟩ := setupOf_eq_ok_iff.mp hsetup
      exact .rule hgiven hsetup
    | reports values =>
      obtain ⟨kinds, hkinds, -⟩ := bind_eq_ok.mp happly
      exact .reports (names_of_reportsOf hkinds)
    | threshold value =>
      obtain ⟨n, hn, -⟩ := bind_eq_ok.mp happly
      obtain rfl := thresholdOf_sound hn
      exact .threshold n
  · intro h
    cases h with
    | rule hgiven hsetup =>
      exact ⟨_, bind_eq_ok.mpr ⟨_, setupOf_eq_ok_iff.mpr ⟨hgiven, hsetup⟩, rfl⟩⟩
    | reports hnames =>
      obtain ⟨kinds, hkinds⟩ := exists_reportsOf hnames
      exact ⟨_, bind_eq_ok.mpr ⟨kinds, hkinds, rfl⟩⟩
    | threshold n => exact ⟨_, bind_eq_ok.mpr ⟨n, rfl, rfl⟩⟩

/-- A call for another thing leaves what is set up for a rule. -/
theorem Built.setups_append {calls : List Call} {c : Configuration} (h : Built calls c)
    {name : String} {setup : RuleSetup} (hlookup : c.rules.lookup name = some setup) {call : Call}
    (hother : call.ruleName? ≠ some name) :
    ∃ before settings rest, calls ++ [call] = before ++ .rule name settings :: rest ∧
      name ∉ rest.filterMap Call.ruleName? ∧ SetupOf settings setup := by
  obtain ⟨before, settings, rest, rfl, hlast, hsetup⟩ := h.setups name setup hlookup
  refine ⟨before, settings, rest ++ [call], by simp, ?_, hsetup⟩
  rw [List.filterMap_append, List.mem_append, not_or]
  refine ⟨hlast, ?_⟩
  rw [List.mem_filterMap]
  rintro ⟨other, hmem, hname⟩
  rw [List.mem_singleton.mp hmem] at hname
  exact hother hname

section Concat

variable {α : Type} {f : Call → Option α} {calls : List Call} {call : Call}

theorem filterMap_concat_of_none (h : f call = none) :
    (calls ++ [call]).filterMap f = calls.filterMap f := by
  rw [List.filterMap_append, List.filterMap_cons_none h, List.filterMap_nil, List.append_nil]

theorem filterMap_concat_of_some {a : α} (h : f call = some a) :
    (calls ++ [call]).filterMap f = calls.filterMap f ++ [a] := by
  rw [List.filterMap_append, List.filterMap_cons_some h, List.filterMap_nil]

/-- The names in the order of their first calls, one call more. -/
theorem eraseDups_concat (names : List String) (name : String) :
    (names ++ [name]).eraseDups =
      if name ∈ names.eraseDups then names.eraseDups else names.eraseDups ++ [name] := by
  rw [List.eraseDups_append]
  by_cases h : name ∈ names
  · rw [if_pos (List.mem_eraseDups.mpr h)]
    simp [List.removeAll, h]
  · rw [if_neg fun hmem => h (List.mem_eraseDups.mp hmem)]
    simp [List.removeAll, List.eraseDups_cons, h]

end Concat

namespace Built

variable {calls : List Call} {b : Builder}

/-- A rule that is set up again keeps its place. -/
theorem rule (h : Built calls b.build) {name : String} {settings : List (String × Value)}
    {setup : RuleSetup} (hsetup : SetupOf settings setup) :
    Built (calls ++ [.rule name settings])
      (build { b with rules := Association.assign b.rules name setup }) := by
  constructor
  case threshold =>
    rw [filterMap_concat_of_none rfl]
    exact h.threshold
  case reports =>
    rw [filterMap_concat_of_none rfl]
    exact h.reports
  case names =>
    have hnames : b.rules.map Prod.fst = (calls.filterMap Call.ruleName?).eraseDups := h.names
    rw [filterMap_concat_of_some (f := Call.ruleName?) rfl, eraseDups_concat, ← hnames]
    exact Association.keys_assign b.rules name setup
  case setups =>
    intro key found hlookup
    have hassigned : (Association.assign b.rules name setup).lookup key = some found := hlookup
    rw [Association.lookup_assign] at hassigned
    split at hassigned
    · rename_i hkey
      cases hassigned
      subst hkey
      exact ⟨calls, settings, [], rfl, by simp, hsetup⟩
    · rename_i hkey
      exact h.setups_append hassigned fun hname => hkey (Option.some.inj hname).symm

/-- What is built is what was asked for, one accepted call more. -/
theorem apply (h : Built calls b.build) {call : Call} {b' : Builder}
    (happly : call.apply b = .ok b') : Built (calls ++ [call]) b'.build := by
  cases call with
  | rule name settings =>
    obtain ⟨setup, hsetup, hb⟩ := bind_eq_ok.mp happly
    cases hb
    exact h.rule (setupOf_eq_ok_iff.mp hsetup).2
  | reports values =>
    obtain ⟨kinds, hkinds, hb⟩ := bind_eq_ok.mp happly
    cases hb
    constructor
    case threshold =>
      rw [filterMap_concat_of_none rfl]
      exact h.threshold
    case reports =>
      rw [filterMap_concat_of_some (f := Call.reports?) rfl, List.getLast?_concat, Option.getD_some,
        ← reportsOf_sound hkinds, ← reportsOf_sound hkinds]
      rfl
    case names =>
      rw [filterMap_concat_of_none rfl]
      exact h.names
    case setups =>
      intro key found hlookup
      exact h.setups_append hlookup (by simp [Call.ruleName?])
  | threshold value =>
    obtain ⟨n, hn, hb⟩ := bind_eq_ok.mp happly
    cases hb
    obtain rfl := thresholdOf_sound hn
    constructor
    case threshold =>
      rw [filterMap_concat_of_some (f := Call.threshold?) rfl, List.getLast?_concat]
      rfl
    case reports =>
      rw [filterMap_concat_of_none rfl]
      exact h.reports
    case names =>
      rw [filterMap_concat_of_none rfl]
      exact h.names
    case setups =>
      intro key found hlookup
      exact h.setups_append hlookup (by simp [Call.ruleName?])

/-! ## All calls -/

/-- Nothing is asked for at the start. -/
theorem start : Built [] ({} : Builder).build := by
  constructor
  case setups =>
    intro key found hlookup
    cases hlookup
  all_goals rfl

/-- What is built is what was asked for, whatever calls come after. -/
theorem after (h : Built calls b.build) (more : List Call) :
    Built (calls ++ accepted b more) (after b more).build := by
  induction more generalizing calls b with
  | nil =>
    rw [accepted, List.append_nil]
    exact h
  | cons call rest ih =>
    rcases accepted_cons b call rest with ⟨b', happly, haccepted, hafter⟩ | ⟨-, haccepted, hafter⟩
    · rw [haccepted, hafter, ← List.singleton_append, ← List.append_assoc]
      exact ih (h.apply happly)
    · rw [haccepted, hafter]
      exact ih h

end Built

theorem mem_accepted_iff (b : Builder) (calls : List Call) (call : Call) :
    call ∈ accepted b calls ↔ call ∈ calls ∧ Acceptable call := by
  induction calls generalizing b with
  | nil => simp [accepted]
  | cons first rest ih =>
    rw [List.mem_cons, or_and_right]
    rcases accepted_cons b first rest with ⟨b', happly, haccepted, -⟩ | ⟨⟨e, he⟩, haccepted, -⟩
    · have hfirst : Acceptable first := (first.exists_apply_iff b).mp ⟨b', happly⟩
      rw [haccepted, List.mem_cons, ih]
      refine or_congr_left ⟨?_, And.left⟩
      rintro rfl
      exact ⟨rfl, hfirst⟩
    · have hfirst : ¬(call = first ∧ Acceptable call) := by
        rintro ⟨rfl, hcall⟩
        obtain ⟨b', happly⟩ := (call.exists_apply_iff b).mpr hcall
        rw [he] at happly
        cases happly
      rw [haccepted, ih, or_iff_right hfirst]

/-- Whatever calls are made on a new builder, what it builds is what it builds after those alone
that do not fail, none of which fails then, and it is what these ask for. They are those that ask
for something that can be had. -/
theorem build_of_calls (calls : List Call) :
    (after {} calls).build = (after {} (accepted {} calls)).build ∧
      accepted {} (accepted {} calls) = accepted {} calls ∧
      (∀ call, call ∈ accepted {} calls ↔ call ∈ calls ∧ Acceptable call) ∧
      Built (accepted {} calls) (after {} calls).build := by
  obtain ⟨hsame, hafter⟩ := after_accepted {} calls
  exact ⟨by rw [hafter], hsame, mem_accepted_iff {} calls, Built.start.after calls⟩

end Builder

end MarkdownLint
