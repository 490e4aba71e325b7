import MarkdownLint.Proofs.Check.Sites
import MarkdownLint.Scan
import Mathlib.Tactic.Choose

/-!
Every rule that a configuration calls for succeeds on every document whose blocks meet the contract
of the parser, and reports inside the document, from the front to the back. A check is handled by
what it finds at its sites; a list of rules by what each of its members finds.
-/
namespace MarkdownLint

open Markdown (Kind Node)

/-- The kinds of blocks whose lines the checks look at. -/
def Markdown.Kind.isLocated : Kind → Bool
  | .heading _ => true
  | .thematicBreak => true
  | .fence => true
  | .codeBlock => true
  | _ => false

/-- What a parser promises of the blocks of a document: headings, breaks and blocks of code cover
lines of the document, headings have levels from one to six, and neither two headings nor two breaks
start on one line, the later one starting further down. -/
structure Document.WellParsed (d : Document) : Prop where
  spans : ∀ n ∈ d.nodes, n.kind.isLocated → n.span.first < n.span.last ∧ n.span.last ≤ d.lineCount
  levels : ∀ h ∈ d.headings, 1 ≤ h.1 ∧ h.1 ≤ 6
  headings : (d.headings.map fun h => h.2.span.first).Pairwise (· < ·)
  breaks : ((d.nodesWhere (· == .thematicBreak)).map fun n => n.span.first).Pairwise (· < ·)

/-- A violation lies inside a document, and its line and column are those of its start. -/
structure Violation.PlacedIn (v : Violation) (d : Document) : Prop where
  severity : v.severity = .error
  start_le_stop : v.start ≤ v.stop
  stop_le : v.stop ≤ d.length
  line_pos : 1 ≤ v.line
  line_le : v.line ≤ d.lineCount
  column : ∃ o, d.lineOffsets[(v.line - 1).toNat]? = some o ∧ (o : Int) + v.column - 1 = v.start

/-- Violations in the order of their places, no two of which start together. -/
def Ascending (vs : List Violation) : Prop := vs.Pairwise fun v w => v.start < w.start

/-! ## Sites -/

namespace Check

variable {c : Check} {d : Document}

theorem IsAt.placedIn {i k : Nat} {v : Violation} (h : c.IsAt d i k v) : v.PlacedIn d where
  severity := h.severity
  start_le_stop := h.start_le_stop
  stop_le := h.stop_le
  line_pos := by rw [h.line]; omega
  line_le := by rw [h.line]; have := h.line_lt; omega
  column := by
    have hi : (v.line - 1).toNat = i := by rw [h.line]; omega
    refine ⟨d.offset i, by rw [hi, Document.getElem?_lineOffsets h.line_lt], ?_⟩
    rw [h.column, h.start]
    omega

theorem IsAt.start_lt {i j k l : Nat} {v w : Violation} (hv : c.IsAt d i k v)
    (hw : c.IsAt d j l w) (hij : i < j) : v.start < w.start := by
  have hend := Document.offset_add_length_lt hij hw.line_lt
  have hk := hv.column_le
  rw [hv.start, hw.start]
  omega

/-- A check succeeds, with violations at sites in ascending order. -/
structure Finds (c : Check) (d : Document) (vs : List Violation) : Prop where
  visit : c.visit d = .ok vs
  sites : ∀ v ∈ vs, ∃ i k, c.IsAt d i k v
  ascending : Ascending vs

/-- At most one violation on each of some things that lie on ever later lines. -/
theorem finds_filterMap {α : Type} {l : List α} (line : α → Nat) {g : α → Option Violation}
    (hvisit : c.visit d = .ok (l.filterMap g)) (hl : (l.map line).Pairwise (· < ·))
    (hg : ∀ a ∈ l, ∀ v, g a = some v → ∃ k, c.IsAt d (line a) k v) :
    c.Finds d (l.filterMap g) where
  visit := hvisit
  sites := by
    intro v hv
    obtain ⟨a, ha, hav⟩ := List.mem_filterMap.mp hv
    exact ⟨line a, hg a ha v hav⟩
  ascending := by
    rw [Ascending, List.pairwise_filterMap]
    refine (List.pairwise_map.mp hl).imp_of_mem fun ha hb hab v hv w hw => ?_
    obtain ⟨k, hk⟩ := hg _ ha v hv
    obtain ⟨m, hm⟩ := hg _ hb w hw
    exact hk.start_lt hm hab

/-- At most one violation on each line. -/
theorem finds_on_lines {g : Nat → Option Violation}
    (hvisit : c.visit d = .ok ((List.range d.lineCount).filterMap g))
    (hg : ∀ i < d.lineCount, ∀ v, g i = some v → ∃ k, c.IsAt d i k v) :
    ∃ vs, c.Finds d vs := by
  refine ⟨_, finds_filterMap (fun i => i) hvisit ?_ fun i hi => hg i (List.mem_range.mp hi)⟩
  simpa using List.pairwise_lt_range

/-! ## The checks, one by one -/

theorem finds_hardTabs (d : Document) : ∃ vs, hardTabs.Finds d vs := by
  refine ⟨_, visitHardTabs_eq d, ?_, ?_⟩
  · intro v hv
    obtain ⟨s, hs, rfl⟩ := List.mem_map.mp hv
    obtain ⟨i, hi, hs⟩ := List.mem_flatMap.mp hs
    obtain ⟨k, hk, rfl⟩ := List.mem_map.mp hs
    have hk : k < (d.textAt i).length := lt_of_mem_tabColumns hk
    have hlen : d.offset i + k + 1 ≤ d.length := by
      have := Document.offset_add_length_le (d := d) i
      omega
    exact ⟨i, k, isAt_violationAt (List.mem_range.mp hi) (Nat.le_of_lt hk) (Nat.le_succ _) hlen⟩
  · -- the starts are the places of the tabs in the whole text, counted from the front
    have hstarts : (tabColumns d.text).Pairwise (· < ·) := by
      have hsub : (tabColumns d.text).Sublist (d.text.zipIdx.map (·.2)) :=
        List.filter_sublist.map _
      rw [List.zipIdx_map_snd] at hsub
      exact List.Pairwise.sublist hsub List.pairwise_lt_range'
    rw [tabColumns_text, List.pairwise_map] at hstarts
    exact List.pairwise_map.mpr hstarts

theorem finds_trailingSpaces (d : Document) : ∃ vs, trailingSpaces.Finds d vs := by
  refine finds_on_lines (visitTrailingSpaces_eq d) fun i hi v hv => ?_
  have hk := length_dropEndWhile_le Text.isIndent (d.textAt i)
  simp only [trailingSpacesOn] at hv
  split at hv
  · cases hv
  · cases hv
    exact ⟨_, isAt_violationAt hi hk (by omega) (Document.offset_add_length_le i)⟩

theorem finds_multipleBlanks (d : Document) : ∃ vs, multipleBlanks.Finds d vs := by
  refine finds_on_lines (visitMultipleBlanks_eq d) fun i hi v hv => ?_
  simp only [multipleBlanksOn] at hv
  split at hv
  · cases hv
  · split at hv
    · cases hv
      exact ⟨0, isAt_violationAt hi (Nat.zero_le _) (by omega) (Document.offset_add_length_le i)⟩
    · cases hv

theorem finds_lineLength (limit : Nat) (codeBlocks : Bool) (d : Document) :
    ∃ vs, (lineLength limit codeBlocks).Finds d vs := by
  refine finds_on_lines (visitLineLength_eq limit codeBlocks d) fun i hi v hv => ?_
  simp only [lineLengthOn] at hv
  split at hv
  · cases hv
  · split at hv
    · rename_i hlong
      simp only [Bool.and_eq_true, decide_eq_true_eq] at hlong
      cases hv
      exact ⟨limit, isAt_violationAt hi (Nat.le_of_lt hlong.1) (by omega)
        (Document.offset_add_length_le i)⟩
    · cases hv

theorem finds_filename (d : Document) : ∃ vs, filename.Finds d vs := by
  refine ⟨_, visitFilename_eq d, ?_, ?_⟩
  · intro v hv
    split at hv
    · rw [List.mem_singleton.mp hv]
      exact ⟨0, 0, isAt_violationAt d.lineCount_pos (Nat.zero_le _) (Nat.le_refl 0)
        (Nat.zero_le _)⟩
    · cases hv
  · split <;> simp [Ascending]

/-! ## Checks of blocks -/

theorem mem_nodes_of_mem_headings {h : Nat × Node} (hh : h ∈ d.headings) :
    h.2 ∈ d.nodes ∧ h.2.kind = .heading h.1 := by
  obtain ⟨n, hn, hmatch⟩ := List.mem_filterMap.mp hh
  split at hmatch
  · rename_i level hkind
    cases hmatch
    exact ⟨hn, hkind⟩
  · cases hmatch

theorem headingsInside (hd : d.WellParsed) : HeadingsInside d := by
  intro h hh
  obtain ⟨hn, hkind⟩ := mem_nodes_of_mem_headings hh
  obtain ⟨hlt, hle⟩ := hd.spans h.2 hn (by rw [hkind]; rfl)
  omega

theorem breaksInside (hd : d.WellParsed) :
    ∀ n ∈ d.nodesWhere (· == .thematicBreak), n.span.first < d.lineCount := by
  intro n hn
  obtain ⟨hn, hkind⟩ := List.mem_filter.mp hn
  obtain ⟨hlt, hle⟩ := hd.spans n hn (by rw [beq_iff_eq.mp hkind]; rfl)
  omega

/-- At most one violation on each of some headings. -/
theorem finds_on_headings (hd : d.WellParsed) {l : List (Nat × Node)} (hl : l.Sublist d.headings)
    {g : Nat × Node → Option Violation} (hvisit : c.visit d = .ok (l.filterMap g))
    (hg : ∀ h v, g h = some v → v = c.violationOn d h.2 none) : ∃ vs, c.Finds d vs := by
  refine ⟨_, finds_filterMap (fun h => h.2.span.first) hvisit (hd.headings.sublist (hl.map _))
    fun h hh v hv => ⟨0, ?_⟩⟩
  rw [hg h v hv]
  exact isAt_violationOn (headingsInside hd h (hl.subset hh))

theorem finds_firstHeading (level : Level) (hd : d.WellParsed) :
    ∃ vs, (firstHeading level).Finds d vs := by
  refine finds_on_headings hd (List.take_sublist 1 d.headings)
    (visitFirstHeading_eq level (headingsInside hd)) fun h v hv => ?_
  split at hv
  · cases hv
  · exact (Option.some.inj hv).symm

theorem finds_singleHeading (level : Level) (hd : d.WellParsed) :
    ∃ vs, (singleHeading level).Finds d vs := by
  have hsub : ((d.headings.filter fun h => h.1 == level.number).drop 1).Sublist d.headings :=
    (List.drop_sublist ..).trans List.filter_sublist
  have hvisit := visitSingleHeading_eq level (headingsInside hd)
  rw [← List.filterMap_eq_map] at hvisit
  exact finds_on_headings hd hsub hvisit fun h v hv => (Option.some.inj hv).symm

theorem finds_blanksAroundHeadings (hd : d.WellParsed) :
    ∃ vs, blanksAroundHeadings.Finds d vs := by
  refine finds_on_headings hd List.filter_sublist
    (visitBlanksAroundHeadings_eq (headingsInside hd)) fun h v hv => ?_
  simp only [blanksAroundOn] at hv
  split at hv
  · cases hv
  · exact (Option.some.inj hv).symm

/-- Breaks compared with an expected text. -/
theorem finds_breaks (hd : d.WellParsed) {ns : List Node} {expected : String}
    (hns : ns.Sublist (d.nodesWhere (· == .thematicBreak)))
    (hvisit : c.visit d = visitBreaks c d (some expected) ns) : ∃ vs, c.Finds d vs := by
  have hin : ∀ n ∈ ns, n.span.first < d.lineCount :=
    fun n hn => breaksInside hd n (hns.subset hn)
  rw [visitBreaks_some c d expected hin] at hvisit
  refine ⟨_, finds_filterMap (fun n => n.span.first) hvisit (hd.breaks.sublist (hns.map _))
    fun n hn v hv => ⟨0, ?_⟩⟩
  simp only [breakOn] at hv
  split at hv
  · cases hv
  · rw [← Option.some.inj hv]
    exact isAt_violationOn (hin n hn)

theorem finds_breakStyle (style : String) (hd : d.WellParsed) :
    ∃ vs, (breakStyle style).Finds d vs := by
  have hvisit : (breakStyle style).visit d = visitBreaks (breakStyle style) d
      (expectedBreak style) (d.nodesWhere (· == .thematicBreak)) := rfl
  cases hexp : expectedBreak style with
  | some expected => exact finds_breaks hd (List.Sublist.refl _) (hexp ▸ hvisit)
  | none =>
    cases hns : d.nodesWhere (· == .thematicBreak) with
    | nil =>
      rw [hexp, hns] at hvisit
      exact ⟨[], hvisit, by simp, List.Pairwise.nil⟩
    | cons n ns =>
      have hn : n.span.first < d.lineCount := breaksInside hd n (by simp [hns])
      rw [hexp, hns, visitBreaks_none_cons _ d hn] at hvisit
      exact finds_breaks hd (hns ▸ List.sublist_cons_self n ns) hvisit

/-- Every check succeeds on every document whose blocks meet the contract. -/
theorem exists_finds (c : Check) (hd : d.WellParsed) : ∃ vs, c.Finds d vs := by
  cases c with
  | hardTabs => exact finds_hardTabs d
  | trailingSpaces => exact finds_trailingSpaces d
  | multipleBlanks => exact finds_multipleBlanks d
  | lineLength limit codeBlocks => exact finds_lineLength limit codeBlocks d
  | firstHeading level => exact finds_firstHeading level hd
  | singleHeading level => exact finds_singleHeading level hd
  | blanksAroundHeadings => exact finds_blanksAroundHeadings hd
  | breakStyle style => exact finds_breakStyle style hd
  | filename => exact finds_filename d

end Check

/-! ## Rules -/

theorem Rule.process_ok (r : Rule) {d : Document} (hd : d.WellParsed) :
    ∃ vs, r.process d = .ok vs ∧ (∀ v ∈ vs, v.rule = r.name ∧ v.PlacedIn d) ∧ Ascending vs := by
  by_cases happ : r.appliesTo d.filename
  · obtain ⟨vs, hvs⟩ := r.check.exists_finds hd
    refine ⟨vs, by rw [process, if_pos happ, hvs.visit], fun v hv => ?_, hvs.ascending⟩
    obtain ⟨i, k, hat⟩ := hvs.sites v hv
    exact ⟨hat.rule, hat.placedIn⟩
  · exact ⟨[], by rw [process, if_neg happ], by simp, List.Pairwise.nil⟩

theorem Rule.kind_of_checkOf {kind : CheckKind} {params : List (String × Value)} {c : Check}
    (h : Rule.checkOf kind params = .ok c) : c.kind = kind := by
  cases kind with
  | hardTabs | trailingSpaces | multipleBlanks | blanksAroundHeadings | filename =>
    cases h
    rfl
  | lineLength =>
    simp only [Rule.checkOf, bind, Except.bind] at h
    split at h <;> cases h
    rfl
  | firstHeading | singleHeading | breakStyle =>
    simp only [Rule.checkOf, bind, Except.bind] at h
    split at h <;> cases h
    rfl

variable {named : Pattern.CharacterNames}

theorem Rule.kind_of_make {kind : CheckKind} {setup : RuleSetup} {params : List (String × Value)}
    {r : Rule} (h : Rule.make named kind setup params = .ok r) : r.check.kind = kind := by
  simp only [Rule.make, bind, Except.bind] at h
  split at h
  · cases h
  split at h
  · cases h
  split at h
  · cases h
  split at h
  · cases h
  · rename_i check hcheck
    cases h
    exact Rule.kind_of_checkOf hcheck

namespace Configuration

variable {c : Configuration}

theorem kind_of_makeRule {kind : CheckKind} {r : Rule} (h : c.makeRule named kind = .ok r) :
    r.check.kind = kind := by
  simp only [makeRule] at h
  split at h
  · rename_i hmake
    cases h
    exact Rule.kind_of_make hmake
  · cases h

/-- Rules are made in the order of their kinds, at most one of each. -/
theorem kinds_of_makeRules {kinds : List CheckKind} {rules : List Rule}
    (h : c.makeRules named kinds = .ok rules) :
    (rules.map fun r => r.check.kind).Sublist kinds := by
  induction kinds generalizing rules with
  | nil =>
    cases h
    exact List.Sublist.refl _
  | cons kind kinds ih =>
    simp only [makeRules] at h
    split at h
    · cases hr : c.makeRule named kind with
      | error e => simp [hr, bind, Except.bind] at h
      | ok r =>
        cases hrest : c.makeRules named kinds with
        | error e => simp [hr, hrest, bind, Except.bind] at h
        | ok rest =>
          simp only [hr, hrest, bind, Except.bind, pure, Except.pure, Except.ok.injEq] at h
          subst h
          rw [List.map_cons, kind_of_makeRule hr]
          exact (ih hrest).cons_cons kind
    · exact (ih h).cons kind

theorem names_nodup_of_instantiate {rules : List Rule} (h : c.instantiate named = .ok rules) :
    (rules.map Rule.name).Nodup := by
  have hkinds : (rules.map fun r => r.check.kind).Sublist CheckKind.all := by
    simp only [instantiate] at h
    split at h
    · exact kinds_of_makeRules h
    · cases h
  have hnames : (rules.map Rule.name).Sublist (CheckKind.all.map CheckKind.name) := by
    have hmap := hkinds.map CheckKind.name
    rwa [List.map_map] at hmap
  exact hnames.nodup (by decide)

end Configuration

/-! ## Lists of rules -/

theorem applyRules_eq {d : Document} {rules : List Rule} {found : Rule → List Violation}
    (h : ∀ r ∈ rules, r.process d = .ok (found r)) :
    applyRules d (rules.map Rule.checker) =
      { filename := d.filename, violations := rules.flatMap found } := by
  induction rules with
  | nil => rfl
  | cons r rules ih =>
    have hr : r.checker.process d = .ok (found r) := h r (by simp)
    simp only [List.map_cons, applyRules, hr, ih fun s hs => h s (by simp [hs]),
      List.flatMap_cons]

/-- The violations that carry the name of a rule are those the rule found. -/
theorem filter_flatMap_name {rules : List Rule} {found : Rule → List Violation}
    (hname : ∀ r ∈ rules, ∀ v ∈ found r, v.rule = r.name) (hnodup : (rules.map Rule.name).Nodup)
    {r : Rule} (hr : r ∈ rules) :
    (rules.flatMap found).filter (fun v => v.rule == r.name) = found r :=
  filter_flatMap_key hname hnodup hr

/-- The rules of a configuration never fail on a document whose blocks meet the contract. Every
violation lies inside the document, with the line and the column of its start, and carries the name
of a rule; those with the name of one rule are what the rule found, in ascending order. -/
theorem applyRules_placed {c : Configuration} {rules : List Rule} {d : Document}
    (hc : c.instantiate named = .ok rules) (hd : d.WellParsed) :
    (applyRules d (rules.map Rule.checker)).ruleFailures = [] ∧
      (∀ v ∈ (applyRules d (rules.map Rule.checker)).violations,
        v.PlacedIn d ∧ ∃ r ∈ rules, v.rule = r.name) ∧
      ∀ r ∈ rules, ∃ vs, r.process d = .ok vs ∧ Ascending vs ∧
        (applyRules d (rules.map Rule.checker)).violations.filter (fun v => v.rule == r.name) =
          vs := by
  have hex : ∀ r : Rule, ∃ vs, r.process d = .ok vs ∧
      (∀ v ∈ vs, v.rule = r.name ∧ v.PlacedIn d) ∧ Ascending vs := fun r => r.process_ok hd
  choose found hprocess hplaced hascending using hex
  rw [applyRules_eq fun r _ => hprocess r]
  refine ⟨rfl, fun v hv => ?_, fun r hr => ⟨found r, hprocess r, hascending r, ?_⟩⟩
  · obtain ⟨r, hr, hv⟩ := List.mem_flatMap.mp hv
    exact ⟨(hplaced r v hv).2, r, hr, (hplaced r v hv).1⟩
  · exact filter_flatMap_name (fun s _ v hv => (hplaced s v hv).1)
      (Configuration.names_nodup_of_instantiate hc) hr

/-- A document with every kind of terminator and none at its end, which seven of the nine rules find
fault with. -/
def mixedTerminators : Document where
  filename := "a b.md"
  text := "\t# A  \r\n\r\n\r---\n***\r\n# B".toList
  blocks := [.mk (.heading 1) ⟨0, 1⟩ [], .mk .thematicBreak ⟨3, 4⟩ [],
    .mk .thematicBreak ⟨4, 5⟩ [], .mk (.heading 1) ⟨5, 6⟩ []]

theorem wellParsed_mixedTerminators : mixedTerminators.WellParsed where
  spans := by decide
  levels := by decide
  headings := by decide
  breaks := by decide

theorem applyRules_placed_mixedTerminators :
    ∃ rules, Configuration.instantiate {} (fun _ => none) = .ok rules ∧
      mixedTerminators.WellParsed ∧
      (applyRules mixedTerminators (rules.map Rule.checker)).ruleFailures = [] ∧
      (∀ v ∈ (applyRules mixedTerminators (rules.map Rule.checker)).violations,
        v.PlacedIn mixedTerminators ∧ ∃ r ∈ rules, v.rule = r.name) ∧
      ∀ r ∈ rules, ∃ vs, r.process mixedTerminators = .ok vs ∧ Ascending vs ∧
        (applyRules mixedTerminators (rules.map Rule.checker)).violations.filter
          (fun v => v.rule == r.name) = vs := by
  have hknown : Configuration.unknownRules {} = [] := by simp [Configuration.unknownRules]
  have hmade : ∃ rules, Configuration.instantiate {} (fun _ => none) = .ok rules := by
    simp only [Configuration.instantiate, hknown]
    exact ⟨_, rfl⟩
  obtain ⟨rules, hrules⟩ := hmade
  exact ⟨rules, hrules, wellParsed_mixedTerminators,
    applyRules_placed hrules wellParsed_mixedTerminators⟩

end MarkdownLint
