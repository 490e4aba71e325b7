import MarkdownLint.Proofs.Check.Markers
import MarkdownLint.Proofs.Check.Sites
import MarkdownLint.Proofs.Markdown.Breaks
import MarkdownLint.Rule.Basic

/-!
The style of thematic breaks. Under an exact style the check reports the breaks that are written
differently (`visit_breakStyle_eq_ok_iff`), and asking for consistency comes to the exact style of
the first break (`visit_consistentStyle`). How a break of a parsed document is written is always an
exact style (`exists_writtenText`).
-/
namespace MarkdownLint

open Markdown (Grammar IsBreakMark IsBreakOf Node)

/-- The thematic breaks of a document, in order. -/
def Document.breaks (d : Document) : List Node := d.nodesWhere (· == .thematicBreak)

namespace Check

/-- How a break is written, if it starts on a line of the document. -/
def writtenText (d : Document) (n : Node) : Except Fault String := do
  let (start, stop) ← d.blockRange n.span
  return String.ofList (breakText (d.slice start stop) n)

/-- A style that is itself the text it requires, and no word that stands for one. -/
def IsExact (style : String) : Prop :=
  style ≠ "" ∧ style ∉ consistentStyle :: namedStyles.map (·.1)

/-- What is reported for a break that is not written in an exact style. -/
def styleViolation (style : String) (d : Document) (n : Node) : Violation :=
  (breakStyle style).violationOn d n
    (some ((breakStyle style).description ++ " (expected '" ++ style ++ "')"))

variable {d : Document} {n : Node} {ns : List Node} {s t : String}

/-! ## Texts of breaks -/

theorem writtenText_eq (h : n.span.first < d.lineCount) :
    writtenText d n = .ok (breakTextOf d n) := by
  simp only [writtenText, Document.blockRange_eq h, bind, Except.bind, pure, Except.pure,
    breakTextOf]

theorem writtenText_eq_ok_iff :
    writtenText d n = .ok t ↔ n.span.first < d.lineCount ∧ breakTextOf d n = t := by
  constructor
  · intro h
    rcases Nat.lt_or_ge n.span.first d.lineCount with hin | hout
    · rw [writtenText_eq hin] at h
      exact ⟨hin, Except.ok.inj h⟩
    · simp only [writtenText, Document.blockRange_eq_error hout, bind, Except.bind] at h
      cases h
  · rintro ⟨hin, rfl⟩
    exact writtenText_eq hin

/-- No word for a style begins like a break. -/
theorem isExact_of_isBreakMark {t : List Char} (h : IsBreakMark t) : IsExact (String.ofList t) := by
  obtain ⟨c, hc, hfirst, -⟩ := h
  have hwords : ∀ word ∈ "" :: consistentStyle :: namedStyles.map (·.1),
      word.toList.head?.all (fun c => !(['*', '-', '_'].contains c)) = true := by decide
  have hword : String.ofList t ∉ "" :: consistentStyle :: namedStyles.map (·.1) := by
    intro hmem
    have hnoMark := hwords _ hmem
    rw [String.toList_ofList, hfirst, Option.all_some, List.contains_iff_mem.mpr hc] at hnoMark
    cases hnoMark
  exact ⟨fun hempty => hword (hempty ▸ List.mem_cons_self), fun hmem =>
    hword (List.mem_cons_of_mem _ hmem)⟩

/-- How a break is written has no blanks at its ends. -/
theorem not_isBlank_of_isBreakMark {t : List Char} (h : IsBreakMark t) :
    (∀ c ∈ t.head?, Text.isBlank c = false) ∧ ∀ c ∈ t.getLast?, Text.isBlank c = false := by
  obtain ⟨c, hc, hfirst, hlast, -⟩ := h
  simp [hfirst, hlast, Markdown.not_isBlank_of_mem hc]

/-- A break on a line of the document, behind what its containers put there, is written as a style
that can be asked for. -/
theorem exists_writtenText (h : IsBreakOf d.lineTexts n) :
    ∃ t, writtenText d n = .ok t ∧ IsBreakMark t.toList ∧ IsExact t := by
  obtain ⟨line, w, t, w', hline, hspan, hleads, hw, hw', hmark⟩ := h
  have hlt : n.span.first < d.lineCount := by
    rw [← Document.length_lineTexts]
    exact (List.getElem?_eq_some_iff.mp hline).1
  have htext : d.slice (d.offset n.span.first) (d.blockStop n.span) = line := by
    rw [Document.blockStop_of_one_line hlt hspan, Document.slice_offset hlt, Document.textAt, hline]
    rfl
  obtain ⟨hfirst, hlast⟩ := not_isBlank_of_isBreakMark hmark
  have htrims := trims_foldl_dropMarker hleads hw hw' hfirst hlast
  refine ⟨String.ofList t, ?_, by rwa [String.toList_ofList], isExact_of_isBreakMark hmark⟩
  rw [writtenText_eq hlt, breakTextOf, htext, breakText, htrims.trim_eq]

/-- A style without blanks around it is taken as it is. -/
theorem checkOf_style (htrim : Text.trim s.toList = s.toList) (hne : s ≠ "") :
    Rule.checkOf .breakStyle [("style", .text s)] = .ok (breakStyle s) := by
  have hsome : s.toList.isEmpty = false := by simpa using hne
  have hstyle : Rule.styleOf (.text s) = .ok s := by
    simp only [Rule.styleOf, Value.text, Text.trimString, htrim, hsome, String.ofList_toList]
    rfl
  simp only [Rule.checkOf, List.lookup_cons_self, Option.getD_some, hstyle, bind, Except.bind, pure,
    Except.pure]

theorem trim_writtenText (h : writtenText d n = .ok t) : Text.trim t.toList = t.toList := by
  obtain ⟨-, rfl⟩ := writtenText_eq_ok_iff.mp h
  rw [breakTextOf, String.toList_ofList, breakText]
  exact Text.trim_trim _

/-! ## Exact styles -/

/-- A break that starts behind the last line is looked at even if others are reported. -/
theorem visitBreaks_eq_error {c : Check} (h : ∃ n ∈ ns, d.lineCount ≤ n.span.first) :
    visitBreaks c d (some s) ns = .error .noSuchLine := by
  induction ns with
  | nil => simp at h
  | cons m ns ih =>
    rcases Nat.lt_or_ge m.span.first d.lineCount with hin | hout
    · obtain ⟨n, hn, hout⟩ := h
      rcases List.mem_cons.mp hn with rfl | hn
      · omega
      · rw [visitBreaks_some_cons c d s hin, ih ⟨n, hn, hout⟩]
        rfl
    · simp only [visitBreaks, Document.blockRange_eq_error hout, bind, Except.bind]

theorem filterMap_breakOn (h : ∀ m ∈ ns, m.span.first < d.lineCount) :
    ns.filterMap (breakOn (breakStyle s) d s) =
      (ns.filter fun m => writtenText d m ≠ .ok s).map (styleViolation s d) := by
  induction ns with
  | nil => rfl
  | cons m ns ih =>
    have hns := ih fun n hn => h n (List.mem_cons_of_mem m hn)
    have hm := writtenText_eq (h m List.mem_cons_self)
    by_cases hsame : breakTextOf d m = s
    · have hnone : breakOn (breakStyle s) d s m = none := by simp [breakOn, hsame]
      rw [List.filterMap_cons_none hnone, hns, List.filter_cons_of_neg (by simp [hm, hsame])]
    · have hsome : breakOn (breakStyle s) d s m = some (styleViolation s d m) := by
        simp [breakOn, hsame, styleViolation]
      rw [List.filterMap_cons_some hsome, hns, List.filter_cons_of_pos (by simp [hm, hsame]),
        List.map_cons]

theorem expectedBreak_of_isExact (h : IsExact s) : expectedBreak s = some s := by
  obtain ⟨hfirst, hname⟩ : s ≠ consistentStyle ∧ s ∉ namedStyles.map (·.1) := by
    simpa using h.2
  have hnone : namedStyles.lookup s = none := by
    refine List.lookup_eq_none_iff.mpr fun p hp => bne_iff_ne.mpr ?_
    rintro rfl
    exact hname (List.mem_map_of_mem hp)
  rw [expectedBreak, if_neg (by simpa using hfirst), hnone, Option.getD_none]

theorem visit_breakStyle_eq (h : IsExact s) :
    (breakStyle s).visit d = visitBreaks (breakStyle s) d (some s) d.breaks := by
  rw [visit, visitBreakStyle, expectedBreak_of_isExact h, Document.breaks]

/-- Under an exact style, the breaks that are written differently are reported, in order. -/
theorem visit_breakStyle_eq_ok_iff (h : IsExact s) {vs : List Violation} :
    (breakStyle s).visit d = .ok vs ↔ (∀ m ∈ d.breaks, ∃ t, writtenText d m = .ok t) ∧
      vs = (d.breaks.filter fun m => writtenText d m ≠ .ok s).map (styleViolation s d) := by
  rw [visit_breakStyle_eq h]
  by_cases hin : ∀ m ∈ d.breaks, m.span.first < d.lineCount
  · rw [visitBreaks_some _ d s hin, filterMap_breakOn hin, Except.ok.injEq]
    constructor
    · intro hvs
      exact ⟨fun m hm => ⟨_, writtenText_eq (hin m hm)⟩, hvs.symm⟩
    · intro hvs
      exact hvs.2.symm
  · push Not at hin
    rw [visitBreaks_eq_error hin]
    constructor
    · intro hvs
      cases hvs
    · rintro ⟨htexts, -⟩
      obtain ⟨m, hm, hout⟩ := hin
      obtain ⟨t, ht⟩ := htexts m hm
      have := (writtenText_eq_ok_iff.mp ht).1
      omega

/-! ## Consistency -/

/-- The style itself is seen in violations only as the expectation. -/
theorem visitBreaks_style (s t : String) (expected : Option String) (ns : List Node) :
    visitBreaks (breakStyle s) d expected ns = visitBreaks (breakStyle t) d expected ns := by
  induction ns generalizing expected with
  | nil => rfl
  | cons n ns ih =>
    simp only [visitBreaks, ih]
    rfl

/-- The first break sets the style that the others are held to. -/
theorem visit_consistentStyle (h : d.breaks = n :: ns) (ht : writtenText d n = .ok t)
    (hexact : IsExact t) : (breakStyle consistentStyle).visit d = (breakStyle t).visit d := by
  obtain ⟨hin, htext⟩ := writtenText_eq_ok_iff.mp ht
  have hfirst : breakOn (breakStyle t) d t n = none := by simp [breakOn, htext]
  have hlearn : (breakStyle consistentStyle).visit d =
      visitBreaks (breakStyle consistentStyle) d none d.breaks := rfl
  calc (breakStyle consistentStyle).visit d
      = visitBreaks (breakStyle consistentStyle) d none (n :: ns) := by rw [hlearn, h]
    _ = visitBreaks (breakStyle consistentStyle) d (some t) ns := by
      rw [visitBreaks_none_cons _ d hin, htext]
    _ = visitBreaks (breakStyle t) d (some t) ns := visitBreaks_style ..
    _ = visitBreaks (breakStyle t) d (some t) (n :: ns) := by
      rw [visitBreaks_some_cons _ d t hin, hfirst]
      cases visitBreaks (breakStyle t) d (some t) ns <;> rfl
    _ = (breakStyle t).visit d := by rw [visit_breakStyle_eq hexact, h]

theorem visit_breakStyle_eq_nil_iff (h : IsExact s) :
    (breakStyle s).visit d = .ok [] ↔ ∀ m ∈ d.breaks, writtenText d m = .ok s := by
  rw [visit_breakStyle_eq_ok_iff h]
  constructor
  · rintro ⟨-, hnone⟩ m hm
    have hfilter := List.map_eq_nil_iff.mp hnone.symm
    simpa using List.filter_eq_nil_iff.mp hfilter m hm
  · intro hall
    refine ⟨fun m hm => ⟨s, hall m hm⟩, ?_⟩
    have hfilter : d.breaks.filter (fun m => writtenText d m ≠ .ok s) = [] :=
      List.filter_eq_nil_iff.mpr fun m hm => by simp [hall m hm]
    rw [hfilter, List.map_nil]

/-- In a document with breaks, asking for consistency comes to asking for the exact style of the
first break, violation for violation, and nothing is reported exactly if all breaks are written
alike. Under an exact style the breaks that are written differently are reported, in order. However
a document is parsed, its breaks are written in exact styles. -/
theorem consistentStyle_eq_first (h : d.breaks = n :: ns) :
    (∀ g : Grammar, g.parser d.text = .ok d.blocks →
      ∀ m ∈ n :: ns, ∃ t, writtenText d m = .ok t ∧ IsBreakMark t.toList ∧ IsExact t) ∧
    (∀ t, writtenText d n = .ok t → IsExact t →
      Rule.checkOf .breakStyle [("style", .text consistentStyle)] =
        .ok (breakStyle consistentStyle) ∧
      Rule.checkOf .breakStyle [("style", .text t)] = .ok (breakStyle t) ∧
      (breakStyle consistentStyle).visit d = (breakStyle t).visit d ∧
      ((breakStyle consistentStyle).visit d = .ok [] ↔
        ∀ m ∈ ns, writtenText d m = writtenText d n)) ∧
    ∀ s vs, IsExact s → ((breakStyle s).visit d = .ok vs ↔
      (∀ m ∈ n :: ns, ∃ t, writtenText d m = .ok t) ∧
        vs = ((n :: ns).filter fun m => writtenText d m ≠ .ok s).map (styleViolation s d)) := by
  refine ⟨fun g hg m hm => ?_, fun t ht hexact =>
    ⟨checkOf_style (by decide) (by decide), checkOf_style (trim_writtenText ht) hexact.1,
      visit_consistentStyle h ht hexact, ?_⟩, fun s vs hs => ?_⟩
  · rw [← h, Document.breaks, Document.nodesWhere, List.mem_filter] at hm
    exact exists_writtenText (g.parser_isBreakOf hg m hm.1 (by simpa using hm.2))
  · rw [visit_consistentStyle h ht hexact, visit_breakStyle_eq_nil_iff hexact, h, ht]
    constructor
    · intro hall m hm
      exact hall m (List.mem_cons_of_mem n hm)
    · intro hall m hm
      rcases List.mem_cons.mp hm with rfl | hm
      · exact ht
      · exact hall m hm
  · rw [← h]
    exact visit_breakStyle_eq_ok_iff hs

/-- A break in a list item in a quote, one on a later line of the item, and one outside. -/
def threeBreaks : Document where
  filename := "three.md"
  text := "> + - - -\n>   ***\n\n- - -".toList
  blocks := [.mk .quote ⟨0, 2⟩ [.mk .bulletList ⟨0, 2⟩ [.mk .listItem ⟨0, 2⟩
    [.mk .thematicBreak ⟨0, 1⟩ [], .mk .thematicBreak ⟨1, 2⟩ []]]], .mk .thematicBreak ⟨3, 4⟩ []]

/-- The second break of `threeBreaks`. -/
def secondBreak : Node where
  label := ⟨.thematicBreak, ⟨1, 2⟩⟩
  ancestors := [⟨.quote, ⟨0, 2⟩⟩, ⟨.bulletList, ⟨0, 2⟩⟩, ⟨.listItem, ⟨0, 2⟩⟩]

theorem consistentStyle_eq_first_threeBreaks :
    Grammar.commonMark.parser threeBreaks.text = .ok threeBreaks.blocks ∧
      (breakStyle consistentStyle).visit threeBreaks = (breakStyle "- - -").visit threeBreaks ∧
      (breakStyle "- - -").visit threeBreaks =
        .ok [styleViolation "- - -" threeBreaks secondBreak] := by
  have hbreaks : threeBreaks.breaks = [{ secondBreak with label := ⟨.thematicBreak, ⟨0, 1⟩⟩ },
    secondBreak, ⟨⟨.thematicBreak, ⟨3, 4⟩⟩, []⟩] := rfl
  have hstyle : IsExact "- - -" := ⟨by decide, by decide⟩
  have hparser : Grammar.commonMark.parser threeBreaks.text = .ok threeBreaks.blocks := by
    decide +kernel
  have htexts : threeBreaks.breaks.map (writtenText threeBreaks) =
      [.ok "- - -", .ok "***", .ok "- - -"] := by decide
  obtain ⟨hparsed, hfirst, hexact⟩ := consistentStyle_eq_first hbreaks
  rw [hbreaks] at htexts
  obtain ⟨hone, htwo, hthree⟩ : _ ∧ _ ∧ _ := by simpa using htexts
  obtain ⟨-, -, hsame, -⟩ := hfirst "- - -" hone hstyle
  refine ⟨hparser, hsame, (hexact _ _ hstyle).mpr ⟨fun m hm => ?_, by simp [hone, htwo, hthree]⟩⟩
  obtain ⟨t, ht, -⟩ := hparsed Grammar.commonMark hparser m hm
  exact ⟨t, ht⟩

end Check

end MarkdownLint
