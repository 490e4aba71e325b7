import MarkdownLint.Check.BreakStyle
import MarkdownLint.Proofs.Markdown.Leads
import MarkdownLint.Proofs.Text.Trimming

/-!
Dropping the marks of containers. One step drops the mark that a container puts in front of a line,
and the indentation before it (`dropMarker_lead`); indentation that stands for itself is left where
it is, in front of the next mark or of the text. So all steps together, outermost container first,
leave some indentation and the rest of the line (`foldl_dropMarker_leads`), even if the rest begins
like one more mark.
-/
namespace MarkdownLint.Check

open Markdown (IsIndentation IsItemMark Label Lead Leads Node)

/-! ## One container -/

theorem dropWhile_isIndent {v line : List Char} (hv : IsIndentation v)
    (hline : ∀ c ∈ line.head?, Text.isIndent c = false) :
    (v ++ line).dropWhile Text.isIndent = line :=
  Text.dropWhile_append_eq hv hline

theorem dropQuoteMarker_append {v : List Char} (hv : IsIndentation v) (rest : List Char) :
    dropQuoteMarker (v ++ '>' :: rest) = rest := by
  rw [dropQuoteMarker, dropWhile_isIndent hv (by simp [Text.isIndent])]
  rfl

theorem dropItemMarker_bullet {v rest : List Char} {c e : Char} (hv : IsIndentation v)
    (hc : c ∈ ['-', '*', '+']) (hrest : rest.head? = some e) (he : Text.isIndent e = true) :
    dropItemMarker (v ++ c :: rest) = rest := by
  have hbullet : c = '-' ∨ c = '*' ∨ c = '+' := by simpa using hc
  have hplain : ∀ x ∈ (c :: rest).head?, Text.isIndent x = false := by
    rcases hbullet with rfl | rfl | rfl <;> simp [Text.isIndent]
  have hmark : (c == '-' || c == '*' || c == '+') = true := by
    simpa [or_assoc] using hbullet
  rw [dropItemMarker, dropWhile_isIndent hv hplain]
  simp only [hmark, if_true, hrest, Option.any_some, he]

theorem isIndent_of_isDigit {c : Char} (h : c.isDigit = true) : Text.isIndent c = false := by
  cases hc : Text.isIndent c with
  | false => rfl
  | true =>
    simp only [Text.isIndent, Bool.or_eq_true, beq_iff_eq] at hc
    rcases hc with rfl | rfl <;> cases h

theorem isBullet_of_isDigit {c : Char} (h : c.isDigit = true) :
    (c == '-' || c == '*' || c == '+') = false := by
  cases hc : (c == '-' || c == '*' || c == '+') with
  | false => rfl
  | true =>
    simp only [Bool.or_eq_true, beq_iff_eq] at hc
    rcases hc with (rfl | rfl) | rfl <;> cases h

theorem dropItemMarker_number {v digits rest : List Char} {d e : Char} (hv : IsIndentation v)
    (hmin : 1 ≤ digits.length) (hmax : digits.length ≤ 9)
    (hdigits : ∀ c ∈ digits, c.isDigit = true) (hd : d ∈ ['.', ')'])
    (hrest : rest.head? = some e) (he : Text.isIndent e = true) :
    dropItemMarker (v ++ (digits ++ d :: rest)) = rest := by
  cases digits with
  | nil => simp at hmin
  | cons c digits =>
    have hc : c.isDigit = true := hdigits c List.mem_cons_self
    have hdelimiter : d = '.' ∨ d = ')' := by simpa using hd
    have hstop : d.isDigit = false := by rcases hdelimiter with rfl | rfl <;> rfl
    have htake : (c :: (digits ++ d :: rest)).takeWhile Char.isDigit = c :: digits := by
      rw [← List.cons_append, List.takeWhile_append_of_pos hdigits,
        List.takeWhile_cons_of_neg (by simp [hstop]), List.append_nil]
    have hdrop : (c :: (digits ++ d :: rest)).drop (c :: digits).length = d :: rest := by
      rw [← List.cons_append, List.drop_left]
    have hplain : ∀ x ∈ (c :: (digits ++ d :: rest)).head?, Text.isIndent x = false := by
      simpa using isIndent_of_isDigit hc
    have hmark : (decide (1 ≤ (c :: digits).length) && decide ((c :: digits).length ≤ 9) &&
        (d == '.' || d == ')') && rest.head?.any Text.isIndent) = true := by
      simpa [hrest, he, hdelimiter] using hmax
    rw [List.cons_append, dropItemMarker, dropWhile_isIndent hv hplain]
    simp only [isBullet_of_isDigit hc, Bool.false_eq_true, if_false, htake, hdrop, hmark, if_true]

/-- Behind the indentation that is left over, the mark of an item is dropped. -/
theorem dropItemMarker_append {v mark rest : List Char} {e : Char} (hv : IsIndentation v)
    (hmark : IsItemMark mark) (hrest : rest.head? = some e) (he : Text.isIndent e = true) :
    dropItemMarker (v ++ (mark ++ rest)) = rest := by
  cases hmark with
  | bullet hc => exact dropItemMarker_bullet hv hc hrest he
  | number hmin hmax hdigits hd =>
    rw [List.append_assoc, List.singleton_append]
    exact dropItemMarker_number hv hmin hmax hdigits hd hrest he

/-- One step drops what a container puts in front of the line, up to indentation. -/
theorem dropMarker_lead {i : Nat} {container : Label} {v lead line : List Char}
    (hv : IsIndentation v) (hlead : Lead i container lead line) :
    ∃ w, IsIndentation w ∧ dropMarker i (v ++ (lead ++ line)) container = w ++ line := by
  cases hlead with
  | quote hkind hw =>
    rename_i w
    refine ⟨[], .nil, ?_⟩
    have hsplit : v ++ (w ++ ['>'] ++ line) = (v ++ w) ++ '>' :: line := by simp
    rw [dropMarker, hkind, hsplit]
    exact dropQuoteMarker_append (hv.append hw) line
  | item hkind hfirst hw hmark hhead he =>
    rename_i w mark e
    refine ⟨[], .nil, ?_⟩
    have hsplit : v ++ (w ++ mark ++ line) = (v ++ w) ++ (mark ++ line) := by simp
    simp only [dropMarker, hkind, hfirst, beq_self_eq_true, if_true, hsplit]
    exact dropItemMarker_append (hv.append hw) hmark hhead he
  | insideItem hkind hfirst hw =>
    refine ⟨v ++ lead, hv.append hw, ?_⟩
    have hother : (container.span.first == i) = false := by simpa using hfirst
    simp only [dropMarker, hkind, hother, Bool.false_eq_true, if_false, List.append_assoc]
  | list hkind =>
    refine ⟨v, hv, ?_⟩
    rcases hkind with hkind | hkind <;> simp only [dropMarker, hkind, List.nil_append]

/-! ## All containers -/

theorem foldl_dropMarker_leads {i : Nat} {around : List Label} {v line rest : List Char}
    (hv : IsIndentation v) (h : Leads i around line rest) :
    ∃ w, IsIndentation w ∧ around.foldl (dropMarker i) (v ++ line) = w ++ rest := by
  induction h generalizing v with
  | done => exact ⟨v, hv, rfl⟩
  | next hlead _ ih =>
    obtain ⟨w, hw, hdrop⟩ := dropMarker_lead hv hlead
    rw [List.foldl_cons, hdrop]
    exact ih hw

/-- What is left once all marks are dropped is the text in between and blanks around it. -/
theorem trims_foldl_dropMarker {i : Nat} {around : List Label} {line w t w' : List Char}
    (hline : Leads i around line (w ++ t ++ w')) (hw : IsIndentation w) (hw' : IsIndentation w')
    (hfirst : ∀ c ∈ t.head?, Text.isBlank c = false)
    (hlast : ∀ c ∈ t.getLast?, Text.isBlank c = false) :
    Text.Trims (around.foldl (dropMarker i) line) t := by
  obtain ⟨v, hv, hdrop⟩ := foldl_dropMarker_leads .nil hline
  rw [List.nil_append] at hdrop
  rw [hdrop]
  refine ⟨⟨v ++ w, w', by simp, fun c hc => ?_, fun c hc => ?_⟩, hfirst, hlast⟩
  · exact Markdown.isBlank_of_isIndent (hv.append hw c hc)
  · exact Markdown.isBlank_of_isIndent (hw' c hc)

/-- If a line carries what the containers around a break put in front of it, then indentation, a
text without blanks at its ends, and indentation, then the break is written as this text. The text
may itself begin like the mark of a list item. -/
theorem breakText_eq_of_leads {n : Node} {line w t w' : List Char}
    (hline : Leads n.span.first n.ancestors line (w ++ t ++ w')) (hw : IsIndentation w)
    (hw' : IsIndentation w') (hfirst : ∀ c ∈ t.head?, Text.isBlank c = false)
    (hlast : ∀ c ∈ t.getLast?, Text.isBlank c = false) : breakText line n = t := by
  have htrims := trims_foldl_dropMarker hline hw hw' hfirst hlast
  rw [breakText]
  exact htrims.trim_eq

/-- A break on line 7, in an item that starts there, in a list in a quote in an item that starts on
line 2. -/
def nestedBreak : Node where
  label := ⟨.thematicBreak, ⟨7, 8⟩⟩
  ancestors := [⟨.quote, ⟨0, 9⟩⟩, ⟨.orderedList, ⟨2, 9⟩⟩, ⟨.listItem, ⟨2, 9⟩⟩, ⟨.quote, ⟨5, 9⟩⟩,
    ⟨.bulletList, ⟨7, 9⟩⟩, ⟨.listItem, ⟨7, 9⟩⟩, ⟨.orderedList, ⟨7, 9⟩⟩, ⟨.listItem, ⟨7, 9⟩⟩]

theorem leads_nestedBreak : Leads nestedBreak.span.first nestedBreak.ancestors
    " > \t >  -\t012345678) - - -\t ".toList (" ".toList ++ "- - -".toList ++ "\t ".toList) := by
  have number : IsItemMark "012345678)".toList :=
    @IsItemMark.number "012345678".toList ')' (by decide) (by decide)
      (List.all_eq_true.mp (by decide)) (by decide)
  have inner : Lead 7 ⟨.listItem, ⟨7, 9⟩⟩ "\t012345678)".toList " - - -\t ".toList :=
    .item (w := "\t".toList) (c := ' ') rfl rfl (by decide) number rfl rfl
  have outer : Lead 7 ⟨.listItem, ⟨7, 9⟩⟩ "  -".toList "\t012345678) - - -\t ".toList :=
    .item (w := "  ".toList) (c := '\t') rfl rfl (by decide) (.bullet (c := '-') (by decide)) rfl
      rfl
  have early : Lead 7 ⟨.listItem, ⟨2, 9⟩⟩ " \t ".toList ">  -\t012345678) - - -\t ".toList :=
    .insideItem rfl (by decide) (by decide)
  exact .next (.quote (w := " ".toList) rfl (by decide)) <| .next (.list (.inr rfl)) <|
    .next early <| .next (.quote (w := []) rfl .nil) <| .next (.list (.inl rfl)) <|
    .next outer <| .next (.list (.inr rfl)) <| .next inner .done

theorem breakText_eq_of_leads_nestedBreak :
    Leads nestedBreak.span.first nestedBreak.ancestors " > \t >  -\t012345678) - - -\t ".toList
        (" ".toList ++ "- - -".toList ++ "\t ".toList) ∧
      breakText " > \t >  -\t012345678) - - -\t ".toList nestedBreak = "- - -".toList :=
  ⟨leads_nestedBreak, breakText_eq_of_leads leads_nestedBreak (by decide) (by decide)
    (by rintro c ⟨⟩; rfl) (by rintro c ⟨⟩; rfl)⟩

end MarkdownLint.Check
