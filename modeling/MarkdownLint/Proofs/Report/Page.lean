import MarkdownLint.Proofs.Report.Layout
import MarkdownLint.Proofs.Report.View

/-!
A page tells what its files tell. Since no text from a report puts markup into a page, what is found
in it from outside is what the page was made from: the sections (`sections_page`), the table of
rules (`ruleTables_page`) and the totals (`cells_page_files`, `cells_page_errors`).
-/
namespace MarkdownLint.Html

open Checkstyle (FileItems Item)

/-! ## Texts without marks -/

/-- The marks by which the parts of a page are found. -/
def marks : List String :=
  ["<h3 class=\"file\" data-file=\"", "<tr class=\"error-row\">", "<td class=\"summary-files\">",
    "<td class=\"summary-errors\">", "<h3>Rules", "<h3>Files"]

/-- How marks start. Nothing else in a page starts like this. -/
def stems : List (List Char) :=
  [['<', 'h', '3', ' '], ['<', 't', 'r', ' '], ['<', 't', 'd', ' ', 'c', 'l', 'a', 's', 's', '=', '"', 's'],
    ['<', 'h', '3', '>', 'R'], ['<', 'h', '3', '>', 'F']]

theorem isMark_of_mem : ∀ m ∈ marks, IsMark m := by
  simp only [marks, List.forall_mem_cons]
  refine ⟨?_, ?_, ?_, ?_, ?_, ?_, fun _ h => absurd h (by simp)⟩ <;>
    exact ⟨_, String.toList_ofList, by decide⟩

theorem exists_stem : ∀ m ∈ marks, ∃ s ∈ stems, s <+: m.toList := by
  decide

/-- A text in which none of some pieces of markup can start. -/
def Free (starts : List (List Char)) (text : List Char) : Prop :=
  ∀ s ∈ starts, isClear s text = true

instance (starts : List (List Char)) (text : List Char) : Decidable (Free starts text) :=
  inferInstanceAs (Decidable (∀ s ∈ starts, isClear s text = true))

/-- A text in which no part of a page starts. -/
abbrev Unmarked (text : List Char) : Prop := Free stems text

/-- A text in which no part of a page and no cell starts. -/
abbrev Cellless (text : List Char) : Prop := Free (['<', 't', 'd', '>'] :: stems) text

section

variable {starts : List (List Char)} {as bs : List Char}

theorem Free.append (ha : Free starts as) (hb : Free starts bs) : Free starts (as ++ bs) :=
  fun s hs => isClear_append (ha s hs) (hb s hs)

theorem Free.flatMap {α : Type} {text : α → List Char} {items : List α}
    (h : ∀ a ∈ items, Free starts (text a)) : Free starts (items.flatMap text) :=
  fun s hs => isClear_flatMap fun a ha => h a ha s hs

theorem Free.literal (h : Free starts as) : Free starts (String.ofList as).toList := by
  rwa [String.toList_ofList]

/-- A line that is known in full is looked at together with its end. -/
theorem Free.line (h : Free starts (as ++ ['\n'])) :
    Free starts (terminated (String.ofList as)) := by
  rwa [terminated, String.toList_ofList]

theorem Free.terminated {line : String} (h : Free starts line.toList)
    (hbreak : Free starts ['\n']) : Free starts (terminated line) :=
  h.append hbreak

theorem Free.escape (hstarts : ∀ s ∈ starts, s.head? = some '<') (s : String) :
    Free starts (Html.escape s).toList :=
  fun m hm => isClear_of_not_mem (hstarts m hm) (not_mem_escape (by decide) s)

theorem Free.number (hstarts : ∀ s ∈ starts, s.head? = some '<') (n : Nat) :
    Free starts (toString n).toList := by
  rw [← escape_toString_nat]
  exact Free.escape hstarts _

end

theorem Free.isClear {text : List Char} (h : Unmarked text) {m : String} (hm : m ∈ marks) :
    isClear m.toList text = true := by
  obtain ⟨s, hs, hprefix⟩ := exists_stem m hm
  exact isClear_of_prefix hprefix (h s hs)

theorem Free.unmarked {text : List Char} (h : Cellless text) : Unmarked text :=
  fun s hs => h s (List.mem_cons_of_mem _ hs)

theorem Free.isClear_cell {text : List Char} (h : Cellless text) :
    Html.isClear "<td>".toList text = true :=
  h _ List.mem_cons_self

theorem unmarked_escape (s : String) : Unmarked (escape s).toList := Free.escape (by decide) s

theorem unmarked_number (n : Nat) : Unmarked (toString n).toList := Free.number (by decide) n

/-- A mark does not hold another one. -/
theorem isClear_mark : ∀ m ∈ marks, ∀ k ∈ marks, m ≠ k → isClear m.toList k.toList = true := by
  decide

theorem unmarked_head : Unmarked (head.flatMap terminated) := by
  apply Free.flatMap
  simp only [head, List.forall_mem_cons, List.not_mem_nil, false_imp_iff, implies_true, and_true]
  repeat' apply And.intro
  all_goals exact Free.line (by decide)

/-! ## Cells and rows -/

/-- What stands in a cell behind its tag. -/
def cellBody (s : String) : List Char := (escape s).toList ++ "</td>".toList

/-- Cells as they are written. -/
def cellsText (values : List String) : List Char := marked "<td>" (fun _ => []) cellBody values

theorem isMark_cell : IsMark "<td>" := ⟨_, String.toList_ofList, by decide⟩

theorem isClear_cellBody (s : String) : isClear "<td>".toList (cellBody s) = true := by
  have hvalue : isClear "<td>".toList (escape s).toList = true :=
    isMark_cell.isClear_of_not_mem (not_mem_escape (by decide) s)
  exact isClear_append hvalue (isClear_literal (by decide))

/-- The cells of a row are found as they were written. -/
theorem cells_cellsText (values : List String) {stop : List Char}
    (hstop : isClear "<td>".toList stop = true) :
    cells "<td>" (cellsText values ++ stop) = values := by
  have hread : ∀ s ∈ values, ∀ tail : List Char, True →
      valueUpTo '<' (cellBody s ++ tail) = id s := by
    intro s _ tail _
    have hend : "</td>".toList ++ tail = '<' :: ("/td>".toList ++ tail) := rfl
    rw [cellBody, List.append_assoc, hend]
    exact valueUpTo_escape (by decide) s _
  have hfound := map_behind_marked isMark_cell (fun _ => []) cellBody stop (fun _ => True)
    (valueUpTo '<') id (fun _ _ => ⟨rfl, trivial⟩) (fun s _ => isClear_cellBody s)
    ⟨hstop, trivial⟩ hread
  rw [List.map_id] at hfound
  exact hfound

/-- What stands in a row behind its tag. -/
def rowBody (values : List String) : List Char := cellsText values ++ "</tr>\n".toList

theorem cells_rowBody (values : List String) {tail : List Char}
    (htail : isClear "<td>".toList tail = true) :
    cells "<td>" (rowBody values ++ tail) = values := by
  have hstop : isClear "<td>".toList ("</tr>\n".toList ++ tail) = true :=
    isClear_append (isClear_literal (by decide)) htail
  rw [rowBody, List.append_assoc]
  exact cells_cellsText values hstop

theorem free_rowBody {starts : List (List Char)} (hstarts : ∀ s ∈ starts, s.head? = some '<')
    (hopen : Free starts "<td>".toList) (hclose : Free starts "</td>".toList)
    (hend : Free starts "</tr>\n".toList) (values : List String) :
    Free starts (rowBody values) := by
  refine .append ?_ hend
  intro start hstart
  apply isClear_marked (hopen start hstart)
  · exact fun _ _ => rfl
  · intro s _
    exact (Free.append (.escape hstarts s) hclose) start hstart

theorem unmarked_rowBody (values : List String) : Unmarked (rowBody values) :=
  free_rowBody (by decide) (.literal (by decide)) (.literal (by decide)) (.literal (by decide))
    values

/-- What the row of a violation shows. -/
def itemValues (i : Item) : List String := [i.message, i.source, toString i.line, toString i.column]

/-- What the row of a rule shows. -/
def countValues (c : String × Nat) : List String := [c.1, toString c.2]

theorem terminated_itemRow (i : Item) : terminated (itemRow i) =
    "  ".toList ++ ("<tr class=\"error-row\">".toList ++ rowBody (itemValues i)) := by
  have hopen : "  <tr class=\"error-row\"><td>".toList =
      "  ".toList ++ ("<tr class=\"error-row\">".toList ++ "<td>".toList) := rfl
  have hnext : "</td><td>".toList = "</td>".toList ++ "<td>".toList := rfl
  have hclose : "</td></tr>".toList ++ ['\n'] = "</td>".toList ++ "</tr>\n".toList := rfl
  have hline := escape_toString i.line
  have hcolumn := escape_toString i.column
  unfold itemRow
  rw [← hline, ← hcolumn]
  simp only [terminated, String.toList_append, hopen, hnext, rowBody, itemValues, cellsText, marked,
    cellBody, List.flatMap_cons, List.flatMap_nil, List.append_assoc, List.nil_append, hclose]

theorem terminated_ruleRow (c : String × Nat) : terminated (ruleRow c) =
    "  ".toList ++ ("<tr>".toList ++ rowBody (countValues c)) := by
  have hopen : "  <tr><td>".toList = "  ".toList ++ ("<tr>".toList ++ "<td>".toList) := rfl
  have hnext : "</td><td>".toList = "</td>".toList ++ "<td>".toList := rfl
  have hclose : "</td></tr>".toList ++ ['\n'] = "</td>".toList ++ "</tr>\n".toList := rfl
  have hcount := escape_toString_nat c.2
  unfold ruleRow
  rw [← hcount]
  simp only [terminated, String.toList_append, hopen, hnext, rowBody, countValues, cellsText, marked,
    cellBody, List.flatMap_cons, List.flatMap_nil, List.append_assoc, List.nil_append, hclose]

/-! ## Sections -/

/-- What stands before the heading of a section with the given number. -/
def sectionLead (index : Nat) : List Char :=
  terminated "" ++ terminated ("<a name=\"f-" ++ toString index ++ "\"></a>")

/-- What stands in a section between the mark in its heading and its rows. -/
def sectionTop (name : String) : List Char :=
  (escape name).toList ++ ("\">File ".toList ++ ((escape name).toList ++ ("</h3>\n".toList ++
    (terminated (tableTag "log") ++
      terminated "  <tr><th>Error Description</th><th>Rule</th><th>Line</th><th>Column</th></tr>"))))

/-- The rows of a section. -/
def itemsText (items : List Item) : List Char :=
  marked "<tr class=\"error-row\">" (fun _ => "  ".toList) (fun i => rowBody (itemValues i)) items

/-- What stands in a section behind its rows. -/
def sectionEnd : List Char := terminated "</table>" ++ terminated "<a href=\"#top\">Back to top</a>"

/-- What stands in a section behind the mark in its heading. -/
def sectionBody (f : FileItems) : List Char :=
  sectionTop f.name ++ (itemsText f.items ++ sectionEnd)

theorem flatMap_fileSection (f : FileItems × Nat) : (fileSection f).flatMap terminated =
    sectionLead f.2 ++ ("<h3 class=\"file\" data-file=\"".toList ++ sectionBody f.1) := by
  have hclose : "</h3>".toList ++ ['\n'] = "</h3>\n".toList := rfl
  have hrows : (f.1.items.map itemRow).flatMap terminated = itemsText f.1.items := by
    rw [List.flatMap_map]
    simp only [terminated_itemRow, itemsText, marked]
  have hheading : ∀ name, terminated ("<h3 class=\"file\" data-file=\"" ++ escape name ++
      "\">File " ++ escape name ++ "</h3>") = "<h3 class=\"file\" data-file=\"".toList ++
        ((escape name).toList ++ ("\">File ".toList ++ ((escape name).toList ++
          "</h3>\n".toList))) := by
    intro name
    simp only [terminated, String.toList_append, List.append_assoc, hclose]
  rw [fileSection, List.flatMap_append, List.flatMap_append, hrows]
  simp only [List.flatMap_cons, List.flatMap_nil, hheading, sectionLead, sectionBody, sectionTop,
    sectionEnd, List.append_assoc, List.append_nil]

theorem free_tableTag {starts : List (List Char)} {kind : String}
    (hopen : Free starts "<table class=\"".toList) (hkind : Free starts kind.toList)
    (hrest : Free starts
      " details\" border=\"0\" cellpadding=\"5\" cellspacing=\"2\" width=\"100%\">".toList) :
    Free starts (tableTag kind).toList := by
  unfold tableTag
  simp only [String.toList_append]
  exact .append (.append hopen hkind) hrest

theorem unmarked_tableTag {kind : String} (h : Unmarked kind.toList) :
    Unmarked (tableTag kind).toList :=
  free_tableTag (.literal (by decide)) h (.literal (by decide))

theorem cellless_sectionLead (index : Nat) : Cellless (sectionLead index) := by
  refine .append (by decide) (.terminated ?_ (by decide))
  simp only [String.toList_append]
  refine .append (.append ?_ (.number (by decide) index)) ?_
  · exact .literal (by decide)
  · exact .literal (by decide)

theorem unmarked_sectionTop (name : String) : Unmarked (sectionTop name) := by
  refine .append (unmarked_escape name) (.append (Free.literal (by decide)) ?_)
  refine .append (unmarked_escape name) (.append (Free.literal (by decide)) ?_)
  exact .append (Free.terminated (unmarked_tableTag (by decide)) (by decide))
    (Free.line (by decide))

theorem cellless_sectionEnd : Cellless sectionEnd :=
  .append (.line (by decide)) (.line (by decide))

/-- The rows of a section are found as they were written. -/
theorem rows_sectionBody (f : FileItems) {tail : List Char} (htail : Cellless tail) :
    rows (sectionBody f ++ tail) = f.items.map itemValues := by
  have hrow : "<tr class=\"error-row\">" ∈ marks := by decide
  have hlead : Cellless "  ".toList := .literal (by decide)
  have hstop : Cellless (sectionEnd ++ tail) := cellless_sectionEnd.append htail
  have hfound := map_behind_marked (isMark_of_mem _ hrow) (fun _ => "  ".toList)
    (fun i => rowBody (itemValues i)) (sectionEnd ++ tail) Cellless (cells "<td>") itemValues
    (fun i (_ : i ∈ f.items) => ⟨hlead.unmarked.isClear hrow, hlead⟩)
    (fun i _ => (unmarked_rowBody _).isClear hrow) ⟨hstop.unmarked.isClear hrow, hstop⟩
    (fun i _ tail htail => cells_rowBody _ htail.isClear_cell)
  unfold rows sectionBody itemsText
  rw [List.append_assoc, List.append_assoc,
    behind_append ((unmarked_sectionTop f.name).isClear hrow)]
  exact hfound

theorem valueUpTo_sectionBody (f : FileItems) (tail : List Char) :
    valueUpTo '"' (sectionBody f ++ tail) = f.name := by
  have hquote : "\">File ".toList = '"' :: ">File ".toList := rfl
  rw [sectionBody, sectionTop, hquote]
  simp only [List.append_assoc, List.cons_append]
  exact valueUpTo_escape (by decide) f.name _

/-- What stands in a section behind its mark has the other marks in no place. -/
theorem isClear_sectionBody {m : String} (hm : m ∈ marks) (hne : m ≠ "<tr class=\"error-row\">")
    (f : FileItems) : isClear m.toList (sectionBody f) = true := by
  have hrow : isClear m.toList "<tr class=\"error-row\">".toList = true :=
    isClear_mark m hm _ (by decide) hne
  have hlead : Unmarked "  ".toList := Free.literal (by decide)
  have hitems : isClear m.toList (itemsText f.items) = true :=
    isClear_marked hrow (fun _ _ => hlead.isClear hm) fun i _ => (unmarked_rowBody _).isClear hm
  exact isClear_append ((unmarked_sectionTop f.name).isClear hm)
    (isClear_append hitems (cellless_sectionEnd.unmarked.isClear hm))

/-- The sections of a page. -/
def sectionsText (numbered : List (FileItems × Nat)) : List Char :=
  marked "<h3 class=\"file\" data-file=\"" (fun f => sectionLead f.2) (fun f => sectionBody f.1)
    numbered

/-- The sections of a page are found as they were written. -/
theorem sections_sectionsText (numbered : List (FileItems × Nat)) {stop : List Char}
    (hstop : Cellless stop) : sections (sectionsText numbered ++ stop) =
      numbered.map fun f => (f.1.name, f.1.items.map itemValues) := by
  have hheading : "<h3 class=\"file\" data-file=\"" ∈ marks := by decide
  have hlead : ∀ f : FileItems × Nat, Cellless (sectionLead f.2) := fun f => cellless_sectionLead f.2
  have hread : ∀ f ∈ numbered, ∀ tail, Cellless tail →
      (valueUpTo '"' (sectionBody f.1 ++ tail), rows (sectionBody f.1 ++ tail)) =
        (f.1.name, f.1.items.map itemValues) := by
    intro f _ tail htail
    rw [valueUpTo_sectionBody, rows_sectionBody f.1 htail]
  have hfound := map_behind_marked (isMark_of_mem _ hheading)
    (fun f : FileItems × Nat => sectionLead f.2) (fun f => sectionBody f.1) stop Cellless
    (fun part => (valueUpTo '"' part, rows part))
    (fun f => (f.1.name, f.1.items.map itemValues))
    (fun f _ => ⟨(hlead f).unmarked.isClear hheading, hlead f⟩)
    (fun f _ => isClear_sectionBody hheading (by decide) f.1)
    ⟨hstop.unmarked.isClear hheading, hstop⟩ hread
  unfold sections sectionsText
  exact hfound

/-! ## The table of rules -/

/-- The rows of the table of rules with what they show; the first one has no cells. -/
def ruleRows (counts : List (String × Nat)) : List (List Char × List String) :=
  ("<th>Rule</th><th>Violations</th></tr>\n".toList, []) ::
    counts.map fun c => (rowBody (countValues c), countValues c)

/-- What stands behind the mark of the rules and before that of the files. -/
def rulesText (counts : List (String × Nat)) : List Char :=
  "</h3>\n".toList ++ (terminated (tableTag "log") ++
    (marked "<tr>" (fun _ => "  ".toList) Prod.fst (ruleRows counts) ++
      (terminated "</table>" ++ terminated "")))

theorem isMark_row : IsMark "<tr>" := ⟨_, String.toList_ofList, by decide⟩

/-- The rows of the table of rules are found as they were written. -/
theorem rows_rulesText (counts : List (String × Nat)) :
    (behind "<tr>" (rulesText counts)).map (cells "<td>") = [] :: counts.map countValues := by
  have hlead : Free [['<', 't', 'r', '>'], ['<', 't', 'd', '>']] "  ".toList := .literal (by decide)
  have hstop : Free [['<', 't', 'r', '>'], ['<', 't', 'd', '>']]
      (terminated "</table>" ++ terminated "") :=
    .append (.line (by decide)) (.line (by decide))
  have hfirst : Free [['<', 't', 'r', '>']] ("</h3>\n".toList ++ terminated (tableTag "log")) := by
    refine .append (.literal (by decide)) (.terminated ?_ (by decide))
    exact free_tableTag (.literal (by decide)) (.literal (by decide)) (.literal (by decide))
  have hbody : ∀ a ∈ ruleRows counts, isClear "<tr>".toList a.1 = true := by
    refine List.forall_mem_cons.mpr ⟨isClear_literal (by decide), ?_⟩
    intro a ha
    obtain ⟨c, -, rfl⟩ := List.mem_map.mp ha
    have hrow : Free [['<', 't', 'r', '>']] (rowBody (countValues c)) :=
      free_rowBody (by decide) (.literal (by decide)) (.literal (by decide)) (.literal (by decide)) _
    exact hrow _ List.mem_cons_self
  -- the row of titles has no cells of values, the others those of a rule
  have hread : ∀ a ∈ ruleRows counts, ∀ tail, isClear "<td>".toList tail = true →
      cells "<td>" (a.1 ++ tail) = a.2 := by
    refine List.forall_mem_cons.mpr ⟨?_, ?_⟩
    · intro tail htail
      rw [cells, behind_eq_nil (isClear_append (isClear_literal (by decide)) htail)]
      rfl
    · intro a ha tail htail
      obtain ⟨c, -, rfl⟩ := List.mem_map.mp ha
      exact cells_rowBody _ htail
  have hfound := map_behind_marked isMark_row (fun _ => "  ".toList) Prod.fst
    (terminated "</table>" ++ terminated "") (fun text => isClear "<td>".toList text = true)
    (cells "<td>") Prod.snd (fun _ _ => ⟨hlead _ (by simp), hlead _ (by simp)⟩) hbody
    ⟨hstop _ (by simp), hstop _ (by simp)⟩ hread
  have hvalues : (ruleRows counts).map Prod.snd = [] :: counts.map countValues := by
    simp [ruleRows, Function.comp_def]
  unfold rulesText
  rw [← List.append_assoc, behind_append (hfirst _ List.mem_cons_self), hfound, hvalues]

theorem unmarked_rulesText (counts : List (String × Nat)) : Unmarked (rulesText counts) := by
  refine .append (.literal (by decide)) (.append ?_ (.append ?_ ?_))
  · exact .terminated (unmarked_tableTag (.literal (by decide))) (by decide)
  · have htag : Unmarked "<tr>".toList := .literal (by decide)
    have hlead : Unmarked "  ".toList := .literal (by decide)
    have hrows : ∀ a ∈ ruleRows counts, Unmarked a.1 := by
      refine List.forall_mem_cons.mpr ⟨.literal (by decide), ?_⟩
      intro a ha
      obtain ⟨c, -, rfl⟩ := List.mem_map.mp ha
      exact unmarked_rowBody _
    intro s hs
    exact isClear_marked (htag s hs) (fun _ _ => hlead s hs) fun a ha => hrows a ha s hs
  · exact .append (.line (by decide)) (.line (by decide))

theorem flatMap_ruleRows (counts : List (String × Nat)) :
    (("  <tr><th>Rule</th><th>Violations</th></tr>" :: counts.map ruleRow).flatMap terminated) =
      marked "<tr>" (fun _ => "  ".toList) Prod.fst (ruleRows counts) := by
  have hheader : terminated "  <tr><th>Rule</th><th>Violations</th></tr>" = "  ".toList ++
      ("<tr>".toList ++ "<th>Rule</th><th>Violations</th></tr>\n".toList) := rfl
  rw [List.flatMap_cons, hheader, List.flatMap_map, marked, ruleRows, List.flatMap_cons,
    List.flatMap_map]
  simp only [terminated_ruleRow]

/-! ## The page -/

/-- What stands behind the mark of the files and before the sections. -/
def filesText (numbered : List (FileItems × Nat)) : List Char :=
  "</h3>\n".toList ++ (terminated (tableTag "filelist") ++
    (terminated "  <tr><th>Name</th><th>Errors</th></tr>" ++
      ((numbered.map fileRow).flatMap terminated ++ terminated "</table>")))

/-- The end of a page. -/
def pageEnd : List Char := terminated "</body>" ++ terminated "</html>"

/-- What stands behind the total of files. -/
def filesTotal (n : Nat) : List Char := (toString n).toList ++ "</td>".toList

/-- What stands behind the total of violations and before the rules. -/
def errorsTotal (n : Nat) : List Char :=
  (toString n).toList ++ ("</td></tr>\n".toList ++ (terminated "</table>" ++ terminated ""))

theorem unmarked_filesText (numbered : List (FileItems × Nat)) : Unmarked (filesText numbered) := by
  have hrow : ∀ f, Unmarked (fileRow f).toList := by
    intro f
    unfold fileRow
    simp only [String.toList_append]
    refine .append (.append (.append (.append (.append (.append ?_ ?_) ?_) ?_) ?_) ?_) ?_
    · exact .literal (by decide)
    · exact unmarked_number _
    · exact .literal (by decide)
    · exact unmarked_escape _
    · exact .literal (by decide)
    · exact unmarked_number _
    · exact .literal (by decide)
  refine .append (.literal (by decide)) (.append ?_ (.append ?_ (.append ?_ ?_)))
  · exact .terminated (unmarked_tableTag (.literal (by decide))) (by decide)
  · exact .line (by decide)
  · rw [List.flatMap_map]
    exact .flatMap fun f _ => .terminated (hrow f) (by decide)
  · exact .line (by decide)

theorem cellless_pageEnd : Cellless pageEnd :=
  .append (.line (by decide)) (.line (by decide))

theorem unmarked_filesTotal (n : Nat) : Unmarked (filesTotal n) :=
  .append (unmarked_number n) (.literal (by decide))

theorem unmarked_errorsTotal (n : Nat) : Unmarked (errorsTotal n) :=
  .append (unmarked_number n) (.append (.literal (by decide))
    (.append (.line (by decide)) (.line (by decide))))

theorem flatMap_fileSections (numbered : List (FileItems × Nat)) :
    (numbered.flatMap fileSection).flatMap terminated = sectionsText numbered := by
  rw [List.flatMap_assoc]
  simp only [flatMap_fileSection, sectionsText, marked]

theorem terminated_totalsRow (n k : Nat) : terminated (totalsRow n k) =
    "  <tr>".toList ++ ("<td class=\"summary-files\">".toList ++ (filesTotal n ++
      ("<td class=\"summary-errors\">".toList ++
        ((toString k).toList ++ "</td></tr>\n".toList)))) := by
  have hopen : "  <tr><td class=\"summary-files\">".toList =
      "  <tr>".toList ++ "<td class=\"summary-files\">".toList := rfl
  have hnext : "</td><td class=\"summary-errors\">".toList =
      "</td>".toList ++ "<td class=\"summary-errors\">".toList := rfl
  have hclose : "</td></tr>".toList ++ ['\n'] = "</td></tr>\n".toList := rfl
  unfold totalsRow
  simp only [terminated, filesTotal, String.toList_append, hopen, hnext, List.append_assoc, hclose]

/-- Texts written one after the other, each behind its mark. -/
def partsText (parts : List (String × List Char)) : List Char :=
  parts.flatMap fun p => p.1.toList ++ p.2

/-- Parts of a page in the order of their marks, no two behind the same mark. -/
structure IsParts (parts : List (String × List Char)) : Prop where
  marks : (parts.map Prod.fst).Sublist marks
  unmarked : ∀ p ∈ parts, Unmarked p.2

section

variable {m : String} {parts first last : List (String × List Char)} {text rest : List Char}

theorem isClear_partsText (hm : m ∈ marks) (hmarks : ∀ p ∈ parts, p.1 ∈ marks ∧ Unmarked p.2)
    (hnot : m ∉ parts.map Prod.fst) : isClear m.toList (partsText parts) = true := by
  apply isClear_flatMap
  intro p hp
  obtain ⟨hmark, htext⟩ := hmarks p hp
  have hne : m ≠ p.1 := by
    rintro rfl
    exact hnot (List.mem_map_of_mem hp)
  exact isClear_append (isClear_mark m hm p.1 hmark hne) (htext.isClear hm)

theorem IsParts.mem (h : IsParts parts) {p : String × List Char} (hp : p ∈ parts) :
    p.1 ∈ Html.marks ∧ Unmarked p.2 :=
  ⟨h.marks.subset (List.mem_map_of_mem hp), h.unmarked p hp⟩

/-- A part is found behind its mark, and with it all that follows. -/
theorem IsParts.behind_eq (h : IsParts (first ++ (m, text) :: last))
    (hrest : Html.isClear m.toList rest = true) :
    behind m (partsText (first ++ (m, text) :: last) ++ rest) =
      [text ++ (partsText last ++ rest)] := by
  have hm : m ∈ Html.marks := (h.mem (p := (m, text)) (by simp)).1
  have hnodup : (first.map Prod.fst ++ m :: last.map Prod.fst).Nodup := by
    have hmarks := h.marks
    rw [List.map_append, List.map_cons] at hmarks
    exact hmarks.nodup (by decide)
  obtain ⟨-, hbehind, hbefore⟩ := List.nodup_append.mp hnodup
  -- the mark occurs neither in the parts before its own nor in those behind it
  have hfirst : Html.isClear m.toList (partsText first) = true :=
    isClear_partsText hm (fun p hp => h.mem (by simp [hp])) fun hmem =>
      hbefore m hmem m List.mem_cons_self rfl
  have hlast : Html.isClear m.toList (partsText last) = true :=
    isClear_partsText hm (fun p hp => h.mem (by simp [hp])) (List.nodup_cons.mp hbehind).1
  have htext : Html.isClear m.toList text = true := (h.unmarked (m, text) (by simp)).isClear hm
  have hsplit : partsText (first ++ (m, text) :: last) ++ rest =
      partsText first ++ (m.toList ++ (text ++ (partsText last ++ rest))) := by
    simp only [partsText, List.flatMap_append, List.flatMap_cons, List.append_assoc]
  rw [hsplit, behind_append hfirst]
  exact behind_mark (isMark_of_mem m hm) (isClear_append htext (isClear_append hlast hrest))

end

/-- The parts of a page between its head and its sections. -/
def pageParts (files : List FileItems) : List (String × List Char) :=
  [("<td class=\"summary-files\">", filesTotal files.length),
    ("<td class=\"summary-errors\">", errorsTotal (files.flatMap (·.items)).length),
    ("<h3>Rules", rulesText (ruleCounts files)),
    ("<h3>Files", filesText (files.zipIdx 1))]

theorem isParts_pageParts (files : List FileItems) : IsParts (pageParts files) where
  marks := List.drop_sublist 2 marks
  unmarked := by
    simp only [pageParts, List.forall_mem_cons, List.not_mem_nil, false_imp_iff, implies_true,
      and_true]
    exact ⟨unmarked_filesTotal _, unmarked_errorsTotal _, unmarked_rulesText _,
      unmarked_filesText _⟩

/-- What stands in a page before its parts. -/
def pageTop : List Char := head.flatMap terminated ++ "  <tr>".toList

theorem unmarked_pageTop : Unmarked pageTop := unmarked_head.append (.literal (by decide))

theorem toList_page (files : List FileItems) :
    (page files).toList =
      pageTop ++ (partsText (pageParts files) ++ (sectionsText (files.zipIdx 1) ++ pageEnd)) := by
  have hrules : terminated "<h3>Rules</h3>" = "<h3>Rules".toList ++ "</h3>\n".toList := rfl
  have hfiles : terminated "<h3>Files</h3>" = "<h3>Files".toList ++ "</h3>\n".toList := rfl
  have hrows := flatMap_ruleRows (ruleCounts files)
  rw [List.flatMap_cons] at hrows
  unfold page
  rw [toList_joined (by simp [lines, head])]
  unfold lines
  simp only [List.flatMap_append, List.flatMap_cons, List.flatMap_nil, terminated_totalsRow, hrules,
    hfiles, flatMap_fileSections]
  -- both sides are now the same pieces in the same order, up to how they are grouped
  unfold partsText pageParts pageTop errorsTotal rulesText filesText pageEnd
  rw [← hrows]
  simp only [List.flatMap_cons, List.flatMap_nil, List.append_assoc, List.append_nil]

/-- The sections hold no mark of the parts before them. -/
theorem isClear_sectionsText {m : String} (hm : m ∈ marks.drop 2)
    (numbered : List (FileItems × Nat)) :
    isClear m.toList (sectionsText numbered ++ pageEnd) = true := by
  have hmark : m ∈ marks := List.mem_of_mem_drop hm
  have hother : ∀ m ∈ marks.drop 2,
      m ≠ "<h3 class=\"file\" data-file=\"" ∧ m ≠ "<tr class=\"error-row\">" :=
    forall_mem_of_all (by decide)
  obtain ⟨hheading, hrow⟩ := hother m hm
  refine isClear_append (isClear_marked ?_ ?_ ?_) (cellless_pageEnd.unmarked.isClear hmark)
  · exact isClear_mark m hmark _ (by decide) hheading
  · exact fun f _ => (cellless_sectionLead f.2).unmarked.isClear hmark
  · exact fun f _ => isClear_sectionBody hmark hrow f.1

/-- A part of a page is found behind its mark, up to the end of the page. -/
theorem behind_page (files : List FileItems) (first : List (String × List Char)) {m : String}
    {text : List Char} {last : List (String × List Char)}
    (hparts : pageParts files = first ++ (m, text) :: last) :
    behind m (page files).toList =
      [text ++ (partsText last ++ (sectionsText (files.zipIdx 1) ++ pageEnd))] := by
  have hm : m ∈ marks.drop 2 := by
    have hmem : (m, text) ∈ pageParts files := by simp [hparts]
    exact List.mem_map_of_mem (f := Prod.fst) hmem
  have h := isParts_pageParts files
  rw [toList_page, behind_append (unmarked_pageTop.isClear (List.mem_of_mem_drop hm))]
  rw [hparts] at h ⊢
  exact h.behind_eq (isClear_sectionsText hm _)

/-- The sections of a page tell the files in order, each with its violations in order. -/
theorem sections_page (files : List FileItems) :
    sections (page files).toList = files.map fun f => (f.name, f.items.map itemValues) := by
  have hmark : "<h3 class=\"file\" data-file=\"" ∈ marks := by decide
  have hnot : "<h3 class=\"file\" data-file=\"" ∉ marks.drop 2 := by decide
  have hparts :
      isClear "<h3 class=\"file\" data-file=\"".toList (partsText (pageParts files)) = true :=
    isClear_partsText hmark (fun p hp => (isParts_pageParts files).mem hp) hnot
  have hskip : behind "<h3 class=\"file\" data-file=\"" (page files).toList =
      behind "<h3 class=\"file\" data-file=\"" (sectionsText (files.zipIdx 1) ++ pageEnd) := by
    rw [toList_page, behind_append (unmarked_pageTop.isClear hmark), behind_append hparts]
  have hfound := sections_sectionsText (files.zipIdx 1) cellless_pageEnd
  have hfiles : (files.zipIdx 1).map Prod.fst = files := List.zipIdx_map_fst 1 files
  unfold sections at hfound ⊢
  rw [hskip, hfound]
  conv => rhs; rw [← hfiles, List.map_map]
  rfl

/-- The table of rules tells how often each rule is violated. -/
theorem ruleTables_page (files : List FileItems) :
    ruleTables (page files).toList = [[] :: (ruleCounts files).map countValues] := by
  have hfound := behind_page files ((pageParts files).take 2) rfl
  have hfiles : "<h3>Files" ∈ marks := by decide
  unfold ruleTables
  rw [hfound, List.map_cons, List.map_nil, partsText, List.flatMap_cons, List.append_assoc,
    List.append_assoc,
    before_mark (isMark_of_mem _ hfiles) _ ((unmarked_rulesText _).isClear hfiles), rows_rulesText]

theorem valueUpTo_number (n : Nat) (rest : List Char) :
    valueUpTo '<' ((toString n).toList ++ '<' :: rest) = toString n := by
  have hvalue := valueUpTo_escape (by decide : '<' ∈ ['<', '>', '"', '\'']) (toString n) rest
  rwa [escape_toString_nat] at hvalue

theorem cells_page_files (files : List FileItems) :
    cells "<td class=\"summary-files\">" (page files).toList = [toString files.length] := by
  have hend : "</td>".toList = '<' :: "/td>".toList := rfl
  unfold cells
  rw [behind_page files [] rfl, List.map_cons, List.map_nil, filesTotal, List.append_assoc, hend,
    List.cons_append, valueUpTo_number]

theorem cells_page_errors (files : List FileItems) :
    cells "<td class=\"summary-errors\">" (page files).toList =
      [toString (files.flatMap (·.items)).length] := by
  have hend : "</td></tr>\n".toList = '<' :: "/td></tr>\n".toList := rfl
  unfold cells
  rw [behind_page files ((pageParts files).take 1) rfl, List.map_cons, List.map_nil, errorsTotal,
    List.append_assoc, List.append_assoc, hend, List.cons_append, valueUpTo_number]

end MarkdownLint.Html
