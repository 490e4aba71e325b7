import MarkdownLint.Proofs.Lists
import MarkdownLint.Proofs.Report.Layout
import MarkdownLint.Proofs.Text.Integer
import MarkdownLint.Proofs.Xml.Document

/-!
The structured report is read as it was written. Its text is a document (`toList_render`) whose
elements are read one after the other, so that reading gives back every file with its violations
(`read_render_eq`), less the characters that no document can hold.
-/
namespace MarkdownLint.Checkstyle

open Xml (Element Frame Reads)

/-! ## What a report tells -/

/-- A text without the characters that no document can hold. -/
def cleaned (s : String) : String := String.ofList (Xml.clean s.toList)

/-- What a report tells of a violation. -/
def itemFor (v : Violation) : Item :=
  ⟨v.line, v.column, v.severity.name, cleaned v.message, cleaned v.rule⟩

/-- What a report tells of a file. -/
def itemsFor (f : String × List Violation) : FileItems := ⟨cleaned f.1, f.2.map itemFor⟩

/-! ## Elements -/

/-- The attributes of the element of a violation. -/
def violationAttributes (v : Violation) : List (String × String) :=
  [("line", toString v.line), ("column", toString v.column), ("severity", v.severity.name),
    ("message", v.message), ("source", v.rule)]

/-- The element of a violation. -/
def violationElement (v : Violation) : Element :=
  .mk "error" ((violationAttributes v).map Xml.cleanAttribute) []

/-- The attributes of the element of a file. -/
def fileAttributes (f : String × List Violation) : List (String × String) := [("name", f.1)]

/-- The element of a file. -/
def fileElement (f : String × List Violation) : Element :=
  .mk "file" ((fileAttributes f).map Xml.cleanAttribute) (f.2.map violationElement)

/-- The attributes of the outermost element. -/
def reportAttributes : List (String × String) := [("version", version)]

/-- The element of a report. -/
def reportElement (r : ScanResult) : Element :=
  .mk "checkstyle" (reportAttributes.map Xml.cleanAttribute) (r.violations.map fileElement)

theorem isXmlChar_of_isNumeric {c : Char} (hc : Text.isNumeric c = true) :
    Xml.isXmlChar c = true := by
  obtain ⟨hlow, hhigh⟩ := Text.isNumeric_range hc
  simp [Xml.isXmlChar]
  omega

theorem encode_toString (n : Int) : Xml.encode (toString n) = toString n := by
  apply Xml.encode_eq_self
  · intro c hc
    exact isXmlChar_of_isNumeric (Text.isNumeric_of_mem_toString hc)
  · intro c hc href
    have hnumeric : ∀ c ∈ Xml.references.map Prod.fst, Text.isNumeric c = false :=
      forall_mem_of_all (by decide)
    exact absurd (Text.isNumeric_of_mem_toString hc) (by simp [hnumeric c href])

theorem encode_severity (s : Severity) : Xml.encode s.name = s.name := by
  cases s <;>
    exact Xml.encode_eq_self (forall_mem_of_all (by decide)) (forall_mem_of_all (by decide))

theorem toList_violationLine (v : Violation) :
    (violationLine v).toList = '<' :: Xml.startTagText "error" (violationAttributes v) true := by
  have hline : "<error line=\"".toList =
      '<' :: ("error".toList ++ ' ' :: "line".toList ++ ['=', '"']) := rfl
  have hcolumn : "\" column=\"".toList = '"' :: ' ' :: "column".toList ++ ['=', '"'] := rfl
  have hseverity : "\" severity=\"".toList = '"' :: ' ' :: "severity".toList ++ ['=', '"'] := rfl
  have hmessage : "\" message=\"".toList = '"' :: ' ' :: "message".toList ++ ['=', '"'] := rfl
  have hsource : "\" source=\"".toList = '"' :: ' ' :: "source".toList ++ ['=', '"'] := rfl
  have hend : "\"/>".toList = ['"', '/', '>'] := rfl
  -- numbers and names of severities are written as they are, so that all values are encoded
  have hnumber := encode_toString v.line
  have hnumber' := encode_toString v.column
  have hname := encode_severity v.severity
  unfold violationLine
  rw [← hnumber, ← hnumber', ← hname]
  simp only [String.toList_append, hline, hcolumn, hseverity, hmessage, hsource, hend]
  simp only [Xml.startTagText, violationAttributes, Xml.attributeText, Xml.tagEnd,
    List.flatMap_cons, List.flatMap_nil, if_true]
  simp only [List.append_assoc, List.cons_append, List.nil_append]

/-- The text of a violation, with the line break behind it. -/
def violationText (v : Violation) : List Char :=
  '<' :: (Xml.startTagText "error" (violationAttributes v) true ++ ['\n'])

/-- The text of a file, with the line break behind it. -/
def fileText (f : String × List Violation) : List Char :=
  '<' :: (Xml.startTagText "file" (fileAttributes f) false ++
    '\n' :: (f.2.flatMap violationText ++ (Xml.endTagText "file" ++ ['\n'])))

theorem terminated_violationLine (v : Violation) : terminated (violationLine v) = violationText v := by
  rw [terminated, toList_violationLine]
  rfl

theorem flatMap_fileLines (f : String × List Violation) :
    (fileLines f).flatMap terminated = fileText f := by
  have hopen : "<file name=\"".toList =
      '<' :: ("file".toList ++ ' ' :: "name".toList ++ ['=', '"']) := rfl
  have hclose : "\">".toList = ['"', '>'] := rfl
  have hend : "</file>".toList = Xml.endTagText "file" := rfl
  have hlines : (f.2.map violationLine).flatMap terminated = f.2.flatMap violationText := by
    rw [List.flatMap_map]
    simp only [terminated_violationLine]
  rw [fileLines, List.cons_append, List.flatMap_cons, List.flatMap_append, hlines]
  simp only [terminated, String.toList_append, hopen, hclose, hend, fileText, fileAttributes,
    Xml.startTagText, Xml.attributeText, Xml.tagEnd, List.flatMap_cons, List.flatMap_nil,
    Bool.false_eq_true, if_false]
  simp only [List.append_assoc, List.cons_append, List.nil_append, List.append_nil]

/-- The text of a report is the text of a document. -/
theorem toList_render (r : ScanResult) :
    (render r).toList =
      Xml.documentText "checkstyle" reportAttributes ('\n' :: r.violations.flatMap fileText) := by
  have hopen : "<checkstyle version=\"".toList =
      '<' :: ("checkstyle".toList ++ ' ' :: "version".toList ++ ['=', '"']) := rfl
  have hclose : "\">".toList = ['"', '>'] := rfl
  have hend : "</checkstyle>".toList = Xml.endTagText "checkstyle" := rfl
  have hfiles : (r.violations.flatMap fileLines).flatMap terminated =
      r.violations.flatMap fileText := by
    rw [List.flatMap_assoc]
    simp only [flatMap_fileLines]
  rw [render, lines, List.cons_append, List.cons_append, toList_joined (List.cons_ne_nil _ _),
    List.flatMap_cons, List.flatMap_cons, List.flatMap_append, hfiles]
  simp only [terminated, String.toList_append, hopen, hclose, hend, Xml.documentText,
    reportAttributes, Xml.startTagText, Xml.attributeText, Xml.tagEnd, List.flatMap_cons,
    List.flatMap_nil, Bool.false_eq_true, if_false]
  simp only [List.append_assoc, List.cons_append, List.nil_append, List.append_nil]
  rfl

/-! ## The elements that are read -/

theorem plain_violationAttributes (v : Violation) : Xml.PlainAttributes (violationAttributes v) := by
  have hnames : (violationAttributes v).map Prod.fst =
      ["line", "column", "severity", "message", "source"] := rfl
  exact .of_names hnames (by decide) (by decide) (by decide)

theorem plain_fileAttributes (f : String × List Violation) :
    Xml.PlainAttributes (fileAttributes f) := by
  have hnames : (fileAttributes f).map Prod.fst = ["name"] := rfl
  exact .of_names hnames (by decide) (by decide) (by decide)

theorem plain_reportAttributes : Xml.PlainAttributes reportAttributes := by
  have hnames : reportAttributes.map Prod.fst = ["version"] := rfl
  exact .of_names hnames (by decide) (by decide) (by decide)

theorem reads_violationText (v : Violation) (f : Frame) (outer : List Frame) (rest : List Char)
    (hf : f.bindings = Xml.initialBindings) :
    Reads (f :: outer) (violationText v ++ rest) (f.add [violationElement v] :: outer) rest := by
  have htext : violationText v ++ rest =
      '<' :: (Xml.startTagText "error" (violationAttributes v) true ++ '\n' :: rest) := by
    simp [violationText]
  rw [htext]
  exact (Xml.reads_closed (by decide) (plain_violationAttributes v) hf _).trans
    (Xml.reads_newline _ outer rest)

/-- The element of a file is read with the violations inside it. -/
theorem reads_fileText (f : String × List Violation) (g : Frame) (outer : List Frame)
    (rest : List Char) (hg : g.bindings = Xml.initialBindings) :
    Reads (g :: outer) (fileText f ++ rest) (g.add [fileElement f] :: outer) rest := by
  have htext : fileText f ++ rest = '<' :: (Xml.startTagText "file" (fileAttributes f) false ++
      '\n' :: (f.2.flatMap violationText ++ (Xml.endTagText "file" ++ '\n' :: rest))) := by
    simp [fileText]
  have hclose : ((Xml.openedFrame "file" (fileAttributes f)).add (f.2.map violationElement)).close =
      fileElement f := by
    simp [Frame.close, Frame.add, Xml.openedFrame, fileElement]
  rw [htext]
  refine (Xml.reads_open (by decide) (plain_fileAttributes f) hg _).trans ?_
  refine (Xml.reads_newline _ _ _).trans ?_
  refine (Xml.reads_flatMap (fun v h => reads_violationText v h (g :: outer)) f.2 _ _ rfl).trans ?_
  refine (Xml.reads_close (by decide) rfl _).trans ?_
  rw [hclose]
  exact Xml.reads_newline _ outer rest

theorem return_not_mem_fileText (f : String × List Violation) : '\r' ∉ fileText f := by
  have hopen := Xml.return_not_mem_startTagText (by decide : Xml.IsLocal "file")
    (plain_fileAttributes f).isLocal false
  have hviolations : '\r' ∉ f.2.flatMap violationText := by
    intro h
    obtain ⟨v, -, hv⟩ := List.mem_flatMap.mp h
    have hopen := Xml.return_not_mem_startTagText (by decide : Xml.IsLocal "error")
      (plain_violationAttributes v).isLocal true
    simp [violationText, hopen] at hv
  have hend : '\r' ∉ Xml.endTagText "file" := by decide
  simp [fileText, hopen, hviolations, hend]

/-- A report is a well-formed document, and its elements are those of the files and their
violations. -/
theorem parse?_render (r : ScanResult) :
    Xml.parse? (render r).toList = some (reportElement r) := by
  rw [toList_render]
  apply Xml.parse?_documentText (by decide) plain_reportAttributes
  · intro rest
    exact (Xml.reads_newline _ [] _).trans
      (Xml.reads_flatMap (fun f g => reads_fileText f g []) r.violations _ rest rfl)
  · rw [List.mem_cons, not_or]
    refine ⟨by decide, fun h => ?_⟩
    obtain ⟨f, -, hf⟩ := List.mem_flatMap.mp h
    exact return_not_mem_fileText f hf

/-! ## What the elements tell -/

theorem namedIn_map {α : Type} (key : String) (element : α → Element) (as : List α) :
    Element.namedIn key (as.map element) = as.flatMap fun a => (element a).named key := by
  induction as with
  | nil => rfl
  | cons a as ih => rw [List.map_cons, Element.namedIn, ih, List.flatMap_cons]

theorem named_violationElement (v : Violation) (key : String) :
    (violationElement v).named key = if "error" == key then [violationElement v] else [] := by
  rw [violationElement, Element.named]
  rfl

/-- Files have no files inside them. -/
theorem named_file (f : String × List Violation) :
    (fileElement f).named "file" = [fileElement f] := by
  have hinner : Element.namedIn "file" (f.2.map violationElement) = [] := by
    rw [namedIn_map]
    simp [named_violationElement]
  rw [fileElement, Element.named, hinner]
  rfl

theorem named_error (f : String × List Violation) :
    (fileElement f).named "error" = f.2.map violationElement := by
  have hinner : Element.namedIn "error" (f.2.map violationElement) = f.2.map violationElement := by
    rw [namedIn_map, List.map_eq_flatMap]
    simp [named_violationElement]
  rw [fileElement, Element.named, hinner]
  rfl

theorem named_report (r : ScanResult) :
    (reportElement r).named "file" = r.violations.map fileElement := by
  have hinner : Element.namedIn "file" (r.violations.map fileElement) =
      r.violations.map fileElement := by
    rw [namedIn_map, List.map_eq_flatMap]
    simp only [named_file]
  rw [reportElement, Element.named, hinner]
  rfl

theorem cleaned_eq_self {s : String} (h : ∀ c ∈ s.toList, Xml.isXmlChar c = true) :
    cleaned s = s := by
  have hclean : Xml.clean s.toList = s.toList := List.filter_eq_self.mpr h
  rw [cleaned, hclean, String.ofList_toList]

theorem numberOf_eq {e : Element} {key : String} {n : Int}
    (h : e.get? key = some (cleaned (toString n))) : numberOf e key = .ok n := by
  have hclean : cleaned (toString n) = toString n :=
    cleaned_eq_self fun c hc => isXmlChar_of_isNumeric (Text.isNumeric_of_mem_toString hc)
  rw [hclean] at h
  simp only [numberOf, h, Option.getD_some, Text.readInteger?_toString]

/-- The element of a violation tells the violation. -/
theorem itemOf_violationElement (v : Violation) : itemOf (violationElement v) = .ok (itemFor v) := by
  have hline : numberOf (violationElement v) "line" = .ok v.line := numberOf_eq rfl
  have hcolumn : numberOf (violationElement v) "column" = .ok v.column := numberOf_eq rfl
  have hseverity : cleaned v.severity.name = v.severity.name := by
    cases v.severity <;> exact cleaned_eq_self (forall_mem_of_all (by decide))
  have hname : (violationElement v).get? "severity" = some (cleaned v.severity.name) := rfl
  rw [itemOf, hline, hcolumn, hname, hseverity]
  rfl

/-- The element of a file tells the file with its violations. -/
theorem fileOf_fileElement (f : String × List Violation) :
    fileOf (fileElement f) = .ok (itemsFor f) := by
  have hitems : ((fileElement f).named "error").mapM itemOf = .ok (f.2.map itemFor) := by
    rw [named_error, List.mapM_map]
    exact mapM_eq_ok fun v _ => itemOf_violationElement v
  rw [fileOf, hitems]
  rfl

/-- Reading a report gives back what was to be told. -/
theorem read_render_eq (r : ScanResult) :
    read (render r).toUTF8 = .ok (sortFiles (r.violations.map itemsFor)) := by
  have hfiles : ((reportElement r).named "file").mapM fileOf = .ok (r.violations.map itemsFor) := by
    rw [named_report, List.mapM_map]
    exact mapM_eq_ok fun f _ => fileOf_fileElement f
  have hdecode : Xml.decode (render r).toUTF8 = .ok (render r).toList :=
    Xml.decode_declared (toList_render r)
  rw [read, hdecode]
  simp only [readText, parse?_render, ofElement, hfiles]
  rfl

/-! ## The round trip -/

/-- The characters of XML documents, as the standard lists them. -/
def Allowed (c : Char) : Prop :=
  c.toNat ∈ [0x9, 0xA, 0xD] ∨
    ∃ r ∈ [(0x20, 0xD7FF), (0xE000, 0xFFFD), (0x10000, 0x10FFFF)], r.1 ≤ c.toNat ∧ c.toNat ≤ r.2

instance (c : Char) : Decidable (Allowed c) := inferInstanceAs (Decidable (_ ∨ _))

theorem isXmlChar_eq (c : Char) : Xml.isXmlChar c = decide (Allowed c) := by
  have hvalid : c.toNat < 0xD800 ∨ 0xDFFF < c.toNat ∧ c.toNat < 0x110000 := c.valid
  rw [Bool.eq_iff_iff, decide_eq_true_iff]
  simp [Xml.isXmlChar, Allowed]
  omega

/-- Cleaning deletes the characters that are not allowed and changes nothing else. -/
theorem toList_cleaned (s : String) : (cleaned s).toList = s.toList.filter (Allowed ·) := by
  rw [cleaned, String.toList_ofList, Xml.clean, funext isXmlChar_eq]

/-- Whatever texts a scan yields, its report can be read, and reading gives back every file with
every violation: files in the order of their cleaned names, those of one name and the violations of
a file as they stood. Cleaning takes out the characters that are not allowed in a document and no
others. -/
theorem read_render (r : ScanResult) :
    (∃ files, read (render r).toUTF8 = .ok files ∧
      SortedBy (·.name) (r.violations.map itemsFor) files) ∧
    ∀ s, (cleaned s).toList = s.toList.filter (Allowed ·) :=
  ⟨⟨_, read_render_eq r, sortedBy_sortFiles _⟩, toList_cleaned⟩

end MarkdownLint.Checkstyle
