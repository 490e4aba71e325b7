import MarkdownLint.Proofs.Text.Pieces
import MarkdownLint.Proofs.Text.Utf8
import MarkdownLint.Proofs.Xml.Content

/-!
Documents are read as they were written. A document that declares its encoding is decoded to the
text it was made from (`decode_declared`), and a document whose outermost element has some elements
inside it is parsed to that element (`parse?_documentText`).
-/
namespace MarkdownLint.Xml

/-! ## The declaration -/

/-- A part of a declaration as it was written. -/
def declarationPartText (name value : String) : List Char :=
  ' ' :: name.toList ++ '=' :: '"' :: value.toList ++ ['"']

theorem skipSpace_eq_self {c : Char} (hc : isSpace c = false) (cs : List Char) :
    skipSpace (c :: cs) = c :: cs :=
  List.dropWhile_cons_of_neg (by simp [hc])

theorem declarationPart?_eq {name value : String} (hname : IsLocal name)
    (hvalue : ∀ c ∈ value.toList, isDeclarationChar c = true) (rest : List Char) :
    declarationPart? (declarationPartText name value ++ rest) = some (name, value, rest) := by
  have hquote : ∀ c ∈ value.toList, (c != '"') = true := by
    intro c hc
    rw [bne_iff_ne]
    rintro rfl
    exact absurd (hvalue _ hc) (by decide)
  have hskip : skipSpace (declarationPartText name value ++ rest) =
      name.toList ++ '=' :: '"' :: (value.toList ++ '"' :: rest) := by
    obtain ⟨c, cs, hlist, hstart, -⟩ := hname
    have htext : declarationPartText name value ++ rest =
        ' ' :: (name.toList ++ '=' :: '"' :: (value.toList ++ '"' :: rest)) := by
      simp [declarationPartText]
    rw [htext, hlist]
    exact skipSpace_eq_self (isSpace_eq_false_of_isNameStart hstart) _
  have htake : (value.toList ++ '"' :: rest).takeWhile (· != '"') = value.toList := by
    rw [List.takeWhile_append_of_pos hquote, List.takeWhile_cons_of_neg (by simp),
      List.append_nil]
  have hall : value.toList.all isDeclarationChar = true := List.all_eq_true.mpr hvalue
  have hequals : skipSpace ('=' :: '"' :: (value.toList ++ '"' :: rest)) =
      '=' :: '"' :: (value.toList ++ '"' :: rest) := rfl
  have hopen : skipSpace ('"' :: (value.toList ++ '"' :: rest)) =
      '"' :: (value.toList ++ '"' :: rest) := rfl
  rw [declarationPart?, hskip]
  simp only [localName?_append hname (by decide : isNamePart '=' = false), hequals, hopen, htake,
    List.drop_left, hall, String.ofList_toList, beq_self_eq_true, Bool.true_or, Bool.and_self,
    if_true]

/-- The declaration that written documents start with. -/
def declarationText : String := "<?xml version=\"1.0\" encoding=\"UTF-8\"?>"

theorem toList_declarationText : declarationText.toList = "<?xml".toList ++
    (declarationPartText "version" "1.0" ++
      (declarationPartText "encoding" "UTF-8" ++ ['?', '>'])) := by
  decide

theorem declaration?_eq (rest : List Char) :
    declaration? ((declarationText.toList ++ rest).drop 5) = some (some "UTF-8", rest) := by
  have hdrop : (declarationText.toList ++ rest).drop 5 = declarationPartText "version" "1.0" ++
      (declarationPartText "encoding" "UTF-8" ++ '?' :: '>' :: rest) := by
    rw [toList_declarationText]
    simp
  have hversion := declarationPart?_eq (by decide : IsLocal "version")
    (List.all_eq_true.mp (by decide : "1.0".toList.all isDeclarationChar = true))
    (declarationPartText "encoding" "UTF-8" ++ '?' :: '>' :: rest)
  have hencoding := declarationPart?_eq (by decide : IsLocal "encoding")
    (List.all_eq_true.mp (by decide : "UTF-8".toList.all isDeclarationChar = true))
    ('?' :: '>' :: rest)
  have hend : declarationPart? ('?' :: '>' :: rest) = none := rfl
  have hspaced : ∀ name value cs,
      (declarationPartText name value ++ cs).head?.any isSpace = true := fun _ _ _ => rfl
  have hempty : "1.0".isEmpty = false := by decide
  have halpha : ("UTF-8".toList.head?.any Char.isAlpha) = true := by decide
  have hskip : skipSpace ('?' :: '>' :: rest) = '?' :: '>' :: rest := rfl
  rw [hdrop]
  simp only [declaration?, hversion, hencoding, hend, hspaced, hempty, halpha, hskip,
    Bool.not_true, Bool.or_self, Bool.and_self, Bool.false_eq_true, if_false, if_true]

theorem declared (rest : List Char) : ("<?xml".toList.isPrefixOf (declarationText.toList ++ rest) &&
    ((declarationText.toList ++ rest).drop 5).head?.any isSpace) = true := by
  rfl

theorem afterDeclaration?_eq (rest : List Char) :
    afterDeclaration? (declarationText.toList ++ rest) = some rest := by
  rw [afterDeclaration?, if_pos (declared rest), declaration?_eq]
  rfl

theorem namedEncoding_eq (rest : List Char) :
    namedEncoding (declarationText.toList ++ rest) = some "UTF-8" := by
  rw [namedEncoding, if_pos (declared rest), declaration?_eq]
  rfl

/-- The bytes of a text that declares its encoding are decoded to the text. -/
theorem decode_declared {s : String} {rest : List Char}
    (h : s.toList = declarationText.toList ++ rest) : decode s.toUTF8 = .ok s.toList := by
  obtain rfl : s = declarationText ++ String.ofList rest := by
    rw [← String.toList_inj, h, String.toList_append, String.toList_ofList]
  -- the encoding is looked up in the bytes themselves, and the declaration is plain there
  have hbytes : (declarationText ++ String.ofList rest).toUTF8.toList =
      declarationText.toByteArray.data.toList ++ (String.ofList rest).toUTF8.toList := by
    rw [Text.toUTF8_append, Text.toList_eq_data declarationText.toUTF8,
      String.toUTF8_eq_toByteArray]
  have hcodes : ofCodes declarationText.toByteArray.data.toList = declarationText.toList := by
    decide
  have hwide : wideOrder? (declarationText ++ String.ofList rest).toUTF8.toList = none := by
    rw [hbytes]
    rfl
  have hname : namedEncoding (ofCodes (declarationText ++ String.ofList rest).toUTF8.toList) =
      some "UTF-8" := by
    rw [hbytes, ofCodes, List.map_append, ← ofCodes, hcodes]
    exact namedEncoding_eq _
  have hlower : "UTF-8".toLower = "utf-8" := by decide +kernel
  simp only [decode, hwide, hname, hlower, Text.decode_toUTF8, beq_self_eq_true, if_true]

/-! ## Documents -/

/-- A document as it was written: the declaration, and the outermost element with what stands
inside it. -/
def documentText (name : String) (as : List (String × String)) (inner : List Char) : List Char :=
  declarationText.toList ++
    '\n' :: '<' :: (startTagText name as false ++ (inner ++ (endTagText name ++ ['\n'])))

/-- Blanks before a tag are passed over. -/
theorem misc?_tag {name : String} (hname : IsLocal name) (n : Nat) (typed : Bool)
    (rest : List Char) :
    misc? (n + 1) typed ('\n' :: '<' :: (name.toList ++ rest)) =
      some ('<' :: (name.toList ++ rest)) := by
  obtain ⟨c, cs, hlist, hstart, -⟩ := hname
  have hskip : skipSpace ('\n' :: '<' :: c :: (cs ++ rest)) = '<' :: c :: (cs ++ rest) := rfl
  have hbang : (c == '!' || c == '?') = false := notMarkup_of_isNameStart hstart
  rw [hlist, List.cons_append, misc?, hskip]
  simp only [hbang, Bool.false_eq_true, if_false]

theorem return_not_mem_documentText {name : String} (hname : IsLocal name)
    {as : List (String × String)} (has : ∀ a ∈ as, IsLocal a.1) {inner : List Char}
    (hinner : '\r' ∉ inner) : '\r' ∉ documentText name as inner := by
  have hdeclaration : '\r' ∉ declarationText.toList := by decide
  simp [documentText, endTagText, hdeclaration, return_not_mem_startTagText hname has, hinner,
    hname.return_not_mem]

/-- A document is parsed to its outermost element, with the elements that are read inside it. -/
theorem parse?_documentText {name : String} (hname : IsLocal name) {as : List (String × String)}
    (has : PlainAttributes as) {inner : List Char} {es : List Element}
    (hinner : ∀ rest, Reads [openedFrame name as] (inner ++ rest)
      [(openedFrame name as).add es] rest)
    (hreturn : '\r' ∉ inner) :
    parse? (documentText name as inner) = some (.mk name (as.map cleanAttribute) es) := by
  -- nothing is lost before the document is read: it has no carriage returns and no byte order mark
  have hlines : Text.universalNewlines (documentText name as inner) =
      documentText name as inner :=
    Text.universalNewlines_eq_self (return_not_mem_documentText hname has.isLocal hreturn)
  have hmark : ((documentText name as inner).head? == some '\uFEFF') = false := rfl
  obtain ⟨tail, htail⟩ : ∃ tail, inner ++ (endTagText name ++ ['\n']) = tail := ⟨_, rfl⟩
  have hmisc : ∀ n, misc? (n + 1) true ('\n' :: '<' :: (startTagText name as false ++ tail)) =
      some ('<' :: (startTagText name as false ++ tail)) := by
    intro n
    simp only [startTagText, List.append_assoc]
    exact misc?_tag hname n true _
  have hcontent : content? (tail.length + 1) [openedFrame name as] tail =
      some (.mk name (as.map cleanAttribute) es, ['\n']) := by
    -- reading the inside leaves steps enough for the end tag
    obtain ⟨m, hm, heq⟩ := hinner (endTagText name ++ ['\n']) _ (Nat.lt_succ_self _)
    obtain ⟨k, rfl⟩ : ∃ k, m = k + 1 := ⟨m - 1, by omega⟩
    rw [← htail, heq, content?_end hname rfl]
    simp [Frame.close, Frame.add, openedFrame]
  have hopen : open? [("xml", xmlNamespace)] ⟨⟨none, name⟩, tagAttributes as, false⟩ =
      some (openedFrame name as) := open?_plain has name false
  simp only [parse?, hlines, hmark, Bool.false_eq_true, if_false]
  rw [documentText, htail, afterDeclaration?_eq]
  simp only [hmisc, startTag?_eq hname has.isLocal false tail]
  rw [← tagAttributes, hopen]
  simp only [Bool.false_eq_true, if_false, hcontent]
  rfl

end MarkdownLint.Xml
