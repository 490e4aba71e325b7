import MarkdownLint.Proofs.Lists
import MarkdownLint.Xml.Reader

/-!
Attributes are read as they were written. Writing replaces one character after the other in the
whole text, but comes to the same as writing each character for itself (`escape_eq_flatMap`), since
no reference holds a character that is replaced after it. Hence reading the value of an attribute
gives back the text, less the characters that no document can hold (`attributeValue?_escape`), and
reading the attributes of a tag gives back all of them (`attributes?_eq`).
-/
namespace MarkdownLint.Xml

/-! ## Replacing in the whole text and character by character -/

theorem foldl_replace_append (rs : List (Char × String)) (as bs : List Char) :
    rs.foldl replace (as ++ bs) = rs.foldl replace as ++ rs.foldl replace bs := by
  induction rs generalizing as bs with
  | nil => rfl
  | cons r rs ih =>
    have happend : replace (as ++ bs) r = replace as r ++ replace bs r := List.flatMap_append
    rw [List.foldl_cons, List.foldl_cons, List.foldl_cons, happend, ih]

theorem escape_append (as bs : List Char) : escape (as ++ bs) = escape as ++ escape bs :=
  foldl_replace_append references as bs

theorem escape_cons (c : Char) (cs : List Char) : escape (c :: cs) = escape [c] ++ escape cs :=
  escape_append [c] cs

/-- The replacements act like one map on the characters. -/
theorem escape_eq_flatMap (cs : List Char) : escape cs = cs.flatMap fun c => escape [c] := by
  induction cs with
  | nil => rfl
  | cons c cs ih => rw [escape_cons, ih, List.flatMap_cons]

/-- A character with a reference is written as that reference, and the later replacements leave it
alone. -/
theorem escape_reference : ∀ r ∈ references, escape [r.1] = r.2.toList := by decide

theorem foldl_replace_singleton {c : Char} {rs : List (Char × String)}
    (h : c ∉ rs.map Prod.fst) : rs.foldl replace [c] = [c] := by
  induction rs with
  | nil => rfl
  | cons r rs ih =>
    obtain ⟨hc, hrest⟩ : c ≠ r.1 ∧ c ∉ rs.map Prod.fst := by simpa using h
    have hkeep : replace [c] r = [c] := by simp [replace, hc]
    rw [List.foldl_cons, hkeep, ih hrest]

theorem escape_singleton {c : Char} (h : c ∉ references.map Prod.fst) : escape [c] = [c] :=
  foldl_replace_singleton h

/-- A written text holds no character with a reference, ampersands apart. -/
theorem mem_escape {c : Char} {cs : List Char} (h : c ∈ escape cs) :
    c = '&' ∨ c ∉ references.map Prod.fst := by
  rw [escape_eq_flatMap] at h
  obtain ⟨d, -, hc⟩ := List.mem_flatMap.mp h
  by_cases hd : d ∈ references.map Prod.fst
  · obtain ⟨r, hr, rfl⟩ := List.mem_map.mp hd
    rw [escape_reference r hr] at hc
    have hall : ∀ r ∈ references, (r.2.toList.all fun c =>
        decide (c = '&' ∨ c ∉ references.map Prod.fst)) = true := by decide
    exact forall_mem_of_all (hall r hr) c hc
  · rw [escape_singleton hd, List.mem_singleton] at hc
    exact .inr (hc ▸ hd)

theorem escape_eq_self {cs : List Char} (h : ∀ c ∈ cs, c ∉ references.map Prod.fst) :
    escape cs = cs := by
  induction cs with
  | nil => rfl
  | cons c cs ih =>
    rw [escape_cons, escape_singleton (h c (by simp)), ih fun d hd => h d (by simp [hd])]
    rfl

/-! ## Values -/

/-- A reference denotes the character that it is written for. -/
theorem reference?_references : ∀ r ∈ references, ∃ body, r.2.toList = '&' :: body ∧
    ∀ rest, reference? (body ++ rest) = some (r.1, rest) := by
  intro r hr
  simp only [references, List.mem_cons, List.not_mem_nil, or_false] at hr
  rcases hr with rfl | rfl | rfl | rfl | rfl | rfl | rfl | rfl <;>
    exact ⟨_, rfl, fun rest => rfl⟩

theorem attributeValue?_reference {n : Nat} {c : Char} {cs rest : List Char}
    (h : reference? cs = some (c, rest)) :
    attributeValue? '"' (n + 1) ('&' :: cs) =
      (attributeValue? '"' n rest).map fun r => (c :: r.1, r.2) := by
  simp [attributeValue?, h]

theorem attributeValue?_plain {n : Nat} {c : Char} {cs : List Char} (hx : isXmlChar c = true)
    (hc : c ∉ references.map Prod.fst) :
    attributeValue? '"' (n + 1) (c :: cs) =
      (attributeValue? '"' n cs).map fun r => (c :: r.1, r.2) := by
  simp only [references, List.map_cons, List.map_nil, List.mem_cons, List.not_mem_nil, or_false,
    not_or] at hc
  obtain ⟨hamp, -, hlt, hquote, -, hlf, hcr, htab⟩ := hc
  have hspace : isSpace c = true → c = ' ' := by
    intro h
    simpa [isSpace, hlf, hcr, htab] using h
  by_cases hblank : isSpace c = true
  · simp [attributeValue?, hspace hblank, isSpace]
  · simp [attributeValue?, hquote, hlt, hamp, hblank, hx]

/-- The value of an attribute is read as it was written. -/
theorem attributeValue?_escape {cs : List Char} (hcs : ∀ c ∈ cs, isXmlChar c = true)
    (rest : List Char) {n : Nat} (hn : (escape cs).length < n) :
    attributeValue? '"' n (escape cs ++ '"' :: rest) = some (cs, rest) := by
  induction cs generalizing n with
  | nil =>
    obtain ⟨m, rfl⟩ : ∃ m, n = m + 1 := ⟨n - 1, by omega⟩
    rfl
  | cons c cs ih =>
    have hrest := fun d hd => hcs d (List.mem_cons_of_mem c hd)
    rw [escape_cons, List.length_append] at hn
    rw [escape_cons, List.append_assoc]
    -- a character with a reference is read by one step, however many characters stand for it
    by_cases hc : c ∈ references.map Prod.fst
    · obtain ⟨r, hr, rfl⟩ := List.mem_map.mp hc
      obtain ⟨body, hbody, href⟩ := reference?_references r hr
      rw [escape_reference r hr, hbody, List.length_cons] at hn
      obtain ⟨m, rfl⟩ : ∃ m, n = m + 1 := ⟨n - 1, by omega⟩
      rw [escape_reference r hr, hbody, List.cons_append, attributeValue?_reference (href _),
        ih hrest (by omega), Option.map_some]
    · rw [escape_singleton hc, List.length_singleton] at hn
      obtain ⟨m, rfl⟩ : ∃ m, n = m + 1 := ⟨n - 1, by omega⟩
      rw [escape_singleton hc, List.singleton_append,
        attributeValue?_plain (hcs c (by simp)) hc, ih hrest (by omega), Option.map_some]

theorem isXmlChar_of_mem_clean {c : Char} {cs : List Char} (h : c ∈ clean cs) :
    isXmlChar c = true :=
  (List.mem_filter.mp h).2

/-! ## Names -/

/-- A name without a colon. -/
def IsLocal (name : String) : Prop :=
  ∃ c cs, name.toList = c :: cs ∧ isNameStart c = true ∧ ∀ d ∈ cs, isNamePart d = true

instance (name : String) : Decidable (IsLocal name) :=
  match h : name.toList with
  | [] => .isFalse (by rintro ⟨c, cs, hname, -⟩; simp [h] at hname)
  | c :: cs =>
    if hc : isNameStart c = true ∧ cs.all isNamePart = true then
      .isTrue ⟨c, cs, h, hc.1, List.all_eq_true.mp hc.2⟩
    else .isFalse (by
      rintro ⟨d, ds, hname, hstart, hpart⟩
      obtain ⟨rfl, rfl⟩ := List.cons.inj (h.symm.trans hname)
      exact hc ⟨hstart, List.all_eq_true.mpr hpart⟩)

theorem isSpace_eq_false_of_isNameStart {c : Char} (hc : isNameStart c = true) :
    isSpace c = false := by
  rw [Bool.eq_false_iff]
  intro h
  simp only [isSpace, Bool.or_eq_true, beq_iff_eq] at h
  rcases h with ((rfl | rfl) | rfl) | rfl <;> revert hc <;> decide

theorem notMarkup_of_isNameStart {c : Char} (hc : isNameStart c = true) :
    (c == '!' || c == '?') = false := by
  rw [Bool.eq_false_iff]
  intro h
  simp only [Bool.or_eq_true, beq_iff_eq] at h
  rcases h with rfl | rfl <;> revert hc <;> decide

theorem IsLocal.return_not_mem {name : String} (hname : IsLocal name) : '\r' ∉ name.toList := by
  obtain ⟨c, cs, hlist, hstart, hpart⟩ := hname
  rw [hlist, List.mem_cons, not_or]
  constructor
  · rintro rfl
    exact absurd hstart (by decide)
  · intro h
    exact absurd (hpart _ h) (by decide)

/-- A name is read up to the first character that cannot belong to it. -/
theorem localName?_append {name : String} (hname : IsLocal name) {c : Char}
    (hc : isNamePart c = false) (rest : List Char) :
    localName? (name.toList ++ c :: rest) = some (name.toList, c :: rest) := by
  obtain ⟨d, ds, hlist, hstart, hpart⟩ := hname
  have htake : (ds ++ c :: rest).takeWhile isNamePart = ds := by
    rw [List.takeWhile_append_of_pos hpart, List.takeWhile_cons_of_neg (by simp [hc]),
      List.append_nil]
  rw [hlist, List.cons_append, localName?]
  simp only [hstart, if_true, htake, List.drop_left]

theorem name?_append {name : String} (hname : IsLocal name) {c : Char} (hc : isNamePart c = false)
    (hcolon : c ≠ ':') (rest : List Char) :
    name? (name.toList ++ c :: rest) = some (⟨none, name⟩, c :: rest) := by
  have hself : String.ofList name.toList = name := String.ofList_toList
  simp only [name?, localName?_append hname hc, hself]
  split
  · rename_i heq
    exact absurd (List.cons.inj heq).1 hcolon
  · rfl

/-! ## Attributes -/

/-- An attribute as it stands in a tag. -/
def attributeText (a : String × String) : List Char :=
  ' ' :: a.1.toList ++ '=' :: '"' :: (encode a.2).toList ++ ['"']

/-- What is read of an attribute. -/
def cleanAttribute (a : String × String) : String × String :=
  (a.1, String.ofList (clean a.2.toList))

theorem toList_encode (s : String) : (encode s).toList = escape (clean s.toList) :=
  String.toList_ofList

/-- A text of characters that a document can hold and that have no reference is written as it is. -/
theorem encode_eq_self {s : String} (hchar : ∀ c ∈ s.toList, isXmlChar c = true)
    (hreference : ∀ c ∈ s.toList, c ∉ references.map Prod.fst) : encode s = s := by
  have hclean : clean s.toList = s.toList := List.filter_eq_self.mpr hchar
  rw [encode, hclean, escape_eq_self hreference, String.ofList_toList]

theorem attributes?_space (n : Nat) (rest : List Char) (spaced : Bool) :
    attributes? (n + 1) (' ' :: rest) spaced = attributes? n rest true := rfl

theorem attributes?_named {n : Nat} {c : Char} {cs value rest after : List Char} {name : Name}
    (hc : isNameStart c = true) (hname : name? (c :: cs) = some (name, '=' :: '"' :: rest))
    (hvalue : attributeValue? '"' (rest.length + 1) rest = some (value, after)) :
    attributes? (n + 1) (c :: cs) true =
      (attributes? n after false).map fun r => ((name, String.ofList value) :: r.1, r.2) := by
  have hgt : c ≠ '>' := by rintro rfl; revert hc; decide
  have hslash : c ≠ '/' := by rintro rfl; revert hc; decide
  have hspace : isSpace c = false := isSpace_eq_false_of_isNameStart hc
  have hequals : skipSpace ('=' :: '"' :: rest) = '=' :: '"' :: rest := rfl
  have hquote : skipSpace ('"' :: rest) = '"' :: rest := rfl
  rw [attributes?]
  · simp [hspace, hname, hequals, hquote, hvalue]
  · exact hgt
  · exact fun _ h => absurd h hslash

/-- One attribute is read, and then the others. -/
theorem attributes?_attributeText {a : String × String} (ha : IsLocal a.1) (rest : List Char)
    (n : Nat) (spaced : Bool) :
    attributes? (n + 2) (attributeText a ++ rest) spaced =
      (attributes? n rest false).map fun r =>
        ((⟨none, a.1⟩, (cleanAttribute a).2) :: r.1, r.2) := by
  obtain ⟨c, cs, hlist, hstart, hpart⟩ := id ha
  have hname : name? (a.1.toList ++ '=' :: '"' :: ((encode a.2).toList ++ '"' :: rest)) =
      some (⟨none, a.1⟩, '=' :: '"' :: ((encode a.2).toList ++ '"' :: rest)) :=
    name?_append ha (by decide) (by decide) _
  have hvalue : attributeValue? '"' (((encode a.2).toList ++ '"' :: rest).length + 1)
      ((encode a.2).toList ++ '"' :: rest) = some (clean a.2.toList, rest) := by
    rw [toList_encode]
    refine attributeValue?_escape (fun c hc => isXmlChar_of_mem_clean hc) rest ?_
    rw [List.length_append]
    omega
  have htext : attributeText a ++ rest = ' ' :: (a.1.toList ++ '=' :: '"' ::
      ((encode a.2).toList ++ '"' :: rest)) := by
    simp [attributeText]
  rw [htext, attributes?_space]
  rw [hlist] at hname ⊢
  exact attributes?_named hstart hname hvalue

/-- The end of a tag. -/
def tagEnd (closed : Bool) : List Char := if closed then ['/', '>'] else ['>']

/-- The attributes of a tag are read as they were written. -/
theorem attributes?_eq {as : List (String × String)} (has : ∀ a ∈ as, IsLocal a.1) (closed : Bool)
    (rest : List Char) {n : Nat} (spaced : Bool)
    (hn : (as.flatMap attributeText ++ tagEnd closed ++ rest).length < n) :
    attributes? n (as.flatMap attributeText ++ tagEnd closed ++ rest) spaced =
      some (as.map fun a => (⟨none, a.1⟩, (cleanAttribute a).2), closed, rest) := by
  induction as generalizing n spaced with
  | nil =>
    obtain ⟨m, rfl⟩ : ∃ m, n = m + 1 := ⟨n - 1, by omega⟩
    cases closed <;> rfl
  | cons a as ih =>
    -- an attribute takes two steps, one for the blank before it
    have hlen : 2 ≤ (attributeText a).length := by
      simp [attributeText]
      omega
    rw [List.flatMap_cons, List.append_assoc, List.append_assoc, List.length_append] at hn
    obtain ⟨m, rfl⟩ : ∃ m, n = m + 2 := ⟨n - 2, by omega⟩
    rw [List.flatMap_cons, List.append_assoc, List.append_assoc,
      attributes?_attributeText (has a (by simp)), ← List.append_assoc,
      ih (fun b hb => has b (by simp [hb])) false (by rw [List.append_assoc]; omega)]
    rfl

/-- A start tag as it was written. -/
def startTagText (name : String) (as : List (String × String)) (closed : Bool) : List Char :=
  name.toList ++ as.flatMap attributeText ++ tagEnd closed

theorem return_not_mem_attributeText {a : String × String} (ha : IsLocal a.1) :
    '\r' ∉ attributeText a := by
  have hvalue : '\r' ∉ (encode a.2).toList := by
    rw [toList_encode]
    intro h
    exact absurd (mem_escape h) (by decide)
  simp [attributeText, ha.return_not_mem, hvalue]

/-- No line of a tag ends at a carriage return, since values hold it as a reference. -/
theorem return_not_mem_startTagText {name : String} (hname : IsLocal name)
    {as : List (String × String)} (has : ∀ a ∈ as, IsLocal a.1) (closed : Bool) :
    '\r' ∉ startTagText name as closed := by
  have hattributes : '\r' ∉ as.flatMap attributeText := by
    intro h
    obtain ⟨a, ha, hmem⟩ := List.mem_flatMap.mp h
    exact return_not_mem_attributeText (has a ha) hmem
  have hend : '\r' ∉ tagEnd closed := by cases closed <;> decide
  rw [startTagText, List.mem_append, List.mem_append, not_or, not_or]
  exact ⟨⟨hname.return_not_mem, hattributes⟩, hend⟩

theorem startTag?_eq {name : String} (hname : IsLocal name) {as : List (String × String)}
    (has : ∀ a ∈ as, IsLocal a.1) (closed : Bool) (rest : List Char) :
    startTag? (startTagText name as closed ++ rest) =
      some (⟨⟨none, name⟩, as.map fun a => (⟨none, a.1⟩, (cleanAttribute a).2), closed⟩, rest) := by
  have hread : name? (name.toList ++ (as.flatMap attributeText ++ tagEnd closed ++ rest)) =
      some (⟨none, name⟩, as.flatMap attributeText ++ tagEnd closed ++ rest) := by
    -- the name ends at the space before the first attribute, or at the end of the tag
    cases as with
    | nil => cases closed <;> exact name?_append hname (by decide) (by decide) _
    | cons a as => exact name?_append hname (by decide) (by decide) _
  have hattributes := attributes?_eq has closed rest false (Nat.lt_succ_self _)
  have htext : startTagText name as closed ++ rest =
      name.toList ++ (as.flatMap attributeText ++ tagEnd closed ++ rest) := by
    simp only [startTagText, List.append_assoc]
  simp only [startTag?, htext, hread, hattributes]

end MarkdownLint.Xml
