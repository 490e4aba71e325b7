import MarkdownLint.Proofs.Xml.Attribute

/-!
Elements are read as they were written. `Reads` relates the elements that are open and the text
ahead before and after some part of a document is read; it composes (`Reads.trans`), so that what is
read of a document follows its layout: a line break leaves everything as it is, an element that is
closed at once becomes a child of the innermost open one, a start tag opens an element, an end tag
closes it.
-/
namespace MarkdownLint.Xml

/-! ## Opening elements -/

theorem allDistinct_of_nodup {α : Type} [BEq α] [LawfulBEq α] {l : List α} (h : l.Nodup) :
    allDistinct l = true := by
  induction l with
  | nil => rfl
  | cons a l ih =>
    obtain ⟨ha, hl⟩ := List.nodup_cons.mp h
    simp [allDistinct, ha, ih hl]

/-- Attributes with different names in no namespace, which bind no prefix. -/
structure PlainAttributes (as : List (String × String)) : Prop where
  isLocal : ∀ a ∈ as, IsLocal a.1
  nodup : (as.map Prod.fst).Nodup
  notBinding : ∀ a ∈ as, a.1 ≠ "xmlns"

/-- Whether attributes are plain depends on their names alone. -/
theorem PlainAttributes.of_names {as : List (String × String)} {names : List String}
    (h : as.map Prod.fst = names) (hlocal : ∀ k ∈ names, IsLocal k) (hnodup : names.Nodup)
    (hbinding : "xmlns" ∉ names) : PlainAttributes as := by
  subst h
  refine ⟨?_, hnodup, ?_⟩
  · intro a ha
    exact hlocal a.1 (List.mem_map_of_mem ha)
  · rintro a ha heq
    exact hbinding (heq ▸ List.mem_map_of_mem ha)

/-- The bindings at the start of a document. -/
def initialBindings : Bindings := [("xml", xmlNamespace)]

/-- Attributes as a tag holds them. -/
def tagAttributes (as : List (String × String)) : List (Name × String) :=
  as.map fun a => (⟨none, a.1⟩, (cleanAttribute a).2)

theorem bind?_plain {as : List (String × String)} (h : ∀ a ∈ as, a.1 ≠ "xmlns") (bs : Bindings) :
    bind? bs (tagAttributes as) = some bs := by
  induction as with
  | nil => rfl
  | cons a as ih =>
    have hnone : bindingOf? (⟨none, a.1⟩, (cleanAttribute a).2) = some [] := by
      simp only [bindingOf?]
      split
      · rename_i heq
        exact absurd heq (h a (by simp))
      · rename_i heq
        cases heq
      · rfl
    rw [tagAttributes, List.map_cons, bind?, hnone]
    exact ih fun b hb => h b (by simp [hb])

theorem attributeNames?_plain {as : List (String × String)} (h : ∀ a ∈ as, a.1 ≠ "xmlns")
    (bs : Bindings) : attributeNames? bs (tagAttributes as) = some (as.map cleanAttribute) := by
  induction as with
  | nil => rfl
  | cons a as ih =>
    have hrest := ih fun b hb => h b (by simp [hb])
    have hbinding : isBinding ⟨none, a.1⟩ = false := by
      simp [isBinding, h a (by simp)]
    rw [tagAttributes, List.map_cons, attributeNames?, ← tagAttributes, hrest]
    simp [hbinding, cleanAttribute]

/-- The frame of an element with the given attributes in which nothing has been read. -/
def openedFrame (name : String) (as : List (String × String)) : Frame :=
  ⟨⟨none, name⟩, name, as.map cleanAttribute, [], initialBindings⟩

theorem open?_plain {as : List (String × String)} (h : PlainAttributes as) (name : String)
    (closed : Bool) :
    open? initialBindings ⟨⟨none, name⟩, tagAttributes as, closed⟩ =
      some (openedFrame name as) := by
  have hnames : ((tagAttributes as).map (·.1)).Nodup := by
    have hmap : (tagAttributes as).map (·.1) = (as.map Prod.fst).map fun k => ⟨none, k⟩ := by
      simp [tagAttributes, Function.comp_def]
    rw [hmap, List.nodup_iff_pairwise_ne, List.pairwise_map]
    exact h.nodup.imp fun hne heq => hne (Name.mk.inj heq).2
  have hkeys : ((as.map cleanAttribute).map (·.1)).Nodup := by
    rw [List.map_map]
    exact h.nodup
  have hname : elementName? initialBindings ⟨none, name⟩ = some name := by
    simp [elementName?, initialBindings, expanded]
  simp only [open?, allDistinct_of_nodup hnames, bind?_plain h.notBinding, hname,
    attributeNames?_plain h.notBinding, allDistinct_of_nodup hkeys, openedFrame, Bool.not_true,
    Bool.false_eq_true, if_false, if_true]

/-! ## Reading on -/

/-- Reading goes on from some open elements and a text to others, however many steps there are. -/
def Reads (fs : List Frame) (cs : List Char) (gs : List Frame) (rest : List Char) : Prop :=
  ∀ n, cs.length < n → ∃ m, rest.length < m ∧ content? n fs cs = content? m gs rest

theorem Reads.refl (fs : List Frame) (cs : List Char) : Reads fs cs fs cs :=
  fun n hn => ⟨n, hn, rfl⟩

theorem Reads.trans {fs gs hs : List Frame} {cs ds es : List Char} (h : Reads fs cs gs ds)
    (h' : Reads gs ds hs es) : Reads fs cs hs es := by
  intro n hn
  obtain ⟨m, hm, heq⟩ := h n hn
  obtain ⟨k, hk, heq'⟩ := h' m hm
  exact ⟨k, hk, heq.trans heq'⟩

/-- One step of reading, which passes over at least one character. -/
theorem Reads.step {fs gs : List Frame} {cs rest : List Char} (hlen : rest.length < cs.length)
    (h : ∀ n, content? (n + 1) fs cs = content? n gs rest) : Reads fs cs gs rest := by
  intro n hn
  obtain ⟨m, rfl⟩ : ∃ m, n = m + 1 := ⟨n - 1, by omega⟩
  exact ⟨m, by omega, h m⟩

/-- An open element with more elements inside it. -/
def Frame.add (f : Frame) (es : List Element) : Frame :=
  { f with children := es.reverse ++ f.children }

@[simp] theorem Frame.add_bindings (f : Frame) (es : List Element) :
    (f.add es).bindings = f.bindings := rfl

@[simp] theorem Frame.add_tag (f : Frame) (es : List Element) : (f.add es).tag = f.tag := rfl

@[simp] theorem Frame.add_nil (f : Frame) : f.add [] = f := rfl

theorem Frame.add_add (f : Frame) (as bs : List Element) : (f.add as).add bs = f.add (as ++ bs) := by
  simp [Frame.add]

theorem reads_newline (f : Frame) (outer : List Frame) (rest : List Char) :
    Reads (f :: outer) ('\n' :: rest) (f :: outer) rest :=
  .step (by simp) fun n => by simp [content?, isXmlChar]

/-- What follows the opening bracket of a start tag. -/
theorem content?_startTag {n : Nat} {f : Frame} {outer : List Frame} {name : String}
    {as : List (String × String)} (hname : IsLocal name) (has : PlainAttributes as)
    (hf : f.bindings = initialBindings) (closed : Bool) (rest : List Char) :
    content? (n + 1) (f :: outer) ('<' :: (startTagText name as closed ++ rest)) =
      if closed then content? n (f.add [(openedFrame name as).close] :: outer) rest
      else content? n (openedFrame name as :: f :: outer) rest := by
  have htag := startTag?_eq hname has.isLocal closed rest
  obtain ⟨c, cs, hlist, hstart, -⟩ := id hname
  have htext : startTagText name as closed ++ rest =
      c :: (cs ++ as.flatMap attributeText ++ tagEnd closed ++ rest) := by
    simp [startTagText, hlist]
  have hslash : c ≠ '/' := by rintro rfl; revert hstart; decide
  have hbang : (c == '!' || c == '?') = false := notMarkup_of_isNameStart hstart
  have hopen : open? f.bindings ⟨⟨none, name⟩, tagAttributes as, closed⟩ =
      some (openedFrame name as) := by
    rw [hf]
    exact open?_plain has name closed
  -- what follows the bracket starts with a letter, so that no other kind of markup is tried
  rw [htext] at htag ⊢
  rw [content?]
  · simp only [hbang, Bool.false_eq_true, if_false, htag]
    rw [← tagAttributes, hopen]
    rfl
  · exact hslash

theorem reads_closed {f : Frame} {outer : List Frame} {name : String}
    {as : List (String × String)} (hname : IsLocal name) (has : PlainAttributes as)
    (hf : f.bindings = initialBindings) (rest : List Char) :
    Reads (f :: outer) ('<' :: (startTagText name as true ++ rest))
      (f.add [.mk name (as.map cleanAttribute) []] :: outer) rest :=
  .step (by rw [List.length_cons, List.length_append]; omega) fun _ =>
    content?_startTag hname has hf true rest

theorem reads_open {f : Frame} {outer : List Frame} {name : String}
    {as : List (String × String)} (hname : IsLocal name) (has : PlainAttributes as)
    (hf : f.bindings = initialBindings) (rest : List Char) :
    Reads (f :: outer) ('<' :: (startTagText name as false ++ rest))
      (openedFrame name as :: f :: outer) rest :=
  .step (by rw [List.length_cons, List.length_append]; omega) fun _ =>
    content?_startTag hname has hf false rest

/-- An end tag as it was written. -/
def endTagText (name : String) : List Char := '<' :: '/' :: (name.toList ++ ['>'])

theorem endTag?_eq {name : String} (hname : IsLocal name) (rest : List Char) :
    endTag? (name.toList ++ '>' :: rest) = some (⟨none, name⟩, rest) := by
  have hread : name? (name.toList ++ '>' :: rest) = some (⟨none, name⟩, '>' :: rest) :=
    name?_append hname (by decide) (by decide) rest
  have hskip : skipSpace ('>' :: rest) = '>' :: rest := rfl
  simp only [endTag?, hread, hskip]

theorem endTagText_append (name : String) (rest : List Char) :
    endTagText name ++ rest = '<' :: '/' :: (name.toList ++ '>' :: rest) := by
  simp [endTagText]

theorem reads_close {f g : Frame} {outer : List Frame} {name : String} (hname : IsLocal name)
    (hf : f.tag = ⟨none, name⟩) (rest : List Char) :
    Reads (f :: g :: outer) (endTagText name ++ rest) (g.add [f.close] :: outer) rest := by
  refine .step (by simp [endTagText]; omega) fun n => ?_
  rw [endTagText_append]
  simp only [content?, endTag?_eq hname, hf, bne_self_eq_false, Bool.false_eq_true, if_false]
  rfl

/-- What is read one after the other becomes the children, one after the other. -/
theorem reads_flatMap {α : Type} {text : α → List Char} {element : α → Element}
    {outer : List Frame}
    (h : ∀ (a : α) (f : Frame) (rest : List Char), f.bindings = initialBindings →
      Reads (f :: outer) (text a ++ rest) (f.add [element a] :: outer) rest)
    (as : List α) (f : Frame) (rest : List Char) (hf : f.bindings = initialBindings) :
    Reads (f :: outer) (as.flatMap text ++ rest) (f.add (as.map element) :: outer) rest := by
  induction as generalizing f with
  | nil => exact .refl _ _
  | cons a as ih =>
    rw [List.flatMap_cons, List.append_assoc]
    have hrest := ih (f.add [element a]) hf
    rw [Frame.add_add] at hrest
    exact (h a f _ hf).trans hrest

/-- The end tag of the outermost element ends the reading. -/
theorem content?_end {f : Frame} {name : String} (hname : IsLocal name)
    (hf : f.tag = ⟨none, name⟩) (n : Nat) (rest : List Char) :
    content? (n + 1) [f] (endTagText name ++ rest) = some (f.close, rest) := by
  rw [endTagText_append]
  simp only [content?, endTag?_eq hname, hf, bne_self_eq_false, Bool.false_eq_true, if_false]

end MarkdownLint.Xml
