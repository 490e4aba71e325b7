import MarkdownLint.Proofs.Files.Discovery

/-!
Discovery is exact. The files that are found below an entry are those whose names have one of the
extensions and whose folders are neither hidden nor build output (`Entry.mem_filesBelow_iff`), so
that they depend on what the tree shows and not on the order in which folders list their entries
(`discover_eq_of_look`). A tree that lists its entries in another order (`Entry.Relisted`) shows the
same (`Entry.Relisted.look_eq`).
-/
namespace MarkdownLint

/-! ## Names -/

/-- A position that discovery looks for: the last name ends in one of the extensions, and no folder
on the way is hidden or named as build output. -/
def IsSought (extensions : List String) (p : List String) : Prop :=
  ∃ folders name, p = folders ++ [name] ∧ (∃ x ∈ extensions, x.toList <:+ name.toList) ∧
    ∀ f ∈ folders, f ≠ "build" ∧ f.toList.head? ≠ some '.'

variable {extensions : List String} {name : String} {p rest : List String}

theorem hasExtension_iff :
    hasExtension extensions name = true ↔ ∃ x ∈ extensions, x.toList <:+ name.toList := by
  simp [hasExtension, List.any_eq_true]

theorem isPruned_eq_false_iff :
    isPruned name = false ↔ name ≠ "build" ∧ name.toList.head? ≠ some '.' := by
  simp [isPruned]

theorem not_isSought_nil : ¬IsSought extensions [] := by
  rintro ⟨folders, name, hp, -⟩
  cases folders <;> cases hp

theorem isSought_singleton : IsSought extensions [name] ↔ hasExtension extensions name = true := by
  rw [hasExtension_iff]
  constructor
  · rintro ⟨folders, last, hp, hlast, -⟩
    cases folders with
    | nil =>
      cases hp
      exact hlast
    | cons f folders => simp at hp
  · intro h
    exact ⟨[], name, rfl, h, nofun⟩

theorem isSought_cons (hrest : rest ≠ []) :
    IsSought extensions (name :: rest) ↔ isPruned name = false ∧ IsSought extensions rest := by
  rw [isPruned_eq_false_iff]
  constructor
  · rintro ⟨folders, last, hp, hlast, hfolders⟩
    cases folders with
    | nil =>
      cases hp
      exact absurd rfl hrest
    | cons f folders =>
      cases hp
      obtain ⟨hname, hfolders⟩ := List.forall_mem_cons.mp hfolders
      exact ⟨hname, folders, last, rfl, hlast, hfolders⟩
  · rintro ⟨hname, folders, last, rfl, hlast, hfolders⟩
    exact ⟨name :: folders, last, rfl, hlast, List.forall_mem_cons.mpr ⟨hname, hfolders⟩⟩

namespace Entry

/-! ## Files below an entry -/

variable {entries entries' : List (String × Entry)} {e t t' : Entry}

/-- A folder adds up what its entries add. -/
theorem mem_filesIn_iff :
    p ∈ filesIn extensions entries ↔ ∃ x ∈ entries, p ∈ filesIn extensions [x] := by
  induction entries with
  | nil => simp [filesIn]
  | cons x entries ih => rw [filesIn_cons, List.mem_append, ih, List.exists_mem_cons_iff]

/-- What an entry adds begins with its name. -/
theorem cons_mem_filesIn_iff (h : (folder entries).WellFormed) :
    name :: rest ∈ filesIn extensions entries ↔
      ∃ e, child? entries name = some e ∧ name :: rest ∈ filesIn extensions [(name, e)] := by
  rw [mem_filesIn_iff]
  cases h with
  | folder hnodup _ _ =>
    constructor
    · rintro ⟨⟨key, e⟩, hx, hp⟩
      obtain ⟨_, _, heq, hkey⟩ := exists_head_of_mem_filesIn hp
      cases heq
      obtain rfl : name = key := by simpa using hkey
      exact ⟨e, (Association.lookup_eq_some_iff hnodup).mpr hx, hp⟩
    · rintro ⟨e, he, hp⟩
      exact ⟨(name, e), (Association.lookup_eq_some_iff hnodup).mp he, hp⟩

theorem cons_mem_filesIn_file (c : ByteArray) :
    name :: rest ∈ filesIn extensions [(name, .file c)] ↔
      rest = [] ∧ hasExtension extensions name = true := by
  cases hext : hasExtension extensions name <;> simp [filesIn, hext]

theorem cons_mem_filesIn_folder :
    name :: rest ∈ filesIn extensions [(name, .folder entries)] ↔
      isPruned name = false ∧ rest ∈ (folder entries).filesBelow extensions := by
  rw [filesIn_singleton_folder name _ rfl]
  cases isPruned name <;> simp

theorem get?_cons : (folder entries).get? (name :: rest) =
    (child? entries name).bind fun e => e.get? rest := by
  rw [Entry.get?]
  cases child? entries name <;> rfl

/-- The files that are found below an entry are those that discovery looks for. -/
theorem mem_filesBelow_iff (h : e.WellFormed) : p ∈ e.filesBelow extensions ↔
    (∃ c, e.get? p = some (.file c)) ∧ IsSought extensions p := by
  induction p generalizing e with
  | nil =>
    refine iff_of_false ?_ fun hp => not_isSought_nil hp.2
    intro hp
    cases e with
    | file c => cases hp
    | folder entries =>
      obtain ⟨_, _, hnil, _⟩ := exists_head_of_mem_filesIn hp
      cases hnil
  | cons name rest ih =>
    cases e with
    | file c => exact iff_of_false nofun (by simp [Entry.get?])
    | folder entries =>
      rw [filesBelow, cons_mem_filesIn_iff h, get?_cons]
      cases hchild : child? entries name with
      | none => simp
      | some child =>
        simp only [Option.some.injEq, exists_eq_left', Option.bind_some]
        cases child with
        | file c =>
          rw [cons_mem_filesIn_file]
          cases rest with
          | nil => simp [Entry.get?, isSought_singleton]
          | cons next rest => simp [Entry.get?]
        | folder es =>
          rw [cons_mem_filesIn_folder, ih (h.child hchild)]
          cases rest with
          | nil => simp [Entry.get?]
          | cons next rest =>
            rw [isSought_cons (List.cons_ne_nil next rest)]
            exact and_left_comm

/-! ## Listing in another order -/

/-- The same tree, with the entries of each folder listed in any order. -/
inductive Relisted : Entry → Entry → Prop where
  | file (content : ByteArray) : Relisted (.file content) (.file content)
  | folder {entries entries' : List (String × Entry)} :
      (entries.map Prod.fst).Perm (entries'.map Prod.fst) →
      (∀ x ∈ entries, ∀ y ∈ entries', x.1 = y.1 → Relisted x.2 y.2) →
      Relisted (.folder entries) (.folder entries')

theorem exists_mem_of_perm {y : String × Entry}
    (h : (entries.map Prod.fst).Perm (entries'.map Prod.fst)) (hy : y ∈ entries') :
    ∃ x ∈ entries, x.1 = y.1 := by
  have hname : y.1 ∈ entries.map Prod.fst := h.mem_iff.mpr (List.mem_map_of_mem hy)
  exact List.mem_map.mp hname

theorem Relisted.wellFormed (h : t.Relisted t') (ht : t.WellFormed) : t'.WellFormed := by
  induction h with
  | file content => exact ht
  | folder hnames _ ih =>
    cases ht with
    | folder hnodup hisname hall =>
      refine .folder (hnames.nodup_iff.mp hnodup) ?_ ?_
      · intro y hy
        obtain ⟨x, hx, heq⟩ := exists_mem_of_perm hnames hy
        exact heq ▸ hisname x hx
      · intro y hy
        obtain ⟨x, hx, heq⟩ := exists_mem_of_perm hnames hy
        exact ih x hx y hy heq (hall x hx)

/-- Folders that list the same names have their entries under the same names. -/
theorem child?_cases_of_perm (hnodup : (entries.map Prod.fst).Nodup)
    (h : (entries.map Prod.fst).Perm (entries'.map Prod.fst)) (name : String) :
    (child? entries name = none ∧ child? entries' name = none) ∨
      ∃ e e', child? entries name = some e ∧ child? entries' name = some e' ∧
        (name, e) ∈ entries ∧ (name, e') ∈ entries' := by
  by_cases hname : name ∈ entries.map Prod.fst
  · obtain ⟨⟨_, e⟩, he, rfl⟩ := List.mem_map.mp hname
    obtain ⟨⟨_, e'⟩, he', rfl⟩ := List.mem_map.mp (h.mem_iff.mp hname)
    refine .inr ⟨e, e', ?_, ?_, he, he'⟩
    · exact (Association.lookup_eq_some_iff hnodup).mpr he
    · exact (Association.lookup_eq_some_iff (h.nodup_iff.mp hnodup)).mpr he'
  · have hnone : ∀ {es : List (String × Entry)}, name ∉ es.map Prod.fst → child? es name = none := by
      intro es hes
      rw [child?, List.lookup_eq_none_iff]
      intro x hx
      rw [bne_iff_ne]
      rintro rfl
      exact hes (List.mem_map_of_mem hx)
    exact .inl ⟨hnone hname, hnone fun hmem => hname (h.mem_iff.mpr hmem)⟩

/-- A tree that lists its entries in another order shows the same. -/
theorem Relisted.look_eq (h : t.Relisted t') (ht : t.WellFormed) (p : List String) :
    t'.look p = t.look p := by
  induction h generalizing p with
  | file content => rfl
  | folder hnames _ ih =>
    cases ht with
    | folder hnodup _ hall =>
      cases p with
      | nil => rfl
      | cons name rest =>
        rw [look_folder_cons, look_folder_cons]
        rcases child?_cases_of_perm hnodup hnames name with ⟨hnone, hnone'⟩ | hboth
        · rw [hnone, hnone']
        · obtain ⟨e, e', he, he', hmem, hmem'⟩ := hboth
          rw [he, he', Option.bind_some, Option.bind_some]
          exact ih _ hmem _ hmem' rfl (hall _ hmem) rest

end Entry

/-! ## Discovery -/

open Entry

variable {t t' : Entry} {root : Path}

theorem mem_discover_iff (ht : t.WellFormed) : p ∈ discover t root extensions ↔
    ∃ position, t.LeadsTo root position ∧ (∃ c, t.look (position ++ p) = some (.file c)) ∧
      IsSought extensions p := by
  rw [mem_discover]
  constructor
  · rintro ⟨position, e, hleads, hget, hp⟩
    obtain ⟨⟨c, hc⟩, hsought⟩ := (mem_filesBelow_iff (ht.get? hget)).mp hp
    refine ⟨position, hleads, ⟨c, ?_⟩, hsought⟩
    rw [look_append hget]
    exact look_eq_file.mpr hc
  · rintro ⟨position, hleads, ⟨c, hc⟩, hsought⟩
    have hthere : t.look position ≠ none := hleads.look_ne_none (by simp)
    rw [Ne, look_eq_none] at hthere
    obtain ⟨e, hget⟩ := Option.ne_none_iff_exists'.mp hthere
    rw [look_append hget] at hc
    refine ⟨position, e, hleads, hget, ?_⟩
    exact (mem_filesBelow_iff (ht.get? hget)).mpr ⟨⟨c, look_eq_file.mp hc⟩, hsought⟩

/-- What is discovered depends on what the tree shows. -/
theorem discover_eq_of_look (ht : t.WellFormed) (ht' : t'.WellFormed)
    (hlook : ∀ p, t'.look p = t.look p) (root : Path) (extensions : List String) :
    discover t' root extensions = discover t root extensions := by
  have hleads : ∀ position, t'.LeadsTo root position ↔ t.LeadsTo root position := by
    intro position
    constructor
    · apply Leads.mono
      exact ⟨fun q hq => hlook q ▸ hq, fun q hq => hlook q ▸ hq⟩
    · apply Leads.mono
      exact ⟨fun q hq => (hlook q).symm ▸ hq, fun q hq => (hlook q).symm ▸ hq⟩
  have hmem : ∀ p, p ∈ discover t' root extensions ↔ p ∈ discover t root extensions := by
    intro p
    simp only [mem_discover_iff ht, mem_discover_iff ht', hleads, hlook]
  have hnodup : ∀ {ps : List (List String)},
      ps.Pairwise (fun a b => positionText a < positionText b) → ps.Nodup := by
    intro ps hps
    refine hps.imp fun hlt heq => ?_
    exact String.lt_irrefl _ (heq ▸ hlt)
  have hsorted := pairwise_discover ht root extensions
  have hsorted' := pairwise_discover ht' root extensions
  refine List.Perm.eq_of_pairwise ?_ hsorted' hsorted
    ((List.perm_ext_iff_of_nodup (hnodup hsorted') (hnodup hsorted)).mpr hmem)
  intro a b _ _ hab hba
  exact absurd hba (String.lt_asymm hab)

/-- Discovery below a folder finds the files it looks for and nothing else, in the strict order of
their texts, whatever the order in which folders list their entries. -/
theorem discover_exact {entries : List (String × Entry)} (ht : t.WellFormed)
    (hroot : t.at? root = some (.folder entries)) (extensions : List String) :
    (∀ p, p ∈ discover t root extensions ↔
      (∃ c, (Entry.folder entries).get? p = some (.file c)) ∧ IsSought extensions p) ∧
    (discover t root extensions).Pairwise (fun a b => positionText a < positionText b) ∧
    ∀ t', t.Relisted t' → discover t' root extensions = discover t root extensions := by
  refine ⟨?_, pairwise_discover ht root extensions, ?_⟩
  · intro p
    obtain ⟨position, -, hget⟩ := at?_eq_some.mp hroot
    rw [discover, hroot]
    exact (sortedBy_sortPositions _).perm.mem_iff.trans (mem_filesBelow_iff (ht.get? hget))
  · intro t' hrelisted
    exact discover_eq_of_look ht (hrelisted.wellFormed ht) (hrelisted.look_eq ht) root extensions

/-- A project with a folder of pages. -/
def project (pages : List (String × Entry)) : Entry := .folder [("pages", .folder pages)]

/-- Pages, some of them in a folder that has build output in it. -/
def pages : List (String × Entry) :=
  [("a", .folder [("x.md", .file ⟨#[]⟩), ("build", .folder [("out.md", .file ⟨#[]⟩)])]),
    ("a-b.md", .file ⟨#[]⟩)]

/-- The same pages, listed from the end. -/
def reversedPages : List (String × Entry) :=
  [("a-b.md", .file ⟨#[]⟩),
    ("a", .folder [("build", .folder [("out.md", .file ⟨#[]⟩)]), ("x.md", .file ⟨#[]⟩)])]

theorem wellFormed_project : (project pages).WellFormed := by
  refine .folder (by decide) (by decide) (List.forall_mem_singleton.mpr ?_)
  refine .folder (by decide) (by decide) ?_
  simp only [pages, List.forall_mem_cons]
  refine ⟨.folder (by decide) (by decide) ?_, .file _, by simp⟩
  simp only [List.forall_mem_cons]
  refine ⟨.file _, .folder (by decide) (by decide) ?_, by simp⟩
  exact List.forall_mem_singleton.mpr (.file _)

theorem relisted_project : (project pages).Relisted (project reversedPages) := by
  have hbuild : (Entry.folder [("out.md", .file ⟨#[]⟩)]).Relisted
      (.folder [("out.md", .file ⟨#[]⟩)]) := by
    refine .folder (.refl _) ?_
    simp [Relisted.file]
  have hinner : (Entry.folder [("x.md", .file ⟨#[]⟩),
      ("build", .folder [("out.md", .file ⟨#[]⟩)])]).Relisted
      (.folder [("build", .folder [("out.md", .file ⟨#[]⟩)]), ("x.md", .file ⟨#[]⟩)]) := by
    refine .folder (.swap _ _ _) ?_
    simp [Relisted.file, hbuild]
  have houter : (Entry.folder pages).Relisted (.folder reversedPages) := by
    refine .folder (.swap _ _ _) ?_
    simp [pages, reversedPages, Relisted.file, hinner]
  refine .folder (.refl _) ?_
  simpa using houter

/-- A hyphen comes before a slash, and build output is left out. -/
theorem discover_exact_pages :
    (project pages).at? ⟨["pages"]⟩ = some (.folder pages) ∧
      discover (project reversedPages) ⟨["pages"]⟩ [".md"] = [["a-b.md"], ["a", "x.md"]] := by
  have hroot : (project pages).at? ⟨["pages"]⟩ = some (.folder pages) := by rfl
  obtain ⟨-, hsorted, hsame⟩ := discover_exact wellFormed_project hroot [".md"]
  have hext : ∀ name ∈ ["x.md", "a-b.md"], hasExtension [".md"] name = true := by decide
  simp only [List.forall_mem_cons] at hext
  have hbelow : (Entry.folder pages).filesBelow [".md"] = [["a", "x.md"], ["a-b.md"]] := by
    simp [pages, filesBelow, filesIn, isPruned, hext]
  have hperm : (discover (project pages) ⟨["pages"]⟩ [".md"]).Perm [["a-b.md"], ["a", "x.md"]] := by
    rw [discover, hroot]
    refine (sortedBy_sortPositions _).perm.trans ?_
    rw [hbelow]
    exact .swap _ _ _
  refine ⟨hroot, (hsame _ relisted_project).trans ?_⟩
  refine List.Perm.eq_of_pairwise ?_ hsorted (by decide) hperm
  intro a b _ _ hab hba
  exact absurd hba (String.lt_asymm hab)

end MarkdownLint
