import MarkdownLint.Files.Discovery
import MarkdownLint.Proofs.Files.Write
import MarkdownLint.Proofs.Report.Layout
import Mathlib.Data.List.Nodup

/-!
What is discovered in a tree. In a tree whose names can be names (`Entry.WellFormed`), every
position that is discovered is that of a file below the root (`leadsTo_of_mem_discover`), and the
positions stand in the order of their texts, no two of which are the same (`pairwise_discover`).
Writing files without the extension changes nothing of this, wherever they are written
(`Entry.Steps.filesAt`).
-/
namespace MarkdownLint

namespace Entry

/-! ## Trees of files -/

/-- A text can be the name of an entry: it is not empty, no step of a path, and has no slash. -/
def IsName (name : String) : Prop := name ≠ "" ∧ name ≠ "." ∧ name ≠ ".." ∧ '/' ∉ name.toList

instance (name : String) : Decidable (IsName name) := inferInstanceAs (Decidable (_ ∧ _))

/-- Each folder of a tree holds entries with distinct names. -/
inductive WellFormed : Entry → Prop where
  | file (content : ByteArray) : WellFormed (.file content)
  | folder {entries : List (String × Entry)} : (entries.map Prod.fst).Nodup →
      (∀ e ∈ entries, IsName e.1) → (∀ e ∈ entries, WellFormed e.2) → WellFormed (.folder entries)

variable {entries rest : List (String × Entry)} {name : String} {e : Entry} {p : List String}

theorem WellFormed.child (h : (Entry.folder entries).WellFormed)
    (he : child? entries name = some e) : e.WellFormed := by
  cases h with
  | folder hnodup _ hall => exact hall _ ((Association.lookup_eq_some_iff hnodup).mp he)

theorem WellFormed.get? {t : Entry} (h : t.WellFormed) (hp : t.get? p = some e) :
    e.WellFormed := by
  induction p generalizing t with
  | nil =>
    obtain rfl : t = e := by cases t <;> simpa [Entry.get?] using hp
    exact h
  | cons name rest ih =>
    cases t with
    | file c => cases hp
    | folder entries =>
      rw [Entry.get?] at hp
      cases hchild : child? entries name with
      | none => simp [hchild] at hp
      | some child =>
        rw [hchild] at hp
        exact ih (h.child hchild) hp

theorem WellFormed.of_cons (h : (Entry.folder ((name, e) :: rest)).WellFormed) :
    IsName name ∧ e.WellFormed ∧ name ∉ rest.map Prod.fst ∧ (Entry.folder rest).WellFormed := by
  cases h with
  | folder hnodup hnames hall =>
    obtain ⟨hnot, hnodup⟩ := List.nodup_cons.mp hnodup
    obtain ⟨hname, hnames⟩ := List.forall_mem_cons.mp hnames
    obtain ⟨he, hall⟩ := List.forall_mem_cons.mp hall
    exact ⟨hname, he, hnot, .folder hnodup hnames hall⟩

/-! ## The files below an entry -/

variable {extensions : List String}

theorem exists_head_of_mem_filesIn (h : p ∈ filesIn extensions entries) :
    ∃ name q, p = name :: q ∧ name ∈ entries.map Prod.fst := by
  induction entries using filesIn.induct with
  | case1 => simp [filesIn] at h
  | case2 name content rest ih =>
    rw [filesIn, List.mem_append] at h
    rcases h with h | h
    · split at h
      · exact ⟨name, [], List.mem_singleton.mp h, by simp⟩
      · cases h
    · obtain ⟨key, q, hp, hkey⟩ := ih h
      exact ⟨key, q, hp, List.mem_cons_of_mem _ hkey⟩
  | case3 name entries rest _ ih =>
    rw [filesIn, List.mem_append] at h
    rcases h with h | h
    · split at h
      · cases h
      · obtain ⟨q, -, rfl⟩ := List.mem_map.mp h
        exact ⟨name, q, rfl, by simp⟩
    · obtain ⟨key, q, hp, hkey⟩ := ih h
      exact ⟨key, q, hp, List.mem_cons_of_mem _ hkey⟩

/-- The files below an entry are listed once each. -/
theorem nodup_filesIn (h : (folder entries).WellFormed) :
    (filesIn extensions entries).Nodup := by
  have happend : ∀ {name : String} {rest : List (String × Entry)} {own : List (List String)},
      name ∉ rest.map Prod.fst → own.Nodup → (∀ p ∈ own, ∃ q, p = name :: q) →
      (filesIn extensions rest).Nodup → (own ++ filesIn extensions rest).Nodup := by
    intro name rest own hnot hown hheads hrest
    refine List.nodup_append.mpr ⟨hown, hrest, ?_⟩
    rintro p hp p' hp' rfl
    obtain ⟨q, rfl⟩ := hheads p hp
    obtain ⟨key, q', heq, hkey⟩ := exists_head_of_mem_filesIn hp'
    exact hnot ((List.cons.inj heq).1 ▸ hkey)
  induction entries using filesIn.induct with
  | case1 => simp [filesIn]
  | case2 name content rest ih =>
    obtain ⟨-, -, hnot, hrest⟩ := h.of_cons
    rw [filesIn]
    refine happend hnot ?_ ?_ (ih hrest)
    · split <;> simp
    · intro p hp
      split at hp
      · exact ⟨[], List.mem_singleton.mp hp⟩
      · cases hp
  | case3 name entries rest ih ihrest =>
    obtain ⟨-, hentries, hnot, hrest⟩ := h.of_cons
    rw [filesIn]
    refine happend hnot ?_ ?_ (ihrest hrest)
    · split
      · exact List.nodup_nil
      · exact (ih hentries).map fun a b heq => (List.cons.inj heq).2
    · intro p hp
      split at hp
      · cases hp
      · obtain ⟨q, -, rfl⟩ := List.mem_map.mp hp
        exact ⟨q, rfl⟩

/-- A file below an entry, with names that can be names, the last of which has an extension. -/
structure HoldsFile (extensions : List String) (e : Entry) (p : List String) : Prop where
  content : ∃ c, e.get? p = some (.file c)
  names : ∀ name ∈ p, IsName name
  extension : ∃ parent name, p = parent ++ [name] ∧ hasExtension extensions name = true

theorem HoldsFile.cons_entries (h : HoldsFile extensions (folder rest) p)
    (hname : name ∉ rest.map Prod.fst) : HoldsFile extensions (folder ((name, e) :: rest)) p := by
  refine ⟨?_, h.names, h.extension⟩
  obtain ⟨c, hc⟩ := h.content
  cases p with
  | nil => cases hc
  | cons key q =>
    have hkey : key ∈ rest.map Prod.fst := by
      rw [Entry.get?] at hc
      cases hchild : child? rest key with
      | none => simp [hchild] at hc
      | some child =>
        obtain ⟨before, behind, rfl, -⟩ := List.lookup_eq_some_iff.mp hchild
        simp
    have hne : (key == name) = false := by
      rw [beq_eq_false_iff_ne]
      rintro rfl
      exact hname hkey
    refine ⟨c, ?_⟩
    rw [Entry.get?, child?, List.lookup_cons, hne]
    rwa [Entry.get?, child?] at hc

theorem HoldsFile.cons_name (h : HoldsFile extensions e p) (hname : IsName name) :
    HoldsFile extensions (folder ((name, e) :: rest)) (name :: p) := by
  obtain ⟨c, hc⟩ := h.content
  obtain ⟨parent, last, hp, hext⟩ := h.extension
  refine ⟨⟨c, ?_⟩, List.forall_mem_cons.mpr ⟨hname, h.names⟩, name :: parent, last, ?_, hext⟩
  · rw [Entry.get?, child?, List.lookup_cons_self]
    exact hc
  · rw [hp, List.cons_append]

/-- What is listed below an entry are files below it. -/
theorem holdsFile_of_mem_filesIn (h : (folder entries).WellFormed)
    (hp : p ∈ filesIn extensions entries) : HoldsFile extensions (folder entries) p := by
  induction entries using filesIn.induct generalizing p with
  | case1 => simp [filesIn] at hp
  | case2 name content rest ih =>
    obtain ⟨hname, -, hnot, hrest⟩ := h.of_cons
    rw [filesIn, List.mem_append] at hp
    rcases hp with hp | hp
    · split at hp
      · rename_i hext
        obtain rfl := List.mem_singleton.mp hp
        refine ⟨⟨content, ?_⟩, by simpa using hname, [], name, rfl, hext⟩
        rw [Entry.get?, child?, List.lookup_cons_self]
        rfl
      · cases hp
    · exact (ih hrest hp).cons_entries hnot
  | case3 name entries rest ih ihrest =>
    obtain ⟨hname, hentries, hnot, hrest⟩ := h.of_cons
    rw [filesIn, List.mem_append] at hp
    rcases hp with hp | hp
    · split at hp
      · cases hp
      · obtain ⟨q, hq, rfl⟩ := List.mem_map.mp hp
        exact (ih hentries hq).cons_name hname
    · exact (ihrest hrest hp).cons_entries hnot

theorem holdsFile_of_mem_filesBelow (h : e.WellFormed) (hp : p ∈ e.filesBelow extensions) :
    HoldsFile extensions e p := by
  cases e with
  | file c => cases hp
  | folder entries => exact holdsFile_of_mem_filesIn h hp

theorem nodup_filesBelow (h : e.WellFormed) : (e.filesBelow extensions).Nodup := by
  cases e with
  | file c => exact List.nodup_nil
  | folder entries => exact nodup_filesIn h

end Entry

/-! ## Positions as texts -/

/-- Names without slashes can be told from the text of their position. -/
theorem positionText_injective {p q : List String} (hp : p ≠ []) (hq : q ≠ [])
    (hpnames : ∀ name ∈ p, Entry.IsName name) (hqnames : ∀ name ∈ q, Entry.IsName name)
    (h : positionText p = positionText q) : p = q := by
  have hsplit : ∀ r : List String, r ≠ [] → (∀ name ∈ r, Entry.IsName name) →
      (positionText r).toList.splitOn '/' = r.map String.toList := by
    intro r hr hnames
    rw [positionText, String.toList_intercalate]
    refine List.splitOn_intercalate '/' ?_ (by simpa using hr)
    intro cs hcs
    obtain ⟨name, hname, rfl⟩ := List.mem_map.mp hcs
    exact (hnames name hname).2.2.2
  have hlists : p.map String.toList = q.map String.toList := by
    rw [← hsplit p hp hpnames, h, hsplit q hq hqnames]
  exact (List.map_inj_right fun a b => String.toList_inj.mp).mp hlists

/-! ## Discovery -/

open Entry

variable {t : Entry} {root : Path} {extensions : List String} {p : List String}

theorem mem_discover : p ∈ discover t root extensions ↔
    ∃ position e, t.LeadsTo root position ∧ t.get? position = some e ∧
      p ∈ e.filesBelow extensions := by
  rw [discover]
  cases hat : t.at? root with
  | none =>
    constructor
    · intro h
      cases h
    · rintro ⟨position, e, hleads, hget, -⟩
      rw [at?_eq_some.mpr ⟨position, hleads, hget⟩] at hat
      cases hat
  | some e =>
    obtain ⟨position, hleads, hget⟩ := at?_eq_some.mp hat
    simp only [sortPositions, List.mem_mergeSort]
    constructor
    · intro h
      exact ⟨position, e, hleads, hget, h⟩
    · rintro ⟨position', e', hleads', hget', hp⟩
      obtain rfl := hleads.unique hleads'
      rw [hget] at hget'
      cases hget'
      exact hp

/-- What is discovered is a file, and the root's path followed by its position leads to it. -/
theorem leadsTo_of_mem_discover (ht : t.WellFormed) (hp : p ∈ discover t root extensions) :
    ∃ position c, t.LeadsTo root position ∧ t.LeadsTo (root ++ ⟨p⟩) (position ++ p) ∧
      t.look (position ++ p) = some (.file c) ∧
      (∃ parent name, p = parent ++ [name] ∧ hasExtension extensions name = true) ∧
      ∀ name ∈ p, IsName name := by
  obtain ⟨position, e, hleads, hget, hmem⟩ := mem_discover.mp hp
  have hfile := holdsFile_of_mem_filesBelow (ht.get? hget) hmem
  obtain ⟨c, hc⟩ := hfile.content
  have hlook : t.look (position ++ p) = some (.file c) := by
    rw [look_append hget]
    exact look_eq_file.mpr hc
  have hdots : ∀ name ∈ p, name ≠ ".." := fun name hname => (hfile.names name hname).2.2.1
  refine ⟨position, c, hleads, ?_, hlook, hfile.extension, hfile.names⟩
  exact hleads.append (.of_look hdots (by simp [hlook]))

theorem read_of_mem_discover (ht : t.WellFormed) (hp : p ∈ discover t root extensions) :
    ∃ c, t.read (root ++ ⟨p⟩) = .ok c := by
  obtain ⟨position, c, -, hleads, hlook, -⟩ := leadsTo_of_mem_discover ht hp
  exact ⟨c, read_eq_ok.mpr ⟨_, hleads, hlook⟩⟩

theorem sortedBy_sortPositions (positions : List (List String)) :
    SortedBy positionText positions (sortPositions positions) :=
  sortedBy_mergeSort positionText positions

/-- Files are discovered in the order of their texts, each of them once. -/
theorem pairwise_discover (ht : t.WellFormed) (root : Path) (extensions : List String) :
    (discover t root extensions).Pairwise fun a b => positionText a < positionText b := by
  have hnames : ∀ p ∈ discover t root extensions, p ≠ [] ∧ ∀ name ∈ p, IsName name := by
    intro p hp
    obtain ⟨-, -, -, -, -, ⟨parent, name, rfl, -⟩, hnames⟩ := leadsTo_of_mem_discover ht hp
    exact ⟨by simp, hnames⟩
  have hsorted : (discover t root extensions).Pairwise (fun a b => positionText a ≤ positionText b) ∧
      (discover t root extensions).Nodup := by
    rw [discover]
    cases hat : t.at? root with
    | none => exact ⟨List.Pairwise.nil, List.nodup_nil⟩
    | some e =>
      obtain ⟨position, -, hget⟩ := at?_eq_some.mp hat
      have hsort := sortedBy_sortPositions (e.filesBelow extensions)
      exact ⟨hsort.ascending, hsort.perm.nodup_iff.mpr (nodup_filesBelow (ht.get? hget))⟩
  rw [List.nodup_iff_pairwise_ne] at hsorted
  refine (hsorted.1.and hsorted.2).imp_of_mem ?_
  rintro a b ha hb ⟨hle, hne⟩
  refine Std.lt_of_le_of_ne hle fun heq => hne ?_
  obtain ⟨hanil, hanames⟩ := hnames a ha
  obtain ⟨hbnil, hbnames⟩ := hnames b hb
  exact positionText_injective hanil hbnil hanames hbnames heq

/-! ## Discovery and writing -/

namespace Entry

/-- The positions of the files with one of the extensions below a position. -/
def filesAt (extensions : List String) (t : Entry) (position : List String) : List (List String) :=
  match t.get? position with
  | some e => e.filesBelow extensions
  | none => []

theorem mem_filesAt {position : List String} : p ∈ t.filesAt extensions position ↔
    ∃ e, t.get? position = some e ∧ p ∈ e.filesBelow extensions := by
  rw [filesAt]
  cases t.get? position <;> simp

theorem mem_filesAt_of_mem_discover (h : p ∈ discover t root extensions) :
    ∃ position, t.LeadsTo root position ∧ p ∈ t.filesAt extensions position := by
  obtain ⟨position, e, hleads, hget, hp⟩ := mem_discover.mp h
  exact ⟨position, hleads, mem_filesAt.mpr ⟨e, hget, hp⟩⟩

theorem discover_of_leadsTo {position : List String} (h : t.LeadsTo root position) :
    discover t root extensions = sortPositions (t.filesAt extensions position) := by
  have hthere : t.look position ≠ none := h.look_ne_none (by simp)
  rw [Ne, look_eq_none] at hthere
  obtain ⟨e, he⟩ := Option.ne_none_iff_exists'.mp hthere
  rw [discover, at?_eq_some.mpr ⟨position, h, he⟩, filesAt, he]

/-- What one entry of a folder adds to the files below it. -/
theorem filesIn_cons (extensions : List String) (x : String × Entry)
    (rest : List (String × Entry)) :
    filesIn extensions (x :: rest) = filesIn extensions [x] ++ filesIn extensions rest := by
  obtain ⟨name, e⟩ := x
  cases e <;> simp [filesIn]

/-- An entry can be replaced by one that adds the same, and one that adds nothing can be added. -/
theorem filesIn_assign {entries : List (String × Entry)} {name : String} {new : Entry}
    (h : filesIn extensions [(name, new)] =
      match child? entries name with
      | some old => filesIn extensions [(name, old)]
      | none => []) :
    filesIn extensions (Association.assign entries name new) = filesIn extensions entries := by
  induction entries with
  | nil => simpa [child?, filesIn, Association.assign] using h
  | cons x rest ih =>
    obtain ⟨key, e⟩ := x
    by_cases hkey : key = name
    · subst hkey
      rw [child?, List.lookup_cons_self] at h
      rw [Association.assign, if_pos (by simp), filesIn_cons, h, filesIn_cons extensions (key, e)]
    · have hbeq : (name == key) = false := beq_eq_false_iff_ne.mpr fun heq => hkey heq.symm
      rw [child?, List.lookup_cons, hbeq] at h
      rw [Association.assign, if_neg (by simpa using hkey), filesIn_cons, ih h,
        filesIn_cons extensions (key, e) rest]

theorem filesIn_singleton_file {name : String} (h : hasExtension extensions name = false)
    (c : ByteArray) : filesIn extensions [(name, .file c)] = [] := by
  simp [filesIn, h]

theorem filesIn_singleton_folder (name : String) (e : Entry) (h : e.shape = .folder) :
    filesIn extensions [(name, e)] =
      if isPruned name then [] else (e.filesBelow extensions).map (name :: ·) := by
  obtain ⟨entries, rfl⟩ := shape_eq_folder.mp h
  simp [filesIn, filesBelow]

theorem filesAt_nil (t : Entry) : t.filesAt extensions [] = t.filesBelow extensions := by
  cases t <;> rfl

theorem filesAt_folder_cons (entries : List (String × Entry)) (name : String)
    (rest : List String) :
    (folder entries).filesAt extensions (name :: rest) =
      match child? entries name with
      | some e => e.filesAt extensions rest
      | none => [] := by
  rw [filesAt, get?]
  cases child? entries name <;> rfl

theorem filesAt_file (c : ByteArray) (q : List String) :
    (Entry.file c).filesAt extensions q = [] := by
  cases q <;> rfl

theorem filesAt_empty (q : List String) : empty.filesAt extensions q = [] := by
  cases q with
  | nil => simp [filesAt_nil, empty, filesBelow, filesIn]
  | cons name rest => rfl

/-- What is found below a place with nothing or with a file. -/
theorem filesAt_of_look {entries : List (String × Entry)} {name : String}
    (h : (folder entries).look [name] ≠ some .folder) (rest : List String) :
    (folder entries).filesAt extensions (name :: rest) = [] := by
  rw [filesAt_folder_cons]
  rw [look_folder_cons] at h
  cases hchild : child? entries name with
  | none => rfl
  | some e =>
    cases e with
    | file c => exact filesAt_file c rest
    | folder es => exact absurd (by simp [hchild, shape]) h

theorem shape_of_look_folder {parent : List String} (h : t.look parent = some .folder) :
    t.shape = .folder := by
  cases t with
  | folder entries => rfl
  | file c => cases parent <;> simp [shape] at h

theorem shape_put {parent : List String} {name : String} {new : Entry} (h : t.shape = .folder) :
    (t.put (parent ++ [name]) new).shape = .folder := by
  obtain ⟨entries, rfl⟩ := shape_eq_folder.mp h
  cases parent <;> rfl

/-- Putting an entry below which nothing is found into a folder, in the place of nothing or of a
file that is not found either, changes nothing of what is found below any position. -/
theorem filesAt_put {new : Entry} {parent : List String} {name : String}
    (hnew : ∀ q, new.filesAt extensions q = []) (hadds : filesIn extensions [(name, new)] = [])
    (hparent : t.look parent = some .folder)
    (hplace : t.look (parent ++ [name]) = none ∨
      hasExtension extensions name = false ∧ ∃ c, t.look (parent ++ [name]) = some (.file c))
    (q : List String) :
    (t.put (parent ++ [name]) new).filesAt extensions q = t.filesAt extensions q := by
  induction parent generalizing t q with
  | nil =>
    obtain ⟨entries, ht⟩ := look_eq_folder.mp hparent
    obtain rfl : t = folder entries := by simpa [get?] using ht
    rw [List.nil_append] at hplace
    rw [List.nil_append, put, put]
    cases q with
    | nil =>
      rw [filesAt_nil, filesAt_nil]
      refine filesIn_assign ?_
      rw [hadds]
      cases hchild : child? entries name with
      | none => rfl
      | some old =>
        rw [look_folder_cons, hchild, Option.bind_some, look_nil] at hplace
        rcases hplace with hnone | ⟨hext, c, hfile⟩
        · cases hnone
        · obtain rfl := shape_eq_file.mp (Option.some.inj hfile)
          exact (filesIn_singleton_file hext c).symm
    | cons key rest =>
      by_cases hkey : key = name
      · subst hkey
        have hold : (folder entries).look [key] ≠ some .folder := by
          rcases hplace with hnone | ⟨-, c, hfile⟩
          · simp [hnone]
          · simp [hfile]
        rw [filesAt_of_look hold, filesAt_folder_cons, child?_assign, if_pos rfl]
        exact hnew rest
      · rw [filesAt_folder_cons, filesAt_folder_cons, child?_assign, if_neg hkey]
  | cons first parent ih =>
    obtain ⟨entries, rfl⟩ := shape_eq_folder.mp (shape_of_look_folder hparent)
    rw [look_folder_cons] at hparent
    rw [List.cons_append, look_folder_cons] at hplace
    obtain ⟨e, hchild, hparent⟩ := Option.bind_eq_some_iff.mp hparent
    rw [hchild, Option.bind_some] at hplace
    have hsame := ih hparent hplace
    rw [List.cons_append, put, hchild, Option.getD_some]
    cases q with
    | nil =>
      have hfolder := shape_of_look_folder hparent
      rw [filesAt_nil, filesAt_nil]
      refine filesIn_assign ?_
      rw [hchild]
      simp only
      rw [filesIn_singleton_folder first _ (shape_put hfolder),
        filesIn_singleton_folder first e hfolder, ← filesAt_nil, hsame, filesAt_nil]
    | cons key rest =>
      rw [filesAt_folder_cons, filesAt_folder_cons, child?_assign]
      by_cases hkey : key = first
      · subst hkey
        rw [if_pos rfl, hchild]
        exact hsame rest
      · rw [if_neg hkey]

variable {folder : Path} {t' : Entry} {files : List Path} {file : Option Path}

/-- A file in a folder without one of the extensions. -/
def IsOther (extensions : List String) (folder : Path) (f : Path) : Prop :=
  ∃ name, f = folder.child name ∧ hasExtension extensions name = false

theorem Step.filesAt (h : Step folder t file t')
    (hfile : ∀ f ∈ file.toList, IsOther extensions folder f) (q : List String) :
    t'.filesAt extensions q = t.filesAt extensions q := by
  cases h with
  | make _ _ _ hparent hplace =>
    refine filesAt_put filesAt_empty ?_ hparent (.inl hplace) q
    rw [filesIn_singleton_folder _ _ rfl, ← filesAt_nil, filesAt_empty, List.map_nil, ite_self]
  | @write parent name content _ _ hparent hplace =>
    obtain ⟨name', heq, hext⟩ := hfile (folder.child name) (by simp)
    obtain rfl : name = name' := by simpa [Path.child] using heq
    refine filesAt_put (filesAt_file content) (filesIn_singleton_file hext content) hparent ?_ q
    cases hlook : t.look (parent ++ [name]) with
    | none => exact .inl rfl
    | some x =>
      cases x with
      | file c => exact .inr ⟨hext, c, rfl⟩
      | folder => exact absurd hlook hplace

/-- Wherever files without the extensions are written, the same is found below any position. -/
theorem Steps.filesAt (h : Steps folder t files t')
    (hfiles : ∀ f ∈ files, IsOther extensions folder f) (q : List String) :
    t'.filesAt extensions q = t.filesAt extensions q := by
  induction h with
  | refl => rfl
  | tail _ hstep ih =>
    rw [hstep.filesAt fun f hf => hfiles f (List.mem_append_right _ hf),
      ih fun f hf => hfiles f (List.mem_append_left _ hf)]

end Entry

end MarkdownLint
