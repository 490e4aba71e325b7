import MarkdownLint.Files.Tree
import MarkdownLint.Proofs.Association

/-!
What a tree shows at each position (`Entry.look`), and where paths lead in it (`Entry.Leads`).
Putting a file or an empty folder into a folder changes what is shown at one position and nowhere
else (`Entry.look_put`). Resolving a path follows the relation, which depends on nothing but what is
shown, so that a path leads where it led as long as nothing on its way is lost (`Entry.Leads.mono`).
-/
namespace MarkdownLint

namespace Entry

/-! ## What a tree shows -/

/-- A file with its content, or a folder, whatever is in it. -/
inductive Shape where
  | file (content : ByteArray)
  | folder

/-- What an entry is, without what lies below it. -/
def shape : Entry → Shape
  | .file c => .file c
  | .folder _ => .folder

/-- What a tree shows at a position. -/
def look (t : Entry) (position : List String) : Option Shape := (t.get? position).map shape

@[simp] theorem look_nil (t : Entry) : t.look [] = some t.shape := by
  cases t <;> rfl

@[simp] theorem look_file_cons (c : ByteArray) (name : String) (rest : List String) :
    (Entry.file c).look (name :: rest) = none := rfl

theorem look_folder_cons (entries : List (String × Entry)) (name : String) (rest : List String) :
    (folder entries).look (name :: rest) = (child? entries name).bind fun e => e.look rest := by
  rw [look, get?]
  cases child? entries name <;> rfl

theorem shape_eq_folder {t : Entry} : t.shape = .folder ↔ ∃ entries, t = folder entries := by
  cases t with
  | file c => simp [shape]
  | folder entries => simp [shape]

theorem shape_eq_file {t : Entry} {c : ByteArray} : t.shape = .file c ↔ t = .file c := by
  cases t <;> simp [shape]

theorem look_eq_file {t : Entry} {position : List String} {c : ByteArray} :
    t.look position = some (.file c) ↔ t.get? position = some (.file c) := by
  simp [look, shape_eq_file]

theorem look_eq_folder {t : Entry} {position : List String} :
    t.look position = some .folder ↔ ∃ entries, t.get? position = some (folder entries) := by
  simp only [look, Option.map_eq_some_iff, shape_eq_folder]
  constructor
  · rintro ⟨e, he, entries, rfl⟩
    exact ⟨entries, he⟩
  · rintro ⟨entries, he⟩
    exact ⟨_, he, entries, rfl⟩

theorem look_eq_none {t : Entry} {position : List String} :
    t.look position = none ↔ t.get? position = none := by
  simp [look]

theorem get?_append (t : Entry) (p q : List String) :
    t.get? (p ++ q) = (t.get? p).bind fun e => e.get? q := by
  induction p generalizing t with
  | nil => cases t <;> rfl
  | cons name rest ih =>
    cases t with
    | file c => rfl
    | folder entries =>
      rw [List.cons_append, get?, get?]
      cases child? entries name with
      | none => rfl
      | some e => exact ih e

theorem look_append {t e : Entry} {p : List String} (h : t.get? p = some e) (q : List String) :
    t.look (p ++ q) = e.look q := by
  rw [look, get?_append, h]
  rfl

/-- Only folders have something in them. -/
theorem look_folder_of_look_append {t : Entry} {p : List String} {name : String}
    (h : t.look (p ++ [name]) ≠ none) : t.look p = some .folder := by
  cases hp : t.get? p with
  | none =>
    rw [Ne, look_eq_none, get?_append, hp] at h
    exact absurd rfl h
  | some e =>
    rw [look_append hp] at h
    cases e with
    | file c => exact absurd rfl h
    | folder entries => exact look_eq_folder.mpr ⟨entries, hp⟩

/-! ## Putting entries into folders -/

/-- Nothing lies below an entry. -/
def IsBare (e : Entry) : Prop := ∀ name rest, e.look (name :: rest) = none

theorem isBare_file (c : ByteArray) : (Entry.file c).IsBare := fun _ _ => rfl

theorem isBare_empty : empty.IsBare := fun _ _ => rfl

theorem child?_assign (entries : List (String × Entry)) (name key : String) (e : Entry) :
    child? (Association.assign entries name e) key =
      if key = name then some e else child? entries key :=
  Association.lookup_assign entries name key e

/-- Putting a bare entry into a folder that is there, in the place of nothing or of a file, changes
what is shown at its position and nowhere else. -/
theorem look_put {t new : Entry} {parent : List String} {name : String} (hnew : new.IsBare)
    (hparent : t.look parent = some .folder) (hplace : t.look (parent ++ [name]) ≠ some .folder)
    (q : List String) :
    (t.put (parent ++ [name]) new).look q =
      if q = parent ++ [name] then some new.shape else t.look q := by
  induction parent generalizing t q with
  | nil =>
    obtain ⟨entries, ht⟩ := look_eq_folder.mp hparent
    obtain rfl : t = folder entries := by simpa [get?] using ht
    cases q with
    | nil => rfl
    | cons key rest =>
      rw [List.nil_append, put, put, look_folder_cons, look_folder_cons, child?_assign]
      by_cases hkey : key = name
      · subst hkey
        cases rest with
        | nil => simp
        | cons other rest =>
          have hbelow : (child? entries key).bind (fun e => e.look (other :: rest)) = none := by
            cases hchild : child? entries key with
            | none => rfl
            | some e =>
              cases e with
              | file c => rfl
              | folder es =>
                refine absurd ?_ hplace
                rw [List.nil_append, look_folder_cons, hchild]
                rfl
          rw [if_pos rfl, hbelow, Option.bind_some, hnew other rest]
          simp
      · have hne : key :: rest ≠ [name] := fun h => hkey (List.cons.inj h).1
        rw [if_neg hkey, if_neg hne]
  | cons first parent ih =>
    cases t with
    | file c => simp at hparent
    | folder entries =>
      rw [look_folder_cons] at hparent
      rw [List.cons_append, look_folder_cons] at hplace
      cases hchild : child? entries first with
      | none =>
        rw [hchild] at hparent
        cases hparent
      | some e =>
        rw [hchild, Option.bind_some] at hparent hplace
        cases q with
        | nil => rfl
        | cons key rest =>
          rw [List.cons_append, put, look_folder_cons, look_folder_cons, child?_assign, hchild,
            Option.getD_some]
          by_cases hkey : key = first
          · subst hkey
            rw [if_pos rfl, Option.bind_some, ih hparent hplace, hchild, Option.bind_some]
            simp
          · have hne : key :: rest ≠ first :: (parent ++ [name]) := fun h =>
              hkey (List.cons.inj h).1
            rw [if_neg hkey, if_neg hne]

/-! ## Where paths lead -/

/-- Names lead from one position of a tree to another: `..` goes up, out of a folder, though not
above the top, and any other name goes down to something that is there. -/
inductive Leads (t : Entry) : List String → List String → List String → Prop where
  | stay (position : List String) : t.Leads position [] position
  | up {position names dest : List String} : t.look position = some .folder →
      t.Leads position.dropLast names dest → t.Leads position (".." :: names) dest
  | down {position names dest : List String} {name : String} : name ≠ ".." →
      t.look (position ++ [name]) ≠ none → t.Leads (position ++ [name]) names dest →
      t.Leads position (name :: names) dest

/-- A path leads to a position. -/
def LeadsTo (t : Entry) (p : Path) (position : List String) : Prop := t.Leads [] p.parts position

/-- Nothing on the way of a path is lost: what is there stays there, and folders stay folders. -/
structure Grows (t t' : Entry) : Prop where
  exists_of_exists : ∀ position, t.look position ≠ none → t'.look position ≠ none
  folder_of_folder : ∀ position, t.look position = some .folder → t'.look position = some .folder

namespace Leads

variable {t t' : Entry} {a b c names more : List String}

/-- A path leads where it led in a tree that has grown. -/
theorem mono (hgrow : t.Grows t') (h : t.Leads a names b) : t'.Leads a names b := by
  induction h with
  | stay position => exact .stay position
  | up hfolder _ ih => exact .up (hgrow.folder_of_folder _ hfolder) ih
  | down hname hthere _ ih => exact .down hname (hgrow.exists_of_exists _ hthere) ih

theorem look_ne_none (h : t.Leads a names b) (ha : t.look a ≠ none) : t.look b ≠ none := by
  induction h with
  | stay position => exact ha
  | @up position names dest hfolder _ ih =>
    apply ih
    by_cases hne : position = []
    · rwa [hne] at ha ⊢
    have hsplit : position = position.dropLast ++ [position.getLast hne] :=
      (List.dropLast_concat_getLast hne).symm
    rw [hsplit] at ha
    simp [look_folder_of_look_append ha]
  | down _ hthere _ ih => exact ih hthere

theorem append (hfirst : t.Leads a names b) (hsecond : t.Leads b more c) :
    t.Leads a (names ++ more) c := by
  induction hfirst with
  | stay position => exact hsecond
  | up hfolder _ ih => exact .up hfolder (ih hsecond)
  | down hname hthere _ ih => exact .down hname hthere (ih hsecond)

/-- A path leads to one position only. -/
theorem unique (h : t.Leads a names b) (h' : t.Leads a names c) : b = c := by
  induction h with
  | stay position =>
    cases h'
    rfl
  | up _ _ ih =>
    cases h' with
    | up _ hrest => exact ih hrest
    | down hname => exact absurd rfl hname
  | down hname _ _ ih =>
    cases h' with
    | up => exact absurd rfl hname
    | down _ _ hrest => exact ih hrest

/-- The last name of a path is that of the position it leads to. -/
theorem of_append_singleton {name : String} (hname : name ≠ "..")
    (h : t.Leads a (names ++ [name]) b) :
    ∃ parent, t.Leads a names parent ∧ b = parent ++ [name] := by
  induction names generalizing a with
  | nil =>
    cases h with
    | up => exact absurd rfl hname
    | down _ _ hrest =>
      cases hrest
      exact ⟨a, .stay a, rfl⟩
  | cons first names ih =>
    cases h with
    | up hfolder hrest =>
      obtain ⟨parent, hparent, hb⟩ := ih hrest
      exact ⟨parent, .up hfolder hparent, hb⟩
    | down hfirst hthere hrest =>
      obtain ⟨parent, hparent, hb⟩ := ih hrest
      exact ⟨parent, .down hfirst hthere hparent, hb⟩

/-- Names go down from a position to what stands below it. -/
theorem of_look (hnames : ∀ name ∈ names, name ≠ "..") (h : t.look (a ++ names) ≠ none) :
    t.Leads a names (a ++ names) := by
  induction names generalizing a with
  | nil => simpa using Leads.stay a
  | cons name names ih =>
    have hthere : t.look (a ++ [name]) ≠ none := by
      intro hnone
      apply h
      rw [List.append_cons, look_eq_none, get?_append, look_eq_none.mp hnone]
      rfl
    rw [List.append_cons] at h ⊢
    exact .down (hnames name (by simp)) hthere (ih (fun n hn => hnames n (by simp [hn])) h)

end Leads

/-! ## Resolving paths -/

end Entry

open Entry

variable {t : Entry} {start names position : List String} {name : String}

/-- One step of resolving, told by what the tree shows. -/
theorem resolveFrom_cons (h : t.look start = some .folder) :
    resolveFrom t start (name :: names) =
      if name = ".." then resolveFrom t start.dropLast names
      else if t.look (start ++ [name]) = none then
        if names = [] then .vacant (start ++ [name]) else .missing
      else resolveFrom t (start ++ [name]) names := by
  obtain ⟨entries, hget⟩ := look_eq_folder.mp h
  have hlook : t.look (start ++ [name]) = (child? entries name).map shape := by
    rw [look_append hget, look_folder_cons]
    cases child? entries name <;> simp
  rw [resolveFrom, hget]
  simp only [beq_iff_eq, List.isEmpty_iff]
  by_cases hname : name = ".."
  · rw [if_pos hname, if_pos hname]
  · rw [if_neg hname, if_neg hname, hlook]
    cases child? entries name <;> simp

/-- Resolving stops where no folder is. -/
theorem resolveFrom_cons_eq_nowhere (h : t.look start ≠ some .folder) (name : String)
    (names : List String) :
    resolveFrom t start (name :: names) = .blocked ∨
      resolveFrom t start (name :: names) = .missing := by
  rw [resolveFrom]
  cases hget : t.get? start with
  | none => exact .inr rfl
  | some e =>
    cases e with
    | file c => exact .inl rfl
    | folder entries => exact absurd (look_eq_folder.mpr ⟨entries, hget⟩) h

/-- Resolving finds what stands at the position that names lead to. -/
theorem resolveFrom_eq_found {e : Entry} :
    resolveFrom t start names = .found position e ↔
      t.Leads start names position ∧ t.get? position = some e := by
  constructor
  · intro h
    induction names generalizing start with
    | nil =>
      rw [resolveFrom] at h
      cases hget : t.get? start with
      | none => simp [hget] at h
      | some found =>
        simp only [hget, Place.found.injEq] at h
        obtain ⟨rfl, rfl⟩ := h
        exact ⟨.stay start, hget⟩
    | cons name names ih =>
      by_cases hfolder : t.look start = some .folder
      · rw [resolveFrom_cons hfolder] at h
        split at h
        · rename_i hname
          subst hname
          obtain ⟨hleads, hget⟩ := ih h
          exact ⟨.up hfolder hleads, hget⟩
        · rename_i hname
          split at h
          · split at h <;> cases h
          · rename_i hthere
            obtain ⟨hleads, hget⟩ := ih h
            exact ⟨.down hname hthere hleads, hget⟩
      · rcases resolveFrom_cons_eq_nowhere hfolder name names with hno | hno <;>
          rw [hno] at h <;> cases h
  · rintro ⟨hleads, hget⟩
    induction hleads with
    | stay position => rw [resolveFrom, hget]
    | up hfolder _ ih => rw [resolveFrom_cons hfolder, if_pos rfl, ih hget]
    | down hname hthere _ ih =>
      rw [resolveFrom_cons (look_folder_of_look_append hthere), if_neg hname, if_neg hthere,
        ih hget]

/-- Resolving ends at a vacant place if all names but the last lead to a folder that does not have
the last. -/
theorem resolveFrom_eq_vacant (h : resolveFrom t start names = .vacant position) :
    ∃ before name parent, names = before ++ [name] ∧ name ≠ ".." ∧ t.Leads start before parent ∧
      t.look parent = some .folder ∧ position = parent ++ [name] ∧ t.look position = none := by
  induction names generalizing start with
  | nil =>
    rw [resolveFrom] at h
    split at h <;> cases h
  | cons name names ih =>
    by_cases hfolder : t.look start = some .folder
    · rw [resolveFrom_cons hfolder] at h
      split at h
      · rename_i hname
        subst hname
        obtain ⟨before, last, parent, rfl, hlast, hleads, hrest⟩ := ih h
        exact ⟨".." :: before, last, parent, rfl, hlast, .up hfolder hleads, hrest⟩
      · rename_i hname
        split at h
        · rename_i hnone
          split at h
          · rename_i hnames
            cases h
            subst hnames
            exact ⟨[], name, start, rfl, hname, .stay start, hfolder, rfl, hnone⟩
          · cases h
        · rename_i hthere
          obtain ⟨before, last, parent, rfl, hlast, hleads, hrest⟩ := ih h
          exact ⟨name :: before, last, parent, rfl, hlast, .down hname hthere hleads, hrest⟩
    · rcases resolveFrom_cons_eq_nowhere hfolder name names with hno | hno <;>
        rw [hno] at h <;> cases h

namespace Entry

theorem resolve_eq_found {p : Path} {e : Entry} :
    t.resolve p = .found position e ↔ t.LeadsTo p position ∧ t.get? position = some e :=
  resolveFrom_eq_found

/-- A path leads to something exactly if it leads to a position. -/
theorem at?_eq_some {p : Path} {e : Entry} :
    t.at? p = some e ↔ ∃ position, t.LeadsTo p position ∧ t.get? position = some e := by
  rw [at?]
  constructor
  · intro h
    cases hres : t.resolve p with
    | found position found =>
      rw [hres] at h
      cases h
      exact ⟨position, resolve_eq_found.mp hres⟩
    | vacant position | missing | blocked => simp [hres] at h
  · rintro ⟨position, h⟩
    rw [resolve_eq_found.mpr h]

theorem read_eq_ok {p : Path} {c : ByteArray} :
    t.read p = .ok c ↔ ∃ position, t.LeadsTo p position ∧ t.look position = some (.file c) := by
  rw [read]
  constructor
  · intro h
    cases hres : t.resolve p with
    | found position found =>
      cases found with
      | folder entries => simp [hres] at h
      | file content =>
        simp only [hres, Except.ok.injEq] at h
        subst h
        obtain ⟨hleads, hget⟩ := resolve_eq_found.mp hres
        exact ⟨position, hleads, look_eq_file.mpr hget⟩
    | vacant position | missing | blocked => simp [hres] at h
  · rintro ⟨position, hleads, hlook⟩
    rw [resolve_eq_found.mpr ⟨hleads, look_eq_file.mp hlook⟩]

end Entry

end MarkdownLint
