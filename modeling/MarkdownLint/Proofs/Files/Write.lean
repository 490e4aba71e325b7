import MarkdownLint.Proofs.Files.Tree

/-!
Writing into a folder, as steps. A step makes a folder on the way to the folder or writes a file in
it (`Entry.Step`); making folders and writing files are runs of such steps
(`Entry.makeFolder_steps`, `Entry.write_steps`), whether they succeed or not. What a run leaves
alone and what it may add (`Entry.Frame`) is shown for one step and then follows for all of them
(`Entry.Steps.frame`). Folders that were there stay, and so no more of them are missing than before
(`Entry.Steps.missingAbove_le`).
-/
namespace MarkdownLint

namespace Entry

/-! ## Steps -/

/-- One change to a tree: a folder is made on the way to the given one, or a file is written in it,
whose path is noted. -/
inductive Step (folder : Path) (t : Entry) : Option Path → Entry → Prop where
  | make {before parent : List String} {name : String} : name ≠ ".." →
      before ++ [name] <+: folder.parts → t.Leads [] before parent →
      t.look parent = some .folder → t.look (parent ++ [name]) = none →
      Step folder t none (t.put (parent ++ [name]) empty)
  | write {parent : List String} {name : String} (content : ByteArray) : name ≠ ".." →
      t.LeadsTo folder parent → t.look parent = some .folder →
      t.look (parent ++ [name]) ≠ some .folder →
      Step folder t (some (folder.child name)) (t.put (parent ++ [name]) (.file content))

/-- Changes one after the other, with the paths of the files that are written. -/
inductive Steps (folder : Path) (t : Entry) : List Path → Entry → Prop where
  | refl : Steps folder t [] t
  | tail {t' t'' : Entry} {files : List Path} {file : Option Path} :
      Steps folder t files t' → Step folder t' file t'' →
      Steps folder t (files ++ file.toList) t''

variable {folder p : Path} {t t' t'' : Entry} {files more : List Path} {file : Option Path}

theorem Step.steps (h : Step folder t file t') : Steps folder t file.toList t' :=
  .tail .refl h

theorem Steps.trans (h : Steps folder t files t') (h' : Steps folder t' more t'') :
    Steps folder t (files ++ more) t'' := by
  induction h' with
  | refl => simpa using h
  | tail _ hstep ih =>
    rw [← List.append_assoc]
    exact .tail ih hstep

/-- What is on the way to a folder is on the way to what lies in it. -/
theorem Steps.of_parent (h : Steps p.parent t [] t') : Steps p t [] t' := by
  generalize hfiles : ([] : List Path) = files at h
  induction h with
  | refl => exact .refl
  | @tail mid last files file _ hstep ih =>
    obtain ⟨rfl, hnone⟩ := List.append_eq_nil_iff.mp hfiles.symm
    cases hstep with
    | make hname hway hleads hparent hplace =>
      have hway' := hway.trans (List.dropLast_prefix p.parts)
      exact .tail (ih rfl) (.make hname hway' hleads hparent hplace)
    | write => cases hnone

/-! ## What a step changes -/

/-- A change at one place that is no folder loses nothing on the way of a path. -/
theorem grows_of_look {position : List String} {x : Shape}
    (hplace : t.look position ≠ some .folder)
    (hlook : ∀ q, t'.look q = if q = position then some x else t.look q) : t.Grows t' where
  exists_of_exists := by
    intro q hq
    rw [hlook]
    split
    · simp
    · exact hq
  folder_of_folder := by
    intro q hq
    have hne : q ≠ position := by
      rintro rfl
      exact hplace hq
    rw [hlook, if_neg hne, hq]

/-- The names behind a folder that a path leads to lead on to what was put there. -/
theorem leads_put {names parent : List String} {name : String} {new : Entry} (hname : name ≠ "..")
    (hnew : new.IsBare) (hleads : t.Leads [] names parent) (hparent : t.look parent = some .folder)
    (hplace : t.look (parent ++ [name]) ≠ some .folder) :
    (t.put (parent ++ [name]) new).Leads [] (names ++ [name]) (parent ++ [name]) := by
  have hlook := look_put hnew hparent hplace
  have hthere : (t.put (parent ++ [name]) new).look (parent ++ [name]) ≠ none := by
    rw [hlook, if_pos rfl]
    simp
  exact (hleads.mono (grows_of_look hplace hlook)).append (.down hname hthere (.stay _))

/-- What a run of changes leaves: everything stays as it is but the files that are written, folders
stay folders and files stay files, and nothing is new but those files and folders on the way to
them. -/
structure Frame (folder : Path) (t : Entry) (files : List Path) (t' : Entry) : Prop where
  kept : ∀ position x, t.look position = some x → (∀ f ∈ files, ¬ t'.LeadsTo f position) →
    t'.look position = some x
  folder_stays : ∀ position, t.look position = some .folder → t'.look position = some .folder
  file_stays : ∀ position c, t.look position = some (.file c) →
    ∃ c', t'.look position = some (.file c')
  fresh : ∀ position x, t.look position = none → t'.look position = some x →
    ((∃ c, x = .file c) ∧ ∃ f ∈ files, t'.LeadsTo f position) ∨
      x = .folder ∧ ∃ names, names <+: folder.parts ∧ t'.Leads [] names position

namespace Frame

theorem refl (folder : Path) (t : Entry) : Frame folder t [] t where
  kept _ _ h _ := h
  folder_stays _ h := h
  file_stays _ c h := ⟨c, h⟩
  fresh _ _ hnone hsome := by rw [hnone] at hsome; cases hsome

theorem grows (h : Frame folder t files t') : t.Grows t' where
  exists_of_exists := by
    intro position hne
    obtain ⟨x, hx⟩ := Option.ne_none_iff_exists'.mp hne
    cases x with
    | folder => simp [h.folder_stays position hx]
    | file c =>
      obtain ⟨c', hc'⟩ := h.file_stays position c hx
      simp [hc']
  folder_of_folder := h.folder_stays

theorem trans (h : Frame folder t files t') (h' : Frame folder t' more t'') :
    Frame folder t (files ++ more) t'' where
  kept := by
    intro position x hx hnot
    have hfirst : t'.look position = some x := by
      refine h.kept position x hx fun f hf hleads => ?_
      exact hnot f (List.mem_append_left _ hf) (hleads.mono h'.grows)
    exact h'.kept position x hfirst fun f hf => hnot f (List.mem_append_right _ hf)
  folder_stays position hx := h'.folder_stays position (h.folder_stays position hx)
  file_stays := by
    intro position c hc
    obtain ⟨c', hc'⟩ := h.file_stays position c hc
    exact h'.file_stays position c' hc'
  fresh := by
    intro position x hnone hx
    cases hmid : t'.look position with
    | none =>
      rcases h'.fresh position x hmid hx with ⟨hfile, f, hf, hleads⟩ | hfolder
      · exact .inl ⟨hfile, f, List.mem_append_right _ hf, hleads⟩
      · exact .inr hfolder
    | some y =>
      rcases h.fresh position y hnone hmid with
        ⟨⟨c, rfl⟩, f, hf, hleads⟩ | ⟨rfl, names, hway, hleads⟩
      · obtain ⟨c', hc'⟩ := h'.file_stays position c hmid
        rw [hx] at hc'
        cases hc'
        exact .inl ⟨⟨c', rfl⟩, f, List.mem_append_left _ hf, hleads.mono h'.grows⟩
      · rw [h'.folder_stays position hmid] at hx
        cases hx
        exact .inr ⟨rfl, names, hway, hleads.mono h'.grows⟩

end Frame

theorem Step.frame (h : Step folder t file t') : Frame folder t file.toList t' := by
  cases h with
  | @make before parent name hname hway hleads hparent hplace =>
    have hplace' : t.look (parent ++ [name]) ≠ some .folder := by simp [hplace]
    have hlook := look_put isBare_empty hparent hplace'
    have hkept : ∀ position x, t.look position = some x →
        (t.put (parent ++ [name]) empty).look position = some x := by
      intro position x hx
      have hne : position ≠ parent ++ [name] := by
        rintro rfl
        rw [hplace] at hx
        cases hx
      rw [hlook, if_neg hne, hx]
    refine ⟨fun position x hx _ => hkept position x hx, fun position => hkept position _,
      fun position c hc => ⟨c, hkept position _ hc⟩, ?_⟩
    intro position x hnone hx
    rw [hlook] at hx
    split at hx
    · rename_i heq
      subst heq
      cases hx
      exact .inr ⟨rfl, _, hway, leads_put hname isBare_empty hleads hparent hplace'⟩
    · rw [hnone] at hx
      cases hx
  | @write parent name content hname hleads hparent hplace =>
    have hlook := look_put (isBare_file content) hparent hplace
    have hgrows := grows_of_look hplace hlook
    have hthere : (t.put (parent ++ [name]) (.file content)).LeadsTo (folder.child name)
        (parent ++ [name]) := leads_put hname (isBare_file content) hleads hparent hplace
    refine ⟨?_, hgrows.folder_of_folder, ?_, ?_⟩
    · intro position x hx hnot
      have hne : position ≠ parent ++ [name] := by
        rintro rfl
        exact hnot _ (by simp) hthere
      rw [hlook, if_neg hne, hx]
    · intro position c hc
      rw [hlook]
      split
      · exact ⟨content, rfl⟩
      · exact ⟨c, hc⟩
    · intro position x hnone hx
      rw [hlook] at hx
      split at hx
      · rename_i heq
        subst heq
        cases hx
        exact .inl ⟨⟨content, rfl⟩, _, by simp, hthere⟩
      · rw [hnone] at hx
        cases hx

/-- What one step leaves alone a run of steps leaves alone. -/
theorem Steps.frame (h : Steps folder t files t') : Frame folder t files t' := by
  induction h with
  | refl => exact Frame.refl folder t
  | tail _ hstep ih => exact ih.trans hstep.frame

/-! ## Making folders -/

/-- Making a folder in one that is there takes at most one step. -/
theorem makeLast_steps (t : Entry) (p : Path) : Steps p t [] (t.makeLast p).1 := by
  rw [makeLast]
  cases hres : t.resolve p with
  | found position e => cases e <;> exact .refl
  | vacant position =>
    obtain ⟨before, name, parent, hparts, hname, hleads, hparent, rfl, hplace⟩ :=
      resolveFrom_eq_vacant hres
    have hway : before ++ [name] <+: p.parts := hparts ▸ List.prefix_refl _
    exact (Step.make hname hway hleads hparent hplace).steps
  | missing => exact .refl
  | blocked => exact .refl

/-- A folder that was made is there. -/
theorem leadsTo_of_makeLast (h : t.makeLast p = (t', none)) :
    ∃ position, t'.LeadsTo p position ∧ t'.look position = some .folder := by
  rw [makeLast] at h
  cases hres : t.resolve p with
  | found position e =>
    obtain ⟨hleads, hget⟩ := resolve_eq_found.mp hres
    cases e with
    | file c => simp [hres] at h
    | folder entries =>
      simp only [hres, Prod.mk.injEq, and_true] at h
      subst h
      exact ⟨position, hleads, look_eq_folder.mpr ⟨entries, hget⟩⟩
  | vacant position =>
    simp only [hres, Prod.mk.injEq, and_true] at h
    subst h
    obtain ⟨before, name, parent, hparts, hname, hleads, hparent, rfl, hplace⟩ :=
      resolveFrom_eq_vacant hres
    have hplace' : t.look (parent ++ [name]) ≠ some .folder := by simp [hplace]
    refine ⟨parent ++ [name], ?_, ?_⟩
    · rw [LeadsTo, hparts]
      exact leads_put hname isBare_empty hleads hparent hplace'
    · rw [look_put isBare_empty hparent hplace', if_pos rfl]
      rfl
  | missing => simp [hres] at h
  | blocked => simp [hres] at h

/-- Making a folder and those on the way to it takes steps, whether it succeeds or not. -/
theorem makeFolder_steps (n : Nat) (t : Entry) (p : Path) : Steps p t [] (makeFolder n t p).1 := by
  induction n generalizing t p with
  | zero => exact makeLast_steps t p
  | succ n ih =>
    rw [makeFolder]
    split
    · split
      · exact .refl
      · have hparent := (ih t p.parent).of_parent
        split
        · rename_i root heq
          rw [heq] at hparent
          exact hparent.trans (makeLast_steps root p)
        · exact hparent
    · exact makeLast_steps t p

theorem leadsTo_of_makeFolder {n : Nat} (h : makeFolder n t p = (t', none)) :
    ∃ position, t'.LeadsTo p position ∧ t'.look position = some .folder := by
  cases n with
  | zero => exact leadsTo_of_makeLast h
  | succ n =>
    rw [makeFolder] at h
    split at h
    · split at h
      · cases h
      · split at h
        · exact leadsTo_of_makeLast h
        · rename_i hfailed
          exact absurd h (hfailed t')
    · exact leadsTo_of_makeLast h

/-! ## Writing files -/

/-- Writing a file in a folder takes steps. If it succeeds, the file is written and has the content;
otherwise no file is written. -/
theorem write_steps {name : String} (hname : name ≠ "..") (t : Entry) (folder : Path)
    (content : ByteArray) :
    (∃ t', t.write (folder.child name) content = (t', none) ∧
        Steps folder t [folder.child name] t' ∧ t'.read (folder.child name) = .ok content) ∨
      ∃ t' e, t.write (folder.child name) content = (t', some e) ∧ Steps folder t [] t' := by
  have hfolder : (folder.child name).parent = folder := by simp [Path.child, Path.parent]
  rw [write, hfolder]
  have hsteps := makeFolder_steps (folder.child name).parts.length t folder
  cases hmade : makeFolder (folder.child name).parts.length t folder with
  | mk mid failure =>
    rw [hmade] at hsteps
    cases failure with
    | some e => exact .inr ⟨mid, e, rfl, hsteps⟩
    | none =>
      obtain ⟨parent, hleads, hparent⟩ := leadsTo_of_makeFolder hmade
      -- the folder is there now, so that what the path leads to is a name in it
      have hwrite : mid.look (parent ++ [name]) ≠ some .folder →
          Steps folder t [folder.child name] (mid.put (parent ++ [name]) (.file content)) ∧
          (mid.put (parent ++ [name]) (.file content)).read (folder.child name) = .ok content := by
        intro hplace
        refine ⟨hsteps.tail (.write content hname hleads hparent hplace), ?_⟩
        refine read_eq_ok.mpr ⟨_, leads_put hname (isBare_file content) hleads hparent hplace, ?_⟩
        rw [look_put (isBare_file content) hparent hplace, if_pos rfl]
        rfl
      simp only
      cases hres : mid.resolve (folder.child name) with
      | found position e =>
        obtain ⟨hchild, hget⟩ := resolve_eq_found.mp hres
        obtain ⟨parent', hleads', rfl⟩ := Leads.of_append_singleton hname hchild
        obtain rfl : parent = parent' := hleads.unique hleads'
        cases e with
        | folder entries => exact .inr ⟨mid, _, rfl, hsteps⟩
        | file old =>
          have hplace : mid.look (parent ++ [name]) ≠ some .folder := by
            simp [look_eq_file.mpr hget]
          exact .inl ⟨_, rfl, hwrite hplace⟩
      | vacant position =>
        obtain ⟨before, last, parent', hparts, -, hleads', -, rfl, hplace⟩ :=
          resolveFrom_eq_vacant hres
        obtain ⟨rfl, hlast⟩ := List.append_inj' hparts rfl
        obtain rfl : name = last := (List.cons.inj hlast).1
        obtain rfl : parent = parent' := hleads.unique hleads'
        exact .inl ⟨_, rfl, hwrite (by simp [hplace])⟩
      | missing => exact .inr ⟨mid, _, rfl, hsteps⟩
      | blocked => exact .inr ⟨mid, _, rfl, hsteps⟩

/-- A file in a folder stays as it is while others are written there. -/
theorem Steps.read_eq_ok {name : String} {c : ByteArray} (h : Steps folder t files t')
    (hname : name ≠ "..") (hfiles : ∀ f ∈ files, ∃ other, other ≠ ".." ∧ other ≠ name ∧
      f = folder.child other)
    (hread : t.read (folder.child name) = .ok c) : t'.read (folder.child name) = .ok c := by
  obtain ⟨position, hleads, hlook⟩ := Entry.read_eq_ok.mp hread
  have hleads' : t'.LeadsTo (folder.child name) position := hleads.mono h.frame.grows
  refine Entry.read_eq_ok.mpr ⟨position, hleads', h.frame.kept position _ hlook ?_⟩
  intro f hf hother
  obtain ⟨other, hdots, hne, rfl⟩ := hfiles f hf
  obtain ⟨parent, -, rfl⟩ := Leads.of_append_singleton hname hleads'
  obtain ⟨parent', -, heq⟩ := Leads.of_append_singleton hdots hother
  obtain ⟨-, hlast⟩ := List.append_inj' heq rfl
  exact hne (List.cons.inj hlast).1.symm

/-! ## Missing folders -/

/-- What is missing has been missing before. -/
theorem Frame.missing_of_missing {start names : List String} (h : Frame folder t files t')
    (hmissing : resolveFrom t' start names = .missing) : resolveFrom t start names = .missing := by
  induction names generalizing start with
  | nil =>
    rw [resolveFrom] at hmissing ⊢
    cases hget : t.get? start with
    | none => rfl
    | some e =>
      have hthere := h.grows.exists_of_exists start (by simp [Ne, look_eq_none, hget])
      obtain ⟨e', he'⟩ := Option.ne_none_iff_exists'.mp fun hnone => hthere (look_eq_none.mpr hnone)
      simp [he'] at hmissing
  | cons name names ih =>
    cases hlook : t.look start with
    | none => rw [resolveFrom, look_eq_none.mp hlook]
    | some x =>
      cases x with
      | file c =>
        obtain ⟨c', hc'⟩ := h.file_stays start c hlook
        rw [resolveFrom, look_eq_file.mp hc'] at hmissing
        cases hmissing
      | folder =>
        rw [resolveFrom_cons (h.folder_stays start hlook)] at hmissing
        rw [resolveFrom_cons hlook]
        by_cases hdots : name = ".."
        · rw [if_pos hdots] at hmissing ⊢
          exact ih hmissing
        · rw [if_neg hdots] at hmissing ⊢
          by_cases hthere : t.look (start ++ [name]) = none
          · -- the name itself is new, and so only what lies behind it can be missing
            rw [if_pos hthere]
            by_cases hlast : names = []
            · subst hlast
              exfalso
              split at hmissing
              · cases hmissing
              · rename_i hnew
                obtain ⟨e, he⟩ := Option.ne_none_iff_exists'.mp fun hnone =>
                  hnew (look_eq_none.mpr hnone)
                simp [resolveFrom, he] at hmissing
            · rw [if_neg hlast]
          · rw [if_neg (h.grows.exists_of_exists _ hthere)] at hmissing
            rw [if_neg hthere]
            exact ih hmissing

/-- Writing makes folders, so that fewer are missing. -/
theorem Steps.missingAbove_le (h : Steps folder t files t') (n : Nat) (p : Path) :
    missingAbove n t' p ≤ missingAbove n t p := by
  induction n generalizing p with
  | zero => exact Nat.le_refl 0
  | succ n ih =>
    rw [missingAbove, missingAbove]
    split
    · rename_i hmissing
      have hbefore : t.resolve p = .missing := h.frame.missing_of_missing hmissing
      rw [hbefore]
      exact Nat.succ_le_succ (ih p.parent)
    · exact Nat.zero_le _

end Entry

end MarkdownLint
