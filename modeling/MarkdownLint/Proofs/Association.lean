import MarkdownLint.Association

/-!
Lists of named values: setting a value adds its name at most once (`keys_assign`) and changes what
is found under that name alone (`lookup_assign`). A new name goes behind the others
(`assign_of_not_mem`).
-/
namespace MarkdownLint.Association

variable {α : Type} {entries : List (String × α)} {name : String} {value : α}

theorem assign_of_not_mem (h : name ∉ entries.map Prod.fst) (value : α) :
    assign entries name value = entries ++ [(name, value)] := by
  induction entries with
  | nil => rfl
  | cons e rest ih =>
    rw [List.map_cons, List.mem_cons, not_or] at h
    obtain ⟨hne, hrest⟩ := h
    rw [assign, if_neg (by simpa using Ne.symm hne), ih hrest, List.cons_append]

/-- A new name goes behind the others. -/
theorem keys_assign (entries : List (String × α)) (name : String) (value : α) :
    (assign entries name value).map Prod.fst =
      if name ∈ entries.map Prod.fst then entries.map Prod.fst
      else entries.map Prod.fst ++ [name] := by
  induction entries with
  | nil => rfl
  | cons e rest ih =>
    by_cases he : e.1 = name
    · simp [assign, he]
    · have hassign : assign (e :: rest) name value = e :: assign rest name value := by
        simp [assign, he]
      have hiff : name ∈ (e :: rest).map Prod.fst ↔ name ∈ rest.map Prod.fst := by
        rw [List.map_cons, List.mem_cons, or_iff_right fun h => he h.symm]
      simp only [hiff]
      rw [hassign, List.map_cons, ih, List.map_cons]
      split <;> rfl

theorem mem_keys_assign {key : String} : key ∈ (assign entries name value).map Prod.fst ↔
    key ∈ entries.map Prod.fst ∨ key = name := by
  rw [keys_assign]
  split
  · rename_i h
    constructor
    · exact .inl
    · rintro (hkey | rfl)
      · exact hkey
      · exact h
  · rw [List.mem_append, List.mem_singleton]

/-- Names stay distinct. -/
theorem nodup_keys_assign (h : (entries.map Prod.fst).Nodup) :
    ((assign entries name value).map Prod.fst).Nodup := by
  rw [keys_assign]
  split
  · exact h
  · rename_i hname
    rw [List.nodup_append]
    refine ⟨h, by simp, ?_⟩
    intro key hkey other hother heq
    rw [List.mem_singleton] at hother
    exact hname (hother ▸ heq ▸ hkey)

theorem mem_of_mem_assign {e : String × α} (h : e ∈ assign entries name value) :
    e = (name, value) ∨ e ∈ entries := by
  induction entries with
  | nil => exact .inl (List.mem_singleton.mp h)
  | cons d rest ih =>
    by_cases hd : d.1 = name
    · rw [assign, if_pos (by simpa using hd), List.mem_cons] at h
      rcases h with h | h
      · exact .inl h
      · exact .inr (List.mem_cons_of_mem _ h)
    · rw [assign, if_neg (by simpa using hd), List.mem_cons] at h
      rcases h with rfl | h
      · exact .inr List.mem_cons_self
      · rcases ih h with h | h
        · exact .inl h
        · exact .inr (List.mem_cons_of_mem _ h)

theorem lookup_assign (entries : List (String × α)) (name key : String) (value : α) :
    (assign entries name value).lookup key =
      if key = name then some value else entries.lookup key := by
  induction entries with
  | nil =>
    by_cases hkey : key = name
    · simp [assign, hkey]
    · have hbeq : (key == name) = false := beq_eq_false_iff_ne.mpr hkey
      simp [assign, hkey, List.lookup_cons, hbeq]
  | cons e rest ih =>
    obtain ⟨k, v⟩ := e
    by_cases hk : k = name
    · subst hk
      by_cases hkey : key = k
      · simp [assign, hkey]
      · have hbeq : (key == k) = false := beq_eq_false_iff_ne.mpr hkey
        simp [assign, hkey, List.lookup_cons, hbeq]
    · by_cases hkey : key = k
      · subst hkey
        simp [assign, hk]
      · have hbeq : (key == k) = false := beq_eq_false_iff_ne.mpr hkey
        simp [assign, hk, List.lookup_cons, hbeq, ih]

/-- With distinct names, what is found under a name is the entry of that name. -/
theorem lookup_eq_some_iff (h : (entries.map Prod.fst).Nodup) {key : String} {v : α} :
    entries.lookup key = some v ↔ (key, v) ∈ entries := by
  induction entries with
  | nil => simp
  | cons e rest ih =>
    obtain ⟨k, w⟩ := e
    obtain ⟨hk, hrest⟩ := List.nodup_cons.mp h
    by_cases hkey : key = k
    · subst hkey
      have hnot : (key, v) ∉ rest := fun hmem => hk (List.mem_map.mpr ⟨_, hmem, rfl⟩)
      simp [hnot, eq_comm]
    · have hbeq : (key == k) = false := beq_eq_false_iff_ne.mpr hkey
      simp [List.lookup_cons, hbeq, hkey, ih hrest]

end MarkdownLint.Association
