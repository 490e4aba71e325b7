/-!
Work done one step after the other: what holds of a list in the end if each step keeps it, what
comes of a step after one that may fail and leave a state, whose items are whose when each is named,
when all computations succeed, when one of them fails, and when what is seen of two of them is the
same.
-/
namespace MarkdownLint

variable {α β γ δ ε : Type}

/-- What holds of all items of a list can be checked one by one. -/
theorem forall_mem_of_all {p : α → Prop} [DecidablePred p] {as : List α}
    (h : (as.all fun a => decide (p a)) = true) : ∀ a ∈ as, p a := by
  intro a ha
  exact of_decide_eq_true (List.all_eq_true.mp h a ha)

/-- What each step keeps of the items done so far holds of all items in the end. -/
theorem foldl_keeps {P : List α → β → Prop} {step : β → α → β} {start : β}
    (hstart : P [] start)
    (hstep : ∀ done s a, P done s → P (done ++ [a]) (step s a)) (as : List α) :
    P as (as.foldl step start) := by
  have hall : ∀ (rest done : List α) (s : β), P done s →
      P (done ++ rest) (rest.foldl step s) := by
    intro rest
    induction rest with
    | nil =>
      intro done s h
      rwa [List.append_nil]
    | cons a rest ih =>
      intro done s h
      have hrest := ih (done ++ [a]) (step s a) (hstep done s a h)
      rwa [List.append_assoc] at hrest
  exact hall as [] start hstart

/-- One step after another, unless the first one fails. -/
theorem run_bind {σ : Type} (x : ExceptT ε (StateM σ) α) (f : α → ExceptT ε (StateM σ) β) (s : σ) :
    StateT.run (ExceptT.run (x >>= f)) s =
      match StateT.run (ExceptT.run x) s with
      | (.ok a, s') => StateT.run (ExceptT.run (f a)) s'
      | (.error e, s') => (.error e, s') := by
  rw [ExceptT.run_bind, StateT.run_bind]
  cases StateT.run (ExceptT.run x) s with
  | mk answer s' => cases answer <;> rfl

/-- Each item carries the name of the member it comes from, and no two members share a name: the
items with the name of a member are its own. -/
theorem filter_flatMap_key {name : α → String} {key : β → String} {items : α → List β}
    {as : List α} (hkey : ∀ a ∈ as, ∀ b ∈ items a, key b = name a)
    (hnodup : (as.map name).Nodup) {a : α} (ha : a ∈ as) :
    (as.flatMap items).filter (fun b => key b == name a) = items a := by
  induction as with
  | nil => cases ha
  | cons c as ih =>
    obtain ⟨hc, hnodup⟩ := List.nodup_cons.mp hnodup
    have hrest := fun x hx => hkey x (List.mem_cons_of_mem c hx)
    have hown : ∀ b ∈ items c, key b = name c := hkey c (by simp)
    rw [List.flatMap_cons, List.filter_append]
    rcases List.mem_cons.mp ha with rfl | ha
    · have hothers : (as.flatMap items).filter (fun b => key b == name a) = [] := by
        rw [List.filter_eq_nil_iff]
        intro b hb
        obtain ⟨x, hx, hb⟩ := List.mem_flatMap.mp hb
        intro heq
        refine hc (List.mem_map.mpr ⟨x, hx, ?_⟩)
        rw [← hrest x hx b hb, beq_iff_eq.mp heq]
      rw [hothers, List.append_nil, List.filter_eq_self]
      intro b hb
      simpa using hown b hb
    · have hnone : (items c).filter (fun b => key b == name a) = [] := by
        rw [List.filter_eq_nil_iff]
        intro b hb heq
        refine hc (List.mem_map.mpr ⟨a, ha, ?_⟩)
        rw [← hown b hb, beq_iff_eq.mp heq]
      rw [hnone, List.nil_append, ih hrest hnodup ha]

theorem bind_eq_ok {x : Except ε α} {f : α → Except ε β} {b : β} :
    x >>= f = .ok b ↔ ∃ a, x = .ok a ∧ f a = .ok b := by
  cases x <;> simp [bind, Except.bind]

@[simp] theorem mapError_ok (f : ε → δ) (a : α) : (.ok a : Except ε α).mapError f = .ok a := rfl

@[simp] theorem mapError_error (f : ε → δ) (e : ε) :
    (.error e : Except ε α).mapError f = .error (f e) := rfl

theorem mapError_eq_ok {x : Except ε α} {f : ε → δ} {a : α} :
    x.mapError f = .ok a ↔ x = .ok a := by
  cases x <;> simp

theorem length_of_mapM {f : α → Except ε β} {l : List α} {bs : List β} (h : l.mapM f = .ok bs) :
    bs.length = l.length := by
  induction l generalizing bs with
  | nil =>
    cases h
    rfl
  | cons a l ih =>
    rw [List.mapM_cons] at h
    obtain ⟨b, -, h⟩ := bind_eq_ok.mp h
    obtain ⟨rest, hrest, h⟩ := bind_eq_ok.mp h
    cases h
    rw [List.length_cons, List.length_cons, ih hrest]

theorem mapM_eq_ok {f : α → Except ε β} {g : α → β} {l : List α} (h : ∀ a ∈ l, f a = .ok (g a)) :
    l.mapM f = .ok (l.map g) := by
  induction l with
  | nil => rfl
  | cons a l ih =>
    rw [List.mapM_cons, h a (by simp), ih fun b hb => h b (by simp [hb])]
    rfl

/-- The items of a list pass one after the other, until one is reached that stops. -/
inductive StopsAt (passes stops : α → Prop) : List α → Prop where
  | here {a : α} {as : List α} : stops a → StopsAt passes stops (a :: as)
  | later {a : α} {as : List α} : passes a → StopsAt passes stops as →
      StopsAt passes stops (a :: as)

theorem stopsAt_cons {passes stops : α → Prop} {a : α} {as : List α} :
    StopsAt passes stops (a :: as) ↔ stops a ∨ passes a ∧ StopsAt passes stops as := by
  constructor
  · intro h
    cases h with
    | here ha => exact .inl ha
    | later ha h => exact .inr ⟨ha, h⟩
  · rintro (ha | ⟨ha, h⟩)
    · exact .here ha
    · exact .later ha h

theorem StopsAt.exists_mem {passes stops : α → Prop} {as : List α} (h : StopsAt passes stops as) :
    ∃ a ∈ as, stops a := by
  induction h with
  | here ha => exact ⟨_, List.mem_cons_self, ha⟩
  | later _ _ ih =>
    obtain ⟨a, hmem, ha⟩ := ih
    exact ⟨a, List.mem_cons_of_mem _ hmem, ha⟩

theorem stopsAt_append {passes stops : α → Prop} {as bs : List α} :
    StopsAt passes stops (as ++ bs) ↔
      StopsAt passes stops as ∨ (∀ a ∈ as, passes a) ∧ StopsAt passes stops bs := by
  induction as with
  | nil =>
    have hnil : ¬StopsAt passes stops [] := nofun
    simp [hnil]
  | cons a as ih =>
    rw [List.cons_append, stopsAt_cons, stopsAt_cons, ih, List.forall_mem_cons, and_or_left,
      or_assoc, and_assoc]

/-- A computation fails, with an error of some kind. -/
def FailsWith (kind : ε → Prop) (x : Except ε α) : Prop := ∃ e, x = .error e ∧ kind e

variable {kind : ε → Prop}

@[simp] theorem not_failsWith_ok (a : α) : ¬FailsWith kind (.ok a : Except ε α) := by
  rintro ⟨e, he, -⟩
  cases he

@[simp] theorem failsWith_error {e : ε} : FailsWith kind (.error e : Except ε α) ↔ kind e := by
  simp [FailsWith]

instance [DecidablePred kind] : (x : Except ε α) → Decidable (FailsWith kind x)
  | .ok a => isFalse (not_failsWith_ok a)
  | .error e => decidable_of_iff (kind e) failsWith_error.symm

/-- A computation fails at its first step, or goes on and fails later. -/
theorem failsWith_bind {x : Except ε α} {f : α → Except ε β} :
    FailsWith kind (x >>= f) ↔ FailsWith kind x ∨ ∃ a, x = .ok a ∧ FailsWith kind (f a) := by
  cases x <;> simp [bind, Except.bind]

/-- A list of computations fails with the first of them that does. -/
theorem failsWith_mapM {f : α → Except ε β} {l : List α} :
    FailsWith kind (l.mapM f) ↔
      StopsAt (fun a => ∃ b, f a = .ok b) (fun a => FailsWith kind (f a)) l := by
  induction l with
  | nil => exact iff_of_false (not_failsWith_ok _) nofun
  | cons a l ih =>
    have hlast : ∀ b, FailsWith kind (l.mapM f >>= fun bs => pure (b :: bs)) ↔
        FailsWith kind (l.mapM f) := by
      intro b
      rw [failsWith_bind, or_iff_left]
      rintro ⟨bs, -, hpure⟩
      exact not_failsWith_ok _ hpure
    rw [List.mapM_cons, failsWith_bind, stopsAt_cons, ← ih]
    simp only [hlast, exists_and_right]

theorem mapM_eq_error_iff {f : α → Except ε β} {l : List α} {e : ε} :
    l.mapM f = .error e ↔ StopsAt (fun a => ∃ b, f a = .ok b) (fun a => f a = .error e) l := by
  have heq : ∀ {γ : Type} {x : Except ε γ}, FailsWith (· = e) x ↔ x = .error e := by
    intro γ x
    simp [FailsWith]
  simp only [← heq]
  exact failsWith_mapM

/-- What is seen of the results of a list is seen of each of them. -/
theorem map_mapM (f : α → Except ε β) (g : β → γ) (l : List α) :
    (l.mapM f).map (List.map g) = l.mapM fun a => (f a).map g := by
  induction l with
  | nil => rfl
  | cons a l ih =>
    rw [List.mapM_cons, List.mapM_cons, ← ih]
    cases f a with
    | error e => rfl
    | ok b => cases l.mapM f <;> rfl

theorem mapM_congr {f g : α → Except ε β} {l : List α} (h : ∀ a ∈ l, f a = g a) :
    l.mapM f = l.mapM g := by
  induction l with
  | nil => rfl
  | cons a l ih =>
    rw [List.mapM_cons, List.mapM_cons, h a (by simp), ih fun b hb => h b (by simp [hb])]

/-- Two computations that are seen alike stay so if they go on alike from results of which the same
is seen. -/
theorem map_bind_of_map_eq {x y : Except ε α} {f g : α → Except ε β} {s : α → γ} {m : β → δ}
    (hxy : x.map s = y.map s) (h : ∀ a b, s a = s b → (f a).map m = (g b).map m) :
    (x >>= f).map m = (y >>= g).map m := by
  cases x with
  | error e =>
    cases y with
    | error e' => exact congrArg Except.error (Except.error.inj hxy)
    | ok b => cases hxy
  | ok a =>
    cases y with
    | error e => cases hxy
    | ok b => exact h a b (Except.ok.inj hxy)

theorem map_bind_congr {x : Except ε α} {f g : α → Except ε β} {m : β → γ}
    (h : ∀ a, (f a).map m = (g a).map m) : (x >>= f).map m = (x >>= g).map m := by
  refine map_bind_of_map_eq (s := id) rfl fun a b hab => ?_
  obtain rfl : a = b := hab
  exact h a

end MarkdownLint
