import MarkdownLint.Log.Basic
import Mathlib.Data.List.Basic
import Mathlib.Data.List.Induction

/-!
Handlers over a run of configuring calls. A refused call takes the handler of the program away and
still leaves the configured level remembered, so that asking for that level again, unforced, brings
no handler back (`Lapsed`). Every other call with a known level leaves one handler of the program,
the one it asks for, and no call touches the handlers of others
(`run_leaves_handler_unless_lapsed`).
-/
namespace MarkdownLint.Log

/-! ## Calls -/

/-- A call that configures logging. -/
@[ext]
structure Call where
  level : String
  force : Bool := false
deriving Repr, DecidableEq

namespace Call

/-- Makes a call; the second component is the name that was refused. -/
def run (c : Call) (s : State) : State × Option String := s.configure c.level c.force

/-- Whether a call asks for a level that exists. -/
def known (c : Call) : Bool := (Level.ofName? c.level).isSome

theorem known_of_ofName? {c : Call} {l : Level} (h : Level.ofName? c.level = some l) :
    c.known = true := by
  rw [known, h, Option.isSome_some]

end Call

namespace State

/-- The state after some calls. -/
def after (s : State) (calls : List Call) : State := calls.foldl (fun s c => (c.run s).1) s

/-- The handlers of others: neither the default one nor one of the program. -/
def foreign (s : State) : List Handler :=
  s.handlers.filter fun h => h.id ∉ s.own ∧ h.id ≠ 0

/-- Nothing was configured yet. Others may have added handlers. -/
structure Unconfigured (s : State) : Prop where
  own : s.own = []
  level : s.level = none
  fresh : ∀ h ∈ s.handlers, h.id < s.nextId

theorem after_concat (s : State) (calls : List Call) (c : Call) :
    s.after (calls ++ [c]) = (c.run (s.after calls)).1 := by
  simp [after]

end State

/-- The level of the last call with a known one. -/
def lastKnown (calls : List Call) : Option String :=
  (calls.filter Call.known).getLast?.map Call.level

/-- The handler was lost to a refused call, and nothing since has brought it back: the calls since
are refused, or repeat the level that is remembered from before. -/
def Lapsed (before : List Call) (c : Call) : Prop :=
  c.force = false ∧ ∃ earlier q since, before = earlier ++ q :: since ∧ q.known = false ∧
    lastKnown earlier = some c.level ∧ ∀ d ∈ since, d.known → d = c

/-! ## One call -/

variable {s s₀ : State} {c : Call} {before : List Call}

theorem foldl_remove (ids : List Nat) (s : State) :
    ids.foldl State.remove s = { s with handlers := s.handlers.filter fun h => h.id ∉ ids } := by
  induction ids generalizing s with
  | nil => simp
  | cons id ids ih =>
    rw [List.foldl_cons, ih]
    simp only [State.remove, List.filter_filter]
    congr 1
    refine List.filter_congr fun h _ => ?_
    rw [Bool.eq_iff_iff]
    simp [and_comm]

/-- Taking away the default handler and those of the program leaves those of others. -/
theorem remove_own (s : State) :
    (s.own.foldl State.remove s).remove 0 = { s with handlers := s.foreign } := by
  have htogether : (s.own.foldl State.remove s).remove 0 = (s.own ++ [0]).foldl State.remove s := by
    simp
  rw [htogether, foldl_remove]
  simp [State.foreign]

/-- A call is skipped, is refused, or takes effect. -/
theorem run_cases (c : Call) (s : State) :
    (c.force = false ∧ s.level = some c.level ∧ c.run s = (s, none)) ∨
    ((c.force = false → s.level ≠ some c.level) ∧
      ((c.known = false ∧
          c.run s = (⟨s.foreign, s.nextId, [], s.level⟩, some c.level)) ∨
        ∃ l, Level.ofName? c.level = some l ∧
          c.run s = (⟨s.foreign ++ [⟨s.nextId, l⟩], s.nextId + 1, [s.nextId], some c.level⟩,
            none))) := by
  by_cases hskip : c.force = false ∧ s.level = some c.level
  · exact .inl ⟨hskip.1, hskip.2, by simp [Call.run, State.configure, hskip.1, hskip.2]⟩
  · have htest : ¬ (!c.force && s.level == some c.level) = true := by simpa using hskip
    refine .inr ⟨fun hforce hsame => hskip ⟨hforce, hsame⟩, ?_⟩
    rw [Call.run, State.configure, if_neg htest, remove_own]
    cases hname : Level.ofName? c.level with
    | none => exact .inl ⟨by rw [Call.known, hname, Option.isSome_none], rfl⟩
    | some l => exact .inr ⟨l, rfl, rfl⟩

/-! ## Runs -/

/-- What holds after any calls: the handlers of others are those from the start, and once a level is
remembered, it exists and there is no other handler than, at most, one of the program for it. -/
structure Settled (s₀ s : State) : Prop where
  foreign : s.foreign = s₀.foreign
  nextId : s₀.nextId ≤ s.nextId
  remembered : ∀ name, s.level = some name → ∃ l, Level.ofName? name = some l ∧
    ((s.own = [] ∧ s.handlers = s₀.foreign) ∨
      ∃ id, s₀.nextId ≤ id ∧ s.own = [id] ∧ s.handlers = s₀.foreign ++ [⟨id, l⟩])

theorem Settled.refl (h : s₀.Unconfigured) : Settled s₀ s₀ where
  foreign := rfl
  nextId := Nat.le_refl _
  remembered name hname := by
    rw [h.level] at hname
    cases hname

/-- One call keeps what holds: the numbers of others are smaller than any that is given out. -/
theorem Settled.run (h : s₀.Unconfigured) (hs : Settled s₀ s) (c : Call) :
    Settled s₀ (c.run s).1 := by
  have hforeign : ∀ n ≥ s₀.nextId, ∀ x ∈ s₀.foreign, x.id ≠ n ∧ x.id ≠ 0 := by
    intro n hn x hx
    rw [State.foreign, List.mem_filter] at hx
    have hfresh := h.fresh x hx.1
    have hdefault : x.id ≠ 0 := (of_decide_eq_true hx.2).2
    exact ⟨by omega, hdefault⟩
  rcases run_cases c s with ⟨-, -, heq⟩ | ⟨-, ⟨-, heq⟩ | ⟨l, hl, heq⟩⟩
  · rw [heq]
    exact hs
  · rw [heq, hs.foreign]
    refine ⟨?_, hs.nextId, fun name hname => ?_⟩
    · refine List.filter_eq_self.mpr fun x hx => ?_
      simpa using (hforeign _ (Nat.le_refl _) x hx).2
    · obtain ⟨l, hl, -⟩ := hs.remembered name hname
      exact ⟨l, hl, .inl ⟨rfl, rfl⟩⟩
  · rw [heq, hs.foreign]
    refine ⟨?_, Nat.le_succ_of_le hs.nextId, fun name hname => ?_⟩
    · have hkept : s₀.foreign.filter (fun x => x.id ∉ [s.nextId] ∧ x.id ≠ 0) = s₀.foreign := by
        refine List.filter_eq_self.mpr fun x hx => ?_
        simpa using hforeign _ hs.nextId x hx
      rw [State.foreign, List.filter_append, hkept]
      simp
    · cases hname
      exact ⟨l, hl, .inr ⟨s.nextId, hs.nextId, rfl, rfl⟩⟩

theorem settled_after (h : s₀.Unconfigured) (calls : List Call) :
    Settled s₀ (s₀.after calls) := by
  induction calls using List.reverseRecOn with
  | nil => exact .refl h
  | append_singleton calls c ih =>
    rw [State.after_concat]
    exact ih.run h c

theorem lastKnown_concat (calls : List Call) (c : Call) :
    lastKnown (calls ++ [c]) = if c.known then some c.level else lastKnown calls := by
  cases hc : c.known <;> simp [lastKnown, List.filter_append, hc]

/-- The remembered level is that of the last call with a known one. -/
theorem level_after (h : s₀.Unconfigured) (calls : List Call) :
    (s₀.after calls).level = lastKnown calls := by
  induction calls using List.reverseRecOn with
  | nil => exact h.level
  | append_singleton calls c ih =>
    rw [State.after_concat, lastKnown_concat, ← ih]
    rcases run_cases c (s₀.after calls) with ⟨-, hlevel, heq⟩ | ⟨-, ⟨hunknown, heq⟩ | ⟨l, hl, heq⟩⟩
    · simp [heq, hlevel]
    · simp [heq, hunknown]
    · simp [heq, Call.known_of_ofName? hl]

/-- A lapse starts with a refused call, and goes on with calls that are refused or repeat. -/
theorem lapsed_concat (before : List Call) (d c : Call) :
    Lapsed (before ++ [d]) c ↔
      (c.force = false ∧ d.known = false ∧ lastKnown before = some c.level) ∨
        (d.known → d = c) ∧ Lapsed before c := by
  constructor
  · rintro ⟨hforce, earlier, q, since, hsplit, hq, hlast, hsince⟩
    rcases List.eq_nil_or_concat since with rfl | ⟨since, e, rfl⟩
    · obtain ⟨rfl, hqd⟩ := List.append_inj' hsplit rfl
      cases hqd
      exact .inl ⟨hforce, hq, hlast⟩
    · have hsplit : before ++ [d] = (earlier ++ q :: since) ++ [e] := by simpa using hsplit
      obtain ⟨rfl, hde⟩ := List.append_inj' hsplit rfl
      cases hde
      refine .inr ⟨hsince d (by simp), hforce, earlier, q, since, rfl, hq, hlast, ?_⟩
      exact fun e he => hsince e (by simp [he])
  · rintro (⟨hforce, hd, hlast⟩ | ⟨hd, hforce, earlier, q, since, rfl, hq, hlast, hsince⟩)
    · exact ⟨hforce, before, d, [], rfl, hd, hlast, by simp⟩
    · refine ⟨hforce, earlier, q, since ++ [d], by simp, hq, hlast, ?_⟩
      intro e he
      rcases List.mem_append.mp he with he | he
      · exact hsince e he
      · cases List.mem_singleton.mp he
        exact hd

/-- The history of calls tells whether the handler for the remembered level is missing. -/
theorem lapsed_iff (h : s₀.Unconfigured) (hc : c.force = false) :
    Lapsed before c ↔
      (s₀.after before).level = some c.level ∧ (s₀.after before).own = [] := by
  induction before using List.reverseRecOn with
  | nil =>
    have hlevel : (s₀.after []).level = none := h.level
    simp [Lapsed, hlevel]
  | append_singleton before d ih =>
    rw [State.after_concat, lapsed_concat, ih, ← level_after h]
    rcases run_cases d (s₀.after before) with
      ⟨hforce, hlevel, heq⟩ | ⟨hskip, ⟨hunknown, heq⟩ | ⟨l, hl, heq⟩⟩
    · -- A skipped call leaves everything as it was, and is the repetition of what is remembered.
      obtain ⟨l, hl, -⟩ := (settled_after h before).remembered _ hlevel
      have hknown := Call.known_of_ofName? hl
      rw [heq]
      constructor
      · rintro (⟨-, hunknown, -⟩ | ⟨-, hlapsed⟩)
        · rw [hknown] at hunknown
          cases hunknown
        · exact hlapsed
      · intro hlapsed
        have hsame : d.level = c.level := Option.some.inj (hlevel.symm.trans hlapsed.1)
        exact .inr ⟨fun _ => Call.ext hsame (hforce.trans hc.symm), hlapsed⟩
    · rw [heq]
      constructor
      · rintro (⟨-, -, hlevel⟩ | ⟨-, hlevel, -⟩)
        · exact ⟨hlevel, rfl⟩
        · exact ⟨hlevel, rfl⟩
      · rintro ⟨hlevel, -⟩
        exact .inl ⟨hc, hunknown, hlevel⟩
    · -- A call that takes effect is no repetition.
      have hknown := Call.known_of_ofName? hl
      rw [heq]
      constructor
      · rintro (⟨-, hunknown, -⟩ | ⟨hrepeats, hlapsed⟩)
        · rw [hknown] at hunknown
          cases hunknown
        · cases hrepeats hknown
          exact absurd hlapsed.1 (hskip hc)
      · rintro ⟨-, hnone⟩
        cases hnone

/-- After any calls, a call is refused exactly if its level is unknown. If it is refused, or the
handler has lapsed, the handlers are those of others. Otherwise there is one more, which has the
level of the call and a number that was not given out before the first call. -/
theorem run_leaves_handler_unless_lapsed (h : s₀.Unconfigured) (before : List Call) (c : Call) :
    (c.run (s₀.after before)).2 = (if c.known then none else some c.level) ∧
    (c.known = false ∨ Lapsed before c →
      (c.run (s₀.after before)).1.handlers = s₀.foreign) ∧
    (c.known → ¬ Lapsed before c → ∃ id l, s₀.nextId ≤ id ∧ Level.ofName? c.level = some l ∧
      (c.run (s₀.after before)).1.handlers = s₀.foreign ++ [⟨id, l⟩]) := by
  have hs := settled_after h before
  rcases run_cases c (s₀.after before) with
    ⟨hforce, hlevel, heq⟩ | ⟨hskip, ⟨hunknown, heq⟩ | ⟨l, hl, heq⟩⟩
  · obtain ⟨l, hl, hhandlers⟩ := hs.remembered _ hlevel
    have hknown := Call.known_of_ofName? hl
    rw [heq]
    refine ⟨by rw [hknown]; rfl, ?_, fun _ hlapsed => ?_⟩
    · rintro (hunknown | hlapsed)
      · rw [hknown] at hunknown
        cases hunknown
      · have hown := ((lapsed_iff h hforce).mp hlapsed).2
        rcases hhandlers with ⟨-, hhandlers⟩ | ⟨id, -, hid, -⟩
        · exact hhandlers
        · rw [hown] at hid
          cases hid
    · rcases hhandlers with ⟨hown, -⟩ | ⟨id, hid, -, hhandlers⟩
      · exact absurd ((lapsed_iff h hforce).mpr ⟨hlevel, hown⟩) hlapsed
      · exact ⟨id, l, hid, hl, hhandlers⟩
  · rw [heq, hunknown]
    exact ⟨rfl, fun _ => hs.foreign, nofun⟩
  · rw [heq, hs.foreign, Call.known_of_ofName? hl]
    refine ⟨rfl, ?_, fun _ _ => ⟨_, l, hs.nextId, hl, rfl⟩⟩
    rintro (hunknown | hlapsed)
    · cases hunknown
    · exact absurd ((lapsed_iff h hlapsed.1).mp hlapsed).1 (hskip hlapsed.1)

/-- Beside a handler of someone else, the first call brings a handler and a refused one takes it
away; repeating the first does not bring it back, and forcing it does. -/
theorem run_leaves_handler_unless_lapsed_warning :
    let s₀ : State := { handlers := [⟨0, .debug⟩, ⟨1, .info⟩], nextId := 2 }
    let warning : Call := { level := "WARNING" }
    let bogus : Call := { level := "BOGUS" }
    let forced : Call := { level := "WARNING", force := true }
    s₀.Unconfigured ∧ Lapsed [warning, bogus] warning ∧
      (warning.run (s₀.after [warning, bogus])).1.handlers = [⟨1, .info⟩] ∧
      ¬ Lapsed [warning, bogus] forced ∧
      ∃ id l, 2 ≤ id ∧ Level.ofName? "WARNING" = some l ∧
        (forced.run (s₀.after [warning, bogus])).1.handlers = [⟨1, .info⟩, ⟨id, l⟩] := by
  intro s₀ warning bogus forced
  have h : s₀.Unconfigured := ⟨rfl, rfl, by decide⟩
  have hlapsed : Lapsed [warning, bogus] warning :=
    ⟨rfl, [warning], bogus, [], rfl, by decide, by decide, by simp⟩
  have hforced : ¬ Lapsed [warning, bogus] forced := fun hlapsed => absurd hlapsed.1 (by decide)
  have hrepeated := run_leaves_handler_unless_lapsed h [warning, bogus] warning
  have hbrought := run_leaves_handler_unless_lapsed h [warning, bogus] forced
  exact ⟨h, hlapsed, hrepeated.2.1 (.inr hlapsed), hforced, hbrought.2.2 (by decide) hforced⟩

/-- A call that is not refused need not leave a handler of its level. -/
theorem not_always_handler : ¬ ∀ (before : List Call) (c : Call),
    (c.run (State.initial.after before)).2 = none →
      ∃ id l, Level.ofName? c.level = some l ∧
        (c.run (State.initial.after before)).1.handlers = [⟨id, l⟩] := by
  intro hall
  obtain ⟨id, l, -, hhandlers⟩ :=
    hall [{ level := "WARNING" }, { level := "BOGUS" }] { level := "WARNING" } (by decide)
  have hnone : (Call.run { level := "WARNING" } (State.initial.after
      [{ level := "WARNING" }, { level := "BOGUS" }])).1.handlers = [] := by decide
  rw [hnone] at hhandlers
  cases hhandlers

end MarkdownLint.Log
