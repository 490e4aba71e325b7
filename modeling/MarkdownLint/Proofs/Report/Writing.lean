import MarkdownLint.Proofs.Files.Write
import MarkdownLint.Proofs.Lists
import MarkdownLint.Proofs.Report.Checkstyle
import MarkdownLint.Report.Output
import Mathlib.Data.List.Perm.Basic

/-!
Writing reports. Each report that is asked for is attempted once, and is written with its whole
content or counted among the failures, whatever becomes of the others (`Output.Settles`). All
changes to the files are steps towards the folder of the reports. This can be broken off by a stream
that refuses a text or a folder that is too deep (`Interrupts`), and the reports that were attempted
by then are settled all the same (`Output.Settles.attempt`, `settles_writeReports`).
-/
namespace MarkdownLint

namespace Report

theorem fileName_injective {r r' : Report} (h : r.fileName = r'.fileName) : r = r' := by
  cases r <;> cases r' <;> first | rfl | exact absurd h (by decide)

theorem fileName_ne_dots (r : Report) : r.fileName ≠ ".." := by
  cases r <;> decide

theorem content_html {xml : String} {content : ByteArray} (h : html.content xml = .ok content) :
    ∃ page, Html.render xml.toUTF8 = .ok page ∧ page.toUTF8 = content := by
  rw [Report.content] at h
  cases hpage : Html.render xml.toUTF8 with
  | error e =>
    rw [hpage] at h
    cases h
  | ok page =>
    rw [hpage] at h
    exact ⟨page, rfl, Except.ok.inj h⟩

/-- A structured report can be read, so that all that can fail is writing. -/
theorem exists_content (r : Report) (result : ScanResult) :
    ∃ content, r.content (Checkstyle.render result) = .ok content := by
  cases r with
  | checkstyle => exact ⟨_, rfl⟩
  | html =>
    rw [content, Html.render, Checkstyle.read_render_eq]
    exact ⟨_, rfl⟩

theorem mem_all (r : Report) : r ∈ all := by
  cases r <;> decide

end Report

namespace Reports

theorem mem_toList {rs : Reports} {r : Report} : r ∈ rs.toList ↔ rs.has r = true := by
  simp [toList, Report.mem_all]

theorem nodup_toList (rs : Reports) : rs.toList.Nodup :=
  List.filter_sublist.nodup (by decide)

end Reports

/-! ## Printing -/

/-- What a run that may be broken off comes to: it returns with one property, or it is broken off,
and what has been done by then has the other. -/
structure Ends {α : Type} (P : Interruption → Output → Prop) (Q : α → Output → Prop)
    (x : Except Interruption α × Output) : Prop where
  returns : ∀ a, x.1 = .ok a → Q a x.2
  breaks : ∀ i, x.1 = .error i → P i x.2

namespace Ends

variable {α β : Type} {P : Interruption → Output → Prop} {Q : α → Output → Prop}
  {Q' : β → Output → Prop} {o : Output}

theorem ok {a : α} (h : Q a o) : Ends P Q (.ok a, o) := by
  refine ⟨fun b hb => ?_, nofun⟩
  cases hb
  exact h

theorem error {i : Interruption} (h : P i o) : Ends P Q (.error i, o) := by
  refine ⟨nofun, fun j hj => ?_⟩
  cases hj
  exact h

/-- One step after another. -/
theorem bind {first : Printing α} {next : α → Printing β}
    (h : Ends P Q (StateT.run (ExceptT.run first) o))
    (hnext : ∀ a o', Q a o' → Ends P Q' (StateT.run (ExceptT.run (next a)) o')) :
    Ends P Q' (StateT.run (ExceptT.run (first >>= next)) o) := by
  rw [run_bind]
  cases hrun : StateT.run (ExceptT.run first) o with
  | mk answer o' =>
    rw [hrun] at h
    cases answer with
    | ok a => exact hnext a o' (h.returns a rfl)
    | error i => exact .error (h.breaks i rfl)

/-- Items one after the other: what each keeps of those done so far holds of all of them. -/
theorem forM {γ : Type} {Q : List γ → Output → Prop} {act : γ → Printing PUnit} {items : List γ}
    (hstep : ∀ done o a, done ++ [a] <+: items → Q done o →
      Ends P (fun _ => Q (done ++ [a])) (StateT.run (ExceptT.run (act a)) o))
    (h : Q [] o) : Ends P (fun _ => Q items) (StateT.run (ExceptT.run (items.forM act)) o) := by
  have hall : ∀ (rest done : List γ) (o : Output), done ++ rest = items → Q done o →
      Ends P (fun _ => Q items) (StateT.run (ExceptT.run (rest.forM act)) o) := by
    intro rest
    induction rest with
    | nil =>
      rintro done o rfl h
      rw [List.append_nil]
      exact .ok h
    | cons a rest ih =>
      intro done o heq h
      have hitems : done ++ [a] ++ rest = items := by rw [List.append_assoc]; exact heq
      exact (hstep done o a ⟨rest, hitems⟩ h).bind fun _ o' h' => ih (done ++ [a]) o' hitems h'
  exact hall items [] o rfl h

end Ends

/-- A stream refuses a text after what has been printed. -/
def Refuses (stream : Option Stream) (o : Output) (e : PrintError) : Prop :=
  ∃ s text, stream = some s ∧ s.refusal? o.printed text = some e

/-- What a step that does nothing but print comes to. -/
inductive Prints (stream : Option Stream) (o : Output) :
    Except Interruption Unit × Output → Prop where
  | taken (printed : List String) : Prints stream o (.ok (), { o with printed })
  | refused (printed : List String) {e : PrintError} : Refuses stream { o with printed } e →
      Prints stream o (.error (.refused e), { o with printed })

/-- Printing keeps what does not depend on what is printed. -/
theorem Prints.ends {stream : Option Stream} {P : Output → Prop} {o : Output}
    {x : Except Interruption Unit × Output} (h : Prints stream o x)
    (hkeeps : ∀ printed, P { o with printed }) :
    Ends (fun i o => P o ∧ ∃ e, i = .refused e ∧ Refuses stream o e) (fun _ => P) x := by
  cases h with
  | taken printed => exact .ok (hkeeps printed)
  | refused printed hrefuses => exact .error ⟨hkeeps printed, _, rfl, hrefuses⟩

/-- Steps that print come to printing. -/
theorem Prints.bind {stream : Option Stream} {first second : Printing Unit} {o : Output}
    (hfirst : Prints stream o (StateT.run (ExceptT.run first) o))
    (hsecond : ∀ o, Prints stream o (StateT.run (ExceptT.run second) o)) :
    Prints stream o (StateT.run (ExceptT.run (first >>= fun _ => second)) o) := by
  rw [run_bind]
  generalize StateT.run (ExceptT.run first) o = x at hfirst
  cases hfirst with
  | refused printed hrefuses => exact .refused printed hrefuses
  | taken printed =>
    have hrest := hsecond { o with printed }
    show Prints stream o (StateT.run (ExceptT.run second) { o with printed })
    generalize StateT.run (ExceptT.run second) { o with printed } = y at hrest
    cases hrest with
    | taken more => exact .taken more
    | refused more hrefuses => exact .refused more hrefuses

/-- A text is written unless the stream refuses it. -/
theorem run_put (s : Stream) (text : String) (o : Output) :
    StateT.run (ExceptT.run (Printing.put (some s) text)) o =
      match s.refusal? o.printed text with
      | some e => (.error (.refused e), o)
      | none => (.ok (), { o with printed := o.printed ++ [text] }) := by
  have hget : StateT.run (ExceptT.run (get : Printing Output)) o = (.ok o, o) := rfl
  rw [Printing.put, run_bind, hget]
  cases hrefusal : s.refusal? o.printed text <;> simp only [hrefusal] <;> rfl

theorem prints_put (stream : Option Stream) (text : String) (o : Output) :
    Prints stream o (StateT.run (ExceptT.run (Printing.put stream text)) o) := by
  cases stream with
  | none => exact .taken o.printed
  | some s =>
    rw [run_put]
    cases hrefusal : s.refusal? o.printed text with
    | none => exact .taken _
    | some e => exact .refused o.printed ⟨s, text, rfl, hrefusal⟩

theorem prints_echo (stream : Option Stream) (line : String) (o : Output) :
    Prints stream o (StateT.run (ExceptT.run (Printing.echo stream line)) o) :=
  (prints_put stream line o).bind (prints_put stream "\n")

/-! ## Attempting reports -/

/-- Reports are broken off by a stream that refuses a text, or because too many folders are missing
above the folder of a report that is asked for. -/
inductive Interrupts (out : Outlet) (reports : Reports) (o : Output) : Interruption → Prop where
  | refused {e : PrintError} : Refuses out.stream o e → Interrupts out reports o (.refused e)
  | tooDeep {r : Report} : reports.has r = true →
      out.depth < Entry.missingAbove out.folder.parts.length o.tree out.folder →
      Interrupts out reports o .tooDeep

namespace Output

/-- The outcome of attempting reports of some kinds on a result, one after the other. -/
structure Settles (out : Outlet) (result : ScanResult) (tree : Entry) (kinds : List Report)
    (o : Output) : Prop where
  /-- Files are written in the folder alone, and those are the reports. -/
  steps : Entry.Steps out.folder tree (o.written.map Prod.snd) o.tree
  /-- Each report is written or fails. -/
  settled : (o.written.map Prod.fst ++ o.failures.map (·.report)).Perm kinds
  /-- A report that is written has its content. -/
  written : ∀ w ∈ o.written, w.2 = out.folder.child w.1.fileName ∧
    ∃ content, w.1.content (Checkstyle.render result) = .ok content ∧
      o.tree.read w.2 = .ok content
  failures : ∀ f ∈ o.failures, f.path = out.folder.child f.report.fileName
  /-- No folder above a report that is attempted is too deep. -/
  reachable : kinds ≠ [] →
    Entry.missingAbove out.folder.parts.length o.tree out.folder ≤ out.depth

variable {out : Outlet} {result : ScanResult} {tree : Entry} {kinds : List Report} {o : Output}

/-- At first there is nothing but a log. -/
theorem Settles.nil (out : Outlet) (result : ScanResult) (tree : Entry)
    (records : List Log.Record) : Settles out result tree [] { tree, records } where
  steps := .refl
  settled := .nil
  written := by simp
  failures := by simp
  reachable h := absurd rfl h

/-- A report that does not come about, whatever folders were made on the way, leaves the others. -/
theorem Settles.fail (h : Settles out result tree kinds o) {t : Entry}
    (hsteps : Entry.Steps out.folder o.tree [] t)
    (hdepth : Entry.missingAbove out.folder.parts.length o.tree out.folder ≤ out.depth)
    (r : Report) (reason : String) (records : List Log.Record) :
    Settles out result tree (kinds ++ [r])
      { o with
        tree := t, records
        failures := o.failures ++ [⟨r, out.folder.child r.fileName, reason⟩] } where
  steps := by
    have hall := h.steps.trans hsteps
    rwa [List.append_nil] at hall
  settled := by
    have hall := h.settled.append_right [r]
    rw [List.append_assoc] at hall
    simpa using hall
  written := by
    intro w hw
    obtain ⟨hpath, content, hcontent, hread⟩ := h.written w hw
    refine ⟨hpath, content, hcontent, ?_⟩
    rw [hpath] at hread ⊢
    exact hsteps.read_eq_ok w.1.fileName_ne_dots (by simp) hread
  failures := by
    intro g hg
    rcases List.mem_append.mp hg with hg | hg
    · exact h.failures g hg
    · rw [List.mem_singleton.mp hg]
  reachable _ := Nat.le_trans (hsteps.missingAbove_le _ _) hdepth

/-- A report that is written leaves the others, whose files have other names. -/
theorem Settles.succeed (h : Settles out result tree kinds o) {t : Entry} {r : Report}
    {content : ByteArray} (hcontent : r.content (Checkstyle.render result) = .ok content)
    (hsteps : Entry.Steps out.folder o.tree [out.folder.child r.fileName] t)
    (hdepth : Entry.missingAbove out.folder.parts.length o.tree out.folder ≤ out.depth)
    (hread : t.read (out.folder.child r.fileName) = .ok content) :
    Settles out result tree (kinds ++ [r])
      { o with tree := t, written := o.written ++ [(r, out.folder.child r.fileName)] } where
  steps := by
    simpa using h.steps.trans hsteps
  settled := by
    have hswap : (o.written.map Prod.fst ++ ([r] ++ o.failures.map (·.report))).Perm
        (o.written.map Prod.fst ++ (o.failures.map (·.report) ++ [r])) :=
      List.perm_append_comm.append_left _
    have hall := h.settled.append_right [r]
    rw [List.append_assoc] at hall
    simpa using hswap.trans hall
  written := by
    intro w hw
    rcases List.mem_append.mp hw with hw | hw
    · obtain ⟨hpath, content', hcontent', hread'⟩ := h.written w hw
      refine ⟨hpath, content', hcontent', ?_⟩
      rw [hpath] at hread' ⊢
      by_cases hkind : w.1 = r
      · rw [hkind, hcontent] at hcontent'
        cases hcontent'
        rw [hkind]
        exact hread
      · refine hsteps.read_eq_ok w.1.fileName_ne_dots ?_ hread'
        intro f hf
        refine ⟨r.fileName, r.fileName_ne_dots, ?_, List.mem_singleton.mp hf⟩
        intro heq
        exact hkind (Report.fileName_injective heq.symm)
    · rw [List.mem_singleton.mp hw]
      exact ⟨rfl, content, hcontent, hread⟩
  failures := h.failures
  reachable _ := Nat.le_trans (hsteps.missingAbove_le _ _) hdepth

/-- Some of the reports that are asked for are settled, one after the other. -/
def SettlesSome (out : Outlet) (result : ScanResult) (tree : Entry) (reports : Reports)
    (o : Output) : Prop :=
  ∃ kinds, kinds <+: reports.toList ∧ Settles out result tree kinds o

/-- What has become of reports does not change when anything is printed. -/
theorem Settles.of_prints {x : Except Interruption Unit × Output} {reports : Reports}
    (h : Settles out result tree kinds o) (hkinds : kinds <+: reports.toList)
    (hx : Prints out.stream o x) :
    Ends (fun i o => SettlesSome out result tree reports o ∧ Interrupts out reports o i)
      (fun _ => Settles out result tree kinds) x := by
  have hends := hx.ends (P := Settles out result tree kinds) fun _ =>
    ⟨h.steps, h.settled, h.written, h.failures, h.reachable⟩
  refine ⟨hends.returns, fun i hi => ?_⟩
  obtain ⟨hsettles, e, rfl, hrefuses⟩ := hends.breaks i hi
  exact ⟨⟨kinds, hkinds, hsettles⟩, .refused hrefuses⟩

theorem run_attempt_of_tooDeep (result : ScanResult) (r : Report)
    (h : out.depth < Entry.missingAbove out.folder.parts.length o.tree out.folder) :
    StateT.run (ExceptT.run (Printing.attempt out (Checkstyle.render result) r)) o =
      (.error .tooDeep, o) := by
  have hget : StateT.run (ExceptT.run (get : Printing Output)) o = (.ok o, o) := rfl
  obtain ⟨content, hcontent⟩ := r.exists_content result
  simp only [Printing.attempt, hcontent]
  rw [run_bind, hget]
  simp only [if_pos h]
  rfl

/-- One more report is settled by attempting it, unless its folder is too deep. -/
theorem Settles.attempt (h : Settles out result tree kinds o) {reports : Reports} {r : Report}
    (hpart : kinds ++ [r] <+: reports.toList) :
    Ends (fun i o => SettlesSome out result tree reports o ∧ Interrupts out reports o i)
      (fun _ => Settles out result tree (kinds ++ [r]))
      (StateT.run (ExceptT.run (Printing.attempt out (Checkstyle.render result) r)) o) := by
  have hget : StateT.run (ExceptT.run (get : Printing Output)) o = (.ok o, o) := rfl
  by_cases hdepth : out.depth < Entry.missingAbove out.folder.parts.length o.tree out.folder
  · have hr : reports.has r = true := Reports.mem_toList.mp (hpart.subset (by simp))
    rw [run_attempt_of_tooDeep result r hdepth]
    exact .error ⟨⟨kinds, (List.prefix_append _ _).trans hpart, h⟩, .tooDeep hr hdepth⟩
  · have hreachable := Nat.le_of_not_lt hdepth
    obtain ⟨content, hcontent⟩ := r.exists_content result
    simp only [Printing.attempt, hcontent]
    rw [run_bind, hget]
    simp only [if_neg hdepth]
    rcases Entry.write_steps r.fileName_ne_dots o.tree out.folder content with
      ⟨t, hwrite, hsteps, hread⟩ | ⟨t, e, hwrite, hsteps⟩
    · simp only [hwrite]
      have hsettles := h.succeed hcontent hsteps hreachable hread
      exact hsettles.of_prints hpart (prints_echo out.stream _ _)
    · simp only [hwrite]
      have hsettles := h.fail hsteps hreachable r e.message
      exact (hsettles _).of_prints hpart (prints_echo out.stream _ _)

end Output

/-- The reports that are asked for are settled, up to the last one or to the one at which the run is
broken off. -/
theorem settles_writeReports {out : Outlet} {result : ScanResult} {tree : Entry}
    {reports : Reports} {o : Output} (h : o.Settles out result tree []) :
    Ends (fun i o => o.SettlesSome out result tree reports ∧ Interrupts out reports o i)
      (fun _ => Output.Settles out result tree reports.toList)
      (StateT.run (ExceptT.run (Printing.writeReports out reports result)) o) :=
  .forM (fun _ _ _ hpart h => h.attempt hpart) h

end MarkdownLint
