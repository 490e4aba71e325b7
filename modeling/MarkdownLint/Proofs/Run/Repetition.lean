import MarkdownLint.Proofs.Run.Containment

/-!
Running again. The reports of a run are no Markdown files, so that wherever they are written the
same files are discovered afterwards, with the same contents (`scanFiles_of_steps`). A second run
therefore finds what the first one found, and writes the same reports (`Repeats`).
-/
namespace MarkdownLint

open Entry (Steps)

/-! ## Reports and Markdown files -/

theorem hasExtension_fileName (kind : Report) :
    hasExtension markdownExtensions kind.fileName = false := by
  cases kind <;> decide

variable {tree tree' : Entry} {folder root : Path} {files : List Path} {position p : List String}

/-- A report has another name than a Markdown file. -/
theorem not_leadsTo_report (h : ∃ parent name, p = parent ++ [name] ∧
      hasExtension markdownExtensions name = true) (kind : Report) :
    ¬ tree.LeadsTo (folder.child kind.fileName) (position ++ p) := by
  intro hleads
  obtain ⟨parent, name, rfl, hext⟩ := h
  obtain ⟨parent', -, heq⟩ := Entry.Leads.of_append_singleton kind.fileName_ne_dots hleads
  rw [← List.append_assoc] at heq
  obtain ⟨-, hlast⟩ := List.append_inj' heq rfl
  rw [(List.cons.inj hlast).1, hasExtension_fileName] at hext
  cases hext

section

variable (hsteps : Steps folder tree files tree')
  (hfiles : ∀ f ∈ files, ∃ kind : Report, f = folder.child kind.fileName)

include hsteps hfiles

theorem filesAt_of_steps (position : List String) :
    tree'.filesAt markdownExtensions position = tree.filesAt markdownExtensions position := by
  refine hsteps.filesAt ?_ position
  intro f hf
  obtain ⟨kind, rfl⟩ := hfiles f hf
  exact ⟨kind.fileName, rfl, hasExtension_fileName kind⟩

/-- Below a root that was there before, the same files are discovered. -/
theorem discover_of_steps (hleads : tree.LeadsTo root position) :
    discover tree' root markdownExtensions = discover tree root markdownExtensions := by
  rw [Entry.discover_of_leadsTo hleads, Entry.discover_of_leadsTo (hleads.mono hsteps.frame.grows),
    filesAt_of_steps hsteps hfiles]

/-- A Markdown file keeps its content. -/
theorem look_of_steps {c : ByteArray} (hlook : tree.look (position ++ p) = some (.file c))
    (hext : ∃ parent name, p = parent ++ [name] ∧
      hasExtension markdownExtensions name = true) :
    tree'.look (position ++ p) = some (.file c) := by
  refine hsteps.frame.kept _ _ hlook ?_
  intro f hf
  obtain ⟨kind, rfl⟩ := hfiles f hf
  exact not_leadsTo_report hext kind

/-- What is discovered, below whatever root, are files that were there before, with the same
content. -/
theorem look_of_mem_discover (htree : tree.WellFormed)
    (hp : p ∈ discover tree' root markdownExtensions) :
    ∃ position c, tree'.LeadsTo root position ∧ tree.look (position ++ p) = some (.file c) ∧
      tree'.look (position ++ p) = some (.file c) ∧
      ∀ kind : Report, ¬ tree'.LeadsTo (folder.child kind.fileName) (position ++ p) := by
  obtain ⟨position, hleads, hp⟩ := Entry.mem_filesAt_of_mem_discover hp
  rw [filesAt_of_steps hsteps hfiles] at hp
  obtain ⟨e, hget, hp⟩ := Entry.mem_filesAt.mp hp
  have hfile := Entry.holdsFile_of_mem_filesBelow (htree.get? hget) hp
  obtain ⟨c, hc⟩ := hfile.content
  have hlook : tree.look (position ++ p) = some (.file c) := by
    rw [Entry.look_append hget]
    exact Entry.look_eq_file.mpr hc
  exact ⟨position, c, hleads, hlook, look_of_steps hsteps hfiles hlook hfile.extension,
    not_leadsTo_report hfile.extension⟩

/-- The same is found in a file that is discovered. -/
theorem scanFile_of_steps (htree : tree.WellFormed) (parser : Parser) (rules : List Checker)
    (hp : p ∈ discover tree root markdownExtensions) :
    scanFile tree' root parser rules p = scanFile tree root parser rules p := by
  obtain ⟨position, c, -, hleads, hlook, hext, -⟩ := leadsTo_of_mem_discover htree hp
  have hlook' := look_of_steps hsteps hfiles hlook hext
  have hread : tree.read (root ++ ⟨p⟩) = .ok c := Entry.read_eq_ok.mpr ⟨_, hleads, hlook⟩
  have hread' : tree'.read (root ++ ⟨p⟩) = .ok c :=
    Entry.read_eq_ok.mpr ⟨_, hleads.mono hsteps.frame.grows, hlook'⟩
  rw [scanFile_eq_scanContent hread, scanFile_eq_scanContent hread']

/-- Scanning files yields the same after reports were written. -/
theorem scanFiles_of_steps (htree : tree.WellFormed) (hleads : tree.LeadsTo root position)
    (parser : Parser) (rules : List Checker) :
    scanFiles tree' root parser rules = scanFiles tree root parser rules := by
  rw [scanFiles, scanFiles, discover_of_steps hsteps hfiles hleads]
  exact mapM_congr fun p hp => scanFile_of_steps hsteps hfiles htree parser rules hp

end

/-! ## Configurations and roots -/

theorem Entry.leadsTo_of_isFolderAt {path : Path} (h : tree.isFolderAt path = true) :
    ∃ position, tree.LeadsTo path position := by
  rw [isFolderAt] at h
  cases hat : tree.at? path with
  | none => simp [hat] at h
  | some e =>
    obtain ⟨position, hleads, -⟩ := at?_eq_some.mp hat
    exact ⟨position, hleads⟩

/-- A configuration can only be read from a file. -/
theorem Configuration.at?_of_ofFile {load : Loader} {path : Path} {c : Configuration}
    (h : ofFile load tree path = .ok c) : ∃ content, tree.at? path = some (.file content) := by
  rw [ofFile] at h
  cases hat : tree.at? path with
  | none =>
    rw [hat] at h
    cases h
  | some e =>
    rw [hat] at h
    cases e with
    | folder entries => cases h
    | file content => exact ⟨content, rfl⟩

/-- The configuration stays what it is, unless it is kept in the place of a report. -/
theorem resolve_of_steps {load : Configuration.Loader} {source : ConfigurationSource}
    {c : Configuration}
    (hsteps : Steps folder tree files tree')
    (hsource : ∀ path position, source = .file path → tree'.LeadsTo path position →
      ∀ f ∈ files, ¬ tree'.LeadsTo f position)
    (hc : source.resolve load tree = .ok c) : source.resolve load tree' = .ok c := by
  cases source with
  | value c' => exact hc
  | standard => exact hc
  | file path =>
    obtain ⟨content, hat⟩ := Configuration.at?_of_ofFile hc
    obtain ⟨position, hleads, hget⟩ := Entry.at?_eq_some.mp hat
    have hleads' : tree'.LeadsTo path position := hleads.mono hsteps.frame.grows
    have hlook : tree'.look position = some (.file content) :=
      hsteps.frame.kept _ _ (Entry.look_eq_file.mpr hget) (hsource path position rfl hleads')
    have hat' : tree'.at? path = some (.file content) :=
      Entry.at?_eq_some.mpr ⟨position, hleads', Entry.look_eq_file.mp hlook⟩
    show Configuration.ofFile load tree' path = .ok c
    rw [← hc]
    show Configuration.ofFile load tree' path = Configuration.ofFile load tree path
    rw [Configuration.ofFile, Configuration.ofFile, hat, hat']

/-! ## Two runs -/

/-- What a second run has in common with the first. -/
structure Repeats (outcome : Outcome) (o : Output) (outcome' : Outcome) (o' : Output) : Prop where
  /-- It counts and finds the same, and the same goes wrong. -/
  result : outcome'.result = outcome.result
  passed : outcome'.passed = outcome.passed
  exitCode : outcome'.exitCode = outcome.exitCode
  /-- A report that both have written has one content. -/
  contents : ∀ w ∈ outcome.reports, w ∈ outcome'.reports →
    ∃ content, o.tree.read w.2 = .ok content ∧ o'.tree.read w.2 = .ok content

/-- What is discovered in a tree, below whatever root, are files that were there before, and no
reports. -/
def DiscoversOld (tree tree' : Entry) (folder : Path) : Prop :=
  ∀ root, ∀ p ∈ discover tree' root markdownExtensions, ∃ position c,
    tree'.LeadsTo root position ∧ tree.look (position ++ p) = some (.file c) ∧
      tree'.look (position ++ p) = some (.file c) ∧
      ∀ kind : Report, ¬ tree'.LeadsTo (folder.child kind.fileName) (position ++ p)

/-- Reports of one result have one content. -/
theorem Contained.read_eq {folder' : Path} {c c' : Configuration} {result : ScanResult}
    {o o' : Output} {w : Report × Path} (h : Contained tree folder c result o)
    (h' : Contained tree' folder' c' result o') (hw : w ∈ o.written) (hw' : w ∈ o'.written) :
    ∃ content, o.tree.read w.2 = .ok content ∧ o'.tree.read w.2 = .ok content := by
  obtain ⟨kind, path⟩ := w
  cases kind with
  | checkstyle => exact ⟨_, h.checkstyle path hw, h'.checkstyle path hw'⟩
  | html =>
    obtain ⟨page, hpage, hread⟩ := h.html path hw
    obtain ⟨page', hpage', hread'⟩ := h'.html path hw'
    rw [hpage] at hpage'
    cases hpage'
    exact ⟨_, hread, hread'⟩

theorem Contained.exists_kind {c : Configuration} {result : ScanResult} {o : Output}
    (h : Contained tree folder c result o) :
    ∀ f ∈ o.written.map Prod.snd, ∃ kind : Report, f = folder.child kind.fileName := by
  intro f hf
  obtain ⟨w, hw, rfl⟩ := List.mem_map.mp hf
  exact ⟨w.1, h.written w hw⟩

/-- Runs with the same scans repeat each other. -/
theorem repeats_of_concluded {c : Configuration} {out out' : Outlet} {scans : List FileScan}
    {records records' : List Log.Record} {outcome outcome' : Outcome} {o o' : Output}
    (h : concluded out c scans tree records = (.ok outcome, o))
    (h' : concluded out' c scans tree' records' = (.ok outcome', o')) :
    Repeats outcome o outcome' o' := by
  have hcomplete := complete_concluded h
  have hcomplete' := complete_concluded h'
  have hpassed : outcome'.passed = outcome.passed := by
    rw [Outcome.passed, Outcome.passed, hcomplete.result, hcomplete'.result, hcomplete.threshold,
      hcomplete'.threshold]
  constructor
  case result => rw [hcomplete.result, hcomplete'.result]
  case passed => exact hpassed
  case exitCode => rw [Outcome.exitCode, Outcome.exitCode, hpassed]
  case contents =>
    intro w hw hw'
    rw [hcomplete.reports] at hw
    rw [hcomplete'.reports] at hw'
    exact (contained_concluded h).read_eq (contained_concluded h') hw hw'

/-- A run can be repeated: with its root in place, and its configuration not kept in the place of a
report, a second run discovers nothing that the first one has written. It returns if its stream
takes every text, and whenever it returns, it finds and writes the same. -/
theorem run_twice {libs : Libraries} {tree : Entry} {q : RunRequest} {outcome : Outcome}
    {o : Output} (htree : tree.WellFormed) (hroot : tree.isFolderAt q.root = true)
    (hsource : ∀ path position, q.source = .file path → o.tree.LeadsTo path position →
      ∀ kind : Report, ¬ o.tree.LeadsTo (q.folder.child kind.fileName) position)
    (hrun : run libs tree q = (.ok outcome, o)) :
    DiscoversOld tree o.tree q.folder ∧
      ∀ stream, (TakesAll stream →
          ∃ outcome' o', run libs o.tree { q with stream } = (.ok outcome', o')) ∧
        ∀ outcome' o', run libs o.tree { q with stream } = (.ok outcome', o') →
          Repeats outcome o outcome' o' := by
  obtain ⟨plan, hplan, hconcluded⟩ := exists_plan_of_run htree hrun
  obtain ⟨position, hleads⟩ := Entry.leadsTo_of_isFolderAt hroot
  have hsettles := settles_concluded hconcluded
  have hfiles := (contained_concluded hconcluded).exists_kind
  refine ⟨fun root p hp => look_of_mem_discover hsettles.steps hfiles htree hp, fun stream => ?_⟩
  have hplan' : RunRequest.plan libs o.tree { q with stream } = .ok plan := by
    obtain ⟨rules, hc, hrules, hparser, hcheckers⟩ := plan_eq_ok_iff.mp hplan
    refine plan_eq_ok_iff.mpr ⟨rules, ?_, hrules, hparser, hcheckers⟩
    refine resolve_of_steps hsettles.steps (fun path position hpath hleads f hf => ?_) hc
    obtain ⟨kind, rfl⟩ := hfiles f hf
    exact hsource path position hpath hleads kind
  have hscans := scanFiles_of_steps hsettles.steps hfiles htree hleads plan.parser plan.rules
  rw [scanFiles_eq_ok htree] at hscans
  constructor
  · -- what the first run has attempted can be reached by the second one too
    intro htakes
    obtain ⟨outcome', o', hconcluded'⟩ := exists_concluded
      (RunRequest.outlet libs { q with stream }) htakes hsettles.reachable
      (outcomes tree q.root plan.parser plan.rules) (scanRecords plan.rules _)
    exact ⟨outcome', o', run_of_concluded hplan' hscans hconcluded'⟩
  · intro outcome' o' hrun'
    exact repeats_of_concluded hconcluded (concluded_of_run hplan' hscans hrun')

/-- A project with its configuration. -/
def configured : Entry :=
  .folder [("docs", .folder [("a.md", .file "a\tb".toUTF8),
    ("lint.yaml", .file "\x7b\x7d".toUTF8)])]

/-- A run that writes its reports among the files of the project. -/
def besideFiles : RunRequest where
  root := ⟨["docs"]⟩
  reportsFolder := some ⟨["docs"]⟩
  source := .file ⟨["docs", "lint.yaml"]⟩

theorem run_twice_besideFiles :
    ∃ outcome o outcome' o', run .standard configured besideFiles = (.ok outcome, o) ∧
      run .standard o.tree besideFiles = (.ok outcome', o') ∧ Repeats outcome o outcome' o' ∧
      DiscoversOld configured o.tree ⟨["docs"]⟩ := by
  have htree : configured.WellFormed := by
    refine .folder (by decide) (by decide) ?_
    simp only [List.forall_mem_cons]
    refine ⟨.folder (by decide) (by decide) ?_, by simp⟩
    simp only [List.forall_mem_cons]
    exact ⟨.file _, .file _, by simp⟩
  have hread : ((besideFiles.source.resolve Libraries.standard.load configured).toOption.map
      fun c => (c.rules.length, c.reports, c.threshold)) = some (0, .both, 0) := by decide +kernel
  have hc : besideFiles.source.resolve Libraries.standard.load configured = .ok {} := by
    cases hresolve : besideFiles.source.resolve Libraries.standard.load configured with
    | error e => simp [hresolve, Except.toOption] at hread
    | ok c =>
      obtain ⟨rules, reports, threshold⟩ := c
      simp only [hresolve, Except.toOption, Option.map_some, Option.some.injEq, Prod.mk.injEq,
        List.length_eq_zero_iff] at hread
      obtain ⟨rfl, rfl, rfl⟩ := hread
      rfl
  obtain ⟨rules, hrules⟩ := Configuration.exists_instantiate_standard Libraries.standard.named
  obtain ⟨plan, hplan, -⟩ := exists_plan_standard hc hrules rfl
  have hunhindered : besideFiles.Unhindered .standard configured :=
    ⟨takesAll_none, by decide⟩
  obtain ⟨outcome, o, hrun⟩ := exists_run_of_unhindered htree hplan hunhindered
  -- the configuration has another name than a report in the same folder
  have hsource : ∀ (path : Path) (position : List String),
      besideFiles.source = .file path → o.tree.LeadsTo path position →
      ∀ kind : Report, ¬ o.tree.LeadsTo (besideFiles.folder.child kind.fileName) position := by
    intro path position hpath hleads kind hreport
    cases hpath
    have hconfiguration : o.tree.Leads [] (["docs"] ++ ["lint.yaml"]) position := hleads
    obtain ⟨parent, -, rfl⟩ := Entry.Leads.of_append_singleton (by decide) hconfiguration
    obtain ⟨parent', -, heq⟩ := Entry.Leads.of_append_singleton kind.fileName_ne_dots hreport
    obtain ⟨-, hlast⟩ := List.append_inj' heq rfl
    cases kind <;> exact absurd (List.cons.inj hlast).1 (by decide)
  obtain ⟨hdiscovers, hagain⟩ := run_twice htree (by decide) hsource hrun
  obtain ⟨hreturns, hrepeats⟩ := hagain none
  obtain ⟨outcome', o', hrun'⟩ := hreturns takesAll_none
  exact ⟨outcome, o, outcome', o', hrun, hrun', hrepeats outcome' o' hrun', hdiscovers⟩

end MarkdownLint
