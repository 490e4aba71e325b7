import MarkdownLint.Proofs.Files.Discovery
import MarkdownLint.Proofs.Scan.Record
import Mathlib.Algebra.GroupWithZero.Nat

/-!
The accounts of a scan. Every file that is discovered can be read, so that a scan comes to its end
(`scan_eq_ok`), and is counted; it is parsed or listed among the parse failures; the violations of a
parsed file are those of the rules that did not fail on it, and each rule that did is listed
(`Accounts`). What is recorded of a file depends on its position and its bytes alone
(`entriesOf_record`), whatever else is in the tree.
-/
namespace MarkdownLint

/-- The document of the file at a position below a root. There is none if the bytes of the file are
no UTF-8 or the parser rejects the text. -/
def Entry.document? (tree : Entry) (root : Path) (parser : Parser) (position : List String) :
    Option Document := do
  let content ← (tree.read (root ++ ⟨position⟩)).toOption
  let text ← String.fromUTF8? content
  let blocks ← (parser (Text.universalNewlines text.toList)).toOption
  return ⟨positionText position, Text.universalNewlines text.toList, blocks⟩

variable {tree : Entry} {root : Path} {parser : Parser} {rules : List Checker}
  {position : List String} {content : ByteArray} {d : Document}

theorem filename_of_document? (h : tree.document? root parser position = some d) :
    d.filename = positionText position := by
  simp only [Entry.document?, bind, Option.bind_eq_some_iff, pure, Option.some.injEq] at h
  obtain ⟨_, -, _, -, _, -, rfl⟩ := h
  rfl

/-- A text's bytes are those that decode to it. -/
theorem fromUTF8?_eq_some {s : String} : String.fromUTF8? content = some s ↔ s.toUTF8 = content := by
  constructor
  · intro h
    rw [String.fromUTF8?] at h
    split at h
    · cases h
      rfl
    · cases h
  · rintro rfl
    exact dif_pos s.isValidUTF8

/-- A file has no document if its bytes are those of no text, or of a text that the parser
rejects. -/
def Unparsed (parser : Parser) (content : ByteArray) : Prop :=
  (∀ s : String, s.toUTF8 ≠ content) ∨
    ∃ (s : String) (r : Rejection), s.toUTF8 = content ∧
      parser (Text.universalNewlines s.toList) = .error r

theorem document?_eq_none (h : tree.read (root ++ ⟨position⟩) = .ok content) :
    tree.document? root parser position = none ↔ Unparsed parser content := by
  simp only [Entry.document?, h, Except.toOption, bind, Option.bind_some, Unparsed, Ne,
    ← fromUTF8?_eq_some]
  cases hdecode : String.fromUTF8? content with
  | none => simp
  | some text =>
    cases hparse : parser (Text.universalNewlines text.toList) with
    | error rejection => simp [hparse]
    | ok blocks => simp [hparse]

/-! ## Scanning one file -/

theorem scanFile_eq_scanContent (h : tree.read (root ++ ⟨position⟩) = .ok content) :
    scanFile tree root parser rules position =
      .ok (scanContent parser rules content (positionText position)) := by
  rw [scanFile, h]
  rfl

/-- The outcome for a file. Of one that cannot be read nothing is told but its name. -/
def outcomeAt (tree : Entry) (root : Path) (parser : Parser) (rules : List Checker)
    (position : List String) : FileScan :=
  match scanFile tree root parser rules position with
  | .ok s => s
  | .error _ => { filename := positionText position }

theorem outcomeAt_eq_scanContent (h : tree.read (root ++ ⟨position⟩) = .ok content) :
    outcomeAt tree root parser rules position =
      scanContent parser rules content (positionText position) := by
  rw [outcomeAt, scanFile_eq_scanContent h]

/-- A file that has a document is looked at by the rules, and any other one is skipped. -/
theorem outcomeAt_eq (parser : Parser) (rules : List Checker)
    (h : tree.read (root ++ ⟨position⟩) = .ok content) :
    match tree.document? root parser position with
    | some d => outcomeAt tree root parser rules position = applyRules d rules
    | none => ∃ reason, outcomeAt tree root parser rules position =
        { filename := positionText position
          parseFailure := some ⟨positionText position, reason⟩ } := by
  rw [outcomeAt_eq_scanContent h, scanContent, readDocument, Text.decode, Entry.document?, h]
  simp only [Except.toOption, bind, Option.bind_some]
  cases hdecode : String.fromUTF8? content with
  | none => exact ⟨_, rfl⟩
  | some text =>
    simp only [loadDocument, Option.bind_some]
    cases hparse : parser (Text.universalNewlines text.toList) with
    | error rejection => exact ⟨_, rfl⟩
    | ok blocks => rfl

/-- What scanning a file yields, told by its document. -/
structure Yields (rules : List Checker) (name : String) (document? : Option Document)
    (s : FileScan) : Prop where
  filename : s.filename = name
  violations : s.violations = document?.toList.flatMap fun d => rules.flatMap (·.found d)
  parseFailure : s.parseFailure.toList.map (·.filename) = if document?.isNone then [name] else []
  ruleFailures : s.ruleFailures = document?.toList.flatMap fun d => rules.filterMap (·.failure? d)

theorem yields_outcomeAt (h : tree.read (root ++ ⟨position⟩) = .ok content) :
    Yields rules (positionText position) (tree.document? root parser position)
      (outcomeAt tree root parser rules position) := by
  have houtcome := outcomeAt_eq parser rules h
  cases hd : tree.document? root parser position with
  | none =>
    rw [hd] at houtcome
    obtain ⟨reason, houtcome⟩ := houtcome
    rw [houtcome]
    exact ⟨rfl, rfl, rfl, rfl⟩
  | some d =>
    rw [hd] at houtcome
    rw [houtcome, applyRules_eq_collected]
    exact ⟨filename_of_document? hd, by simp, rfl, by simp⟩

theorem Yields.namesOwn {s : FileScan}
    (h : Yields rules (positionText position) (tree.document? root parser position) s) :
    s.NamesOwn where
  parseFailure := by
    intro f hf
    have hname : f.filename ∈ s.parseFailure.toList.map (·.filename) := List.mem_map_of_mem hf
    rw [h.parseFailure] at hname
    rw [h.filename]
    split at hname
    · exact List.mem_singleton.mp hname
    · cases hname
  ruleFailures := by
    intro f hf
    rw [h.ruleFailures] at hf
    obtain ⟨d, hd, hf⟩ := List.mem_flatMap.mp hf
    obtain ⟨r, -, hf⟩ := List.mem_filterMap.mp hf
    rw [h.filename, r.filename_of_failure? hf]
    exact filename_of_document? (Option.mem_toList.mp hd)

/-! ## Scanning all files -/

/-- The outcomes for all files below a root. -/
def outcomes (tree : Entry) (root : Path) (parser : Parser) (rules : List Checker) :
    List FileScan :=
  (discover tree root markdownExtensions).map (outcomeAt tree root parser rules)

/-- The record of the outcomes for all files below a root. -/
def record (tree : Entry) (root : Path) (parser : Parser) (rules : List Checker) : ScanResult :=
  .ofScans (outcomes tree root parser rules)

/-- What is discovered can be read, so that a scan comes to its end. -/
theorem scanFiles_eq_ok (htree : tree.WellFormed) (root : Path) (parser : Parser)
    (rules : List Checker) :
    scanFiles tree root parser rules = .ok (outcomes tree root parser rules) := by
  refine mapM_eq_ok fun p hp => ?_
  obtain ⟨content, hread⟩ := read_of_mem_discover htree hp
  rw [scanFile_eq_scanContent hread, outcomeAt_eq_scanContent hread]

theorem scan_eq_ok (htree : tree.WellFormed) (root : Path) (parser : Parser)
    (rules : List Checker) :
    scan tree root parser rules = .ok (record tree root parser rules) := by
  rw [scan, scanFiles_eq_ok htree]
  rfl

theorem yields_of_mem_discover (parser : Parser) (rules : List Checker) (htree : tree.WellFormed)
    (hp : position ∈ discover tree root markdownExtensions) :
    Yields rules (positionText position) (tree.document? root parser position)
      (outcomeAt tree root parser rules position) := by
  obtain ⟨content, hread⟩ := read_of_mem_discover htree hp
  exact yields_outcomeAt hread

/-- The names under which files are recorded are the texts of their positions. -/
theorem filenames_outcomes (htree : tree.WellFormed) (root : Path) (parser : Parser)
    (rules : List Checker) :
    (outcomes tree root parser rules).map (·.filename) =
      (discover tree root markdownExtensions).map positionText := by
  rw [outcomes, List.map_map]
  exact List.map_congr_left fun p hp => (yields_of_mem_discover parser rules htree hp).filename

theorem nodup_filenames_outcomes (htree : tree.WellFormed) (root : Path) (parser : Parser)
    (rules : List Checker) :
    ((outcomes tree root parser rules).map (·.filename)).Nodup := by
  rw [filenames_outcomes htree root parser rules, List.nodup_iff_pairwise_ne, List.pairwise_map]
  refine (pairwise_discover htree root markdownExtensions).imp ?_
  intro a b hlt heq
  exact String.lt_irrefl _ (heq ▸ hlt)

theorem record_eq_listed (htree : tree.WellFormed) (root : Path) (parser : Parser)
    (rules : List Checker) :
    record tree root parser rules = .listed (outcomes tree root parser rules) :=
  ScanResult.ofScans_eq (nodup_filenames_outcomes htree root parser rules)

/-- What is recorded of a file that is discovered is what scanning its bytes yields. -/
theorem entriesOf_record (htree : tree.WellFormed)
    (hp : position ∈ discover tree root markdownExtensions)
    (hread : tree.read (root ++ ⟨position⟩) = .ok content) :
    (record tree root parser rules).entriesOf (positionText position) =
      let s := scanContent parser rules content (positionText position)
      (if s.violations = [] then none else some s.violations, s.parseFailure.toList,
        s.ruleFailures) := by
  have hnames : ∀ s ∈ outcomes tree root parser rules, s.NamesOwn := by
    intro s hs
    obtain ⟨p, hp, rfl⟩ := List.mem_map.mp hs
    exact (yields_of_mem_discover parser rules htree hp).namesOwn
  have hentries := ScanResult.entriesOf_ofScans
    (nodup_filenames_outcomes htree root parser rules) hnames (List.mem_map_of_mem hp)
  rw [(yields_outcomeAt hread).filename, outcomeAt_eq_scanContent hread] at hentries
  exact hentries

/-- The entries of a record are those of the files with a document in which something is found. -/
theorem mem_violations_record (htree : tree.WellFormed) {name : String} {vs : List Violation} :
    (name, vs) ∈ (record tree root parser rules).violations ↔
      vs ≠ [] ∧ ∃ p ∈ discover tree root markdownExtensions, ∃ d,
        tree.document? root parser p = some d ∧ name = positionText p ∧
          vs = rules.flatMap (·.found d) := by
  rw [record_eq_listed htree root parser rules, ScanResult.mem_violations_listed]
  constructor
  · rintro ⟨hne, s, hs, rfl, rfl⟩
    obtain ⟨p, hp, rfl⟩ := List.mem_map.mp hs
    have hyields := yields_of_mem_discover parser rules htree hp
    refine ⟨hne, p, hp, ?_⟩
    rw [hyields.violations] at hne ⊢
    cases hd : tree.document? root parser p with
    | none => simp [hd] at hne
    | some d => exact ⟨d, rfl, hyields.filename, by simp⟩
  · rintro ⟨hne, p, hp, d, hd, rfl, rfl⟩
    have hyields := yields_of_mem_discover parser rules htree hp
    refine ⟨hne, _, List.mem_map_of_mem hp, hyields.filename, ?_⟩
    rw [hyields.violations, hd]
    simp

/-- What is collected from the outcomes for all files, told file by file. -/
theorem flatMap_outcomes {α : Type} {g : FileScan → List α} {h : List String → List α}
    (hgh : ∀ p ∈ discover tree root markdownExtensions,
      g (outcomeAt tree root parser rules p) = h p) :
    (outcomes tree root parser rules).flatMap g =
      (discover tree root markdownExtensions).flatMap h := by
  rw [outcomes, List.flatMap_map, List.flatMap_def, List.flatMap_def, List.map_congr_left hgh]

theorem flatMap_singleton_if {α β : Type} (l : List α) (p : α → Bool) (f : α → β) :
    (l.flatMap fun a => if p a then [f a] else []) = (l.filter p).map f := by
  induction l with
  | nil => rfl
  | cons a l ih => cases h : p a <;> simp [h, ih]

theorem parseFailures_record (htree : tree.WellFormed) (root : Path) (parser : Parser)
    (rules : List Checker) :
    (record tree root parser rules).parseFailures.map (·.filename) =
      ((discover tree root markdownExtensions).filter fun p =>
        (tree.document? root parser p).isNone).map positionText := by
  rw [record_eq_listed htree root parser rules, ← flatMap_singleton_if]
  show ((outcomes tree root parser rules).flatMap fun s => s.parseFailure.toList).map _ = _
  rw [List.map_flatMap]
  exact flatMap_outcomes fun p hp => (yields_of_mem_discover parser rules htree hp).parseFailure

theorem ruleFailures_record (htree : tree.WellFormed) (root : Path) (parser : Parser)
    (rules : List Checker) :
    (record tree root parser rules).ruleFailures =
      (discover tree root markdownExtensions).flatMap fun p =>
        (tree.document? root parser p).toList.flatMap fun d => rules.filterMap (·.failure? d) := by
  rw [record_eq_listed htree root parser rules]
  exact flatMap_outcomes fun p hp => (yields_of_mem_discover parser rules htree hp).ruleFailures

/-- Files below a root are told apart by the texts of their positions. -/
theorem eq_of_positionText_eq (htree : tree.WellFormed) {p q : List String}
    (hp : p ∈ discover tree root markdownExtensions)
    (hq : q ∈ discover tree root markdownExtensions) (h : positionText p = positionText q) :
    p = q := by
  obtain ⟨-, -, -, -, -, ⟨parent, name, rfl, -⟩, hpnames⟩ := leadsTo_of_mem_discover htree hp
  obtain ⟨-, -, -, -, -, ⟨parent', name', rfl, -⟩, hqnames⟩ := leadsTo_of_mem_discover htree hq
  exact positionText_injective (by simp) (by simp) hpnames hqnames h

/-- What a scan of the files below a root tells. -/
structure Accounts (tree : Entry) (root : Path) (parser : Parser) (rules : List Checker)
    (r : ScanResult) : Prop where
  /-- Every file is counted. -/
  fileCount : r.fileCount = (discover tree root markdownExtensions).length
  /-- The files without a document, in order. Each of them can be read, but its bytes are no UTF-8
  or the parser rejects the text. -/
  parseFailures : r.parseFailures.map (·.filename) =
    ((discover tree root markdownExtensions).filter fun p =>
      (tree.document? root parser p).isNone).map positionText
  unparsed : ∀ p ∈ discover tree root markdownExtensions, ∃ content,
    tree.read (root ++ ⟨p⟩) = .ok content ∧
      (tree.document? root parser p = none ↔ Unparsed parser content)
  /-- Nothing else is told of such a file. -/
  skipped : ∀ p ∈ discover tree root markdownExtensions, tree.document? root parser p = none →
    positionText p ∉ r.violations.map Prod.fst ∧ ∀ f ∈ r.ruleFailures, f.filename ≠ positionText p
  /-- The files with violations, in the order of their texts and each of them once. -/
  ascending : (r.violations.map Prod.fst).Pairwise (· < ·)
  /-- They are the files with a document in which the rules that do not fail find something, and
  have what these rules find, rule by rule. -/
  violations : ∀ name vs, (name, vs) ∈ r.violations ↔
    vs ≠ [] ∧ ∃ p ∈ discover tree root markdownExtensions, ∃ d,
      tree.document? root parser p = some d ∧ name = positionText p ∧
        vs = rules.flatMap (·.found d)
  /-- The rules that fail, file by file. -/
  ruleFailures : r.ruleFailures = (discover tree root markdownExtensions).flatMap fun p =>
    (tree.document? root parser p).toList.flatMap fun d => rules.filterMap (·.failure? d)
  /-- The number of violations is that of all files together. -/
  total : r.total = (r.violations.map fun f => f.2.length).sum

theorem accounts_record (htree : tree.WellFormed) (root : Path) (parser : Parser)
    (rules : List Checker) : Accounts tree root parser rules (record tree root parser rules) where
  fileCount := by
    rw [record_eq_listed htree root parser rules]
    exact List.length_map _
  parseFailures := parseFailures_record htree root parser rules
  unparsed := by
    intro p hp
    obtain ⟨content, hread⟩ := read_of_mem_discover htree hp
    exact ⟨content, hread, document?_eq_none hread⟩
  skipped := by
    intro p hp hnone
    constructor
    · intro hkey
      obtain ⟨⟨name, vs⟩, hentry, rfl⟩ := List.mem_map.mp hkey
      obtain ⟨-, q, hq, d, hd, hname, -⟩ := (mem_violations_record htree).mp hentry
      obtain rfl := eq_of_positionText_eq htree hp hq hname
      rw [hnone] at hd
      cases hd
    · intro f hf hname
      rw [ruleFailures_record htree] at hf
      obtain ⟨q, hq, hf⟩ := List.mem_flatMap.mp hf
      obtain ⟨d, hd, hf⟩ := List.mem_flatMap.mp hf
      obtain ⟨r, -, hf⟩ := List.mem_filterMap.mp hf
      have hd : tree.document? root parser q = some d := Option.mem_toList.mp hd
      rw [r.filename_of_failure? hf, filename_of_document? hd] at hname
      obtain rfl := eq_of_positionText_eq htree hq hp hname
      rw [hnone] at hd
      cases hd
  ascending := by
    rw [record_eq_listed htree root parser rules]
    refine List.Pairwise.sublist (ScanResult.keys_listed _) ?_
    rw [filenames_outcomes htree root parser rules, List.pairwise_map]
    exact pairwise_discover htree root markdownExtensions
  violations _ _ := mem_violations_record htree
  ruleFailures := ruleFailures_record htree root parser rules
  total := by
    rw [ScanResult.total, List.length_flatMap]

/-- A scan accounts for every file below its root, and what it records of a file is the same for
every tree in which the file is discovered with the same bytes. -/
theorem scan_accounts (htree : tree.WellFormed) (root : Path) (parser : Parser)
    (rules : List Checker) :
    ∃ r, scan tree root parser rules = .ok r ∧ Accounts tree root parser rules r ∧
      ∀ (tree' : Entry) (root' : Path) (position : List String) (content : ByteArray),
        tree'.WellFormed → position ∈ discover tree root markdownExtensions →
        position ∈ discover tree' root' markdownExtensions →
        tree.read (root ++ ⟨position⟩) = .ok content →
        tree'.read (root' ++ ⟨position⟩) = .ok content →
        ∃ r', scan tree' root' parser rules = .ok r' ∧
          r.entriesOf (positionText position) = r'.entriesOf (positionText position) := by
  refine ⟨_, scan_eq_ok htree root parser rules, accounts_record htree root parser rules, ?_⟩
  intro tree' root' position content htree' hp hp' hread hread'
  refine ⟨_, scan_eq_ok htree' root' parser rules, ?_⟩
  rw [entriesOf_record htree hp hread, entriesOf_record htree' hp' hread']

/-- A file with a tab, one that is no UTF-8, one that is empty, and one that is left out. -/
def mixedFiles : Entry :=
  .folder [("b.md", .file ⟨#[0xff]⟩), ("a.md", .file "a\tb".toUTF8),
    ("build", .folder [("c.md", .file "c\t".toUTF8)]), ("d.md", .file "".toUTF8)]

theorem wellFormed_mixedFiles : mixedFiles.WellFormed := by
  refine .folder (by decide) (by decide) ?_
  simp only [List.forall_mem_cons]
  refine ⟨.file _, .file _, .folder (by decide) (by decide) ?_, .file _, by simp⟩
  simp only [List.forall_mem_cons]
  exact ⟨.file _, by simp⟩

/-- The file with a tab alone, in a folder. -/
def nestedFile : Entry := .folder [("docs", .folder [("a.md", .file "a\tb".toUTF8)])]

/-- A parser that rejects empty texts. -/
def nonemptyParser : Parser := fun text =>
  if text.isEmpty then .error ⟨"ValueError", "empty text"⟩ else .ok [.mk .paragraph ⟨0, 1⟩ []]

/-- A rule that always fails, before one that looks for tabs. -/
def failingThenTabs : List Checker :=
  [⟨"FailingRule", fun _ => .error (.raised "RuntimeError" "failed")⟩,
    ⟨CheckKind.hardTabs.name, Check.hardTabs.visit⟩]

theorem scan_accounts_mixedFiles :
    mixedFiles.WellFormed ∧ nestedFile.WellFormed ∧
      ∃ r r', scan mixedFiles ⟨[]⟩ nonemptyParser failingThenTabs = .ok r ∧
        scan nestedFile ⟨["docs"]⟩ nonemptyParser failingThenTabs = .ok r' ∧
        Accounts mixedFiles ⟨[]⟩ nonemptyParser failingThenTabs r ∧
        r.entriesOf (positionText ["a.md"]) = r'.entriesOf (positionText ["a.md"]) := by
  have hnested : nestedFile.WellFormed := by
    refine .folder (by decide) (by decide) ?_
    simp only [List.forall_mem_cons]
    refine ⟨.folder (by decide) (by decide) ?_, by simp⟩
    simp only [List.forall_mem_cons]
    exact ⟨.file _, by simp⟩
  have hext : hasExtension markdownExtensions "a.md" = true := by decide
  have hleads : nestedFile.LeadsTo ⟨["docs"]⟩ ["docs"] :=
    .down (by decide) (by decide) (.stay _)
  have hp : ["a.md"] ∈ discover mixedFiles ⟨[]⟩ markdownExtensions :=
    mem_discover.mpr ⟨[], mixedFiles, .stay _, rfl, by
      simp [mixedFiles, Entry.filesBelow, Entry.filesIn, hext]⟩
  have hp' : ["a.md"] ∈ discover nestedFile ⟨["docs"]⟩ markdownExtensions :=
    mem_discover.mpr ⟨["docs"], _, hleads, rfl, by simp [Entry.filesBelow, Entry.filesIn, hext]⟩
  obtain ⟨r, hscan, haccounts, hsame⟩ :=
    scan_accounts wellFormed_mixedFiles ⟨[]⟩ nonemptyParser failingThenTabs
  obtain ⟨r', hscan', heq⟩ := hsame nestedFile ⟨["docs"]⟩ ["a.md"] _ hnested hp hp' rfl rfl
  exact ⟨wellFormed_mixedFiles, hnested, r, r', hscan, hscan', haccounts, heq⟩

end MarkdownLint
