import MarkdownLint.Proofs.Lists
import MarkdownLint.Proofs.Report.Marks
import MarkdownLint.Proofs.Text.Integer
import MarkdownLint.Report.Html

/-!
Looking at a page from outside: sections, rows and cells are found by the markup in front of them
(`sections`, `ruleTables`, `cells`), and the escapes in them are undone. Undoing gives back what was
escaped (`valueUpTo_escape`), and an escaped text holds no markup (`not_mem_escape`).
-/
namespace MarkdownLint.Html

/-! ## Looking at a page -/

/-- A text with the five escapes undone. -/
def unescape : List Char → List Char
  | [] => []
  | '&' :: 'a' :: 'm' :: 'p' :: ';' :: cs => '&' :: unescape cs
  | '&' :: 'l' :: 't' :: ';' :: cs => '<' :: unescape cs
  | '&' :: 'g' :: 't' :: ';' :: cs => '>' :: unescape cs
  | '&' :: '#' :: '3' :: '9' :: ';' :: cs => '\'' :: unescape cs
  | '&' :: '#' :: '3' :: '4' :: ';' :: cs => '"' :: unescape cs
  | c :: cs => c :: unescape cs

/-- What is written up to the character that ends it. -/
def valueUpTo (stop : Char) (text : List Char) : String :=
  String.ofList (unescape (text.takeWhile (· != stop)))

/-- What the cells with the given tag show. -/
def cells (tag : String) (text : List Char) : List String :=
  (behind tag text).map (valueUpTo '<')

/-- What the rows of violations in a section show, cell by cell. -/
def rows (part : List Char) : List (List String) :=
  (behind "<tr class=\"error-row\">" part).map (cells "<td>")

/-- The sections of a page: the name of the file, and the rows. -/
def sections (page : List Char) : List (String × List (List String)) :=
  (behind "<h3 class=\"file\" data-file=\"" page).map fun part => (valueUpTo '"' part, rows part)

/-- What the tables of rules show, row by row; they stand before the list of files. -/
def ruleTables (page : List Char) : List (List (List String)) :=
  (behind "<h3>Rules" page).map fun part =>
    (behind "<tr>" (before "<h3>Files" part)).map (cells "<td>")

/-! ## Escapes -/

theorem toList_escape (s : String) : (escape s).toList = s.toList.flatMap escapeChar :=
  String.toList_ofList

theorem unescape_cons {c : Char} (hc : c ≠ '&') (cs : List Char) :
    unescape (c :: cs) = c :: unescape cs := by
  rw [unescape] <;> rintro ds rfl <;> exact absurd rfl hc

theorem unescape_escapeChar (c : Char) (cs : List Char) :
    unescape (escapeChar c ++ cs) = c :: unescape cs := by
  unfold escapeChar
  split
  · rfl
  · rfl
  · rfl
  · rfl
  · rfl
  · rename_i hamp _ _ _ _
    exact unescape_cons hamp cs

/-- The escapes of a text are undone. -/
theorem unescape_escape (s : String) : unescape (escape s).toList = s.toList := by
  rw [toList_escape]
  induction s.toList with
  | nil => rfl
  | cons c cs ih => rw [List.flatMap_cons, unescape_escapeChar, ih]

/-- The characters that are escaped. -/
def specials : List Char := ['&', '<', '>', '\'', '"']

theorem escapeChar_eq_self {c : Char} (hc : c ∉ specials) : escapeChar c = [c] := by
  unfold escapeChar
  split
  case h_6 => rfl
  all_goals exact absurd (by decide) hc

/-- An escaped text has no character with a meaning in markup, ampersands apart. -/
theorem not_mem_escape {c : Char} (hc : c ∈ ['<', '>', '"', '\'']) (s : String) :
    c ∉ (escape s).toList := by
  rw [toList_escape]
  intro h
  obtain ⟨d, -, hd⟩ := List.mem_flatMap.mp h
  by_cases hspecial : d ∈ specials
  · have hwritten : ∀ d ∈ specials, (['<', '>', '"', '\''].all fun c =>
        decide (c ∉ escapeChar d)) = true := forall_mem_of_all (by decide)
    exact forall_mem_of_all (hwritten d hspecial) c hc hd
  · rw [escapeChar_eq_self hspecial, List.mem_singleton] at hd
    have hall : ∀ c ∈ ['<', '>', '"', '\''], c ∈ specials := forall_mem_of_all (by decide)
    exact hspecial (hd ▸ hall c hc)

/-- A value is found up to the character that ends it. -/
theorem valueUpTo_escape {stop : Char} (hstop : stop ∈ ['<', '>', '"', '\'']) (s : String)
    (rest : List Char) : valueUpTo stop ((escape s).toList ++ stop :: rest) = s := by
  have htake : ((escape s).toList ++ stop :: rest).takeWhile (· != stop) = (escape s).toList := by
    have hne : ∀ c ∈ (escape s).toList, (c != stop) = true := by
      intro c hc
      rw [bne_iff_ne]
      rintro rfl
      exact not_mem_escape hstop s hc
    rw [List.takeWhile_append_of_pos hne, List.takeWhile_cons_of_neg (by simp), List.append_nil]
  rw [valueUpTo, htake, unescape_escape, String.ofList_toList]

/-- Numbers are written as they are. -/
theorem escape_toString (n : Int) : escape (toString n) = toString n := by
  have hplain : ∀ c ∈ (toString n).toList, escapeChar c = [c] := by
    intro c hc
    apply escapeChar_eq_self
    intro hspecial
    have hnumeric : ∀ c ∈ specials, Text.isNumeric c = false := forall_mem_of_all (by decide)
    exact absurd (Text.isNumeric_of_mem_toString hc) (by simp [hnumeric c hspecial])
  have hself : ∀ cs : List Char, (∀ c ∈ cs, escapeChar c = [c]) → cs.flatMap escapeChar = cs := by
    intro cs hcs
    induction cs with
    | nil => rfl
    | cons c cs ih =>
      rw [List.flatMap_cons, hcs c (by simp), ih fun d hd => hcs d (by simp [hd])]
      rfl
  rw [escape, hself _ hplain, String.ofList_toList]

theorem escape_toString_nat (n : Nat) : escape (toString n) = toString n := escape_toString n

end MarkdownLint.Html
