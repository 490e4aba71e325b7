import MarkdownLint.Markdown.Block
import MarkdownLint.Text.Blank

/-!
What containers put in front of a line. A quote marks each of its lines and a list item the first of
its lines; on the other lines of an item there is room for indentation, and a list by itself puts
nothing there. A line that `Leads` to its rest carries all this, from the outermost container to the
innermost one.
-/
namespace MarkdownLint.Markdown

/-- Spaces and tabs only. -/
def IsIndentation (w : List Char) : Prop := ∀ c ∈ w, Text.isIndent c = true

instance (w : List Char) : Decidable (IsIndentation w) :=
  List.decidableBAll (fun c => Text.isIndent c = true) w

/-- What marks a list item: a bullet, or up to nine digits with a delimiter. -/
inductive IsItemMark : List Char → Prop where
  | bullet {c : Char} : c ∈ ['-', '*', '+'] → IsItemMark [c]
  | number {digits : List Char} {e : Char} : 1 ≤ digits.length → digits.length ≤ 9 →
      (∀ c ∈ digits, c.isDigit = true) → e ∈ ['.', ')'] → IsItemMark (digits ++ [e])

/-- What a container puts on line `i` in front of the rest of the line. The mark of a list item is
set off from the rest. -/
inductive Lead (i : Nat) (container : Label) : List Char → List Char → Prop where
  | quote {w rest : List Char} : container.kind = .quote → IsIndentation w →
      Lead i container (w ++ ['>']) rest
  | item {w mark rest : List Char} {c : Char} : container.kind = .listItem →
      container.span.first = i → IsIndentation w → IsItemMark mark → rest.head? = some c →
      Text.isIndent c = true → Lead i container (w ++ mark) rest
  | insideItem {w rest : List Char} : container.kind = .listItem → container.span.first ≠ i →
      IsIndentation w → Lead i container w rest
  | list {rest : List Char} : container.kind = .bulletList ∨ container.kind = .orderedList →
      Lead i container [] rest

/-- Line `i` carries what some containers, outermost first, put in front of the rest of it. -/
inductive Leads (i : Nat) : List Label → List Char → List Char → Prop where
  | done {rest : List Char} : Leads i [] rest rest
  | next {container : Label} {inner : List Label} {lead line rest : List Char} :
      Lead i container lead line → Leads i inner line rest →
      Leads i (container :: inner) (lead ++ line) rest

theorem IsIndentation.nil : IsIndentation [] := by
  intro c hc
  cases hc

theorem IsIndentation.append {v w : List Char} (hv : IsIndentation v) (hw : IsIndentation w) :
    IsIndentation (v ++ w) := by
  intro c hc
  rcases List.mem_append.mp hc with hc | hc
  · exact hv c hc
  · exact hw c hc

theorem isBlank_of_isIndent {c : Char} (h : Text.isIndent c = true) : Text.isBlank c = true := by
  simp only [Text.isIndent, Bool.or_eq_true, beq_iff_eq] at h
  rcases h with rfl | rfl <;> rfl

/-- A container inside the others. -/
theorem Leads.concat {i : Nat} {around : List Label} {line lead rest : List Char}
    {container : Label} (h : Leads i around line (lead ++ rest))
    (hlead : Lead i container lead rest) :
    Leads i (around ++ [container]) line rest := by
  generalize hmiddle : lead ++ rest = middle at h
  induction h with
  | done =>
    rw [← hmiddle]
    exact .next hlead .done
  | next houter _ ih => exact .next houter (ih hmiddle)

end MarkdownLint.Markdown
