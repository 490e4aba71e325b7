/-!
Lists of named values, in the order in which the names were first given.
-/
namespace MarkdownLint.Association

/-- Sets the value of a name: a name that is there keeps its place. -/
def assign {α : Type} (entries : List (String × α)) (name : String) (value : α) :
    List (String × α) :=
  match entries with
  | [] => [(name, value)]
  | e :: rest => if e.1 == name then (name, value) :: rest else e :: assign rest name value

end MarkdownLint.Association
