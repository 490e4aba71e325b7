import MarkdownLint.Calendar
import MarkdownLint.Decimal.Shortest
import MarkdownLint.Text.Integer

/-!
Untyped values, as configurations hold them before they are understood: scalars, lists, and mappings
whose keys are scalars and whose entries are ordered.
-/
namespace MarkdownLint

open Decimal (Binary64)

/-- A value without parts. -/
inductive Scalar where
  | null
  | bool (b : Bool)
  | int (n : Int)
  | float (x : Binary64)
  | text (s : String)
  | date (d : Date)
  | moment (m : Moment)
deriving Repr, DecidableEq

/-- An untyped value. -/
inductive Value where
  | scalar (s : Scalar)
  | list (items : List Value)
  | map (entries : List (Scalar × Value))
deriving Repr, Inhabited

namespace Scalar

/-- A scalar as it stands in messages and inside lists and mappings. -/
def quoted : Scalar → String
  | null => "None"
  | bool b => if b then "True" else "False"
  | int n => toString n
  | float x => x.text
  | text s => Text.quoted s
  | date d => d.quoted
  | moment m => m.quoted

/-- A scalar as text: a text is itself. -/
def display : Scalar → String
  | text s => s
  | date d => d.text
  | moment m => m.text
  | s => s.quoted

/-- The most digits with which an integer is written out. -/
def maxDigits : Nat := Text.maxDigits

/-- Whether a scalar is written out. An integer with too many digits is not. -/
def isWritable : Scalar → Bool
  | int n => n.natAbs < Nat.pow 10 maxDigits
  | _ => true

/-- The number that a scalar counts as; truth values count as zero and one. -/
def number? : Scalar → Option Int
  | bool b => some (if b then 1 else 0)
  | int n => some n
  | float x => x.toInt?
  | _ => none

/-- Whether two scalars are the same key: numbers are compared by value, moments by the instant they
denote. -/
def sameKey : Scalar → Scalar → Bool
  | float x, float y => x == y || x.eq y
  | moment m, moment n => m.zone.isSome == n.zone.isSome && m.instant == n.instant
  | a, b => a == b || match a.number?, b.number? with
    | some m, some n => m == n
    | _, _ => false

/-- Whether a scalar counts as true. -/
def isTrue : Scalar → Bool
  | null => false
  | bool b => b
  | int n => n != 0
  | float x => !x.isZero
  | text s => !s.isEmpty
  | date _ => true
  | moment _ => true

/-- The name of a scalar's type. -/
def typeName : Scalar → String
  | null => "NoneType"
  | bool _ => "bool"
  | int _ => "int"
  | float _ => "float"
  | text _ => "str"
  | date _ => "datetime.date"
  | moment _ => "datetime.datetime"

end Scalar

namespace Value

/-- Nothing. -/
def null : Value := .scalar .null

/-- A truth value. -/
def bool (b : Bool) : Value := .scalar (.bool b)

/-- An integer. -/
def int (n : Int) : Value := .scalar (.int n)

/-- A text. -/
def text (s : String) : Value := .scalar (.text s)

/-- Whether a value counts as true: empty lists and mappings do not. -/
def isTrue : Value → Bool
  | scalar s => s.isTrue
  | list items => !items.isEmpty
  | map entries => !entries.isEmpty

mutual

/-- A value as it stands in messages. -/
def quoted : Value → String
  | scalar s => s.quoted
  | list items => "[" ++ ", ".intercalate (quotedItems items) ++ "]"
  | map entries => "\x7b" ++ ", ".intercalate (quotedEntries entries) ++ "\x7d"

/-- The items of a list, each as it stands in messages. -/
def quotedItems : List Value → List String
  | [] => []
  | v :: vs => v.quoted :: quotedItems vs

/-- The entries of a mapping, each as it stands in messages. -/
def quotedEntries : List (Scalar × Value) → List String
  | [] => []
  | (k, v) :: rest => (k.quoted ++ ": " ++ v.quoted) :: quotedEntries rest

end

mutual

/-- Whether a value is written out, with all that it holds. -/
def isWritable : Value → Bool
  | scalar s => s.isWritable
  | list items => areWritable items
  | map entries => entriesWritable entries

/-- Whether the items of a list are written out. -/
def areWritable : List Value → Bool
  | [] => true
  | v :: vs => v.isWritable && areWritable vs

/-- Whether the entries of a mapping are written out. -/
def entriesWritable : List (Scalar × Value) → Bool
  | [] => true
  | (k, v) :: rest => k.isWritable && v.isWritable && entriesWritable rest

end

/-- A value as text: a text is itself. -/
def display : Value → String
  | scalar s => s.display
  | v => v.quoted

/-- The value of a key in the entries of a mapping. -/
def lookup (key : String) (entries : List (Scalar × Value)) : Option Value :=
  (entries.find? fun e => e.1 == .text key).map (·.2)

/-- Puts an entry into a mapping: a key that is there keeps its place. -/
def insert (entries : List (Scalar × Value)) (key : Scalar) (value : Value) :
    List (Scalar × Value) :=
  match entries with
  | [] => [(key, value)]
  | e :: rest => if e.1.sameKey key then (e.1, value) :: rest else e :: insert rest key value

/-- The mapping with the given entries, the last of those with the same key in the place of the
first. -/
def ofEntries (entries : List (Scalar × Value)) : Value :=
  .map (entries.foldl (fun m e => insert m e.1 e.2) [])

end Value

end MarkdownLint
