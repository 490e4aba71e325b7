/-!
Elements of an XML document. Text between elements is not kept.
-/
namespace MarkdownLint.Xml

/-- An element: its name, its attributes and the elements inside it. -/
inductive Element where
  | mk (name : String) (attributes : List (String × String)) (children : List Element)

namespace Element

/-- The name of an element; one with a namespace stands in braces before the local name. -/
def name : Element → String
  | mk n _ _ => n

/-- The attributes of an element. -/
def attributes : Element → List (String × String)
  | mk _ as _ => as

/-- The value of an attribute. -/
def get? (e : Element) (key : String) : Option String := e.attributes.lookup key

mutual

/-- The elements with a given name at and inside an element, in document order. -/
def named (key : String) : Element → List Element
  | mk n as children =>
    let inner := namedIn key children
    if n == key then mk n as children :: inner else inner

/-- The elements with a given name at and inside those of a list, in document order. -/
def namedIn (key : String) : List Element → List Element
  | [] => []
  | e :: rest => e.named key ++ namedIn key rest

end

end Element

end MarkdownLint.Xml
