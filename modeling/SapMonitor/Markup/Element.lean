/-!
# Element trees

A document is a tree of elements with a local name, the text of the element
itself and its child elements in document order.

Main results:

- `Element.find?_self`: the search includes the element it starts from.
-/

namespace SapMonitor.Markup

/-- An element: its local name, its own text and its children. -/
inductive Element where
  | mk (name : String) (text : String) (children : List Element)
  deriving Inhabited

namespace Element

/-- The local name. -/
def name : Element → String
  | mk n _ _ => n

/-- The element's own text. -/
def text : Element → String
  | mk _ t _ => t

/-- The child elements in document order. -/
def children : Element → List Element
  | mk _ _ cs => cs

@[simp] theorem name_mk (n t : String) (cs : List Element) : (mk n t cs).name = n := rfl

@[simp] theorem text_mk (n t : String) (cs : List Element) : (mk n t cs).text = t := rfl

@[simp] theorem children_mk (n t : String) (cs : List Element) : (mk n t cs).children = cs := rfl

/-- The first child with the name. -/
def child? (e : Element) (name : String) : Option Element :=
  e.children.find? fun c => c.name == name

/-- The text of the first child with the name, empty without such a child. -/
def textAt (e : Element) (name : String) : String :=
  match e.child? name with
  | some c => c.text
  | none => ""

/-- The children called `item` of the first child with the name. -/
def items (e : Element) (list : String) : List Element :=
  match e.child? list with
  | some l => l.children.filter fun c => c.name == "item"
  | none => []

mutual

/-- The first element with the name in document order, the element itself
included. -/
def find? (name : String) : Element → Option Element
  | mk n t cs => if n == name then some (mk n t cs) else findIn? name cs

/-- The first element with the name in a list of trees. -/
def findIn? (name : String) : List Element → Option Element
  | [] => none
  | c :: cs => (find? name c).or (findIn? name cs)

end

/-- The search includes the element it starts from. -/
theorem find?_self (n t : String) (cs : List Element) :
    find? n (mk n t cs) = some (mk n t cs) := by
  simp [find?]

end Element

end SapMonitor.Markup
