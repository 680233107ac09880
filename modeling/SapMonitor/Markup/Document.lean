import SapMonitor.Markup.Element
import SapMonitor.Markup.Event
import SapMonitor.Markup.Reference

/-!
# From markup events to a tree

The events of a document are folded over a stack of open elements.  Text and
verbatim sections join the text of the innermost open element, and are ignored
outside of every element.  Of several top-level elements the last one is the
document.

Main results:

- `Builder.add_stop_of_open` and `Builder.add_text_outside` are the two rules
  of the fold that the shape of the tree rests on.
-/

namespace SapMonitor.Markup

/-- What can be wrong with a document. -/
inductive DocumentError where
  | markup (cause : MarkupError)
  | unclosed (name : String)
  | unopened
  | empty
  deriving DecidableEq

/-- The wording of the faults of a document that its markup does not show. -/
def DocumentError.message : DocumentError → String
  | markup cause => cause.message
  | unclosed name => "document ended inside <" ++ name ++ ">"
  | unopened => "unexpected closing tag"
  | empty => "empty document"

/-- An element that is still open; its children are held last first. -/
structure Frame where
  name : String
  text : String
  children : List Element

/-- The finished element. -/
def Frame.close (f : Frame) : Element :=
  .mk f.name f.text f.children.reverse

/-- The open elements, innermost first, and the last finished top-level
element. -/
structure Builder where
  frames : List Frame
  root : Option Element

namespace Builder

/-- The builder before the first event. -/
def empty : Builder :=
  { frames := [], root := none }

/-- A finished element joins the innermost open one, or becomes the
document. -/
def attach (b : Builder) (e : Element) : Builder :=
  match b.frames with
  | [] => { b with root := some e }
  | f :: rest => { b with frames := { f with children := e :: f.children } :: rest }

/-- Text joins the innermost open element. -/
def addText (b : Builder) (cs : List Char) : Builder :=
  match b.frames with
  | [] => b
  | f :: rest => { b with frames := { f with text := f.text ++ String.ofList cs } :: rest }

/-- The builder after one more event. -/
def add (b : Builder) : Event → Except DocumentError Builder
  | .start name =>
    .ok { b with frames := ⟨String.ofList (localName name), "", []⟩ :: b.frames }
  | .empty name => .ok (b.attach (.mk (String.ofList (localName name)) "" []))
  | .stop =>
    match b.frames with
    | [] => .error .unopened
    | f :: rest => .ok ({ b with frames := rest }.attach f.close)
  | .text raw =>
    match b.frames with
    | [] => .ok b
    | _ :: _ =>
      match resolve raw with
      | .ok cs => .ok (b.addText cs)
      | .error cause => .error (.markup (.reference cause))
  | .verbatim raw => .ok (b.addText raw)

/-- An end tag finishes the innermost open element. -/
theorem add_stop_of_open {b : Builder} {f : Frame} {rest : List Frame}
    (h : b.frames = f :: rest) :
    b.add .stop = .ok ({ b with frames := rest }.attach f.close) := by
  simp [add, h]

/-- Text outside of every element is ignored, faulty references included. -/
theorem add_text_outside {b : Builder} (h : b.frames = []) (raw : List Char) :
    b.add (.text raw) = .ok b := by
  simp [add, h]

/-- The builder after a list of events. -/
def addAll (b : Builder) : List Event → Except DocumentError Builder
  | [] => .ok b
  | e :: es =>
    match b.add e with
    | .ok b => b.addAll es
    | .error cause => .error cause

/-- The document, once every event has been taken. -/
def finish (b : Builder) : Except DocumentError Element :=
  match b.frames, b.root with
  | f :: _, _ => .error (.unclosed f.name)
  | [], some e => .ok e
  | [], none => .error .empty

end Builder

/-- The tree of a document.  Whatever precedes a fault is accepted, so the
first fault in reading order is reported. -/
def readDocument (cs : List Char) : Except DocumentError Element :=
  match readEvents cs with
  | (events, fault) =>
    match Builder.empty.addAll events with
    | .error cause => .error cause
    | .ok b =>
      match fault with
      | some cause => .error (.markup cause)
      | none => b.finish

end SapMonitor.Markup
