import SapMonitor.Yaml.Node
import SapMonitor.Yaml.Scalar

/-!
# Anchors, tags and directives of YAML

Before a node may stand an anchor, which names it, and a tag.  Directives before
a document state its version and declare handles of tags.
-/

namespace SapMonitor.Yaml

/-! ## Names -/

/-- The characters of the name of an anchor, a handle or a directive. -/
def isNameChar (c : Char) : Bool :=
  c.isAlphanum || c = '_' || c = '-'

/-- The characters of a tag after its handle. -/
def isTagChar (c : Char) : Bool :=
  isNameChar c || ";/?:@&=+$.!~*'()".toList.contains c

/-- The characters of a whole tag and of the text that a handle stands for. -/
def isUriChar (c : Char) : Bool :=
  isTagChar c || [',', '[', ']'].contains c

/-- The name of an anchor or of a mention, after its indicator. -/
def anchorName? (c : Cursor) : Option (String × Cursor) :=
  let name := c.rest.takeWhile isNameChar
  let after := c.advance name.length
  let ended := atGap after.rest ||
    (after.rest.head?.map fun d => ['?', ':', ',', ']', '\x7d', '%', '@', '\x60'].contains d).getD
      false
  if name.isEmpty || !ended then none else some (String.ofList name, after)

/-- The handle of a tag, after its indicator.  The whole tag is passed. -/
def tagHandle? (flow : Bool) (c : Cursor) : Option (String × Cursor) :=
  let found : Option (String × Cursor) :=
    match c.rest with
    | '<' :: rest =>
      let uri := rest.takeWhile isUriChar
      if uri.isEmpty || (rest.drop uri.length).head? != some '>' then none
      else some ("!", c.advance (uri.length + 2))
    | rest =>
      let name := rest.takeWhile isNameChar
      match rest.drop name.length with
      | '!' :: more =>
        let suffix := more.takeWhile isTagChar
        if suffix.isEmpty then none
        else some ("!" ++ String.ofList name ++ "!", c.advance (name.length + 1 + suffix.length))
      | more => some ("!", c.advance (name.length + (more.takeWhile isTagChar).length))
  found.filter fun (_, after) => atGap after.rest || flow && after.rest.head? = some ','

/-! ## Properties -/

/-- What stands before a node: the name of its anchor and the handle of its
tag. -/
structure Properties where
  anchor : Option String
  handle : Option String

namespace Properties

/-- No properties. -/
def none : Properties := ⟨.none, .none⟩

/-- Whether there are no properties. -/
def isNone (p : Properties) : Bool :=
  p.anchor.isNone && p.handle.isNone

/-- The properties of both; a node has at most one anchor and one tag. -/
def join? (p q : Properties) : Option Properties :=
  if p.anchor.isSome && q.anchor.isSome || p.handle.isSome && q.handle.isSome then .none
  else some ⟨p.anchor.or q.anchor, p.handle.or q.handle⟩

/-- The node with its properties; a mention has none of its own. -/
def attach? (p : Properties) (d : Draft) : Option Draft :=
  match d with
  | .mention _ => if p.isNone then some d else .none
  | _ =>
    let d := match p.handle with
      | some handle => .tagged handle d
      | .none => d
    some (match p.anchor with
      | some name => .anchored name d
      | .none => d)

end Properties

/-- Whether an anchor or a tag begins here. -/
def atProperty : List Char → Bool
  | '&' :: _ => true
  | '!' :: _ => true
  | _ => false

/-- The property that begins here. -/
def property? (flow : Bool) (c : Cursor) : Option (Properties × Cursor) :=
  match c.rest with
  | '&' :: _ => (anchorName? (c.advance 1)).map fun (name, after) => (⟨some name, none⟩, after)
  | '!' :: _ => (tagHandle? flow (c.advance 1)).map fun (handle, after) =>
      (⟨none, some handle⟩, after)
  | _ => none

/-- The properties that begin here and follow one another on the line. -/
def propertyRun? (c : Cursor) : Option (Properties × Cursor) := do
  let (p, c) ← property? false c
  let c := c.skipBlanks
  if atProperty c.rest then
    let (q, c) ← property? false c
    return (← p.join? q, c.skipBlanks)
  else return (p, c)

/-! ## Directives -/

/-- What the directives of a document say: whether they state its version, and
the handles that they declare. -/
structure Directives where
  versioned : Bool
  handles : List String

/-- The handles that need no declaration. -/
def commonHandles : List String := ["!", "!!"]

/-- Whether nothing but a comment is left of a line. -/
def lineEnds (cs : List Char) : Bool :=
  match cs.dropWhile isSpace with
  | [] => true
  | c :: _ => c = '#'

/-- The number at the front of a text, with up to nine digits, and what follows
it. -/
def leadingNumber? (cs : List Char) : Option (Nat × List Char) :=
  let digits := cs.takeWhile Char.isDigit
  if digits.isEmpty || 9 < digits.length then none
  else some (digits.foldl (fun n c => 10 * n + (c.toNat - 48)) 0, cs.drop digits.length)

/-- The directives with that of a line, after its indicator.  Documents have
version 1.1 or 1.2. -/
def Directives.add? (d : Directives) (line : List Char) : Option Directives :=
  let name := line.takeWhile isNameChar
  let rest := (line.drop name.length).dropWhile isSpace
  if !atGap (line.drop name.length) then none
  else if name = ['Y', 'A', 'M', 'L'] then
    match leadingNumber? rest with
    | some (1, '.' :: rest) =>
      match leadingNumber? rest with
      | some (minor, rest) =>
        if (minor = 1 || minor = 2) && lineEnds rest && !d.versioned then
          some { d with versioned := true }
        else none
      | none => none
    | _ => none
  else if name = ['T', 'A', 'G'] then
    match rest with
    | '!' :: rest =>
      let word := rest.takeWhile isNameChar
      let declared : Option (String × List Char) :=
        match rest.drop word.length with
        | '!' :: rest => some ("!" ++ String.ofList word ++ "!", rest)
        | rest => if word.isEmpty then some ("!", rest) else none
      match declared with
      | none => none
      | some (handle, rest) =>
        let meant := (rest.dropWhile isSpace).takeWhile isUriChar
        let left := (rest.dropWhile isSpace).drop meant.length
        if (rest.head?.map isSpace).getD false && !meant.isEmpty && atGap left &&
            lineEnds left && !d.handles.contains handle then
          some { d with handles := handle :: d.handles }
        else none
    | _ => none
  else none

end SapMonitor.Yaml
