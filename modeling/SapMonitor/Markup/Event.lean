import SapMonitor.Markup.Error
import SapMonitor.Text.Strip

/-!
# From characters to markup events

The reader of the service's answers is a machine that takes one character at a
time.  It emits an event for every start tag, end tag, piece of text and
verbatim section, keeps the names of the open elements to check end tags
against, and fails at the first fault of the markup.  Attributes are not looked
at, but quotes in a start tag hide a closing bracket.

Main results:

- `Reader.run_append`: reading a text in two pieces is reading it at once.
- `Reader.step_failed`: a fault is final.
-/

namespace SapMonitor.Markup

/-- White space between and inside markup. -/
def isGap (c : Char) : Bool :=
  c = ' ' || c = '\t' || c = '\n' || c = '\r'

/-! ## Events -/

/-- What the reader reports.  Names are qualified, text is trimmed but its
references are not resolved, verbatim sections are as written. -/
inductive Event where
  | start (name : List Char)
  | empty (name : List Char)
  | stop
  | text (raw : List Char)
  | verbatim (raw : List Char)
  deriving DecidableEq

/-- The part of a qualified name after its first colon, or all of it. -/
def localName (name : List Char) : List Char :=
  match name.dropWhile (· ≠ ':') with
  | [] => name
  | _ :: rest => rest

/-! ## The machine -/

/-- Where the reader stands.  Characters collected so far are held last
first. -/
inductive Mode where
  /-- In text; nothing is collected while only white space was met. -/
  | content (seen : List Char)
  /-- After an opening bracket. -/
  | opened
  /-- In a start tag, inside quotes if a quote is given. -/
  | startTag (quote : Option Char) (seen : List Char)
  /-- In an end tag, after its slash. -/
  | endTag (seen : List Char)
  /-- In an instruction or declaration, after its question mark. -/
  | instruction (seen : List Char)
  /-- After an opening bracket and an exclamation mark. -/
  | bang
  /-- In what began like a verbatim section, after the exclamation mark. -/
  | verbatim (seen : List Char)
  /-- In what began like a comment, after the exclamation mark. -/
  | comment (seen : List Char)
  /-- In what began like a document type, after the exclamation mark, inside
  `depth` further brackets. -/
  | doctype (depth : Nat) (seen : List Char)
  /-- After a fault. -/
  | failed (cause : MarkupError)

/-- A reader: where it stands, the names of the open elements, innermost
first, and the events so far, last first. -/
structure Reader where
  mode : Mode
  openNames : List (List Char)
  emitted : List Event

namespace Reader

/-- The reader before the first character of a document. -/
def fresh : Reader :=
  { mode := .content [], openNames := [], emitted := [] }

/-- The reader after an event, in text again. -/
def emit (r : Reader) (e : Event) : Reader :=
  { r with mode := .content [], emitted := e :: r.emitted }

/-- The reader after markup without an event, in text again. -/
def skip (r : Reader) : Reader :=
  { r with mode := .content [] }

/-- The reader after a fault. -/
def fail (r : Reader) (cause : MarkupError) : Reader :=
  { r with mode := .failed cause }

/-- The end of a piece of text: trailing white space is dropped, and an empty
piece is no event. -/
def closeText (r : Reader) (seen : List Char) : Reader :=
  match seen.dropWhile isGap with
  | [] => r
  | rest => { r with emitted := .text rest.reverse :: r.emitted }

/-- The end of a start tag with the given content.  A content that ends in a
slash is an empty element; a name ends at white space. -/
def closeStartTag (r : Reader) (seen : List Char) : Reader :=
  let content := seen.reverse
  let name := content.takeWhile fun c => !isGap c
  match seen with
  | '/' :: rest =>
    r.emit (.empty (if content.any isGap then name else rest.reverse))
  | _ => { r with openNames := name :: r.openNames }.emit (.start name)

/-- The white space that may stand before the end of an end tag. -/
def isEndTagGap (c : Char) : Bool :=
  isGap c || c = '\x0c'

/-- The end of an end tag with the given content.  It has to name the
innermost open element. -/
def closeEndTag (r : Reader) (seen : List Char) : Reader :=
  let whole := seen.reverse
  match r.openNames with
  | [] => r.fail (.mismatch "" (String.ofList whole))
  | expected :: rest =>
    let name := match seen.dropWhile isEndTagGap with
      | [] => whole
      | trimmed => trimmed.reverse
    if name = expected then { r with openNames := rest }.emit .stop
    else r.fail (.mismatch (String.ofList expected) (String.ofList name))

/-- The end of an instruction with the given content. -/
def closeInstruction (r : Reader) (seen : List Char) : Reader :=
  match seen with
  | '?' :: _ :: _ => r.skip
  | _ => r.fail (.unfinished .instruction)

/-- Whether the content, last character first, begins with the given text when
letter case is ignored. -/
def beginsWith (seen : List Char) (word : List Char) : Bool :=
  word.isPrefixOf (seen.reverse.map Char.toUpper)

/-- The end of a verbatim section whose content ended in two brackets. -/
def closeVerbatim (r : Reader) (seen : List Char) : Reader :=
  if beginsWith seen ['[', 'C', 'D', 'A', 'T', 'A', '['] then
    r.emit (.verbatim (seen.reverse.drop 7))
  else r.fail (.unfinished .verbatim)

/-- The end of a document type with the given content. -/
def closeDoctype (r : Reader) (seen : List Char) : Reader :=
  if beginsWith seen ['D', 'O', 'C', 'T', 'Y', 'P', 'E'] then
    if (seen.reverse.drop 7).all isGap then r.fail .emptyDoctype else r.skip
  else r.fail (.unfinished .doctype)

/-- The reader after one more character. -/
def step (r : Reader) (c : Char) : Reader :=
  match r.mode with
  | .content seen =>
    if c = '<' then { r.closeText seen with mode := .opened }
    else if seen.isEmpty && isGap c then r
    else { r with mode := .content (c :: seen) }
  | .opened =>
    if c = '!' then { r with mode := .bang }
    else if c = '/' then { r with mode := .endTag [] }
    else if c = '?' then { r with mode := .instruction [] }
    else if c = '>' then r.closeStartTag []
    else if c = '\'' || c = '"' then { r with mode := .startTag (some c) [c] }
    else { r with mode := .startTag none [c] }
  | .startTag none seen =>
    if c = '>' then r.closeStartTag seen
    else if c = '\'' || c = '"' then { r with mode := .startTag (some c) (c :: seen) }
    else { r with mode := .startTag none (c :: seen) }
  | .startTag (some quote) seen =>
    { r with mode := .startTag (if c = quote then none else some quote) (c :: seen) }
  | .endTag seen =>
    if c = '>' then r.closeEndTag seen else { r with mode := .endTag (c :: seen) }
  | .instruction seen =>
    if c = '>' then r.closeInstruction seen else { r with mode := .instruction (c :: seen) }
  | .bang =>
    if c = '[' then { r with mode := .verbatim [c] }
    else if c = '-' then { r with mode := .comment [c] }
    else if c = 'D' || c = 'd' then { r with mode := .doctype 0 [c] }
    else r.fail (.unknownBang (leadByte c))
  | .verbatim seen =>
    match c, seen with
    | '>', ']' :: ']' :: rest => r.closeVerbatim rest
    | _, _ => { r with mode := .verbatim (c :: seen) }
  | .comment seen =>
    match c, seen with
    | '>', '-' :: '-' :: _ :: _ :: _ =>
      if beginsWith seen ['-', '-'] then r.skip else r.fail (.unfinished .comment)
    | _, _ => { r with mode := .comment (c :: seen) }
  | .doctype depth seen =>
    if c = '>' then
      match depth with
      | 0 => r.closeDoctype seen
      | depth + 1 => { r with mode := .doctype depth (c :: seen) }
    else if c = '<' then { r with mode := .doctype (depth + 1) (c :: seen) }
    else { r with mode := .doctype depth (c :: seen) }
  | .failed _ => r

/-- The reader after a list of characters. -/
def run (r : Reader) (cs : List Char) : Reader :=
  cs.foldl step r

@[simp] theorem run_nil (r : Reader) : r.run [] = r :=
  rfl

@[simp] theorem run_cons (r : Reader) (c : Char) (cs : List Char) :
    r.run (c :: cs) = (r.step c).run cs :=
  rfl

/-- Reading a text in two pieces is reading it at once. -/
theorem run_append (r : Reader) (a b : List Char) : r.run (a ++ b) = (r.run a).run b := by
  simp [run]

/-- A fault is final. -/
theorem step_failed {r : Reader} {cause : MarkupError} (h : r.mode = .failed cause) (c : Char) :
    r.step c = r := by
  simp [step, h]

/-- The reader at the end of the input.  An end tag or an instruction may lack
its closing bracket, and a lone opening bracket is dropped. -/
def finish (r : Reader) : Reader :=
  match r.mode with
  | .content seen => r.closeText seen
  | .opened => r.skip
  | .startTag _ _ => r.fail (.unfinished .element)
  | .endTag seen => r.closeEndTag seen
  | .instruction seen => r.closeInstruction seen
  | .bang => r.fail (.unfinished .bang)
  | .verbatim _ => r.fail (.unfinished .verbatim)
  | .comment _ => r.fail (.unfinished .comment)
  | .doctype _ _ => r.fail (.unfinished .doctype)
  | .failed _ => r

/-- The fault that ended the reading. -/
def fault? (r : Reader) : Option MarkupError :=
  match r.mode with
  | .failed cause => some cause
  | _ => none

end Reader

/-- The events of a document and the fault that ended its reading, if any.  A
byte order mark at its front is not part of it. -/
def readEvents (cs : List Char) : List Event × Option MarkupError :=
  let body := match cs with
    | '\uFEFF' :: rest => rest
    | rest => rest
  let r := (Reader.fresh.run body).finish
  (r.emitted.reverse, r.fault?)

end SapMonitor.Markup
