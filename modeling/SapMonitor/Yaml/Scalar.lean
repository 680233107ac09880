import SapMonitor.Text.Strip

/-!
# Flow scalars of YAML

A scalar runs over one or more lines.  A line break inside a flow scalar is
folded: one becomes a blank, of several the first is dropped.  Plain scalars end
at a comment, at a colon before white space, at a less indented line, and in
flow collections at the indicators of the collection.
-/

namespace SapMonitor.Yaml

/-! ## Characters -/

/-- Line breaks. -/
def isBreak (c : Char) : Bool :=
  c = '\n' || c = '\r' || c = '\x85' || c = '\u2028' || c = '\u2029'

/-- Blanks inside a line. -/
def isSpace (c : Char) : Bool :=
  c = ' ' || c = '\t'

/-- Whether a list ends or goes on with a blank or a line break. -/
def atGap : List Char → Bool
  | [] => true
  | c :: _ => isSpace c || isBreak c

/-- What a line break contributes to a text: the breaks of lines and paragraphs
are kept, all others are line feeds. -/
def breakText (c : Char) : Char :=
  if c = '\u2028' || c = '\u2029' then c else '\n'

/-- The characters that a document may hold. -/
def isAllowed (c : Char) : Bool :=
  let n := c.toNat
  n = 9 || n = 10 || n = 13 || (0x20 ≤ n && n ≤ 0x7E) || n = 0x85 ||
    (0xA0 ≤ n && n ≤ 0xFFFD) || 0x10000 ≤ n

/-! ## Places -/

/-- A place in a document: what follows, and the column. -/
structure Cursor where
  rest : List Char
  column : Nat

namespace Cursor

/-- The place after some characters of the same line. -/
def advance (c : Cursor) (n : Nat) : Cursor :=
  { rest := c.rest.drop n, column := c.column + n }

/-- The place after the blanks that follow on the line. -/
def skipBlanks (c : Cursor) : Cursor :=
  c.advance (c.rest.takeWhile isSpace).length

/-- Whether a document marker begins here. -/
def atMarker (c : Cursor) : Bool :=
  c.column = 0 &&
    match c.rest with
    | '-' :: '-' :: '-' :: r => atGap r
    | '.' :: '.' :: '.' :: r => atGap r
    | _ => false

end Cursor

/-! ## Folding -/

/-- White space between two words of a scalar, last character first: blanks, and
the line breaks once there is one.  An escaped line break begins a gap silently,
contributing nothing itself. -/
structure Gap where
  blanks : List Char
  breaks : List Char
  silent : Bool := false

namespace Gap

/-- No white space. -/
def none : Gap := ⟨[], [], false⟩

/-- The gap after an escaped line break. -/
def afterEscapedBreak : Gap := ⟨[], [], true⟩

/-- Whether the gap spans a line break. -/
def hasBreak (g : Gap) : Bool := g.silent || !g.breaks.isEmpty

/-- Whether there is any white space. -/
def isEmpty (g : Gap) : Bool := g.blanks.isEmpty && !g.hasBreak

/-- The gap with a blank more; blanks after a break do not count. -/
def addBlank (g : Gap) (c : Char) : Gap :=
  if g.hasBreak then g else { g with blanks := c :: g.blanks }

/-- The gap with a line break more. -/
def addBreak (g : Gap) (c : Char) : Gap :=
  { g with breaks := breakText c :: g.breaks }

/-- What the gap contributes to the scalar. -/
def text (g : Gap) : List Char :=
  if g.silent then g.breaks.reverse
  else
    match g.breaks.reverse with
    | [] => g.blanks.reverse
    | ['\n'] => [' ']
    | '\n' :: more => more
    | all => all

end Gap

/-- A scalar that was read: its characters last first, and the place behind
it. -/
structure Scanned where
  reversed : List Char
  after : Cursor

/-- The text of a scalar. -/
def Scanned.text (s : Scanned) : String :=
  String.ofList s.reversed.reverse

/-! ## Plain scalars -/

/-- The brackets and commas of flow collections. -/
def isFlowIndicator (c : Char) : Bool :=
  [',', '[', ']', '\x7b', '\x7d'].contains c

/-- Whether the characters can begin a plain scalar. -/
def startsPlain (flow : Bool) : List Char → Bool
  | [] => false
  | c :: rest =>
    if c = '-' then !atGap rest
    else if c = '?' || c = ':' then !flow && !atGap rest
    else !(isSpace c || isBreak c || isFlowIndicator c ||
      ['#', '&', '*', '!', '|', '>', '\'', '"', '%', '@', '\x60'].contains c)

/-- Reads a plain scalar; continuation lines have to be indented by `indent`
columns outside of flow collections. -/
def scanPlain (flow : Bool) (indent : Nat) (done : List Char) (gap : Gap) :
    List Char → Nat → Option Scanned
  | [], col => some ⟨done, ⟨[], col⟩⟩
  | c :: rest, col =>
    let stop : Option Scanned := some ⟨done, ⟨c :: rest, col⟩⟩
    if isSpace c then
      if c = '\t' && gap.hasBreak && col < indent then none
      else scanPlain flow indent done (gap.addBlank c) rest (col + 1)
    else if isBreak c then
      match c, rest with
      | '\r', '\n' :: _ => scanPlain flow indent done gap rest 0
      | _, _ => scanPlain flow indent done (gap.addBreak c) rest 0
    else if !gap.isEmpty && c = '#' then stop
    else if gap.hasBreak && (Cursor.mk (c :: rest) col).atMarker then stop
    else if gap.hasBreak && !flow && col < indent then stop
    else if c = ':' && atGap rest then stop
    else if flow && isFlowIndicator c then stop
    else if flow && c = ':' && ((rest.head?.map fun d => isFlowIndicator d || d = '?').getD false)
      then none
    else scanPlain flow indent (c :: (gap.text.reverse ++ done)) .none rest (col + 1)

/-! ## Quoted scalars -/

/-- Reads a scalar in single quotes, after the first of them. -/
def scanSingle (done : List Char) (gap : Gap) : List Char → Nat → Option Scanned
  | [], _ => none
  | '\'' :: '\'' :: rest, col =>
    scanSingle ('\'' :: (gap.text.reverse ++ done)) .none rest (col + 2)
  | '\'' :: rest, col => some ⟨gap.text.reverse ++ done, ⟨rest, col + 1⟩⟩
  | c :: rest, col =>
    if gap.hasBreak && (Cursor.mk (c :: rest) col).atMarker then none
    else if isSpace c then scanSingle done (gap.addBlank c) rest (col + 1)
    else if isBreak c then
      match c, rest with
      | '\r', '\n' :: _ => scanSingle done gap rest 0
      | _, _ => scanSingle done (gap.addBreak c) rest 0
    else scanSingle (c :: (gap.text.reverse ++ done)) .none rest (col + 1)

/-- The character of an escape of one letter. -/
def simpleEscape? (c : Char) : Option Char :=
  [('0', '\x00'), ('a', '\x07'), ('b', '\x08'), ('t', '\t'), ('\t', '\t'), ('n', '\n'),
    ('v', '\x0b'), ('f', '\x0c'), ('r', '\r'), ('e', '\x1b'), (' ', ' '), ('"', '"'), ('/', '/'),
    ('\\', '\\'), ('N', '\x85'), ('_', '\xa0'), ('L', '\u2028'), ('P', '\u2029')].lookup c

/-- The number of digits of an escape by code point. -/
def escapeLength? (c : Char) : Option Nat :=
  [('x', 2), ('u', 4), ('U', 8)].lookup c

/-- Where the reader of double quotes stands: in text, after a backslash, or in
the digits of a code point. -/
inductive Escape where
  | outside
  | begun
  | digits (left : Nat) (value : Nat)

/-- Reads a scalar in double quotes, after the first of them. -/
def scanDouble (done : List Char) (gap : Gap) : Escape → List Char → Nat → Option Scanned
  | _, [], _ => none
  | .begun, c :: rest, col =>
    if isBreak c then
      match c, rest with
      | '\r', '\n' :: _ => scanDouble done gap .begun rest 0
      | _, _ => scanDouble done .afterEscapedBreak .outside rest 0
    else
      match simpleEscape? c, escapeLength? c with
      | some r, _ => scanDouble (r :: done) .none .outside rest (col + 1)
      | none, some n => scanDouble done .none (.digits n 0) rest (col + 1)
      | none, none => none
  | .digits left value, c :: rest, col =>
    match Text.hexDigit? c with
    | none => none
    | some d =>
      let value := 16 * value + d
      if left ≤ 1 then
        if value.isValidChar then
          scanDouble (Char.ofNat value :: done) .none .outside rest (col + 1)
        else none
      else scanDouble done .none (.digits (left - 1) value) rest (col + 1)
  | .outside, c :: rest, col =>
    let held := gap.text.reverse
    if gap.hasBreak && (Cursor.mk (c :: rest) col).atMarker then none
    else if isSpace c then scanDouble done (gap.addBlank c) .outside rest (col + 1)
    else if isBreak c then
      match c, rest with
      | '\r', '\n' :: _ => scanDouble done gap .outside rest 0
      | _, _ => scanDouble done (gap.addBreak c) .outside rest 0
    else if c = '"' then some ⟨held ++ done, ⟨rest, col + 1⟩⟩
    else if c = '\\' then scanDouble (held ++ done) .none .begun rest (col + 1)
    else scanDouble (c :: (held ++ done)) .none .outside rest (col + 1)

/-- A quoted or plain scalar, by its first character: its text and whether it is
plain. -/
def scanScalar (flow : Bool) (indent : Nat) (c : Cursor) : Option (String × Bool × Cursor) :=
  match c.rest with
  | '"' :: rest =>
    (scanDouble [] .none .outside rest (c.column + 1)).map fun s => (s.text, false, s.after)
  | '\'' :: rest =>
    (scanSingle [] .none rest (c.column + 1)).map fun s => (s.text, false, s.after)
  | rest =>
    if startsPlain flow rest then
      (scanPlain flow indent [] .none rest c.column).map fun s => (s.text, true, s.after)
    else none

end SapMonitor.Yaml
