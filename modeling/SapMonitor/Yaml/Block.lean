import SapMonitor.Yaml.Scalar

/-!
# Block scalars of YAML

A block scalar is a run of lines that are indented alike.  A literal one keeps
its line breaks; in a folded one neighbouring lines are joined by a blank,
unless one of them begins with a blank.  A header says how the breaks at the end
are treated and may fix the indentation.
-/

namespace SapMonitor.Yaml

/-- How the line breaks at the end of a block scalar are treated. -/
inductive Chomp where
  | strip
  | clip
  | keep

/-- The header of a block scalar after its indicator: chomping and the
indentation, if given. -/
def blockHeader? : List Char → Option (Chomp × Option Nat × List Char)
  | '-' :: rest => indentation .strip rest
  | '+' :: rest => indentation .keep rest
  | d :: rest =>
    if d = '0' then none
    else if d.isDigit then
      match rest with
      | '-' :: r => some (.strip, some (d.toNat - 48), r)
      | '+' :: r => some (.keep, some (d.toNat - 48), r)
      | r => some (.clip, some (d.toNat - 48), r)
    else some (.clip, none, d :: rest)
  | [] => some (.clip, none, [])
where
  /-- The indentation that may follow the chomping. -/
  indentation (chomp : Chomp) : List Char → Option (Chomp × Option Nat × List Char)
    | [] => some (chomp, none, [])
    | d :: rest =>
      if d = '0' then none
      else if d.isDigit then some (chomp, some (d.toNat - 48), rest)
      else some (chomp, none, d :: rest)

/-- What follows the header on its line: blanks and a comment. -/
def afterHeader? (cs : List Char) : Option (List Char) :=
  let r := cs.dropWhile isSpace
  let r := match r with
    | '#' :: _ => r.dropWhile fun c => !isBreak c
    | r => r
  match r with
  | [] => some []
  | '\r' :: '\n' :: r => some r
  | c :: r => if isBreak c then some r else none

/-- A line of a block scalar and the break that ends it; the last line may lack
one. -/
structure Line where
  content : List Char
  ending : List Char

/-- The lines of a text. -/
def splitLines (line : List Char) : List Char → List Line
  | [] => if line.isEmpty then [] else [⟨line.reverse, []⟩]
  | '\r' :: '\n' :: rest => ⟨line.reverse, ['\n']⟩ :: splitLines [] rest
  | c :: rest =>
    if isBreak c then ⟨line.reverse, [breakText c]⟩ :: splitLines [] rest
    else splitLines (c :: line) rest

namespace Line

/-- The number of blanks that a line begins with. -/
def indentation (l : Line) : Nat :=
  (l.content.takeWhile (· = ' ')).length

/-- The line without its indentation, of which at most `n` columns count. -/
def body (l : Line) (n : Nat) : List Char :=
  l.content.drop (min n l.indentation)

/-- Whether a line holds nothing beyond its indentation. -/
def isEmpty (l : Line) (n : Nat) : Bool :=
  (l.body n).isEmpty && !l.ending.isEmpty

end Line

/-- The indentation of a block scalar: that of its first line with content, but
at least the given one and at least that of empty lines before it.  A tab is no
indentation. -/
def blockIndent? (least : Nat) : List Line → Option Nat
  | [] => some least
  | l :: rest =>
    let n := max least l.indentation
    if l.isEmpty l.indentation then blockIndent? n rest
    else if (l.content.drop l.indentation).head? = some '\t' then none
    else some n

/-- The lines of a block scalar, those indented enough and the empty ones, and
the lines after them.  A tab is no indentation. -/
def blockLines? (indent : Nat) : List Line → Option (List Line × List Line)
  | [] => some ([], [])
  | l :: rest =>
    if l.isEmpty indent || indent ≤ l.indentation && !(l.body indent).isEmpty then
      (blockLines? indent rest).map fun (lines, left) => (⟨l.body indent, l.ending⟩ :: lines, left)
    else if l.indentation < indent && (l.body indent).head? = some '\t' then none
    else some ([], l :: rest)

/-- A block scalar that is being put together: the text so far, last character
first, the break of its last line with content, whether that line began with a
blank, and the breaks of the empty lines after it. -/
structure Joined where
  reversed : List Char
  lead : List Char
  leadBlank : Bool
  trail : List Char

/-- The scalar with a line more. -/
def Joined.add (literal : Bool) (j : Joined) (l : Line) : Joined :=
  if l.content.isEmpty then { j with trail := j.trail ++ l.ending }
  else
    let blank := (l.content.head?.map isSpace).getD false
    let breaks :=
      if !literal && j.lead = ['\n'] && !j.leadBlank && !blank then
        if j.trail.isEmpty then [' '] else j.trail
      else j.lead ++ j.trail
    { reversed := l.content.reverse ++ (breaks.reverse ++ j.reversed)
      lead := l.ending
      leadBlank := blank
      trail := [] }

/-- The lines put together. -/
def joinBlock (literal : Bool) (lines : List Line) : Joined :=
  lines.foldl (Joined.add literal) ⟨[], [], false, []⟩

/-- The text of a block scalar with its last breaks treated. -/
def Joined.chomped (j : Joined) : Chomp → List Char
  | .strip => j.reversed.reverse
  | .clip => j.reversed.reverse ++ j.lead
  | .keep => j.reversed.reverse ++ (j.lead ++ j.trail)

/-- A block scalar after its indicator: its text and what follows it.  The
column of the collection around it, one more, is `indent`. -/
def scanBlock (literal : Bool) (indent : Nat) (rest : List Char) :
    Option (List Char × List Char) := do
  let (chomp, given, r) ← blockHeader? rest
  let body ← afterHeader? r
  let lines := splitLines [] body
  let columns ← match given with
    | some n => some (indent - 1 + n)
    | none => blockIndent? (max indent 1) lines
  let (content, left) ← blockLines? columns lines
  return ((joinBlock literal content).chomped chomp,
    left.flatMap fun l => l.content ++ l.ending)

end SapMonitor.Yaml
