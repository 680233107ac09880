import SapMonitor.Markup.Error
import SapMonitor.Text.Strip

/-!
# References in character data

A reference `&name;` stands for one character: one of five named ones, or the
character with a decimal or hexadecimal number.  Resolving a text replaces
every reference, and writing a text replaces the three characters that cannot
stand for themselves.
-/

namespace SapMonitor.Markup

/-! ## Resolving -/

/-- The character of a named reference. -/
def named? (name : List Char) : Option Char :=
  if name = ['l', 't'] then some '<'
  else if name = ['g', 't'] then some '>'
  else if name = ['a', 'm', 'p'] then some '&'
  else if name = ['a', 'p', 'o', 's'] then some '\''
  else if name = ['q', 'u', 'o', 't'] then some '"'
  else none

/-- The value of a decimal digit. -/
def decimalValue? (c : Char) : Option Nat :=
  if c.isDigit then some (c.toNat - 48) else none

/-- The number of bytes of a list of characters in UTF-8. -/
def byteLength (cs : List Char) : Nat :=
  cs.foldl (fun n c => n + c.utf8Size) 0

/-- The number written in the given base, or the first character that is no
digit of it. -/
def readBase (value? : Char → Option Nat) (base : Nat) (fault : Char → ReferenceError) :
    List Char → Nat → Except ReferenceError Nat
  | [], n => .ok n
  | c :: cs, n =>
    match value? c with
    | some d => readBase value? base fault cs (base * n + d)
    | none => .error (fault (leadByte c))

/-- The number of a numeric reference, after its `#`. -/
def referenceNumber : List Char → Except ReferenceError Nat
  | 'x' :: cs =>
    if 6 < byteLength cs then .error .longHexadecimal
    else readBase Text.hexDigit? 16 .badHexadecimal cs 0
  | cs =>
    if 7 < byteLength cs then .error .longDecimal
    else readBase decimalValue? 10 .badDecimal cs 0

/-- The character that the reference between positions `start` and `stop`
stands for. -/
def referenced (start stop : Nat) : List Char → Except ReferenceError Char
  | '#' :: number => do
    let n ← referenceNumber number
    if n = 0 then .error (.nullCharacter start stop)
    else if n.isValidChar then .ok (Char.ofNat n)
    else .error (.badCodePoint n)
  | name =>
    match named? name with
    | some c => .ok c
    | none => .error (.unknown (start + 1) stop (String.ofList name))

/-- The text with every reference replaced, read from byte `at`; `pending`
holds the position and the characters, last first, of a reference that has
begun. -/
def resolveFrom (total : Nat) :
    Nat → Option (Nat × List Char) → List Char → Except ReferenceError (List Char)
  | _, none, [] => .ok []
  | _, some (start, _), [] => .error (.unterminated start total)
  | here, none, c :: cs =>
    if c = '&' then resolveFrom total (here + 1) (some (here, [])) cs
    else (resolveFrom total (here + c.utf8Size) none cs).map (c :: ·)
  | here, some (start, name), c :: cs =>
    if c = '&' then .error (.unterminated start total)
    else if c = ';' then
      match referenced start here name.reverse with
      | .ok r => (resolveFrom total (here + 1) none cs).map (r :: ·)
      | .error e => .error e
    else resolveFrom total (here + c.utf8Size) (some (start, c :: name)) cs

/-- The text with every reference replaced by its character. -/
def resolve (cs : List Char) : Except ReferenceError (List Char) :=
  resolveFrom (byteLength cs) 0 none cs

/-! ## Escaping -/

/-- The written form of a character of a parameter value. -/
def escapeChar (c : Char) : List Char :=
  if c = '&' then ['&', 'a', 'm', 'p', ';']
  else if c = '<' then ['&', 'l', 't', ';']
  else if c = '>' then ['&', 'g', 't', ';']
  else [c]

/-- The written form of a parameter value. -/
def escape (cs : List Char) : List Char :=
  cs.flatMap escapeChar

end SapMonitor.Markup
