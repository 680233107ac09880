import SapMonitor.Text.Quoted
import SapMonitor.Text.Strip
import SapMonitor.Time.Span

/-!
# Spans in settings

A span is written as a sequence of numbers with units, such as `1h 30m`.  White
space may stand between and inside numbers, and a number may have a decimal
fraction if the span stays a whole number of nanoseconds (of seconds, from the
hour upwards).  The reader takes one character at a time.
-/

namespace SapMonitor.Time

/-! ## Faults -/

/-- What can be wrong with the text of a span.  Positions count bytes. -/
inductive SpanError where
  | blank
  | numberExpected (position : Nat)
  | badCharacter (position : Nat)
  | unknownUnit (name : String) (number : Nat)
  | overflow
  deriving DecidableEq

/-- The wording of a fault. -/
def SpanError.message : SpanError → String
  | blank => "value was empty"
  | numberExpected p => "expected number at " ++ toString p
  | badCharacter p => "invalid character at " ++ toString p
  | unknownUnit name n =>
    if name.isEmpty then
      "time unit needed, for example " ++ toString n ++ "sec or " ++ toString n ++ "ms"
    else
      "unknown time unit " ++ Text.quote name ++
        ", supported units: ns, us/µs, ms, sec, min, hours, days, weeks, months, years " ++
        "(and few variations)"
  | overflow =>
    "number is too large or cannot be represented without a lack of precision " ++
      "(values below 1ns are not supported)"

/-! ## Units -/

/-- The units of time. -/
inductive SpanUnit where
  | nanosecond
  | microsecond
  | millisecond
  | second
  | minute
  | hour
  | day
  | week
  | month
  | year
  deriving DecidableEq

namespace SpanUnit

/-- The unit with the name. -/
def read? (name : String) : Option SpanUnit :=
  if ["nanos", "nsec", "ns"].contains name then some nanosecond
  else if ["usec", "us", "µs"].contains name then some microsecond
  else if ["millis", "msec", "ms"].contains name then some millisecond
  else if ["seconds", "second", "secs", "sec", "s"].contains name then some second
  else if ["minutes", "minute", "min", "mins", "m"].contains name then some minute
  else if ["hours", "hour", "hr", "hrs", "h"].contains name then some hour
  else if ["days", "day", "d"].contains name then some day
  else if ["weeks", "week", "wk", "wks", "w"].contains name then some week
  else if ["months", "month", "M"].contains name then some month
  else if ["years", "year", "yr", "yrs", "y"].contains name then some year
  else none

/-- Whether spans in the unit are counted in whole seconds: their size, and
whether their fractions have to be whole seconds too. -/
def size : SpanUnit → Nat
  | nanosecond => 1
  | microsecond => 1000
  | millisecond => 1000000
  | second => 1
  | minute => 60
  | hour => 3600
  | day => 86400
  | week => 604800
  | month => 2630016
  | year => 31557600

/-- Whether the size of the unit counts seconds and not nanoseconds. -/
def inSeconds : SpanUnit → Bool
  | nanosecond | microsecond | millisecond => false
  | _ => true

/-- The size that a fraction of the unit is measured by, and whether that size
counts seconds; nanoseconds have no fractions. -/
def fractionSize? : SpanUnit → Option (Nat × Bool)
  | nanosecond => none
  | microsecond => some (1000, false)
  | millisecond => some (1000000, false)
  | second => some (1000000000, false)
  | minute => some (60000000000, false)
  | u => some (u.size, true)

end SpanUnit

/-! ## Adding up -/

/-- The first number that needs more than 64 bits. -/
def wordLimit : Nat := 18446744073709551616

/-- A number of at most 64 bits, or the fault. -/
def inWord (n : Nat) : Except SpanError Nat :=
  if n < wordLimit then .ok n else .error .overflow

/-- The total with an amount of seconds or of nanoseconds added.  Seconds and
nanoseconds are kept within 64 bits each. -/
def addAmount (total : Span) (amount : Nat) (inSeconds : Bool) : Except SpanError Span := do
  let extra ← inWord (total.fraction + if inSeconds then 0 else amount)
  let seconds ← inWord (total.seconds + (if inSeconds then amount else 0)
    + extra / Span.nanosPerSecond)
  return ⟨seconds * Span.nanosPerSecond + extra % Span.nanosPerSecond⟩

/-- A decimal fraction of a unit. -/
structure Fraction where
  numerator : Nat
  denominator : Nat

/-- The total with a number of units added. -/
def addUnits (total : Span) (n : Nat) (part : Option Fraction) (name : String) :
    Except SpanError Span :=
  match SpanUnit.read? name with
  | none => .error (.unknownUnit name n)
  | some u => do
    let total ← addAmount total (← inWord (n * u.size)) u.inSeconds
    match part with
    | none => return total
    | some f =>
      match u.fractionSize? with
      | none => .error .overflow
      | some (size, inSeconds) =>
        let product ← inWord (f.numerator * size)
        if product % f.denominator = 0 then
          addAmount total (product / f.denominator) inSeconds
        else .error .overflow

/-! ## Reading -/

/-- Whether the character can stand in the name of a unit. -/
def isUnitLetter (c : Char) : Bool :=
  ('a' ≤ c && c ≤ 'z') || ('A' ≤ c && c ≤ 'Z') || c = 'µ'

/-- Where the reader of spans stands. -/
inductive SpanMode where
  /-- Before a number; the position where the search for it began. -/
  | before (start : Nat)
  /-- In the whole part of a number. -/
  | whole (n : Nat)
  /-- In the fraction of a number; the position to report a fault at. -/
  | fraction (n : Nat) (f : Fraction) (position : Nat)
  /-- In the name of a unit, read last letter first. -/
  | unit (n : Nat) (f : Option Fraction) (name : List Char)

/-- The span written by the characters from a position on. -/
def readSpanFrom (total : Span) :
    SpanMode → Nat → List Char → Except SpanError Span
  | .before _, _, [] => .ok total
  | .whole n, _, [] => addUnits total n none ""
  | .fraction n f p, _, [] =>
    if f.denominator = 1 then .error (.badCharacter p) else addUnits total n (some f) ""
  | .unit n f name, _, [] => addUnits total n f (String.ofList name.reverse)
  | .before start, here, c :: cs =>
    let next := here + c.utf8Size
    if c.isDigit then readSpanFrom total (.whole (c.toNat - 48)) next cs
    else if Text.isBlank c then readSpanFrom total (.before start) next cs
    else .error (.numberExpected start)
  | .whole n, here, c :: cs =>
    let next := here + c.utf8Size
    if c.isDigit then
      match inWord (10 * n + (c.toNat - 48)) with
      | .ok n => readSpanFrom total (.whole n) next cs
      | .error e => .error e
    else if Text.isBlank c then readSpanFrom total (.whole n) next cs
    else if isUnitLetter c then readSpanFrom total (.unit n none [c]) next cs
    else if c = '.' then readSpanFrom total (.fraction n ⟨0, 1⟩ here) next cs
    else .error (.badCharacter here)
  | .fraction n f p, here, c :: cs =>
    let next := here + c.utf8Size
    if c.isDigit then
      match inWord (10 * f.denominator), inWord (10 * f.numerator + (c.toNat - 48)) with
      | .ok d, .ok m => readSpanFrom total (.fraction n ⟨m, d⟩ next) next cs
      | .error e, _ => .error e
      | _, .error e => .error e
    else if Text.isBlank c then readSpanFrom total (.fraction n f next) next cs
    else if isUnitLetter c then
      if f.denominator = 1 then .error (.badCharacter p)
      else readSpanFrom total (.unit n (some f) [c]) next cs
    else .error (.badCharacter p)
  | .unit n f name, here, c :: cs =>
    let next := here + c.utf8Size
    if c.isDigit then
      match addUnits total n f (String.ofList name.reverse) with
      | .ok total => readSpanFrom total (.whole (c.toNat - 48)) next cs
      | .error e => .error e
    else if Text.isBlank c then
      match addUnits total n f (String.ofList name.reverse) with
      | .ok total => readSpanFrom total (.before next) next cs
      | .error e => .error e
    else if isUnitLetter c then readSpanFrom total (.unit n f (c :: name)) next cs
    else .error (.badCharacter here)

/-- Whether there is no number at all, which is a fault of its own. -/
def isBlankText (cs : List Char) : Bool :=
  cs.all Text.isBlank

/-- The span written by a text. -/
def readSpan (cs : List Char) : Except SpanError Span :=
  if cs = ['0'] then .ok .zero
  else if isBlankText cs then .error .blank
  else readSpanFrom .zero (.before 0) 0 cs

end SapMonitor.Time
