import SapMonitor.Decimal.Integer
import SapMonitor.Text.Strip
import SapMonitor.Time.Calendar
import SapMonitor.Time.Span

/-!
# Moments

A moment is an instant in universal time.  Alerts carry the local wall clock of
the system, which a fixed offset relates to universal time.

Main results:

- `Moment.isOutdated_of_unlimited`: without a limit nothing is too old.
- `Moment.age_self`: a moment has no age at itself.
-/

namespace SapMonitor.Time

/-! ## Moments and their age -/

/-- An instant: whole seconds since the beginning of 1970, and nanoseconds.  In
a leap second there are a thousand million of them and more. -/
structure Moment where
  seconds : Int
  nanos : Nat
  deriving DecidableEq

namespace Moment

/-- Nanoseconds in a second. -/
def perSecond : Int := 1000000000

/-- Whether the instant lies in a leap second. -/
def inLeapSecond (t : Moment) : Bool :=
  1000000000 ≤ t.nanos

/-- The second of the day. -/
def secondOfDay (t : Moment) : Int :=
  t.seconds % secondsPerDay

/-- The correction of a difference of times of day when the later of them
passed a leap second of the earlier one's day. -/
def leapCorrection (t since : Moment) : Int :=
  if since.secondOfDay < t.secondOfDay then (if since.inLeapSecond then 1 else 0)
  else if t.secondOfDay < since.secondOfDay then (if t.inLeapSecond then -1 else 0)
  else 0

/-- The nanoseconds from one moment to another. -/
def age (t since : Moment) : Int :=
  (t.seconds - since.seconds + leapCorrection t since) * perSecond
    + ((t.nanos : Int) - (since.nanos : Int))

/-- A moment has no age at itself. -/
@[simp] theorem age_self (t : Moment) : t.age t = 0 := by
  simp [age, leapCorrection]

/-- Whether a moment lies further back than the limit allows.  Without a limit
nothing is too old, and neither is the future. -/
def isOutdated (t now : Moment) (limit : Option Span) : Bool :=
  match limit with
  | none => false
  | some limit => (limit.nanos : Int) < now.age t

@[simp] theorem isOutdated_of_unlimited (t now : Moment) : t.isOutdated now none = false :=
  rfl

/-- The nanoseconds since the beginning of 1970, zero when they need more than
64 bits. -/
def epochNanos (t : Moment) : Int :=
  let n := t.seconds * perSecond + (t.nanos : Int)
  if Decimal.Range.int64.lo ≤ n && n ≤ Decimal.Range.int64.hi then n else 0

end Moment

/-! ## Wall clock times of alerts -/

/-- The number at the front of a text after optional white space: at least one
and at most the given number of digits. -/
def takeNumber? (width : Nat) (cs : List Char) : Option (Nat × List Char) :=
  let cs := cs.dropWhile Text.isBlank
  let digits := (cs.take width).takeWhile Char.isDigit
  if digits.isEmpty then none
  else some (Decimal.digitsValue digits, cs.drop digits.length)

/-- The year at the front of a text: up to four digits, or any number of them
after a sign. -/
def takeYear? (cs : List Char) : Option (Int × List Char) :=
  let signed (r : List Char) : Option (Nat × List Char) :=
    if (r.head?.map Char.isDigit).getD false then takeNumber? r.length r else none
  match cs.dropWhile Text.isBlank with
  | '-' :: r => (signed r).map fun (n, r) => (-(n : Int), r)
  | '+' :: r => (signed r).map fun (n, r) => ((n : Int), r)
  | r => (takeNumber? 4 r).map fun (n, r) => ((n : Int), r)

/-- The rest of a text after a character. -/
def dropChar? (c : Char) : List Char → Option (List Char)
  | d :: r => if d = c then some r else none
  | [] => none

/-- The wall clock time written as year, month, day and time of day, as the
seconds since 1970 on that clock and the nanoseconds.  A sixtieth second is the
leap second after the fifty-ninth. -/
def readWallClock? (cs : List Char) : Option (Int × Nat) := do
  let (year, r) ← takeYear? cs
  let (month, r) ← takeNumber? 2 r
  let (day, r) ← takeNumber? 2 r
  let (hour, r) ← takeNumber? 2 r
  let r ← dropChar? ':' r
  let (minute, r) ← takeNumber? 2 r
  let r ← dropChar? ':' r
  let (second, r) ← takeNumber? 2 r
  if r ≠ [] || 23 < hour || 59 < minute || 60 < second then none
  else
    let days ← dayNumber? year month day
    let time : Nat := hour * 3600 + minute * 60 + min second 59
    some (days * secondsPerDay + time, if second = 60 then 1000000000 else 0)

/-- The first and the last second of the calendar. -/
def calendarSeconds : Int × Int :=
  (dayNumber firstYear 1 1 * secondsPerDay,
    (dayNumber lastYear 12 31 + 1) * secondsPerDay - 1)

/-- The moment of an alert time on a clock that is ahead of universal time by
the offset, if the text is such a time and the moment is in the calendar. -/
def alertMoment? (raw : String) (offset : Int) : Option Moment := do
  let (local_, nanos) ← readWallClock? (Text.strip Text.isBlank raw.toList)
  let seconds := local_ - offset
  if calendarSeconds.1 ≤ seconds && seconds ≤ calendarSeconds.2 then
    some { seconds := seconds, nanos := nanos }
  else none

/-! ## Offsets from universal time -/

/-- What can be wrong with the text of an offset. -/
inductive OffsetError where
  | tooShort
  | invalid
  | outOfRange
  deriving DecidableEq

/-- The wording of a fault. -/
def OffsetError.message : OffsetError → String
  | tooShort => "premature end of input"
  | invalid => "input contains invalid characters"
  | outOfRange => "input is out of range"

/-- The first two characters as digits, or the fault: too few bytes, or another
character. -/
def twoDigits : List Char → Except OffsetError (Char × Char × List Char)
  | [] => .error .tooShort
  | [c] => .error (if c.utf8Size < 2 then .tooShort else .invalid)
  | c :: d :: r => if c.isDigit && d.isDigit then .ok (c, d, r) else .error .invalid

/-- The seconds that a clock with the offset is ahead of universal time.  What
follows the minutes is ignored. -/
def readOffset (cs : List Char) : Except OffsetError Int := do
  let (sign, r) ← match cs with
    | [] => .error .tooShort
    | '+' :: r => .ok ((1 : Int), r)
    | '-' :: r => .ok (-1, r)
    | '\u2212' :: r => .ok (-1, r)
    | _ :: _ => .error .invalid
  let (h1, h2, r) ← twoDigits r
  let (m1, m2, _) ← twoDigits (r.dropWhile fun c => c = ':' || Text.isBlank c)
  if '6' ≤ m1 then .error .outOfRange
  else
    let minutes := Decimal.digitsValue [h1, h2] * 60 + Decimal.digitsValue [m1, m2]
    if minutes < 1440 then .ok (sign * (minutes * 60 : Nat)) else .error .outOfRange

end SapMonitor.Time
