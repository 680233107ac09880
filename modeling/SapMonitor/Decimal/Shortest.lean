/-!
# The shortest decimal of a binary number

A sample value is written with the fewest digits that still read back as the
same binary64 number, in positional notation.  The search runs over decimal
grids of growing length and compares exact natural numbers.
-/

namespace SapMonitor.Decimal

/-! ## What reads back as a number -/

/-- The rationals that round to one binary64 number, over a common
denominator: the number itself and the two ends, which belong to it or not. -/
structure Interval where
  low : Nat
  value : Nat
  high : Nat
  den : Nat
  closed : Bool

namespace Interval

/-- Whether `num / (den * scale)` lies in the interval. -/
def contains (i : Interval) (num scale : Nat) : Bool :=
  if i.closed then i.low * scale ≤ num && num ≤ i.high * scale
  else i.low * scale < num && num < i.high * scale

/-- The interval of the positive number `m` times two to the power of `q`,
where `edge` says that the numbers below it lie twice as dense. -/
def ofBinary (m : Nat) (q : Int) (edge : Bool) : Interval :=
  let up := (q - 2).toNat
  let den := Nat.pow 2 (2 - q).toNat
  let closed := m % 2 = 0
  { low := (4 * m - if edge then 1 else 2) <<< up
    value := (4 * m) <<< up
    high := (4 * m + 2) <<< up
    den := den
    closed := closed }

end Interval

/-! ## Grids -/

/-- A decimal: digits and the place of the point, counted from their front. -/
structure Digits where
  digits : List Char
  point : Int

/-- The decimal exponent with `10 ^ (k - 1) ≤ num / den < 10 ^ k`, searched
upwards from a lower bound. -/
def pointPlace (num den : Nat) : Nat → Int → Int
  | 0, k => k
  | fuel + 1, k =>
    if 0 ≤ k then
      if num < den * Nat.pow 10 k.toNat then k else pointPlace num den fuel (k + 1)
    else
      if num * Nat.pow 10 (-k).toNat < den then k else pointPlace num den fuel (k + 1)

/-- The point of a grid nearest to the number among those that read back; of two
equally near ones, the larger. -/
def onGrid? (i : Interval) (k : Int) (n : Nat) : Option Nat :=
  let e : Int := k - (n : Int)
  let unit := i.den * Nat.pow 10 e.toNat
  let scale := Nat.pow 10 (-e).toNat
  let d := i.value * scale / unit
  let down := i.contains (d * unit) scale
  let up := i.contains ((d + 1) * unit) scale
  if down && up then
    some (if 2 * (i.value * scale - d * unit) < unit then d else d + 1)
  else if down then some d
  else if up then some (d + 1)
  else none

/-- The digits of a grid point; a carry to a further digit moves the point. -/
def gridDigits (d : Nat) (k : Int) (n : Nat) : Digits :=
  let cs := Nat.toDigits 10 d
  { digits := (cs.reverse.dropWhile (· == '0')).reverse
    point := k + ((cs.length : Int) - (n : Int)) }

/-- The first grid of at least `n` digits with a point that reads back. -/
def searchGrids (i : Interval) (k : Int) : Nat → Nat → Digits
  | 0, n => gridDigits (i.value * Nat.pow 10 ((n : Int) - k).toNat / i.den) k n
  | fuel + 1, n =>
    match onGrid? i k n with
    | some d => gridDigits d k n
    | none => searchGrids i k fuel (n + 1)

/-- The shortest digits of a positive number. -/
def Interval.shortest (i : Interval) : Digits :=
  let guess : Int := (((i.value.log2 : Int) - (i.den.log2 : Int) - 1) * 30103).fdiv 100000
  searchGrids i (pointPlace i.value i.den 8 guess) 17 1

/-! ## Positional notation -/

/-- A decimal without exponent. -/
def positional (d : Digits) : List Char :=
  let n := d.digits.length
  if d.point ≤ 0 then
    '0' :: '.' :: (List.replicate (-d.point).toNat '0' ++ d.digits)
  else if n ≤ d.point.toNat then
    d.digits ++ List.replicate (d.point.toNat - n) '0'
  else
    d.digits.take d.point.toNat ++ '.' :: d.digits.drop d.point.toNat

/-- The text of a finite number without its sign. -/
def magnitudeText (bits : Nat) : List Char :=
  let fraction : Nat := bits % Nat.pow 2 52
  let exponent : Nat := bits / Nat.pow 2 52 % 2048
  if fraction = 0 && exponent = 0 then ['0']
  else if exponent = 0 then
    positional (Interval.ofBinary fraction (-1074) false).shortest
  else
    positional (Interval.ofBinary (Nat.pow 2 52 + fraction) (Int.ofNat exponent - 1075)
      (fraction = 0 && 1 < exponent)).shortest

/-- The text of a sample value: the shortest decimal that reads back, in
positional notation, and words for infinity and for no number. -/
def display (x : Float) : String :=
  let bits := x.toBits.toNat
  let negative := Nat.pow 2 63 ≤ bits
  let exponent := bits / Nat.pow 2 52 % 2048
  if exponent = 2047 then
    if bits % Nat.pow 2 52 = 0 then (if negative then "-inf" else "inf") else "NaN"
  else
    String.ofList ((if negative then ['-'] else []) ++ magnitudeText bits)

end SapMonitor.Decimal
