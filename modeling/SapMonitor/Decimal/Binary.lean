import SapMonitor.Decimal.Integer

/-!
# Binary floating point numbers from decimal texts

A reading is a binary64 number.  A decimal text denotes a rational number, and
the reading is the nearest binary64 number to it, an exact half going to the
even neighbour.  The rounding is done on natural numbers.
-/

namespace SapMonitor.Decimal

/-! ## Rounding a quotient -/

/-- The natural number nearest to a quotient; a half goes to the even
neighbour. -/
def roundHalfEven (num den : Nat) : Nat :=
  let q := num / den
  let r := num % den
  if 2 * r < den then q
  else if den < 2 * r then q + 1
  else if q % 2 = 0 then q else q + 1

/-- The bits of positive infinity. -/
def infinityBits : Nat := 0x7FF0000000000000

/-- The quotient `num / den` divided by two to the power of `e`, as numerator
and denominator. -/
def scaled (num den : Nat) (e : Int) : Nat × Nat :=
  if 0 ≤ e then (num, den <<< e.toNat) else (num <<< (-e).toNat, den)

/-- The bits of the binary64 number nearest to `num / den`. -/
def nearestBits (num den : Nat) : Nat :=
  if num = 0 then 0
  else
    let guess : Int := (num.log2 : Int) - (den.log2 : Int) - 53
    let (n, d) := scaled num den guess
    let e := max (if d <<< 53 ≤ n then guess + 1 else guess) (-1074)
    let (n, d) := scaled num den e
    min ((e + 1074).toNat <<< 52 + roundHalfEven n d) infinityBits

/-! ## Decimal texts -/

/-- The bits of the binary64 number nearest to `m` times ten to the power of
`e`.  Numbers beyond the range are settled before any power is computed, as far
as the number of bits tells them. -/
def nearestDecimalBits (m : Nat) (e : Int) : Nat :=
  if m = 0 then 0
  else if 0 ≤ e then
    if 1024 ≤ m.log2 + 3 * e.toNat then infinityBits else nearestBits (m * Nat.pow 10 e.toNat) 1
  else if m.log2 + 1076 ≤ 3 * (-e).toNat then 0
  else nearestBits m (Nat.pow 10 (-e).toNat)

/-- The number with the given bits, negative if asked. -/
def ofSignedBits (negative : Bool) (bits : Nat) : Float :=
  Float.ofBits (bits + if negative then 0x8000000000000000 else 0).toUInt64

/-- The number nearest to a signed decimal fraction. -/
def ofDecimal (negative : Bool) (m : Nat) (e : Int) : Float :=
  ofSignedBits negative (nearestDecimalBits m e)

/-- The undefined number. -/
def notANumber : Float := Float.ofBits 0x7FF8000000000000

/-- The number with a decimal point and perhaps an exponent written by the
list. -/
def readUnsigned? (negative : Bool) (cs : List Char) : Option Float :=
  let whole := cs.takeWhile Char.isDigit
  let rest := cs.dropWhile Char.isDigit
  let (part, rest) := match rest with
    | '.' :: r => (r.takeWhile Char.isDigit, r.dropWhile Char.isDigit)
    | r => ([], r)
  if whole.isEmpty && part.isEmpty then none
  else
    let m := digitsValue (whole ++ part)
    let shift : Int := -(part.length : Int)
    match rest with
    | [] => some (ofDecimal negative m shift)
    | c :: r =>
      if c = 'e' || c = 'E' then
        (readInt? r).map fun e => ofDecimal negative m (shift + e)
      else none

/-- The number written by a text: a decimal, or a word for infinity or for no
number, after an optional sign. -/
def readFloat? (cs : List Char) : Option Float :=
  let (negative, body) := match cs with
    | '-' :: r => (true, r)
    | '+' :: r => (false, r)
    | r => (false, r)
  let word := String.ofList (body.map Char.toLower)
  if word = "inf" || word = "infinity" then some (ofSignedBits negative infinityBits)
  else if word = "nan" then some notANumber
  else readUnsigned? negative body

end SapMonitor.Decimal
