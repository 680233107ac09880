/-!
# Encoded labels

A label with characters beyond ASCII is written in ASCII: its ASCII characters first, and then
numbers that say which characters are inserted where, in the order of the characters.  The digits of
the numbers are letters and digits, lowest first; how far a digit counts is adapted to the numbers
that came before.
-/

namespace SapMonitor.Url.Punycode

/-! ## Numbers -/

/-- The digit of a value below thirty-six. -/
def digit (n : Nat) : Char :=
  if n < 26 then Char.ofNat (n + 97) else Char.ofNat (n + 22)

/-- The value of a digit. -/
def digitValue? (c : Char) : Option Nat :=
  if c.isDigit then some (c.toNat - 22)
  else if 'a' ≤ c && c ≤ 'z' then some (c.toNat - 97)
  else none

/-- The value from which on a digit is not the last one; `place` counts the digits in steps of
thirty-six. -/
def threshold (bias place : Nat) : Nat :=
  if place ≤ bias then 1 else min (place - bias) 26

/-- The bias after a number, for the count of characters that are there then. -/
def adapt (number count : Nat) (first : Bool) : Nat :=
  let rec settle : Nat → Nat → Nat → Nat
    | 0, place, _ => place
    | fuel + 1, place, n =>
      if 455 < n then settle fuel (place + 36) (n / 35) else place + 36 * n / (n + 38)
  let n := if first then number / 700 else number / 2
  settle 32 0 (n + n / count)

/-- The digits of a number; there are fewer of them than the number is large. -/
def writeNumber (bias : Nat) : Nat → Nat → Nat → List Char
  | 0, _, _ => []
  | fuel + 1, place, n =>
    let t := threshold bias place
    if n < t then [digit n]
    else digit (t + (n - t) % (36 - t)) :: writeNumber bias fuel (place + 36) ((n - t) / (36 - t))

/-- The sum of a number and the digits at the front, which count by a weight, and what follows
them. -/
def readNumber? (bias : Nat) : List Char → Nat → Nat → Nat → Option (Nat × List Char)
  | [], _, _, _ => none
  | c :: cs, place, weight, n => do
    let d ← digitValue? c
    let t := threshold bias place
    if d < t then some (n + d * weight, cs)
    else readNumber? bias cs (place + 36) (weight * (36 - t)) (n + d * weight)

/-! ## Encoding -/

/-- How far the characters of a label are written. -/
structure Progress where
  /-- The next number, so far. -/
  number : Nat := 0
  bias : Nat := 72
  /-- The count of characters that are written. -/
  count : Nat
  digits : List Char := []

/-- Goes past a character of the label when the characters of a code point are inserted. -/
def Progress.pass (n : Nat) (p : Progress) (c : Char) : Progress :=
  if c.toNat < n then { p with number := p.number + 1 }
  else if c.toNat = n then
    { number := 0
      bias := adapt p.number (p.count + 1) p.digits.isEmpty
      count := p.count + 1
      digits := p.digits ++ writeNumber p.bias (p.number + 1) 36 p.number }
  else p

/-- Inserts the characters of code points, which are in order; the first one is looked for from
`low` on. -/
def insertAll (label : List Char) : List Nat → Nat → Progress → Progress
  | [], _, p => p
  | n :: ns, low, p =>
    let p := label.foldl (Progress.pass n) { p with number := p.number + (n - low) * (p.count + 1) }
    insertAll label ns (n + 1) { p with number := p.number + 1 }

/-- The code of a label whose characters beyond ASCII are among the code points, which are in
order. -/
def encode (codePoints : List Nat) (label : List Char) : List Char :=
  let basic := label.filter (·.toNat < 128)
  let others := codePoints.filter fun n => label.any (·.toNat = n)
  basic ++ (if basic.isEmpty then [] else ['-']) ++
    (insertAll label others 128 { count := basic.length }).digits

/-! ## Decoding -/

/-- The label after the insertions that the digits stand for; `n` is the code point and `i` the
place of the last one. -/
def insertions? : Nat → List Char → Nat → Nat → Nat → List Char → Option (List Char)
  | _, [], _, _, _, label => some label
  | 0, _, _, _, _, _ => none
  | fuel + 1, digits, n, i, bias, label => do
    let (total, rest) ← readNumber? bias digits 36 1 i
    let count := label.length + 1
    let n := n + total / count
    insertions? fuel rest n (total % count + 1) (adapt (total - i) count (i = 0))
      (label.insertIdx (total % count) (Char.ofNat n))

/-- The label of a code: up to the last hyphen its ASCII characters, and then the insertions. -/
def decode? (code : List Char) : Option (List Char) :=
  let basic := (code.reverse.dropWhile (· ≠ '-')).drop 1
  let digits := code.reverse.takeWhile (· ≠ '-')
  insertions? code.length digits.reverse 128 0 72 basic.reverse

end SapMonitor.Url.Punycode
