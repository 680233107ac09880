/-!
# Integers in decimal

Counters and settings arrive as decimal texts.  An integer is an optional sign
and at least one ASCII digit; a range decides which of them are accepted.
-/

namespace SapMonitor.Decimal

/-- The value of an ASCII digit. -/
def digitValue (c : Char) : Nat :=
  c.toNat - '0'.toNat

/-- The number written by a list of digits. -/
def digitsValue (cs : List Char) : Nat :=
  cs.foldl (fun n c => 10 * n + digitValue c) 0

/-- The value of a non-empty list of digits. -/
def readNat? (cs : List Char) : Option Nat :=
  if cs.isEmpty || !cs.all Char.isDigit then none else some (digitsValue cs)

/-- The value of an optionally signed non-empty list of digits. -/
def readInt? : List Char → Option Int
  | '-' :: cs => (readNat? cs).map fun n => -(n : Int)
  | '+' :: cs => (readNat? cs).map fun n => (n : Int)
  | cs => (readNat? cs).map fun n => (n : Int)

/-- A range of integers with both ends included. -/
structure Range where
  lo : Int
  hi : Int

/-- The integers that fit 32 bits. -/
def Range.int32 : Range := ⟨-2147483648, 2147483647⟩

/-- The integers that fit 64 bits. -/
def Range.int64 : Range := ⟨-9223372036854775808, 9223372036854775807⟩

/-- The integer written by a text, if it lies in the range. -/
def read? (range : Range) (cs : List Char) : Option Int :=
  (readInt? cs).filter fun n => range.lo ≤ n && n ≤ range.hi

end SapMonitor.Decimal
