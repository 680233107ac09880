import SapMonitor.Text.Strip

/-!
# Percent encoding

A character that may not stand in a part of a URL is written as the bytes of
its UTF-8 form, each as a percent sign and two hexadecimal digits.  Which
characters these are depends on the part.

Main results:

- `encode_of_allowed`: text of allowed characters is left as it is.
- `decodeBytes_of_plain`: text without a percent sign is its own bytes.
-/

namespace SapMonitor.Url

/-! ## Classes of characters that are encoded -/

/-- Control characters and everything beyond ASCII. -/
def isControl (c : Char) : Bool :=
  c.toNat < 0x20 || 0x7E < c.toNat

/-- What is encoded in fragments. -/
def inFragmentSet (c : Char) : Bool :=
  isControl c || [' ', '"', '<', '>', '\x60'].contains c

/-- What is encoded in paths. -/
def inPathSet (c : Char) : Bool :=
  inFragmentSet c || ['#', '?', '\x7b', '\x7d'].contains c

/-- What is encoded in names and passwords of users. -/
def inUserSet (c : Char) : Bool :=
  inPathSet c || ['/', ':', ';', '=', '@', '[', '\\', ']', '^', '|'].contains c

/-- What is encoded in queries; special schemes encode single quotes too. -/
def inQuerySet (special : Bool) (c : Char) : Bool :=
  isControl c || [' ', '"', '#', '<', '>'].contains c || (special && c = '\'')

/-! ## Encoding and decoding -/

/-- A hexadecimal digit in upper case. -/
def upperHex (n : Nat) : Char :=
  (Nat.digitChar n).toUpper

/-- A byte as a percent sign and two digits. -/
def encodeByte (b : UInt8) : List Char :=
  ['%', upperHex (b.toNat / 16), upperHex (b.toNat % 16)]

/-- A character, encoded if it is in the class. -/
def encodeChar (inSet : Char → Bool) (c : Char) : List Char :=
  if inSet c then (String.utf8EncodeChar c).flatMap encodeByte else [c]

/-- A text with the characters of the class encoded. -/
def encode (inSet : Char → Bool) (cs : List Char) : List Char :=
  cs.flatMap (encodeChar inSet)

/-- Text of allowed characters is left as it is. -/
theorem encode_of_allowed {inSet : Char → Bool} {cs : List Char}
    (h : ∀ c ∈ cs, inSet c = false) : encode inSet cs = cs := by
  induction cs with
  | nil => rfl
  | cons c cs ih =>
    have hc : inSet c = false := h c (by simp)
    have hs := ih fun d hd => h d (by simp [hd])
    simp only [encode] at hs
    simp [encode, encodeChar, hc, hs]

/-- The bytes of a text with percent signs resolved where two digits follow. -/
def decodeBytes : List Char → List UInt8
  | [] => []
  | '%' :: a :: b :: rest =>
    match Text.hexDigit? a, Text.hexDigit? b with
    | some x, some y => UInt8.ofNat (16 * x + y) :: decodeBytes rest
    | _, _ => 37 :: decodeBytes (a :: b :: rest)
  | c :: rest => String.utf8EncodeChar c ++ decodeBytes rest

/-- Text without a percent sign is its own bytes. -/
theorem decodeBytes_of_plain {cs : List Char} (h : ∀ c ∈ cs, c ≠ '%') :
    decodeBytes cs = cs.flatMap String.utf8EncodeChar := by
  induction cs with
  | nil => rfl
  | cons c cs ih =>
    have hc : c ≠ '%' := h c (by simp)
    rw [decodeBytes.eq_3 c cs (by intro a b r hc'; exact absurd hc' hc)]
    rw [ih fun d hd => h d (by simp [hd])]
    simp

end SapMonitor.Url
