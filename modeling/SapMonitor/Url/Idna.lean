import SapMonitor.Text.Strip
import SapMonitor.Url.Ascii

/-!
# Names of domains

A domain has a name in ASCII and in lower case.  A text in ASCII is its own name, up to letter case.
A text with other characters, or with a label that is encoded already, is named by the tables of
Unicode; these are not given here, but taken as a parameter with the laws that all of them keep.
-/

namespace SapMonitor.Url

/-! ## Labels -/

/-- Whether a label claims to be encoded. -/
def isEncodedLabel : List Char → Bool
  | 'x' :: 'n' :: '-' :: '-' :: _ => true
  | _ => false

/-- Whether a text is named without tables: it is in ASCII, and no label claims to be encoded. -/
def needsNoTables (bytes : List UInt8) : Bool :=
  bytes.all (· < 128) && !(Text.splitOnChar '.' (bytes.map lowerAscii)).any isEncodedLabel

/-! ## Tables -/

/-- Tables of Unicode that name domains, and what is documented of all such tables. -/
structure Idna where
  /-- The name of a domain in ASCII, if it has one. -/
  toAscii : List UInt8 → Option (List Char)
  /-- No forbidden character stands in a name. -/
  allowed {bytes : List UInt8} {name : List Char} : toAscii bytes = some name →
    ∀ c ∈ name, isForbiddenInDomain c = false
  /-- A name is in lower case. -/
  lower {bytes : List UInt8} {name : List Char} : toAscii bytes = some name →
    ∀ c ∈ name, c.toLower = c
  /-- No text with a colon is named. -/
  noColon {bytes : List UInt8} {name : List Char} : toAscii bytes = some name → 58 ∉ bytes
  /-- A domain in ASCII is put in lower case. -/
  ascii {bytes : List UInt8} {name : List Char} : (∀ b ∈ bytes, b < 128) →
    toAscii bytes = some name → name = bytes.map lowerAscii
  /-- Labels are encoded one by one: the first one, if it is in ASCII, is put in lower case. -/
  label {first rest : List UInt8} {name : List Char} : (∀ b ∈ first, b < 128 ∧ b ≠ 46) →
    toAscii (first ++ 46 :: rest) = some name → first.map lowerAscii ++ ['.'] <+: name
  /-- A name is its own name. -/
  again {bytes : List UInt8} {name : List Char} : toAscii bytes = some name →
    toAscii (name.flatMap String.utf8EncodeChar) = some name

namespace Idna

/-- The name of a domain. -/
def domain? (idna : Idna) (bytes : List UInt8) : Option (List Char) :=
  if needsNoTables bytes then
    if (bytes.map lowerAscii).any isForbiddenInDomain then none else some (bytes.map lowerAscii)
  else idna.toAscii bytes

/-- Whether a text names a domain. -/
def names (idna : Idna) (cs : List Char) : Bool :=
  (idna.domain? (decodeBytes cs)).isSome

end Idna

end SapMonitor.Url
