import SapMonitor.Text.Quoted

/-!
# What can be wrong with a marked-up text

A document of the service is read from left to right, and reading stops at the
first fault.  This module names the faults and gives each one its wording.
-/

namespace SapMonitor.Markup

/-- The constructs that can be cut off by the end of the input. -/
inductive Part where
  | element
  | verbatim
  | comment
  | doctype
  | instruction
  | bang
  deriving DecidableEq

/-- The name of a construct in messages. -/
def Part.name : Part → String
  | element => "Element"
  | verbatim => "CData"
  | comment => "Comment"
  | doctype => "DOCTYPE"
  | instruction => "XmlDecl"
  | bang => "Bang"

/-- What can be wrong with a reference between `&` and `;`.  Positions count
bytes of the text that holds the reference. -/
inductive ReferenceError where
  | unknown (start stop : Nat) (name : String)
  | unterminated (start stop : Nat)
  | nullCharacter (start stop : Nat)
  | longHexadecimal
  | longDecimal
  | badHexadecimal (byte : Char)
  | badDecimal (byte : Char)
  | badCodePoint (n : Nat)
  deriving DecidableEq

/-- The position of a reference in messages. -/
def escapingAt (start stop : Nat) : String :=
  "Error while escaping character at range " ++ toString start ++ ".." ++ toString stop ++ ": "

/-- The wording of a faulty reference. -/
def ReferenceError.message : ReferenceError → String
  | unknown a b name => escapingAt a b ++ "Unrecognized escape symbol: " ++ Text.quote name
  | unterminated a b => escapingAt a b ++ "Cannot find ';' after '&'"
  | nullCharacter a b => escapingAt a b ++ "Null character entity not allowed"
  | longHexadecimal => "Cannot convert hexadecimal to utf8"
  | longDecimal => "Cannot convert decimal to utf8"
  | badHexadecimal byte => "'" ++ byte.toString ++ "' is not a valid hexadecimal character"
  | badDecimal byte => "'" ++ byte.toString ++ "' is not a valid decimal character"
  | badCodePoint n => "'" ++ toString n ++ "' is not a valid codepoint"

/-- What can be wrong with the markup. -/
inductive MarkupError where
  | mismatch (expected found : String)
  | unfinished (part : Part)
  | unknownBang (byte : Char)
  | emptyDoctype
  | reference (cause : ReferenceError)
  deriving DecidableEq

/-- The wording of a markup fault. -/
def MarkupError.message : MarkupError → String
  | mismatch expected found => "Expecting </" ++ expected ++ "> found </" ++ found ++ ">"
  | unfinished part => "Unexpected EOF during reading " ++ part.name
  | unknownBang byte =>
      "Only Comment (\x60--\x60), CDATA (\x60[CDATA[\x60) and DOCTYPE (\x60DOCTYPE\x60) nodes " ++
        "can start with a '!', but symbol \x60" ++ byte.toString ++ "\x60 found"
  | emptyDoctype => "DOCTYPE declaration must not be empty"
  | reference cause => cause.message

/-- The first byte of a character in UTF-8, shown as the character with that
number. -/
def leadByte (c : Char) : Char :=
  let n := c.toNat
  if n < 0x80 then c
  else if n < 0x800 then Char.ofNat (0xC0 + n / 64)
  else if n < 0x10000 then Char.ofNat (0xE0 + n / 4096)
  else Char.ofNat (0xF0 + n / 262144)

end SapMonitor.Markup
