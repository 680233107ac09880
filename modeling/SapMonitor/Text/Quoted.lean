import SapMonitor.Text.Printable

/-!
# Texts in quotes

Messages and stream keys show a text in double quotes.  The quote and the
backslash are escaped by a backslash, the common controls have letters, and
any other character that is not shown is written by its code point.

Main results:

- `escapeChar_ne_nil` and `escapeChar_quote`: every character has a written
  form, and a quote is never written bare.
-/

namespace SapMonitor.Text

/-- The digits of a number in base sixteen, lower case, without leading
zeros. -/
def hexDigits (n : Nat) : List Char :=
  Nat.toDigits 16 n

/-- How one character is written inside the quotes. -/
def escapeChar (c : Char) : List Char :=
  if c = '"' then ['\\', '"']
  else if c = '\\' then ['\\', '\\']
  else if c = '\n' then ['\\', 'n']
  else if c = '\r' then ['\\', 'r']
  else if c = '\t' then ['\\', 't']
  else if c = '\x00' then ['\\', '0']
  else if isPrintable c then [c]
  else '\\' :: 'u' :: '\x7b' :: (hexDigits c.toNat ++ ['\x7d'])

/-- Every character has a written form. -/
theorem escapeChar_ne_nil (c : Char) : escapeChar c ≠ [] := by
  unfold escapeChar
  repeat' split
  all_goals simp

/-- A written form starts with a quote for no character. -/
theorem escapeChar_quote (c : Char) : (escapeChar c).head? ≠ some '"' := by
  unfold escapeChar
  split
  · simp
  · rename_i h
    repeat' split
    all_goals simp [h]

/-- The text in double quotes. -/
def quote (s : String) : String :=
  String.ofList ('"' :: (s.toList.flatMap escapeChar ++ ['"']))

end SapMonitor.Text
