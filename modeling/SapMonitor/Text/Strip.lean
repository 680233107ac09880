/-!
# Stripping and searching character lists

Texts are taken apart as lists of characters.  This module removes characters
of a class from the ends of a list, finds one list inside another, and fixes
which characters count as white space in numbers, durations and settings.

Main results:

- `dropTrailing_append_of_all` and `dropTrailing_concat` say what remains when
  trailing characters are dropped.
- `strip_of_ends`: what has no character of the class at its ends is stripped of nothing.
- `splitOnChar_append` and `mem_splitOnChar`: the parts of a text, of which there is always one.
-/

namespace SapMonitor.Text

/-! ## White space of the Unicode standard -/

/-- The characters with the Unicode property `White_Space`. -/
def isBlank (c : Char) : Bool :=
  let n := c.toNat
  (9 ≤ n && n ≤ 13) || n == 0x20 || n == 0x85 || n == 0xA0 || n == 0x1680 ||
    (0x2000 ≤ n && n ≤ 0x200A) || n == 0x2028 || n == 0x2029 || n == 0x202F ||
    n == 0x205F || n == 0x3000

/-! ## Dropping at the ends -/

/-- The list without its longest tail of characters from the class. -/
def dropTrailing (p : Char → Bool) (cs : List Char) : List Char :=
  (cs.reverse.dropWhile p).reverse

@[simp] theorem dropTrailing_nil (p : Char → Bool) : dropTrailing p [] = [] :=
  rfl

/-- A last character outside the class protects everything before it. -/
theorem dropTrailing_concat {p : Char → Bool} {cs : List Char} {c : Char}
    (h : p c = false) : dropTrailing p (cs ++ [c]) = cs ++ [c] := by
  simp [dropTrailing, h]

/-- A tail from the class is dropped whole. -/
theorem dropTrailing_append_of_all {p : Char → Bool} {cs tail : List Char}
    (h : ∀ c ∈ tail, p c = true) :
    dropTrailing p (cs ++ tail) = dropTrailing p cs := by
  have h' : ∀ c ∈ tail.reverse, p c = true := by simpa using h
  simp [dropTrailing, List.dropWhile_append_of_pos h']

/-- The list without the characters of the class at either end. -/
def strip (p : Char → Bool) (cs : List Char) : List Char :=
  dropTrailing p (cs.dropWhile p)

/-- A list without characters of the class at its ends is left as it is. -/
theorem strip_of_ends {p : Char → Bool} {cs : List Char} (hhead : cs.head?.all (!p ·) = true)
    (hlast : cs.getLast?.all (!p ·) = true) : strip p cs = cs := by
  have hdrop {cs : List Char} (h : cs.head?.all (!p ·) = true) : cs.dropWhile p = cs := by
    cases cs with
    | nil => rfl
    | cons c cs => exact List.dropWhile_cons_of_neg (by simpa using h)
  rw [strip, hdrop hhead, dropTrailing, hdrop (by rwa [List.head?_reverse]),
    List.reverse_reverse]

/-- A list without any character of the class is left as it is. -/
theorem strip_of_none {p : Char → Bool} {cs : List Char} (h : ∀ c ∈ cs, p c = false) :
    strip p cs = cs := by
  apply strip_of_ends
  · rw [Option.all_eq_true]
    intro c hc
    rw [h c (List.mem_of_head? hc), Bool.not_false]
  · rw [Option.all_eq_true]
    intro c hc
    rw [h c (List.mem_of_getLast? hc), Bool.not_false]

/-- The text without white space at either end. -/
def trim (s : String) : String :=
  String.ofList (strip isBlank s.toList)

/-! ## Searching -/

/-- Whether the first list is a block of the second. -/
def occursIn (needle : List Char) : List Char → Bool
  | [] => needle.isEmpty
  | c :: cs => needle.isPrefixOf (c :: cs) || occursIn needle cs

/-- Whether the first text occurs in the second. -/
def contains (hay needle : String) : Bool :=
  occursIn needle.toList hay.toList

/-! ## Letter case -/

/-- The text with the letters `a` to `z` in upper case. -/
def upper (s : String) : String :=
  String.ofList (s.toList.map Char.toUpper)

/-- The text with the letters `A` to `Z` in lower case. -/
def lower (s : String) : String :=
  String.ofList (s.toList.map Char.toLower)

/-! ## Digits -/

/-- The value of a hexadecimal digit of either case. -/
def hexDigit? (c : Char) : Option Nat :=
  if c.isDigit then some (c.toNat - 48)
  else if 'a' ≤ c && c ≤ 'f' then some (c.toNat - 87)
  else if 'A' ≤ c && c ≤ 'F' then some (c.toNat - 55)
  else none

/-! ## Splitting and joining -/

/-- The parts of a text between the separators; there is one more of them. -/
def splitOnChar (sep : Char) : List Char → List (List Char)
  | [] => [[]]
  | c :: cs =>
    if c = sep then [] :: splitOnChar sep cs
    else
      match splitOnChar sep cs with
      | [] => [[c]]
      | part :: rest => (c :: part) :: rest

/-- A text has at least one part. -/
theorem splitOnChar_ne_nil (sep : Char) (cs : List Char) : splitOnChar sep cs ≠ [] := by
  cases cs with
  | nil => exact List.cons_ne_nil _ _
  | cons c cs =>
    unfold splitOnChar
    split
    · exact List.cons_ne_nil _ _
    · split <;> exact List.cons_ne_nil _ _

section Parts

variable {sep : Char} {front : List Char}

/-- Without a separator the text is the only part. -/
theorem splitOnChar_of_not_mem (h : sep ∉ front) : splitOnChar sep front = [front] := by
  induction front with
  | nil => rfl
  | cons c front ih =>
    obtain ⟨hc, hfront⟩ := not_or.1 (mt List.mem_cons.2 h)
    rw [splitOnChar, if_neg (Ne.symm hc), ih hfront]

/-- The first part ends at the first separator. -/
theorem splitOnChar_append (h : sep ∉ front) (rest : List Char) :
    splitOnChar sep (front ++ sep :: rest) = front :: splitOnChar sep rest := by
  induction front with
  | nil => simp [splitOnChar]
  | cons c front ih =>
    obtain ⟨hc, hfront⟩ := not_or.1 (mt List.mem_cons.2 h)
    rw [List.cons_append, splitOnChar, if_neg (Ne.symm hc), ih hfront]

/-- No part of a text has the separator, nor characters that the text does not have. -/
theorem mem_splitOnChar {cs part : List Char} (h : part ∈ splitOnChar sep cs) :
    sep ∉ part ∧ ∀ c ∈ part, c ∈ cs := by
  induction cs generalizing part with
  | nil =>
    obtain rfl : part = [] := by simpa [splitOnChar] using h
    simp
  | cons d cs ih =>
    unfold splitOnChar at h
    split at h
    · rcases List.mem_cons.1 h with rfl | h
      · simp
      · exact ⟨(ih h).1, fun c hc => List.mem_cons_of_mem d ((ih h).2 c hc)⟩
    · rename_i hd
      cases hsplit : splitOnChar sep cs with
      | nil => exact absurd hsplit (splitOnChar_ne_nil sep cs)
      | cons first others =>
        rw [hsplit] at h
        rcases List.mem_cons.1 h with rfl | h
        · -- the first part goes on from the character in front
          obtain ⟨hsep, hmem⟩ := ih (hsplit ▸ List.mem_cons_self)
          constructor
          · intro hin
            rcases List.mem_cons.1 hin with rfl | hin
            · exact hd rfl
            · exact hsep hin
          · intro c hc
            rcases List.mem_cons.1 hc with rfl | hc
            · exact List.mem_cons_self
            · exact List.mem_cons_of_mem d (hmem c hc)
        · obtain ⟨hsep, hmem⟩ := ih (hsplit ▸ List.mem_cons_of_mem first h)
          exact ⟨hsep, fun c hc => List.mem_cons_of_mem d (hmem c hc)⟩

end Parts

/-- The texts one after the other, with the separator between neighbours. -/
def joinWith (sep : String) : List String → String
  | [] => ""
  | [s] => s
  | s :: rest => s ++ sep ++ joinWith sep rest

end SapMonitor.Text
