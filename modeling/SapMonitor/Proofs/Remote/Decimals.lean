import SapMonitor.Decimal.Integer
import SapMonitor.Text.Strip

/-!
# Integers written in decimal

The text of an integer is read back as the integer, and has no white space that a reader
of numbers would drop.

Main results:

- `read?_toString`: an integer of a range is read back from its text.
- `trim_toString`: the text of an integer is not blank anywhere.
-/

namespace SapMonitor.Decimal

/-! ## Natural numbers -/

/-- The digits of a number are read back as the number. -/
theorem readNat?_repr (n : Nat) : readNat? n.repr.toList = some n := by
  have hne : (Nat.toDigits 10 n).isEmpty = false := by
    rw [List.isEmpty_eq_false_iff]
    exact Nat.toDigits_ne_nil
  have hdigits : (Nat.toDigits 10 n).all Char.isDigit = true := by
    rw [List.all_eq_true]
    intro c hc
    exact Nat.isDigit_of_mem_toDigits (by decide) (by decide) hc
  have hvalue : digitsValue (Nat.toDigits 10 n) = n := by
    have h := Nat.ofDigitChars_toDigits (b := 10) (n := n) (by decide) (by decide)
    rwa [Nat.ofDigitChars_eq_foldl] at h
  rw [Nat.toList_repr, readNat?, hne, hdigits, hvalue]
  rfl

/-- A digit is neither a sign nor blank. -/
theorem digit_ne_sign {c : Char} (h : c.isDigit = true) :
    c ≠ '-' ∧ c ≠ '+' ∧ Text.isBlank c = false := by
  refine ⟨?_, ?_, ?_⟩
  · rintro rfl
    exact absurd h (by decide)
  · rintro rfl
    exact absurd h (by decide)
  · simp only [Char.isDigit, Bool.and_eq_true, decide_eq_true_eq] at h
    obtain ⟨hlo, hhi⟩ := h
    have hlo' : 48 ≤ c.toNat := hlo
    have hhi' : c.toNat ≤ 57 := hhi
    simp only [Text.isBlank, Bool.or_eq_false_iff, Bool.and_eq_false_iff, decide_eq_false_iff_not,
      beq_eq_false_iff_ne]
    omega

/-- The text of a number has digits only. -/
theorem isDigit_of_mem_repr {n : Nat} {c : Char} (h : c ∈ n.repr.toList) : c.isDigit = true := by
  rw [Nat.toList_repr] at h
  exact Nat.isDigit_of_mem_toDigits (by decide) (by decide) h

/-! ## Integers -/

/-- An integer is read back from its text. -/
theorem readInt?_toString (n : Int) : readInt? (toString n).toList = some n := by
  rw [Int.toString_eq_repr, Int.repr_eq_if]
  split
  · rename_i hn
    have hread := readNat?_repr n.toNat
    have hdigit := fun c => isDigit_of_mem_repr (n := n.toNat) (c := c)
    cases hc : n.toNat.repr.toList with
    | nil => simp [hc, readNat?] at hread
    | cons c cs =>
      rw [hc] at hread
      obtain ⟨hminus, hplus, -⟩ := digit_ne_sign (hdigit c (by simp [hc]))
      rw [readInt?, hread]
      · exact congrArg some (Int.toNat_of_nonneg hn)
      · rintro cs' heq
        exact hminus (List.cons.inj heq).1
      · rintro cs' heq
        exact hplus (List.cons.inj heq).1
  · rename_i hn
    have hminus : ("-" ++ (-n).toNat.repr).toList = '-' :: (-n).toNat.repr.toList := by
      simp
    have hvalue : -(((-n).toNat : Nat) : Int) = n := by omega
    rw [hminus, readInt?, readNat?_repr]
    exact congrArg some hvalue

/-- An integer of a range is read back from its text. -/
theorem read?_toString {range : Range} {n : Int} (hlo : range.lo ≤ n) (hhi : n ≤ range.hi) :
    read? range (toString n).toList = some n := by
  rw [read?, readInt?_toString]
  simp [Option.filter, hlo, hhi]

/-- The text of an integer has no blank characters. -/
theorem not_isBlank_of_mem_toString {n : Int} {c : Char} (h : c ∈ (toString n).toList) :
    Text.isBlank c = false := by
  rw [Int.toString_eq_repr, Int.repr_eq_if] at h
  split at h
  · exact (digit_ne_sign (isDigit_of_mem_repr h)).2.2
  · rw [String.toList_append, List.mem_append] at h
    rcases h with hsign | hdigit
    · obtain rfl : c = '-' := by simpa using hsign
      decide
    · exact (digit_ne_sign (isDigit_of_mem_repr hdigit)).2.2

end SapMonitor.Decimal

namespace SapMonitor.Text

/-- The text of an integer is trimmed already. -/
theorem trim_toString (n : Int) : trim (toString n) = toString n := by
  rw [trim, strip_of_none fun c hc => Decimal.not_isBlank_of_mem_toString hc,
    String.ofList_toList]

end SapMonitor.Text
