import Mathlib.Data.List.TakeWhile
import SapMonitor.Url.Reader

/-!
# Pieces of URLs

The parts of a URL are encoded, so that they do not hold the characters that end them.  What is
cut off at such a character is the part itself.

Main results:

- `allowed_of_mem_encode`: an encoded text has no characters of its class.
- `cutAt_append` and `splitLast?_append`: parts are cut off whole.
-/

namespace SapMonitor.Url

/-! ## Encoded texts -/

/-- A class that the signs of encoded bytes are not in. -/
structure SparesCodes (inSet : Char → Bool) : Prop where
  percent : inSet '%' = false
  digits : ∀ n < 16, inSet (upperHex n) = false

theorem sparesCodes_user : SparesCodes inUserSet := by
  constructor <;> decide

theorem sparesCodes_path : SparesCodes inPathSet := by
  constructor <;> decide

theorem sparesCodes_query (special : Bool) : SparesCodes (inQuerySet special) := by
  cases special <;> constructor <;> decide

theorem sparesCodes_fragment : SparesCodes inFragmentSet := by
  constructor <;> decide

/-- The characters of an encoded byte. -/
theorem mem_encodeByte {b : UInt8} {c : Char} (h : c ∈ encodeByte b) :
    c = '%' ∨ ∃ n < 16, c = upperHex n := by
  have hb : b.toNat < 256 := b.toNat_lt
  simp only [encodeByte, List.mem_cons, List.not_mem_nil, or_false] at h
  rcases h with rfl | rfl | rfl
  · exact .inl rfl
  · exact .inr ⟨b.toNat / 16, by omega, rfl⟩
  · exact .inr ⟨b.toNat % 16, by omega, rfl⟩

/-- A character of an encoded text was there before and is allowed, or it belongs to an encoded
byte. -/
theorem mem_encode {inSet : Char → Bool} {cs : List Char} {c : Char} (h : c ∈ encode inSet cs) :
    (c ∈ cs ∧ inSet c = false) ∨ c = '%' ∨ ∃ n < 16, c = upperHex n := by
  obtain ⟨d, hd, hc⟩ := List.mem_flatMap.1 h
  unfold encodeChar at hc
  split at hc
  · obtain ⟨b, -, hb⟩ := List.mem_flatMap.1 hc
    exact .inr (mem_encodeByte hb)
  · rename_i hallowed
    obtain rfl : c = d := by simpa using hc
    exact .inl ⟨hd, by simpa using hallowed⟩

/-- An encoded text has no characters of its class. -/
theorem allowed_of_mem_encode {inSet : Char → Bool} (h : SparesCodes inSet) {cs : List Char}
    {c : Char} (hc : c ∈ encode inSet cs) : inSet c = false := by
  rcases mem_encode hc with ⟨-, hallowed⟩ | rfl | ⟨n, hn, rfl⟩
  · exact hallowed
  · exact h.percent
  · exact h.digits n hn

/-- A character that encoded bytes do not have was there before. -/
theorem mem_of_mem_encode {inSet : Char → Bool} {cs : List Char} {c : Char} (hpercent : c ≠ '%')
    (hdigits : ∀ n < 16, c ≠ upperHex n) (hc : c ∈ encode inSet cs) : c ∈ cs := by
  rcases mem_encode hc with ⟨hmem, -⟩ | rfl | ⟨n, hn, rfl⟩
  · exact hmem
  · exact absurd rfl hpercent
  · exact absurd rfl (hdigits n hn)

/-! ## Cuts -/

section Cuts

variable {sep : Char} {front : List Char}

theorem cutAt_of_not_mem (h : sep ∉ front) : cutAt sep front = (front, none) := by
  have hdrop : front.dropWhile (· ≠ sep) = [] := by
    rw [List.dropWhile_eq_nil_iff]
    intro c hc
    simpa using ne_of_mem_of_not_mem hc h
  rw [cutAt, hdrop]

theorem cutAt_append (h : sep ∉ front) (rest : List Char) :
    cutAt sep (front ++ sep :: rest) = (front, some rest) := by
  have hall : ∀ c ∈ front, decide (c ≠ sep) = true := by
    intro c hc
    simpa using ne_of_mem_of_not_mem hc h
  rw [cutAt, List.dropWhile_append_of_pos hall, List.takeWhile_append_of_pos hall]
  simp

theorem splitLast?_of_not_mem (h : sep ∉ front) : splitLast? sep front = none := by
  simp [splitLast?, h]

theorem splitLast?_append (front : List Char) {rest : List Char} (h : sep ∉ rest) :
    splitLast? sep (front ++ sep :: rest) = some (front, rest) := by
  have hall : ∀ c ∈ rest.reverse, decide (c ≠ sep) = true := by
    intro c hc
    simpa using ne_of_mem_of_not_mem (List.mem_reverse.1 hc) h
  have hback : (front ++ sep :: rest).reverse = rest.reverse ++ sep :: front.reverse := by simp
  simp only [splitLast?, hback]
  rw [List.dropWhile_append_of_pos hall, List.takeWhile_append_of_pos hall]
  simp

end Cuts

end SapMonitor.Url
