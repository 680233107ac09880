import Mathlib.Data.List.Induction
import Mathlib.Data.Nat.Digits.Defs
import Mathlib.Tactic.Ring
import SapMonitor.Proofs.Url.Pieces

/-!
# Numbers in texts and IPv4 addresses

The digits of a number are read back as the number, in every base up to sixteen.  An IPv4 address is
shown as its four bytes in decimal, whatever notation it was read from, and read back from them.

Main results:

- `readDigits?_toDigits`: the digits of a number are read back.
- `lt_of_readIpv4`: whatever the notation, an address has four bytes.
- `readIpv4_ipv4Text`: an IPv4 address is read back from its text.
-/

namespace SapMonitor.Url

/-! ## Digits -/

theorem hexDigit?_digitChar {n : Nat} (h : n < 16) : Text.hexDigit? (Nat.digitChar n) = some n := by
  have hall : ∀ n < 16, Text.hexDigit? (Nat.digitChar n) = some n := by decide
  exact hall n h

theorem readDigits?_concat (base : Nat) (cs : List Char) (c : Char) :
    readDigits? base (cs ++ [c]) = (readDigits? base cs).bind fun n =>
      (Text.hexDigit? c).bind fun d => if d < base then some (base * n + d) else none := by
  simp [readDigits?, List.foldl_append]

/-- The digits of a number are read back as the number. -/
theorem readDigits?_toDigits {base : Nat} (hlo : 1 < base) (hhi : base ≤ 16) (n : Nat) :
    readDigits? base (Nat.toDigits base n) = some n := by
  induction n using Nat.strongRecOn with
  | ind n ih =>
    rw [Nat.toDigits_eq_if hlo]
    by_cases hn : n < base
    · rw [if_pos hn, ← List.nil_append [n.digitChar], readDigits?_concat,
        hexDigit?_digitChar (by omega)]
      simp [readDigits?, hn]
    · have hrest : n % base < base := Nat.mod_lt n (by omega)
      have hfront : n / base < n := Nat.div_lt_self (by omega) hlo
      rw [if_neg hn, readDigits?_concat, ih _ hfront, hexDigit?_digitChar (by omega)]
      simp [hrest, Nat.div_add_mod]

theorem mem_toDigits {base : Nat} (h : 1 < base) {n : Nat} {c : Char}
    (hc : c ∈ Nat.toDigits base n) : ∃ d < base, c = Nat.digitChar d := by
  induction n using Nat.strongRecOn with
  | ind n ih =>
    rw [Nat.toDigits_eq_if h] at hc
    by_cases hn : n < base
    · rw [if_pos hn, List.mem_singleton] at hc
      exact ⟨n, hn, hc⟩
    · rw [if_neg hn, List.mem_append, List.mem_singleton] at hc
      rcases hc with hc | hc
      · exact ih _ (Nat.div_lt_self (by omega) h) hc
      · exact ⟨n % base, Nat.mod_lt n (by omega), hc⟩

/-- The digits of a number but zero do not begin with a zero. -/
theorem toDigits_head {n : Nat} (h : 0 < n) :
    ∃ c cs, Nat.toDigits 10 n = c :: cs ∧ c ≠ '0' := by
  induction n using Nat.strongRecOn with
  | ind n ih =>
    rw [Nat.toDigits_eq_if (by decide)]
    by_cases hn : n < 10
    · have hall : ∀ n < 10, 0 < n → n.digitChar ≠ '0' := by decide
      rw [if_pos hn]
      exact ⟨n.digitChar, [], rfl, hall n hn h⟩
    · obtain ⟨c, cs, hcs, hc⟩ := ih (n / 10) (by omega) (by omega)
      rw [if_neg hn, hcs]
      exact ⟨c, cs ++ [(n % 10).digitChar], rfl, hc⟩

/-- Digits write a number below the next power of the base. -/
theorem lt_of_readDigits? {base : Nat} {cs : List Char} {n : Nat}
    (h : readDigits? base cs = some n) : n < base ^ cs.length := by
  induction cs using List.reverseRecOn generalizing n with
  | nil =>
    obtain rfl : 0 = n := by simpa [readDigits?] using h
    simp
  | append_singleton cs c ih =>
    rw [readDigits?_concat] at h
    simp only [Option.bind_eq_some_iff, Option.ite_none_right_eq_some, Option.some.injEq] at h
    obtain ⟨front, hfront, d, -, hd, rfl⟩ := h
    have hbound := ih hfront
    rw [List.length_append, List.length_singleton, pow_succ, Nat.mul_comm (base ^ _)]
    calc base * front + d < base * front + base := by omega
      _ = base * (front + 1) := by ring
      _ ≤ base * base ^ cs.length := Nat.mul_le_mul_left base hbound

/-! ## IPv4 addresses -/

/-- Digits without a zero in front are a part in decimal. -/
theorem ipv4Part?_of_head_ne {c : Char} {cs : List Char} (h : c ≠ '0') :
    ipv4Part? (c :: cs) = readDigits? 10 (c :: cs) := by
  simp [ipv4Part?, h]

/-- A number in decimal is read back as a part of an address. -/
theorem ipv4Part?_toDigits (n : Nat) : ipv4Part? (Nat.toDigits 10 n) = some n := by
  have hdigits := readDigits?_toDigits (show 1 < 10 by decide) (by decide) n
  obtain rfl | hn := Nat.eq_zero_or_pos n
  · decide
  · obtain ⟨c, cs, hcs, hc⟩ := toDigits_head hn
    rw [hcs] at hdigits ⊢
    rw [ipv4Part?_of_head_ne hc, hdigits]

theorem dot_not_mem_toDigits (n : Nat) : '.' ∉ Nat.toDigits 10 n := by
  intro h
  exact absurd (Nat.isDigit_of_mem_toDigits (by decide) (by decide) h) (by decide)

/-- The bytes of an IPv4 address. -/
def ipv4Bytes (n : Nat) : List Nat :=
  [n / 16777216 % 256, n / 65536 % 256, n / 256 % 256, n % 256]

theorem lt_of_mem_ipv4Bytes {n b : Nat} (h : b ∈ ipv4Bytes n) : b < 256 := by
  simp only [ipv4Bytes, List.mem_cons, List.not_mem_nil, or_false] at h
  omega

theorem toList_ipv4Text (n : Nat) :
    (ipv4Text n).toList = Nat.toDigits 10 (n / 16777216 % 256) ++ '.' ::
      (Nat.toDigits 10 (n / 65536 % 256) ++ '.' ::
        (Nat.toDigits 10 (n / 256 % 256) ++ '.' :: Nat.toDigits 10 (n % 256))) := by
  simp [ipv4Text]

/-- The characters of an IPv4 address. -/
theorem mem_ipv4Text {n : Nat} {c : Char} (h : c ∈ (ipv4Text n).toList) :
    c = '.' ∨ ∃ d < 10, c = Nat.digitChar d := by
  have hdigit {m : Nat} (hc : c ∈ Nat.toDigits 10 m) : ∃ d < 10, c = Nat.digitChar d :=
    mem_toDigits (by decide) hc
  simp only [toList_ipv4Text, List.mem_append, List.mem_cons] at h
  rcases h with h | h | h | h | h | h | h
  · exact .inr (hdigit h)
  · exact .inl h
  · exact .inr (hdigit h)
  · exact .inl h
  · exact .inr (hdigit h)
  · exact .inl h
  · exact .inr (hdigit h)

theorem splitOnChar_ipv4Text (n : Nat) :
    Text.splitOnChar '.' (ipv4Text n).toList = (ipv4Bytes n).map (Nat.toDigits 10) := by
  rw [toList_ipv4Text, Text.splitOnChar_append (dot_not_mem_toDigits _),
    Text.splitOnChar_append (dot_not_mem_toDigits _), Text.splitOnChar_append (dot_not_mem_toDigits _),
    Text.splitOnChar_of_not_mem (dot_not_mem_toDigits _)]
  rfl

/-- The parts of the text are the bytes in decimal. -/
theorem nameParts_ipv4Text (n : Nat) :
    nameParts (ipv4Text n).toList = (ipv4Bytes n).map (Nat.toDigits 10) := by
  rw [nameParts, splitOnChar_ipv4Text]
  simp [ipv4Bytes, Nat.toDigits_ne_nil]

/-- The text of an address is not the name of a domain. -/
theorem endsInNumber_ipv4Text (n : Nat) : endsInNumber (ipv4Text n).toList = true := by
  have hpart : ipv4Part? (Nat.toDigits 10 (n % 256)) = some (n % 256) :=
    ipv4Part?_toDigits _
  rw [endsInNumber, nameParts_ipv4Text]
  simp [ipv4Bytes, hpart]

/-- The bytes of an address make up the address. -/
theorem ipv4OfParts_ipv4Bytes {n : Nat} (h : n < 256 ^ 4) :
    ipv4OfParts (ipv4Bytes n) = some n := by
  have hlast : ¬256 ≤ n % 256 := by omega
  have hfront : ∀ b ∈ ipv4Bytes n, ¬255 < b := by
    intro b hb
    have := lt_of_mem_ipv4Bytes hb
    omega
  simp only [ipv4Bytes, List.mem_cons, List.not_mem_nil, or_false, forall_eq_or_imp,
    forall_eq] at hfront
  obtain ⟨ha, hb, hc, -⟩ := hfront
  simp [ipv4OfParts, ipv4Bytes, hlast, ha, hb, hc, List.zipIdx]
  omega

/-- An IPv4 address is read back from its text. -/
theorem readIpv4_ipv4Text {n : Nat} (h : n < 256 ^ 4) :
    readIpv4 (ipv4Text n).toList = .ok n := by
  have hparts : ((ipv4Bytes n).map (Nat.toDigits 10)).mapM ipv4Part? = some (ipv4Bytes n) := by
    simp [ipv4Bytes, ipv4Part?_toDigits]
  rw [readIpv4, nameParts_ipv4Text, hparts, Option.bind_some, ipv4OfParts_ipv4Bytes h]

/-- Bytes in front of the last part fill the places above it, at most. -/
theorem foldl_ipv4_le {front : List Nat} (hfront : ∀ b ∈ front, b < 256)
    (hlength : front.length ≤ 3) (last : Nat) :
    front.zipIdx.foldl (fun sum (n, i) => sum + n * Nat.pow 256 (3 - i)) last +
      256 ^ (4 - front.length) ≤ last + 256 ^ 4 := by
  induction front using List.reverseRecOn with
  | nil => simp
  | append_singleton front b ih =>
    simp only [List.length_append, List.length_singleton] at hlength
    have hb : b < 256 := hfront b (by simp)
    have hbefore := ih (fun c hc => hfront c (by simp [hc])) (by omega)
    have hpower : 256 ^ (4 - front.length) = 256 ^ (3 - front.length) * 256 := by
      rw [← Nat.pow_succ]
      congr 1
      omega
    have hadded : b * 256 ^ (3 - front.length) + 256 ^ (3 - front.length) ≤
        256 ^ (4 - front.length) := by
      rw [hpower, ← Nat.succ_mul, Nat.mul_comm]
      exact Nat.mul_le_mul_left _ hb
    have hplaces : 4 - (front ++ [b]).length = 3 - front.length := by
      rw [List.length_append, List.length_singleton]
      omega
    rw [List.zipIdx_append, List.foldl_append, hplaces]
    simp only [List.zipIdx_cons, List.zipIdx_nil, List.foldl_cons, List.foldl_nil, Nat.zero_add,
      Nat.pow_eq] at hbefore ⊢
    omega

/-- What parts make up an address. -/
theorem ipv4OfParts_eq_some {parts : List Nat} {n : Nat} (h : ipv4OfParts parts = some n) :
    ∃ front last, parts = front ++ [last] ∧ front.length ≤ 3 ∧ (∀ b ∈ front, b < 256) ∧
      last < 256 ^ (4 - front.length) ∧
      n = front.zipIdx.foldl (fun sum (n, i) => sum + n * Nat.pow 256 (3 - i)) last := by
  unfold ipv4OfParts at h
  split at h
  · cases h
  · rename_i last back hreverse
    split at h
    · cases h
    · rename_i hbounds
      simp only [Bool.or_eq_true, decide_eq_true_eq, List.any_eq_true, not_or, not_exists,
        not_and, not_lt, not_le] at hbounds
      obtain ⟨⟨hlength, hlast⟩, hback⟩ := hbounds
      refine ⟨back.reverse, last, ?_, ?_, ?_, ?_, ?_⟩
      · rw [← List.reverse_reverse parts, hreverse, List.reverse_cons]
      · rw [List.length_reverse]
        exact hlength
      · intro b hb
        have := hback b (List.mem_reverse.1 hb)
        omega
      · rw [List.length_reverse]
        exact hlast
      · exact (Option.some.inj h).symm

/-- Whatever the notation, an address has four bytes. -/
theorem lt_of_readIpv4 {cs : List Char} {n : Nat} (h : readIpv4 cs = .ok n) : n < 256 ^ 4 := by
  unfold readIpv4 at h
  split at h
  · rename_i m hparts
    obtain rfl : m = n := by simpa using h
    obtain ⟨parts, -, hm⟩ := Option.bind_eq_some_iff.1 hparts
    obtain ⟨front, last, -, hlength, hfront, hlast, rfl⟩ := ipv4OfParts_eq_some hm
    have hle := foldl_ipv4_le hfront hlength last
    omega
  · cases h

end SapMonitor.Url
