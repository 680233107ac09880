import SapMonitor.Url.Percent

/-!
# Texts in ASCII

A text in ASCII has one byte for each character.  Its letters are put in lower case where it names a
domain, and some of its characters may not stand there.

Main results:

- `flatMap_utf8_of_ascii`: the bytes of a text in ASCII.
- `map_lowerAscii_of_lower`: a text in lower case is given back by its bytes.
- `ascii_of_allowed`: what may stand in a domain is in ASCII.
-/

namespace SapMonitor.Url

/-! ## Letter case -/

/-- Whether the character is a letter from `A` to `Z`. -/
def IsUpper (c : Char) : Prop :=
  c.val ≥ 'A'.val ∧ c.val ≤ 'Z'.val

theorem toLower_of_not_upper {c : Char} (h : ¬IsUpper c) : c.toLower = c :=
  dif_neg h

theorem val_toLower_of_upper {c : Char} (h : IsUpper c) :
    c.toLower.val = c.val + ('a'.val - 'A'.val) :=
  congrArg Char.val (dif_pos h)

theorem toLower_toLower (c : Char) : c.toLower.toLower = c.toLower := by
  by_cases h : IsUpper c
  · apply toLower_of_not_upper
    unfold IsUpper at h ⊢
    rw [val_toLower_of_upper h]
    simp only [UInt32.le_iff_toNat_le, ge_iff_le, UInt32.toNat_add] at h ⊢
    simp at h ⊢
    omega
  · rw [toLower_of_not_upper h, toLower_of_not_upper h]

/-! ## Bytes -/

/-- The character of a byte of ASCII, in lower case. -/
def lowerAscii (b : UInt8) : Char :=
  (Char.ofNat b.toNat).toLower

/-- What holds for the characters of all bytes of ASCII holds for each of them. -/
theorem forall_lowerAscii {P : Nat → Char → Prop} (h : ∀ n < 128, P n (Char.ofNat n).toLower)
    {b : UInt8} (hb : b < 128) : P b.toNat (lowerAscii b) :=
  h b.toNat (UInt8.lt_iff_toNat_lt.1 hb)

theorem ascii_lowerAscii {b : UInt8} (hb : b < 128) : (lowerAscii b).toNat ≤ 127 :=
  forall_lowerAscii (P := fun _ c => c.toNat ≤ 127) (by decide) hb

theorem eq_dot_of_lowerAscii {b : UInt8} (hb : b < 128) (h : lowerAscii b = '.') : b = 46 :=
  UInt8.toNat_inj.1 (forall_lowerAscii (P := fun n c => c = '.' → n = 46) (by decide) hb h)

theorem utf8EncodeChar_of_ascii {c : Char} (h : c.toNat ≤ 127) :
    String.utf8EncodeChar c = [UInt8.ofNat c.toNat] := by
  have hval : c.val.toNat ≤ 127 := h
  unfold String.utf8EncodeChar
  simp only [if_pos hval]
  rfl

theorem toNat_byte_of_ascii {c : Char} (h : c.toNat ≤ 127) :
    (UInt8.ofNat c.toNat).toNat = c.toNat := by
  rw [UInt8.toNat_ofNat', Nat.mod_eq_of_lt (by omega)]

theorem lowerAscii_byte {c : Char} (h : c.toNat ≤ 127) :
    lowerAscii (UInt8.ofNat c.toNat) = c.toLower := by
  rw [lowerAscii, toNat_byte_of_ascii h, Char.ofNat_toNat]

/-- The bytes of a text in ASCII are one for each character. -/
theorem flatMap_utf8_of_ascii {cs : List Char} (h : ∀ c ∈ cs, c.toNat ≤ 127) :
    cs.flatMap String.utf8EncodeChar = cs.map fun c => UInt8.ofNat c.toNat := by
  induction cs with
  | nil => rfl
  | cons c cs ih =>
    obtain ⟨hc, hcs⟩ := List.forall_mem_cons.1 h
    rw [List.flatMap_cons, utf8EncodeChar_of_ascii hc, ih hcs, List.singleton_append, List.map_cons]

theorem lt_of_mem_utf8 {cs : List Char} (h : ∀ c ∈ cs, c.toNat ≤ 127) :
    ∀ b ∈ cs.flatMap String.utf8EncodeChar, b < 128 := by
  intro b hb
  rw [flatMap_utf8_of_ascii h] at hb
  obtain ⟨c, hc, rfl⟩ := List.mem_map.1 hb
  rw [UInt8.lt_iff_toNat_lt, toNat_byte_of_ascii (h c hc)]
  exact Nat.lt_succ_of_le (h c hc)

/-- The byte of a character that does not occur does not occur either. -/
theorem ne_of_mem_utf8 {cs : List Char} (h : ∀ c ∈ cs, c.toNat ≤ 127) {d : Char}
    (hd : d.toNat ≤ 127) (hnot : d ∉ cs) :
    ∀ b ∈ cs.flatMap String.utf8EncodeChar, b ≠ UInt8.ofNat d.toNat := by
  intro b hb heq
  rw [flatMap_utf8_of_ascii h] at hb
  obtain ⟨c, hc, rfl⟩ := List.mem_map.1 hb
  have hnat := congrArg UInt8.toNat heq
  rw [toNat_byte_of_ascii (h c hc), toNat_byte_of_ascii hd] at hnat
  exact hnot (Char.toNat_inj.1 hnat ▸ hc)

theorem map_lowerAscii_utf8 {cs : List Char} (h : ∀ c ∈ cs, c.toNat ≤ 127) :
    (cs.flatMap String.utf8EncodeChar).map lowerAscii = cs.map Char.toLower := by
  rw [flatMap_utf8_of_ascii h, List.map_map]
  exact List.map_congr_left fun c hc => lowerAscii_byte (h c hc)

/-- The bytes of a text in lower case are those of the text again. -/
theorem map_lowerAscii_of_lower {cs : List Char} (h : ∀ c ∈ cs, c.toNat ≤ 127)
    (hlower : ∀ c ∈ cs, c.toLower = c) :
    (cs.flatMap String.utf8EncodeChar).map lowerAscii = cs := by
  rw [map_lowerAscii_utf8 h]
  exact (List.map_congr_left hlower).trans (List.map_id cs)

/-! ## Forbidden characters -/

/-- What may not stand in a domain. -/
def isForbiddenInDomain (c : Char) : Bool :=
  isControl c || [' ', '#', '%', '/', ':', '<', '>', '?', '@', '[', '\\', ']', '^', '|'].contains c

theorem ascii_of_allowed {c : Char} (h : isForbiddenInDomain c = false) : c.toNat ≤ 126 := by
  simp only [isForbiddenInDomain, isControl, Bool.or_eq_false_iff, decide_eq_false_iff_not] at h
  omega

theorem ne_of_allowed {c d : Char} (h : isForbiddenInDomain c = false)
    (hd : isForbiddenInDomain d = true) : c ≠ d := by
  rintro rfl
  rw [h] at hd
  cases hd

theorem ascii_of_all_allowed {cs : List Char} (h : ∀ c ∈ cs, isForbiddenInDomain c = false) :
    ∀ c ∈ cs, c.toNat ≤ 127 :=
  fun c hc => Nat.le_trans (ascii_of_allowed (h c hc)) (by decide)

end SapMonitor.Url
