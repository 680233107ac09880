import SapMonitor.Url.Idna

/-!
# Names of domains

The name of a domain is its own name.  Of a text in ASCII it is the text in lower case, and a first
label in ASCII stays the first label.

Main results:

- `IsName`: names that domains have.
- `Idna.isName_of_domain?`: what is named has such a name.
- `Idna.eq_of_ascii` and `Idna.label_prefix`: how far the name is the text.
-/

namespace SapMonitor.Url

/-! ## Names -/

/-- A name that a domain may have: in lower case, without a forbidden character, and its own
name. -/
structure IsName (idna : Idna) (cs : List Char) : Prop where
  allowed : ∀ c ∈ cs, isForbiddenInDomain c = false
  lower : ∀ c ∈ cs, c.toLower = c
  own : idna.domain? (cs.flatMap String.utf8EncodeChar) = some cs

variable {idna : Idna}

/-- A name keeps to the characters of names with a dot behind it. -/
theorem IsName.dotted {name : List Char} (h : IsName idna name) :
    (∀ c ∈ name ++ ['.'], isForbiddenInDomain c = false) ∧ ∀ c ∈ name ++ ['.'], c.toLower = c := by
  have hdot : isForbiddenInDomain '.' = false ∧ '.'.toLower = '.' := by decide
  simp only [List.forall_mem_append, List.forall_mem_singleton]
  exact ⟨⟨h.allowed, hdot.1⟩, h.lower, hdot.2⟩

/-- A text in lower case that is named without tables is a name. -/
theorem isName_of_no_encoded {cs : List Char} (hallowed : ∀ c ∈ cs, isForbiddenInDomain c = false)
    (hlower : ∀ c ∈ cs, c.toLower = c)
    (hlabels : (Text.splitOnChar '.' cs).any isEncodedLabel = false) : IsName idna cs := by
  have hascii := ascii_of_all_allowed hallowed
  have hbytes := map_lowerAscii_of_lower hascii hlower
  refine ⟨hallowed, hlower, ?_⟩
  have hplain : needsNoTables (cs.flatMap String.utf8EncodeChar) = true := by
    rw [needsNoTables, hbytes, hlabels, Bool.not_false, Bool.and_true, List.all_eq_true]
    exact fun b hb => decide_eq_true (lt_of_mem_utf8 hascii b hb)
  have hnone : cs.any isForbiddenInDomain = false := by simpa using hallowed
  rw [Idna.domain?, if_pos hplain, hbytes, hnone]
  rfl

namespace Idna

variable {bytes : List UInt8} {name : List Char}

/-- A name comes from the text in lower case, or from the tables. -/
theorem domain?_cases (h : idna.domain? bytes = some name) :
    (needsNoTables bytes = true ∧ name = bytes.map lowerAscii ∧
      ∀ c ∈ name, isForbiddenInDomain c = false) ∨ idna.toAscii bytes = some name := by
  unfold domain? at h
  split at h
  next hplain =>
    split at h
    next => cases h
    next hallowed =>
      obtain rfl := Option.some.inj h
      exact .inl ⟨hplain, rfl, by simpa using hallowed⟩
  next => exact .inr h

/-- What is named has the name of a domain. -/
theorem isName_of_domain? (h : idna.domain? bytes = some name) : IsName idna name := by
  rcases domain?_cases h with ⟨hplain, rfl, hallowed⟩ | hname
  · rw [needsNoTables, Bool.and_eq_true_iff, Bool.not_eq_true'] at hplain
    refine isName_of_no_encoded hallowed ?_ hplain.2
    intro c hc
    obtain ⟨b, -, rfl⟩ := List.mem_map.1 hc
    exact toLower_toLower _
  · have hallowed := idna.allowed hname
    have hlower := idna.lower hname
    by_cases hlabels : (Text.splitOnChar '.' name).any isEncodedLabel = true
    · refine ⟨hallowed, hlower, ?_⟩
      have htables : needsNoTables (name.flatMap String.utf8EncodeChar) = false := by
        rw [needsNoTables, map_lowerAscii_of_lower (ascii_of_all_allowed hallowed) hlower, hlabels,
          Bool.not_true, Bool.and_false]
      rw [domain?, htables]
      exact idna.again hname
    · exact isName_of_no_encoded hallowed hlower (by simpa using hlabels)

/-- The name of a text in ASCII is the text in lower case. -/
theorem eq_of_ascii (hascii : ∀ b ∈ bytes, b < 128) (h : idna.domain? bytes = some name) :
    name = bytes.map lowerAscii := by
  rcases domain?_cases h with ⟨-, hname, -⟩ | hname
  · exact hname
  · exact idna.ascii hascii hname

/-- A first label in ASCII stays the first label. -/
theorem label_prefix {first rest : List UInt8} (hfirst : ∀ b ∈ first, b < 128 ∧ b ≠ 46)
    (h : idna.domain? (first ++ 46 :: rest) = some name) :
    first.map lowerAscii ++ ['.'] <+: name := by
  rcases domain?_cases h with ⟨-, rfl, -⟩ | hname
  · rw [List.map_append, List.map_cons]
    exact ⟨rest.map lowerAscii, by simp [show lowerAscii 46 = '.' from rfl]⟩
  · exact idna.label hfirst hname

/-- No text with a colon is named. -/
theorem no_colon_of_domain? (h : idna.domain? bytes = some name) : 58 ∉ bytes := by
  rcases domain?_cases h with ⟨-, rfl, hallowed⟩ | hname
  · intro hcolon
    exact absurd (hallowed _ (List.mem_map.2 ⟨58, hcolon, rfl⟩)) (by decide)
  · exact idna.noColon hname

end Idna

end SapMonitor.Url
