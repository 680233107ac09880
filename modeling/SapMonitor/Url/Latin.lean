import SapMonitor.Url.Idna
import SapMonitor.Url.Punycode

/-!
# Names with western letters

These tables know the letters from `À` to `ÿ` beside ASCII.  Domains with other characters have no
name in them.

Main results:

- `Latin.nameLabel?_again`: an encoded label is its own name.
- `Latin.Names`: what the name of a domain is made of.
- `Idna.latin`: the tables, with their laws.
-/

namespace SapMonitor.Url

namespace Latin

/-! ## Letters -/

/-- The code points of the letters in lower case. -/
def letters : List Nat :=
  (List.range' 0xDF 33).filter (· ≠ 0xF7)

/-- The letter whose last byte is given, in lower case. -/
def letter (b : UInt8) : Char :=
  Char.ofNat (if b.toNat < 0x9F then b.toNat + 0x60 else b.toNat + 0x40)

/-- The characters of a text in lower case, if all of them are known. -/
def chars? : List UInt8 → Option (List Char)
  | [] => some []
  | b :: bytes =>
    if b < 128 then (chars? bytes).map (lowerAscii b :: ·)
    else
      match bytes with
      | [] => none
      | last :: bytes =>
        if b = 0xC3 && 128 ≤ last && letters.contains (letter last).toNat then
          (chars? bytes).map (letter last :: ·)
        else none

variable {bytes first rest : List UInt8}

theorem chars?_cons {b : UInt8} (hb : b < 128) (bytes : List UInt8) :
    chars? (b :: bytes) = (chars? bytes).map (lowerAscii b :: ·) := by
  rw [chars?.eq_def]
  simp only [if_pos hb]

/-- Text in ASCII is put in lower case. -/
theorem chars?_append (h : ∀ b ∈ first, b < 128) (rest : List UInt8) :
    chars? (first ++ rest) = (chars? rest).map (first.map lowerAscii ++ ·) := by
  induction first with
  | nil => simp
  | cons b first ih =>
    obtain ⟨hb, hfirst⟩ := List.forall_mem_cons.1 h
    rw [List.cons_append, chars?_cons hb, ih hfirst, Option.map_map, List.map_cons]
    rfl

theorem chars?_of_ascii (h : ∀ b ∈ bytes, b < 128) :
    chars? bytes = some (bytes.map lowerAscii) := by
  have happend := chars?_append h []
  rwa [List.append_nil, chars?, Option.map_some, List.append_nil] at happend

/-- The characters of ASCII are known by their bytes. -/
theorem mem_chars? {cs : List Char} (h : chars? bytes = some cs) {b : UInt8} (hb : b ∈ bytes)
    (hascii : b < 128) : lowerAscii b ∈ cs := by
  fun_induction chars? bytes generalizing cs with
  | case1 => cases hb
  | case2 c bytes hc ih =>
    obtain ⟨cs', hcs, rfl⟩ := Option.map_eq_some_iff.1 h
    rcases List.mem_cons.1 hb with rfl | hb
    · exact List.mem_cons_self
    · exact List.mem_cons_of_mem _ (ih hcs hb)
  | case3 => cases h
  | case4 c hc last bytes hknown ih =>
    obtain ⟨cs', hcs, rfl⟩ := Option.map_eq_some_iff.1 h
    simp only [Bool.and_eq_true, decide_eq_true_eq] at hknown
    rcases List.mem_cons.1 hb with rfl | hb
    · exact absurd hascii hc
    · rcases List.mem_cons.1 hb with rfl | hb
      · exact absurd hascii (UInt8.not_lt.2 hknown.1.2)
      · exact List.mem_cons_of_mem _ (ih hcs hb)
  | case5 => cases h

/-! ## Labels -/

/-- Whether a label and a code belong together: the label has a letter beyond ASCII. -/
def isCode (label code : List Char) : Bool :=
  !label.all (·.toNat ≤ 127) && !isEncodedLabel label &&
    label.all (fun c => c.toNat ≤ 127 || letters.contains c.toNat) &&
    Punycode.decode? code = some label && Punycode.encode letters label = code

/-- The name of a label in lower case. -/
def nameLabel? (label : List Char) : Option (List Char) :=
  if label.all (·.toNat ≤ 127) then
    match label with
    | 'x' :: 'n' :: '-' :: '-' :: code =>
      if (Punycode.decode? code).any (isCode · code) then some label else none
    | label => some label
  else
    let code := Punycode.encode letters label
    if isCode label code then some ("xn--".toList ++ code) else none

/-- A label in ASCII has no name but itself. -/
theorem eq_of_nameLabel? {label name : List Char} (hascii : ∀ c ∈ label, c.toNat ≤ 127)
    (h : nameLabel? label = some name) : name = label := by
  have hall : label.all (·.toNat ≤ 127) = true := by simpa using hascii
  unfold nameLabel? at h
  rw [if_pos hall] at h
  split at h
  · split at h
    · exact (Option.some.inj h).symm
    · cases h
  · exact (Option.some.inj h).symm

/-- A label that claims to be encoded is named if it is the code of a label. -/
theorem nameLabel?_encoded {code : List Char}
    (hascii : ∀ c ∈ "xn--".toList ++ code, c.toNat ≤ 127) :
    nameLabel? ("xn--".toList ++ code) =
      if (Punycode.decode? code).any (isCode · code) then some ("xn--".toList ++ code)
      else none := by
  have hall : ("xn--".toList ++ code).all (·.toNat ≤ 127) = true := by simpa using hascii
  unfold nameLabel?
  rw [if_pos hall]
  rfl

/-- An encoded label is its own name. -/
theorem nameLabel?_again {label name : List Char} (h : nameLabel? label = some name)
    (hascii : ∀ c ∈ name, c.toNat ≤ 127) : nameLabel? name = some name := by
  by_cases hlabel : label.all (·.toNat ≤ 127) = true
  · have hsame := eq_of_nameLabel? (by simpa using hlabel) h
    rwa [← hsame] at h
  · unfold nameLabel? at h
    rw [if_neg hlabel] at h
    simp only at h
    split at h
    · rename_i hcode
      obtain rfl := Option.some.inj h
      have hdecode : Punycode.decode? (Punycode.encode letters label) = some label := by
        simp only [isCode, Bool.and_eq_true, decide_eq_true_eq] at hcode
        exact hcode.1.2
      rw [nameLabel?_encoded hascii, hdecode, Option.any_some, if_pos hcode]
    · cases h

theorem mapM_cons_eq_some_iff {label : List Char} {labels names : List (List Char)} :
    (label :: labels).mapM nameLabel? = some names ↔
      ∃ name rest, nameLabel? label = some name ∧ labels.mapM nameLabel? = some rest ∧
        names = name :: rest := by
  simp only [List.mapM_cons, Option.bind_eq_bind, Option.bind_eq_some_iff, Option.pure_def,
    Option.some.injEq, exists_and_left, eq_comm (a := names)]

/-- Labels in ASCII have no names but themselves. -/
theorem eq_of_mapM_nameLabel? {labels names : List (List Char)}
    (hascii : ∀ label ∈ labels, ∀ c ∈ label, c.toNat ≤ 127)
    (h : labels.mapM nameLabel? = some names) : names = labels := by
  induction labels generalizing names with
  | nil => exact (Option.some.inj h).symm
  | cons label labels ih =>
    obtain ⟨hlabel, hlabels⟩ := List.forall_mem_cons.1 hascii
    obtain ⟨name, rest, hname, hrest, rfl⟩ := mapM_cons_eq_some_iff.1 h
    rw [eq_of_nameLabel? hlabel hname, ih hlabels hrest]

/-- The names of labels are their own names. -/
theorem mapM_nameLabel?_again {labels names : List (List Char)}
    (h : labels.mapM nameLabel? = some names)
    (hascii : ∀ name ∈ names, ∀ c ∈ name, c.toNat ≤ 127) :
    names.mapM nameLabel? = some names := by
  induction labels generalizing names with
  | nil =>
    obtain rfl := Option.some.inj h
    rfl
  | cons label labels ih =>
    obtain ⟨name, rest, hname, hrest, rfl⟩ := mapM_cons_eq_some_iff.1 h
    obtain ⟨hascii, hrestAscii⟩ := List.forall_mem_cons.1 hascii
    exact mapM_cons_eq_some_iff.2
      ⟨name, rest, nameLabel?_again hname hascii, ih hrest hrestAscii, rfl⟩

/-! ## Names -/

/-- Labels with dots between them. -/
def joinLabels : List (List Char) → List Char
  | [] => []
  | [label] => label
  | label :: labels => label ++ '.' :: joinLabels labels

theorem joinLabels_cons {labels : List (List Char)} (h : labels ≠ []) (label : List Char) :
    joinLabels (label :: labels) = label ++ '.' :: joinLabels labels := by
  cases labels with
  | nil => exact absurd rfl h
  | cons => rfl

theorem joinLabels_splitOnChar (cs : List Char) : joinLabels (Text.splitOnChar '.' cs) = cs := by
  induction cs with
  | nil => rfl
  | cons c cs ih =>
    unfold Text.splitOnChar
    split
    next hc => rw [joinLabels_cons (Text.splitOnChar_ne_nil '.' cs), ih, hc, List.nil_append]
    next =>
      split
      next hnil => exact absurd hnil (Text.splitOnChar_ne_nil '.' cs)
      next part rest hparts =>
        rw [hparts] at ih
        cases rest with
        | nil => exact congrArg (c :: ·) ih
        | cons => exact congrArg (c :: ·) ih

/-- Whether the labels are those of a name that a domain may have. -/
def areProper (labels : List (List Char)) : Bool :=
  (joinLabels labels).all (fun c => !isForbiddenInDomain c && c.toLower = c) &&
    Text.splitOnChar '.' (joinLabels labels) = labels

/-- The name of a domain in ASCII, if it has one. -/
def toAscii (bytes : List UInt8) : Option (List Char) := do
  let cs ← chars? bytes
  if cs.any fun c => c.toNat ≤ 127 && isForbiddenInDomain c then none
  else
    let labels ← (Text.splitOnChar '.' cs).mapM nameLabel?
    if areProper labels then some (joinLabels labels) else none

/-- What the name of a domain is made of. -/
structure Names (bytes : List UInt8) (cs : List Char) (labels : List (List Char)) : Prop where
  known : chars? bytes = some cs
  clean : ∀ c ∈ cs, c.toNat ≤ 127 → isForbiddenInDomain c = false
  named : (Text.splitOnChar '.' cs).mapM nameLabel? = some labels
  allowed : ∀ c ∈ joinLabels labels, isForbiddenInDomain c = false
  lower : ∀ c ∈ joinLabels labels, c.toLower = c
  parts : Text.splitOnChar '.' (joinLabels labels) = labels

theorem toAscii_eq_some_iff {name : List Char} :
    toAscii bytes = some name ↔ ∃ cs labels, Names bytes cs labels ∧ name = joinLabels labels := by
  constructor
  · intro h
    obtain ⟨cs, hcs, h⟩ := Option.bind_eq_some_iff.1 h
    split at h
    · cases h
    · rename_i hclean
      obtain ⟨labels, hlabels, h⟩ := Option.bind_eq_some_iff.1 h
      split at h
      · rename_i hproper
        simp only [areProper, Bool.and_eq_true, List.all_eq_true, Bool.not_eq_true',
          decide_eq_true_eq] at hproper
        simp only [List.any_eq_true, Bool.and_eq_true, decide_eq_true_eq, not_exists, not_and,
          Bool.not_eq_true] at hclean
        exact ⟨cs, labels, ⟨hcs, hclean, hlabels, fun c hc => (hproper.1 c hc).1,
          fun c hc => (hproper.1 c hc).2, hproper.2⟩, (Option.some.inj h).symm⟩
      · cases h
  · rintro ⟨cs, labels, h, rfl⟩
    have hclean : ¬(cs.any fun c => c.toNat ≤ 127 && isForbiddenInDomain c) = true := by
      simpa using h.clean
    have hproper : areProper labels = true := by
      simp only [areProper, Bool.and_eq_true, List.all_eq_true, Bool.not_eq_true',
        decide_eq_true_eq]
      exact ⟨fun c hc => ⟨h.allowed c hc, h.lower c hc⟩, h.parts⟩
    simp only [toAscii, h.known, Option.bind_eq_bind, Option.bind_some, if_neg hclean, h.named,
      hproper, if_true]

namespace Names

variable {cs : List Char} {labels : List (List Char)}

/-- A domain in ASCII is put in lower case. -/
theorem eq_of_ascii (h : Names bytes cs labels) (hascii : ∀ b ∈ bytes, b < 128) :
    joinLabels labels = bytes.map lowerAscii := by
  have hcs := h.known.symm.trans (chars?_of_ascii hascii)
  obtain rfl := Option.some.inj hcs
  have hlower : ∀ c ∈ bytes.map lowerAscii, c.toNat ≤ 127 := by
    intro c hc
    obtain ⟨b, hb, rfl⟩ := List.mem_map.1 hc
    exact ascii_lowerAscii (hascii b hb)
  have hlabels : ∀ label ∈ Text.splitOnChar '.' (bytes.map lowerAscii), ∀ c ∈ label,
      c.toNat ≤ 127 :=
    fun label hlabel c hc => hlower c ((Text.mem_splitOnChar hlabel).2 c hc)
  rw [eq_of_mapM_nameLabel? hlabels h.named, joinLabels_splitOnChar]

/-- The first label, if it is in ASCII, is put in lower case. -/
theorem label_prefix (h : Names (first ++ 46 :: rest) cs labels)
    (hfirst : ∀ b ∈ first, b < 128 ∧ b ≠ 46) :
    first.map lowerAscii ++ ['.'] <+: joinLabels labels := by
  have hdot : '.' ∉ first.map lowerAscii := by
    intro hmem
    obtain ⟨b, hb, hdot⟩ := List.mem_map.1 hmem
    exact (hfirst b hb).2 (eq_dot_of_lowerAscii (hfirst b hb).1 hdot)
  have hascii : ∀ c ∈ first.map lowerAscii, c.toNat ≤ 127 := by
    intro c hc
    obtain ⟨b, hb, rfl⟩ := List.mem_map.1 hc
    exact ascii_lowerAscii (hfirst b hb).1
  have hknown := h.known
  rw [chars?_append fun b hb => (hfirst b hb).1, chars?_cons (by decide), Option.map_map] at hknown
  obtain ⟨cs', -, rfl⟩ := Option.map_eq_some_iff.1 hknown
  have hnamed := h.named
  rw [Function.comp_apply, show lowerAscii 46 = '.' from rfl,
    Text.splitOnChar_append hdot] at hnamed
  obtain ⟨name, others, hname, hothers, rfl⟩ := mapM_cons_eq_some_iff.1 hnamed
  have hne : others ≠ [] := by
    rintro rfl
    obtain ⟨part, parts, hparts⟩ := List.exists_cons_of_ne_nil (Text.splitOnChar_ne_nil '.' cs')
    rw [hparts] at hothers
    obtain ⟨_, _, _, _, hnil⟩ := mapM_cons_eq_some_iff.1 hothers
    cases hnil
  rw [joinLabels_cons hne, eq_of_nameLabel? hascii hname]
  exact ⟨joinLabels others, by simp⟩

/-- A name is its own name. -/
theorem again (h : Names bytes cs labels) :
    Names ((joinLabels labels).flatMap String.utf8EncodeChar) (joinLabels labels) labels where
  known := by
    have hascii := ascii_of_all_allowed h.allowed
    rw [chars?_of_ascii (lt_of_mem_utf8 hascii), map_lowerAscii_of_lower hascii h.lower]
  clean c hc _ := h.allowed c hc
  named := by
    rw [h.parts]
    refine mapM_nameLabel?_again h.named fun name hname c hc => ?_
    rw [← h.parts] at hname
    exact ascii_of_all_allowed h.allowed c ((Text.mem_splitOnChar hname).2 c hc)
  allowed := h.allowed
  lower := h.lower
  parts := h.parts

end Names

end Latin

/-- The tables for the letters from `À` to `ÿ`. -/
def Idna.latin : Idna where
  toAscii := Latin.toAscii
  allowed h := by
    obtain ⟨cs, labels, hnames, rfl⟩ := Latin.toAscii_eq_some_iff.1 h
    exact hnames.allowed
  lower h := by
    obtain ⟨cs, labels, hnames, rfl⟩ := Latin.toAscii_eq_some_iff.1 h
    exact hnames.lower
  noColon h hcolon := by
    obtain ⟨cs, labels, hnames, rfl⟩ := Latin.toAscii_eq_some_iff.1 h
    have hmem := Latin.mem_chars? hnames.known hcolon (by decide)
    exact absurd (hnames.clean _ hmem (by decide)) (by decide)
  ascii hascii h := by
    obtain ⟨cs, labels, hnames, rfl⟩ := Latin.toAscii_eq_some_iff.1 h
    exact hnames.eq_of_ascii hascii
  label hfirst h := by
    obtain ⟨cs, labels, hnames, rfl⟩ := Latin.toAscii_eq_some_iff.1 h
    exact hnames.label_prefix hfirst
  again h := by
    obtain ⟨cs, labels, hnames, rfl⟩ := Latin.toAscii_eq_some_iff.1 h
    exact Latin.toAscii_eq_some_iff.2 ⟨_, labels, hnames.again, rfl⟩

end SapMonitor.Url
