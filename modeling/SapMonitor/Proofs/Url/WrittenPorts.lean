import SapMonitor.Proofs.Url.Rereading

/-!
# Ports as they are written

The port of a URL is the one that its text names behind the host, unless its scheme implies that
port.  Such a port is left out of the URL, as if the text did not name one.

Main results:

- `port_of_namesPort`: the port of a URL whose text names one.
- `IsHostWord.read_host`: a word of letters, digits and hyphens is a host in lower case.
- `IsHostWord.read_text`: what is read from a scheme, a word and a port.
-/

namespace SapMonitor.Url

/-! ## Texts that name a port -/

/-- A text of a scheme names a port: behind the slashes there are digits between a colon and the end
of the part with the host. -/
def NamesPort (text scheme : String) (port : Nat) : Prop :=
  ∃ slashes front digits tail,
    significant text.toList =
      scheme.toList ++ ':' :: (slashes ++ ((front ++ ':' :: digits) ++ tail)) ∧
    (∀ c ∈ slashes, c = '/' ∨ c = '\\') ∧ (∀ c ∈ front, endsAuthority true c = false) ∧
    digits ≠ [] ∧ (∀ c ∈ digits, c.isDigit = true) ∧ Decimal.digitsValue digits = port ∧
    ∀ c ∈ tail.head?, endsAuthority true c = true

/-- Characters of different kinds differ. -/
theorem ne_of_kind {p : Char → Bool} {c d : Char} (h : p c = true) (hd : p d = false) : c ≠ d := by
  rintro rfl
  rw [h] at hd
  cases hd

/-- A text is parted at the last character of a kind that it has. -/
theorem exists_last_of_mem {sep : Char} {cs : List Char} (h : sep ∈ cs) :
    ∃ front rest, cs = front ++ sep :: rest ∧ sep ∉ rest := by
  obtain ⟨back, front, heq, hback⟩ := List.eq_append_cons_of_mem (List.mem_reverse.2 h)
  refine ⟨front.reverse, back.reverse, ?_, fun hmem => hback (List.mem_reverse.1 hmem)⟩
  rw [← List.reverse_reverse cs, heq]
  simp

/-- The user part ends before the port. -/
theorem readUser_port {front digits rest : List Char} (hdigits : ∀ c ∈ digits, c.isDigit = true)
    {user password : String} {hostPart : List Char}
    (h : readUser true (front ++ ':' :: digits) rest = .ok (user, password, hostPart)) :
    ∃ front', hostPart = front' ++ ':' :: digits := by
  have hdigit : '@' ∉ digits := fun hc => ne_of_kind (hdigits _ hc) (by decide) rfl
  by_cases hat : '@' ∈ front
  · obtain ⟨before, after, rfl, hafter⟩ := exists_last_of_mem hat
    have hhost : '@' ∉ after ++ ':' :: digits := by simp [hafter, hdigit]
    have hne : after ++ ':' :: digits ≠ [] :=
      List.append_ne_nil_of_right_ne_nil after (List.cons_ne_nil ':' digits)
    rw [List.append_assoc, List.cons_append, readUser_append before hhost hne] at h
    cases h
    exact ⟨after, rfl⟩
  · have hnone : '@' ∉ front ++ ':' :: digits := by simp [hat, hdigit]
    rw [readUser, splitLast?_of_not_mem hnone] at h
    cases h
    exact ⟨front, rfl⟩

/-- A host is followed by nothing, or by a colon. -/
theorem takeHost_append (inBrackets : Bool) (cs : List Char) :
    (takeHost inBrackets cs).1 ++ (takeHost inBrackets cs).2 = cs ∧
      ∀ c ∈ (takeHost inBrackets cs).2.head?, c = ':' := by
  induction cs generalizing inBrackets with
  | nil => simp [takeHost]
  | cons c cs ih =>
    unfold takeHost
    split
    next hcolon =>
      simp only [Bool.and_eq_true, decide_eq_true_eq] at hcolon
      simp [hcolon.1]
    next =>
      obtain ⟨happend, hhead⟩ :=
        ih (if c = '[' then true else if c = ']' then false else inBrackets)
      exact ⟨by rw [List.cons_append, happend], hhead⟩

/-- A colon is among the bytes of a text that has one. -/
theorem colon_mem_decodeBytes {cs : List Char} (h : ':' ∈ cs) : 58 ∈ decodeBytes cs := by
  have hbyte : 58 ∈ String.utf8EncodeChar ':' := by decide
  fun_induction decodeBytes cs with
  | case1 => cases h
  | case2 a b rest x y hy hx ih =>
    -- a colon is no digit of an encoded byte
    have ha : ':' ≠ a := by
      rintro rfl
      cases hx
    have hb : ':' ≠ b := by
      rintro rfl
      cases hy
    simp only [List.mem_cons, ha, hb, false_or] at h
    exact List.mem_cons_of_mem _ (ih (h.resolve_left (by decide)))
  | case3 a b rest _ ih =>
    rw [List.mem_cons] at h
    exact List.mem_cons_of_mem _ (ih (h.resolve_left (by decide)))
  | case4 c rest _ ih =>
    rw [List.mem_append]
    rcases List.mem_cons.1 h with rfl | hrest
    · exact .inl hbyte
    · exact .inr (ih hrest)

/-- A host with a colon is in brackets. -/
theorem Host.getLast?_of_colon {idna : Idna} {cs : List Char} {h : Host}
    (hread : Host.read idna cs = .ok h) (hcolon : ':' ∈ cs) : cs.getLast? = some ']' := by
  by_cases hhead : cs.head? = some '['
  · obtain ⟨rest, rfl⟩ := List.head?_eq_some_iff.1 hhead
    unfold Host.read at hread
    simp only at hread
    split at hread
    next hlast =>
      rw [List.getLast?_cons, hlast]
      rfl
    next => cases hread
  · obtain ⟨name, hname, -, -⟩ := Host.read_eq_ok_name hhead hread
    exact absurd (colon_mem_decodeBytes hcolon) (Idna.no_colon_of_domain? hname)

/-- What follows the host is the port that the text names. -/
theorem takeHost_port {front digits : List Char} (hne : digits ≠ [])
    (hdigits : ∀ c ∈ digits, c.isDigit = true) {idna : Idna} {h : Host}
    (hread : Host.read idna (takeHost false (front ++ ':' :: digits)).1 = .ok h)
    {implied port : Option Nat}
    (hport : readPort implied ((takeHost false (front ++ ':' :: digits)).2.drop 1) = .ok port) :
    (takeHost false (front ++ ':' :: digits)).2 = ':' :: digits := by
  obtain ⟨happend, hhead⟩ := takeHost_append false (front ++ ':' :: digits)
  generalize takeHost false (front ++ ':' :: digits) = taken at happend hhead hread hport ⊢
  obtain ⟨host, rest⟩ := taken
  simp only at happend hhead hread hport ⊢
  cases rest with
  | nil =>
    -- then the host ends with a digit, though it holds a colon
    rw [List.append_nil] at happend
    have hlast := Host.getLast?_of_colon hread (by rw [happend]; simp)
    obtain ⟨d, hd⟩ := Option.ne_none_iff_exists'.1 (mt List.getLast?_eq_none_iff.1 hne)
    rw [happend, List.getLast?_append, List.getLast?_cons, hd] at hlast
    obtain rfl : d = ']' := by simpa using hlast
    exact absurd (hdigits _ (List.mem_of_getLast? hd)) (by decide)
  | cons c rest =>
    obtain rfl : c = ':' := hhead c rfl
    have hcolon {cs : List Char} (hcs : ∀ c ∈ cs, c.isDigit = true) : ':' ∉ cs := fun hc =>
      ne_of_kind (hcs _ hc) (by decide) rfl
    have hrest : ∀ c ∈ rest, c.isDigit = true := by
      unfold readPort at hport
      split at hport
      next => cases hport
      next hall => simpa using hall
    -- both parts begin after the last colon
    have hsplit := splitLast?_append host (hcolon hrest)
    rw [happend, splitLast?_append front (hcolon hdigits)] at hsplit
    rw [(Prod.mk.inj (Option.some.inj hsplit)).2]

theorem readPort_digits {implied port : Option Nat} {digits : List Char} (hne : digits ≠ [])
    (h : readPort implied digits = .ok port) :
    port = if implied = some (Decimal.digitsValue digits) then none
      else some (Decimal.digitsValue digits) := by
  unfold readPort at h
  split at h
  · cases h
  · rw [if_neg (by simpa using hne)] at h
    simp only at h
    split at h
    · cases h
    · exact (Except.ok.inj h).symm

/-- The port of a URL is the one that its text names, but none if the scheme implies that. -/
theorem port_of_namesPort {text scheme : String} {port : Nat}
    (hscheme : scheme = "http" ∨ scheme = "https") (hnames : NamesPort text scheme port)
    {idna : Idna} {u : Url} (hread : Url.read idna text = .ok u) :
    u.port = if defaultPorts.lookup scheme = some port then none else some port := by
  obtain ⟨slashes, front, digits, tail, htext, hslashes, hfront, hne, hdigits, rfl, htail⟩ := hnames
  have hauthority : ∀ c ∈ front ++ ':' :: digits, endsAuthority true c = false := by
    rw [List.forall_mem_append, List.forall_mem_cons]
    refine ⟨hfront, by decide, fun c hc => ?_⟩
    have hother {d : Char} (hd : d.isDigit = false) : c ≠ d := ne_of_kind (hdigits c hc) hd
    simp [endsAuthority, hother (d := '/') (by decide), hother (d := '?') (by decide),
      hother (d := '#') (by decide), hother (d := '\\') (by decide)]
  have hdrop := dropWhile_slashes _ hslashes
    (List.append_ne_nil_of_right_ne_nil front (List.cons_ne_nil ':' digits)) hauthority tail
  obtain ⟨hof, hafter⟩ := authorityOf_append hauthority htail
  rw [read_of_scheme hscheme (by rw [htext, takeScheme?_append hscheme]), hdrop,
    readAuthority_eq_ok_iff (isSpecial_of_web hscheme), hof, hafter] at hread
  obtain ⟨user, password, hostPart, host, port, huser, -, hhost, -, hport, rfl⟩ := hread
  obtain ⟨front', rfl⟩ := readUser_port hdigits huser
  rw [takeHost_port hne hdigits hhost hport, List.drop_one, List.tail_cons] at hport
  exact readPort_digits hne hport

/-! ## Hosts of one word -/

/-- Whether the character is a letter, a digit or a hyphen. -/
def inWord (c : Char) : Bool :=
  c.isAlphanum || c = '-'

/-- A word of letters, digits and hyphens that begins with a letter. -/
structure IsHostWord (word : List Char) : Prop where
  letter : ∃ c rest, word = c :: rest ∧ c.isAlpha = true
  chars : ∀ c ∈ word, inWord c = true

theorem ascii_of_inWord {c : Char} (h : inWord c = true) : c.toNat < 128 := by
  unfold inWord Char.isAlphanum Char.isAlpha Char.isUpper Char.isLower Char.isDigit at h
  simp only [Bool.or_eq_true, Bool.and_eq_true, decide_eq_true_eq, UInt32.le_iff_toNat_le] at h
  have hval : c.val.toNat = c.toNat := rfl
  rcases h with h | rfl
  · simp at h
    omega
  · decide

theorem inWord_of_isDigit {c : Char} (h : c.isDigit = true) : inWord c = true := by
  simp [inWord, Char.isAlphanum, h]

/-- What holds for all characters of words holds for each of them. -/
theorem forall_inWord {P : Char → Prop}
    (h : ∀ n < 128, inWord (Char.ofNat n) = true → P (Char.ofNat n)) {c : Char}
    (hc : inWord c = true) : P c := by
  rw [← Char.ofNat_toNat c] at hc ⊢
  exact h _ (ascii_of_inWord (by rwa [Char.ofNat_toNat] at hc)) hc

/-- The characters of words may stand in a name, in an authority, and in lower case. -/
theorem allowed_of_inWord {c : Char} (hc : inWord c = true) :
    isForbiddenInDomain c = false ∧ inAuthority c = true ∧ inWord c.toLower = true :=
  forall_inWord (P := fun c => isForbiddenInDomain c = false ∧ inAuthority c = true ∧
    inWord c.toLower = true) (by decide) hc

/-- A letter is no part of a number. -/
theorem not_number_of_letter {c : Char} (hc : c.isAlpha = true) :
    c.toLower ≠ '0' ∧ c.toLower.isDigit = false ∧ readDigits? 10 [c.toLower] = none := by
  have hword : inWord c = true := by simp [inWord, Char.isAlphanum, hc]
  exact forall_inWord (P := fun c => c.isAlpha = true → c.toLower ≠ '0' ∧
    c.toLower.isDigit = false ∧ readDigits? 10 [c.toLower] = none) (by decide) hword hc

/-- A label that does not begin as an encoded one does not claim to be encoded. -/
theorem isEncodedLabel_eq_false {label : List Char} (h : ¬"xn--".toList <+: label) :
    isEncodedLabel label = false := by
  unfold isEncodedLabel
  split
  next code => exact absurd ⟨code, rfl⟩ h
  next => rfl

theorem readDigits?_of_head {base : Nat} {c : Char} (hc : readDigits? base [c] = none)
    (rest : List Char) : readDigits? base (c :: rest) = none := by
  induction rest using List.reverseRecOn with
  | nil => exact hc
  | append_singleton rest d ih =>
    rw [← List.cons_append, readDigits?_concat, ih]
    rfl

namespace IsHostWord

variable {idna : Idna} {word : List Char}

theorem no_dot (h : IsHostWord word) : '.' ∉ word.map Char.toLower := by
  rw [List.mem_map]
  rintro ⟨c, hc, hdot⟩
  exact ne_of_kind (allowed_of_inWord (h.chars c hc)).2.2 (by decide) hdot

/-- A word is no number, as it begins with a letter. -/
theorem not_endsInNumber (h : IsHostWord word) : endsInNumber (word.map Char.toLower) = false := by
  have hparts : nameParts (word.map Char.toLower) = [word.map Char.toLower] := by
    simp [nameParts, Text.splitOnChar_of_not_mem h.no_dot]
  obtain ⟨c, rest, rfl, hletter⟩ := h.letter
  obtain ⟨hzero, hdigit, hnumber⟩ := not_number_of_letter hletter
  rw [endsInNumber, hparts]
  simp only [List.getLast?_singleton, List.map_cons, ipv4Part?_of_head_ne hzero,
    readDigits?_of_head hnumber]
  simp [hdigit]

theorem ne_nil (h : IsHostWord word) : word.map Char.toLower ≠ [] := by
  obtain ⟨c, rest, rfl, -⟩ := h.letter
  exact List.cons_ne_nil _ _

/-- A word is one byte for each character. -/
theorem decodeBytes_eq (h : IsHostWord word) :
    decodeBytes word = word.flatMap String.utf8EncodeChar ∧ ∀ c ∈ word, c.toNat ≤ 127 :=
  ⟨decodeBytes_of_plain fun c hc => ne_of_kind (h.chars c hc) (by decide),
    fun c hc => Nat.le_of_lt_succ (ascii_of_inWord (h.chars c hc))⟩

/-- A word that does not claim to be encoded names a domain. -/
theorem names_of_not_encoded (h : IsHostWord word)
    (hcode : ¬"xn--".toList <+: word.map Char.toLower) : idna.names word = true := by
  obtain ⟨hbytes, hascii⟩ := h.decodeBytes_eq
  have hplain : needsNoTables (decodeBytes word) = true := by
    rw [needsNoTables, hbytes, map_lowerAscii_utf8 hascii, Text.splitOnChar_of_not_mem h.no_dot,
      List.any_cons, isEncodedLabel_eq_false hcode]
    rw [List.any_nil, Bool.or_false, Bool.not_false, Bool.and_true, List.all_eq_true]
    exact fun b hb => decide_eq_true (lt_of_mem_utf8 hascii b hb)
  have hallowed : (word.map Char.toLower).any isForbiddenInDomain = false := by
    rw [List.any_eq_false]
    intro c hc
    obtain ⟨d, hd, rfl⟩ := List.mem_map.1 hc
    simp [(allowed_of_inWord (allowed_of_inWord (h.chars d hd)).2.2).1]
  rw [Idna.names, Idna.domain?, if_pos hplain, hbytes, map_lowerAscii_utf8 hascii, hallowed]
  rfl

/-- The domain that a word names is the word in lower case. -/
theorem domain?_eq (h : IsHostWord word) :
    idna.domain? (decodeBytes word) =
      if idna.names word then some (word.map Char.toLower) else none := by
  obtain ⟨hbytes, hascii⟩ := h.decodeBytes_eq
  unfold Idna.names
  cases hname : idna.domain? (decodeBytes word) with
  | none => rfl
  | some name =>
    rw [hbytes] at hname
    rw [Idna.eq_of_ascii (lt_of_mem_utf8 hascii) hname, map_lowerAscii_utf8 hascii]
    rfl

/-- A word is read as a host in lower case, unless it claims to be encoded and is not. -/
theorem read_host (h : IsHostWord word) :
    Host.read idna word = if idna.names word then
      .ok (.domain (String.ofList (word.map Char.toLower))) else .error .invalidDomain := by
  have hhead : word.head? ≠ some '[' := fun hhead =>
    ne_of_kind (h.chars _ (List.mem_of_head? hhead)) (by decide) rfl
  have hne : (word.map Char.toLower).isEmpty = false := by simpa using h.ne_nil
  rw [Host.read_of_no_bracket hhead, h.domain?_eq]
  by_cases hnames : idna.names word = true
  · simp [hnames, hne, h.not_endsInNumber]
  · simp [hnames]

/-- A word and a port are all of the authority. -/
theorem inAuthority_of_mem (h : IsHostWord word) {digits : List Char}
    (hdigits : ∀ c ∈ digits, c.isDigit = true) :
    ∀ c ∈ word ++ ':' :: digits, inAuthority c = true ∧ c ≠ '@' := by
  have hword {c : Char} (hc : inWord c = true) : inAuthority c = true ∧ c ≠ '@' :=
    ⟨(allowed_of_inWord hc).2.1, ne_of_kind hc (by decide)⟩
  rw [List.forall_mem_append, List.forall_mem_cons]
  exact ⟨fun c hc => hword (h.chars c hc), by decide,
    fun c hc => hword (inWord_of_isDigit (hdigits c hc))⟩

theorem not_endsAuthority_of_mem (h : IsHostWord word) {digits : List Char}
    (hdigits : ∀ c ∈ digits, c.isDigit = true) :
    ∀ c ∈ word ++ ':' :: digits, endsAuthority true c = false := by
  intro c hc
  have hauthority := (h.inAuthority_of_mem hdigits c hc).1
  rw [inAuthority, Bool.and_eq_true_iff] at hauthority
  simpa using hauthority.2

variable {scheme : String} {digits : List Char}

/-- What becomes of a word and a port with nothing around them. -/
theorem read_authority (h : IsHostWord word) (hdigits : ∀ c ∈ digits, c.isDigit = true)
    (hscheme : scheme = "http" ∨ scheme = "https") :
    readAuthority idna scheme (word ++ ':' :: digits) =
      if idna.names word then
        (readPort (defaultPorts.lookup scheme) digits).map fun port =>
          { scheme := scheme, host := some (.domain (String.ofList (word.map Char.toLower)))
            port := port, path := "/" }
      else .error .invalidDomain := by
  have hwhole : (word ++ ':' :: digits).takeWhile (fun c => !endsAuthority true c) =
      word ++ ':' :: digits := by
    rw [List.takeWhile_eq_self_iff]
    intro c hc
    simp [h.not_endsAuthority_of_mem hdigits c hc]
  have huser : readUser true (word ++ ':' :: digits) [] = .ok ("", "", word ++ ':' :: digits) := by
    rw [readUser, splitLast?_of_not_mem fun hc => (h.inAuthority_of_mem hdigits '@' hc).2 rfl]
  have htake := takeHost_of_plain (fun c hc => ⟨ne_of_kind (h.chars c hc) (by decide),
    ne_of_kind (h.chars c hc) (by decide), ne_of_kind (h.chars c hc) (by decide)⟩) digits
  have hne : word.isEmpty = false := by
    obtain ⟨c, rest, rfl, -⟩ := h.letter
    rfl
  unfold readAuthority
  simp only [isSpecial_of_web hscheme, hwhole, List.drop_length, huser]
  simp only [bind, Except.bind, htake, if_true, hne, Bool.false_eq_true, if_false, h.read_host]
  by_cases hnames : idna.names word = true
  · have hhost : (String.ofList (word.map Char.toLower)).isEmpty = false := by
      simpa using h.ne_nil
    simp only [hnames, if_true, Host.isEmpty, hhost, Bool.false_and, Bool.false_eq_true, if_false,
      List.drop_one, List.tail_cons]
    cases readPort (defaultPorts.lookup scheme) digits <;> rfl
  · simp only [hnames, Bool.false_eq_true, if_false]

/-- What is read from a scheme, a word and a port. -/
theorem read_text (h : IsHostWord word) (idna : Idna) {port : Nat} (hport : port ≤ 65535)
    (hscheme : scheme = "http" ∨ scheme = "https") {text : String}
    (htext : text.toList =
      scheme.toList ++ ':' :: '/' :: '/' :: (word ++ ':' :: port.repr.toList)) :
    Url.read idna text = if idna.names word then
        .ok { scheme := scheme, host := some (.domain (String.ofList (word.map Char.toLower)))
              port := if defaultPorts.lookup scheme = some port then none else some port
              path := "/" }
      else .error .invalidDomain := by
  have hdigits : ∀ c ∈ port.repr.toList, c.isDigit = true := fun c => Decimal.isDigit_of_mem_repr
  have hshown : ∀ c ∈ text.toList, isShown c = true := by
    have hall : scheme.toList.all isShown = true := by
      rcases hscheme with rfl | rfl <;> decide
    rw [htext, List.forall_mem_append, List.forall_mem_cons, List.forall_mem_cons,
      List.forall_mem_cons]
    refine ⟨List.all_eq_true.1 hall, by decide, by decide, by decide, fun c hc => ?_⟩
    exact (Bool.and_eq_true_iff.1 (h.inAuthority_of_mem hdigits c hc).1).1
  have hdrop := dropWhile_slashes ['/', '/'] (by simp)
    (List.append_ne_nil_of_right_ne_nil word (List.cons_ne_nil ':' port.repr.toList))
    (h.not_endsAuthority_of_mem hdigits) []
  rw [List.append_nil, List.cons_append, List.cons_append, List.nil_append] at hdrop
  have htake : takeScheme? (significant text.toList) =
      some (scheme.toList, '/' :: '/' :: (word ++ ':' :: port.repr.toList)) := by
    rw [significant_of_shown hshown, htext, takeScheme?_append hscheme]
  rw [read_of_scheme hscheme htake, hdrop, h.read_authority hdigits hscheme, readPort_repr _ hport]
  rfl

end IsHostWord

end SapMonitor.Url
