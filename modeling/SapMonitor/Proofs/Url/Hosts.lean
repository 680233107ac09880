import SapMonitor.Proofs.Fallible
import SapMonitor.Proofs.Url.Ipv6
import SapMonitor.Proofs.Url.Names

/-!
# Hosts and their texts

A host is in one form only: a name in lower case that is no number, the four numbers of an IPv4
address, or the pieces of an IPv6 address in brackets.  So its text names the host again.

Main results:

- `Host.proper_of_read`: what is read as a host is in its form.
- `Host.Proper.read_text`: a host in its form is read back from its text.
- `Host.Proper.takeHost_text` and `Host.Proper.setHost_text`: the text is the whole host of a URL.
- `eq_of_plain_name`: a name in lower case without codes is the domain that it names.
- `Host.read_word`: a word that is no number makes a domain of every name that it begins.
-/

namespace SapMonitor.Url

/-! ## The name of a text -/

variable {idna : Idna}

/-- A name has no codes. -/
theorem IsName.decodeBytes {cs : List Char} (h : IsName idna cs) :
    decodeBytes cs = cs.flatMap String.utf8EncodeChar :=
  decodeBytes_of_plain fun c hc => ne_of_allowed (h.allowed c hc) (by decide)

/-- A name is the domain that it names. -/
theorem IsName.domain? {cs : List Char} (h : IsName idna cs) :
    idna.domain? (Url.decodeBytes cs) = some cs := by
  rw [h.decodeBytes, h.own]

/-- A name in ASCII and in lower case, without codes, is the domain that it names. -/
theorem eq_of_plain_name {cs name : List Char} (h : idna.domain? (decodeBytes cs) = some name)
    (hascii : ∀ c ∈ cs, c.toNat ≤ 127) (hcode : ∀ c ∈ cs, c ≠ '%')
    (hlower : ∀ c ∈ cs, c.toLower = c) : name = cs := by
  rw [decodeBytes_of_plain hcode] at h
  rw [Idna.eq_of_ascii (lt_of_mem_utf8 hascii) h, map_lowerAscii_of_lower hascii hlower]

/-! ## The forms of a host -/

/-- The hosts of schemes with domains, each in its form. -/
inductive Host.Proper (idna : Idna) : Host → Prop
  | domain {name : List Char} : IsName idna name → name ≠ [] → endsInNumber name = false →
      Proper idna (.domain (String.ofList name))
  | ipv4 {n : Nat} : n < 256 ^ 4 → Proper idna (.ipv4 n)
  | ipv6 {ps : List Nat} : ArePieces ps → Proper idna (.ipv6 ps)

/-- A text that does not begin with a bracket is read as a name. -/
theorem Host.read_of_no_bracket {cs : List Char} (h : cs.head? ≠ some '[') :
    Host.read idna cs = match idna.domain? (decodeBytes cs) with
      | none => .error .invalidDomain
      | some name =>
        if name.isEmpty then .error .emptyHost
        else if endsInNumber name then (readIpv4 name).map .ipv4
        else .ok (.domain (String.ofList name)) := by
  unfold Host.read
  split
  · exact absurd rfl h
  · rfl

/-- A name is read as an address if it ends in a number, as a domain otherwise. -/
theorem Host.read_eq_ok_name {cs : List Char} {h : Host} (hhead : cs.head? ≠ some '[')
    (hread : Host.read idna cs = .ok h) :
    ∃ name, idna.domain? (decodeBytes cs) = some name ∧ name ≠ [] ∧
      ((∃ n, endsInNumber name = true ∧ readIpv4 name = .ok n ∧ h = .ipv4 n) ∨
        (endsInNumber name = false ∧ h = .domain (String.ofList name))) := by
  rw [Host.read_of_no_bracket hhead] at hread
  split at hread
  next => cases hread
  next name hname =>
    split at hread
    next => cases hread
    next hne =>
      refine ⟨name, hname, by simpa using hne, ?_⟩
      split at hread
      next hnumber =>
        obtain ⟨n, hn, rfl⟩ := map_eq_ok_iff.1 hread
        exact .inl ⟨n, hnumber, hn, rfl⟩
      next hnumber => exact .inr ⟨by simpa using hnumber, (Except.ok.inj hread).symm⟩

/-- What is read as a host is in its form. -/
theorem Host.proper_of_read {cs : List Char} {h : Host} (hread : Host.read idna cs = .ok h) :
    h.Proper idna := by
  by_cases hhead : cs.head? = some '['
  · obtain ⟨rest, rfl⟩ := List.head?_eq_some_iff.1 hhead
    unfold Host.read at hread
    simp only at hread
    split at hread
    · obtain ⟨ps, hps, rfl⟩ := map_eq_ok_iff.1 hread
      exact .ipv6 (arePieces_of_readIpv6 hps)
    · cases hread
  · obtain ⟨name, hname, hne, hcases⟩ := Host.read_eq_ok_name hhead hread
    rcases hcases with ⟨n, -, hn, rfl⟩ | ⟨hnumber, rfl⟩
    · exact .ipv4 (lt_of_readIpv4 hn)
    · exact .domain (Idna.isName_of_domain? hname) hne hnumber

/-! ## Reading a host from its text -/

theorem isEncodedLabel_of_head_ne {c : Char} {cs : List Char} (h : c ≠ 'x') :
    isEncodedLabel (c :: cs) = false := by
  unfold isEncodedLabel
  split
  · rename_i heq
    exact absurd (List.cons.inj heq).1 h
  · rfl

/-- The digits of a number are no encoded label. -/
theorem isEncodedLabel_toDigits (n : Nat) : isEncodedLabel (Nat.toDigits 10 n) = false := by
  have hx : ∀ d < 10, Nat.digitChar d ≠ 'x' := by decide
  cases hcs : Nat.toDigits 10 n with
  | nil => exact absurd hcs Nat.toDigits_ne_nil
  | cons c cs =>
    obtain ⟨d, hd, rfl⟩ := mem_toDigits (by decide) (hcs ▸ List.mem_cons_self)
    exact isEncodedLabel_of_head_ne (hx d hd)

/-- The text of an IPv4 address is a name. -/
theorem isName_ipv4Text (n : Nat) : IsName idna (ipv4Text n).toList := by
  have hdigit : ∀ d < 10, isForbiddenInDomain (Nat.digitChar d) = false ∧
      (Nat.digitChar d).toLower = Nat.digitChar d := by decide
  apply isName_of_no_encoded
  · intro c hc
    rcases mem_ipv4Text hc with rfl | ⟨d, hd, rfl⟩
    · decide
    · exact (hdigit d hd).1
  · intro c hc
    rcases mem_ipv4Text hc with rfl | ⟨d, hd, rfl⟩
    · decide
    · exact (hdigit d hd).2
  · rw [splitOnChar_ipv4Text, List.any_map, List.any_eq_false]
    intro b _
    simp [isEncodedLabel_toDigits b]

theorem Host.read_name {name : List Char} (h : IsName idna name) (hne : name ≠ []) :
    Host.read idna name = if endsInNumber name then (readIpv4 name).map .ipv4
      else .ok (.domain (String.ofList name)) := by
  have hhead : name.head? ≠ some '[' := by
    intro hhead
    exact ne_of_allowed (h.allowed _ (List.mem_of_head? hhead)) (by decide) rfl
  rw [Host.read_of_no_bracket hhead, h.domain?]
  simp only
  rw [if_neg (by simpa using hne)]

theorem ipv4Text_ne_nil (n : Nat) : (ipv4Text n).toList ≠ [] := by
  rw [toList_ipv4Text]
  exact List.append_ne_nil_of_right_ne_nil _ (List.cons_ne_nil _ _)

/-- A host in its form is read back from its text. -/
theorem Host.Proper.read_text {h : Host} (hh : h.Proper idna) :
    Host.read idna h.text.toList = .ok h := by
  cases hh with
  | domain hname hne hnumber =>
    rw [Host.text, String.toList_ofList, Host.read_name hname hne, hnumber]
    rfl
  | ipv4 hn =>
    rw [Host.text, Host.read_name (isName_ipv4Text _) (ipv4Text_ne_nil _), endsInNumber_ipv4Text,
      if_pos rfl, readIpv4_ipv4Text hn]
    rfl
  | @ipv6 ps hps =>
    have htext : (Host.ipv6 ps).text.toList = '[' :: ((ipv6Text ps).toList ++ [']']) := by
      simp [Host.text]
    unfold Host.read
    simp [htext, readIpv6_ipv6Text hps]
    rfl

/-! ## The text of a host in a URL -/

/-- What may not stand in the host of a URL, because it ends the host or is no part of the text. -/
def endsHost (c : Char) : Bool :=
  isControl c || [' ', '/', '?', '#', '\\', '@'].contains c

theorem Host.Proper.text_ne_nil {h : Host} (hh : h.Proper idna) : h.text.toList ≠ [] := by
  cases hh with
  | domain _ hne _ => simpa [Host.text] using hne
  | ipv4 _ => exact ipv4Text_ne_nil _
  | ipv6 _ => simp [Host.text]

/-- The names among the hosts. -/
theorem Host.Proper.isName_or_ipv6 {h : Host} (hh : h.Proper idna) :
    IsName idna h.text.toList ∨ ∃ ps, h = .ipv6 ps := by
  cases hh with
  | domain hname _ _ => exact .inl (by simpa [Host.text] using hname)
  | ipv4 _ => exact .inl (isName_ipv4Text _)
  | ipv6 _ => exact .inr ⟨_, rfl⟩

theorem toList_text_ipv6 (ps : List Nat) :
    (Host.ipv6 ps).text.toList = '[' :: ((ipv6Text ps).toList ++ [']']) := by
  simp [Host.text]

theorem Host.Proper.endsHost_of_mem {h : Host} (hh : h.Proper idna) :
    ∀ c ∈ h.text.toList, endsHost c = false := by
  intro c hc
  rcases hh.isName_or_ipv6 with hname | ⟨ps, rfl⟩
  · have hallowed := hname.allowed c hc
    simp only [isForbiddenInDomain, endsHost, Bool.or_eq_false_iff, List.contains_eq_mem,
      List.mem_cons, List.not_mem_nil, or_false, decide_eq_false_iff_not, not_or] at hallowed ⊢
    tauto
  · have hdigit : ∀ d < 16, endsHost (Nat.digitChar d) = false := by decide
    rw [toList_text_ipv6, List.mem_cons, List.mem_append, List.mem_singleton] at hc
    rcases hc with rfl | hc | rfl
    · decide
    · rcases mem_ipv6Text hc with rfl | ⟨d, hd, rfl⟩
      · decide
      · exact hdigit d hd
    · decide

/-- Outside of brackets a colon ends the host. -/
theorem takeHost_of_plain {cs : List Char} (h : ∀ c ∈ cs, c ≠ ':' ∧ c ≠ '[' ∧ c ≠ ']')
    (rest : List Char) : takeHost false (cs ++ ':' :: rest) = (cs, ':' :: rest) := by
  induction cs with
  | nil => simp [takeHost]
  | cons c cs ih =>
    obtain ⟨⟨hcolon, hopen, hclose⟩, hcs⟩ := List.forall_mem_cons.1 h
    rw [List.cons_append, takeHost, if_neg (by simp [hcolon]), if_neg hopen, if_neg hclose, ih hcs]

theorem takeHost_of_name {name : List Char} (h : IsName idna name) (rest : List Char) :
    takeHost false (name ++ ':' :: rest) = (name, ':' :: rest) :=
  takeHost_of_plain (fun c hc => ⟨ne_of_allowed (h.allowed c hc) (by decide),
    ne_of_allowed (h.allowed c hc) (by decide), ne_of_allowed (h.allowed c hc) (by decide)⟩) rest

/-- Colons in brackets do not end the host. -/
theorem takeHost_brackets {cs : List Char} (h : ∀ c ∈ cs, c ≠ '[' ∧ c ≠ ']') (rest : List Char) :
    takeHost true (cs ++ ']' :: ':' :: rest) = (cs ++ [']'], ':' :: rest) := by
  induction cs with
  | nil => simp [takeHost]
  | cons c cs ih =>
    obtain ⟨⟨hopen, hclose⟩, hcs⟩ := List.forall_mem_cons.1 h
    rw [List.cons_append, takeHost, if_neg (by simp), if_neg hopen, if_neg hclose, ih hcs]
    rfl

/-- The text of a host is the whole host before a port. -/
theorem Host.Proper.takeHost_text {h : Host} (hh : h.Proper idna) (rest : List Char) :
    takeHost false (h.text.toList ++ ':' :: rest) = (h.text.toList, ':' :: rest) := by
  rcases hh.isName_or_ipv6 with hname | ⟨ps, rfl⟩
  · exact takeHost_of_name hname rest
  · have hdigit : ∀ d < 16, Nat.digitChar d ≠ '[' ∧ Nat.digitChar d ≠ ']' := by decide
    have hplain : ∀ c ∈ (ipv6Text ps).toList, c ≠ '[' ∧ c ≠ ']' := by
      intro c hc
      rcases mem_ipv6Text hc with rfl | ⟨d, hd, rfl⟩
      · decide
      · exact hdigit d hd
    have htext : (Host.ipv6 ps).text.toList ++ ':' :: rest =
        '[' :: ((ipv6Text ps).toList ++ ']' :: ':' :: rest) := by
      simp [toList_text_ipv6]
    rw [htext, takeHost, if_neg (by decide), if_pos rfl, takeHost_brackets hplain,
      toList_text_ipv6]

/-! ## Naming a host -/

/-- What of a text names a host: all of it in brackets, otherwise up to the first colon. -/
def namedPart (cs : List Char) : List Char :=
  if cs.head? = some '[' ∧ cs.getLast? = some ']' then cs else cs.takeWhile (· ≠ ':')

theorem Host.read_nil : Host.read idna [] = .error .emptyHost :=
  rfl

/-- The host of a URL is changed to the one that the text names. -/
theorem setHost_eq_ok_iff {u u' : Url} {name : String} :
    u.setHost idna name = .ok u' ↔
      ∃ h, Host.read idna (namedPart name.toList) = .ok h ∧ u' = { u with host := some h } := by
  have hpart : (if (name.toList.head? = some '[' && name.toList.getLast? = some ']' : Bool) then
      name.toList else name.toList.takeWhile (· ≠ ':')) = namedPart name.toList := by
    simp [namedPart]
  have hnil {h : Host} : Host.read idna [] ≠ .ok h := by simp [Host.read_nil]
  unfold setHost
  simp only [hpart]
  by_cases hname : name.toList.isEmpty = true
  · have hempty : namedPart name.toList = [] := by
      rw [List.isEmpty_iff.1 hname]
      rfl
    simp [hname, hempty, hnil]
  · by_cases hempty : (namedPart name.toList).isEmpty = true
    · simp [hname, List.isEmpty_iff.1 hempty, hnil]
    · rw [if_neg hname, if_neg hempty, bind_eq_ok_iff]
      simp only [pure, Except.pure, Except.ok.injEq, eq_comm]

theorem namedPart_of_no_colon {cs : List Char} (h : ':' ∉ cs) : namedPart cs = cs := by
  have htake : cs.takeWhile (· ≠ ':') = cs := by
    rw [List.takeWhile_eq_self_iff]
    intro c hc
    simpa using ne_of_mem_of_not_mem hc h
  rw [namedPart, htake, ite_self]

theorem Host.Proper.namedPart_text {h : Host} (hh : h.Proper idna) :
    namedPart h.text.toList = h.text.toList := by
  rcases hh.isName_or_ipv6 with hname | ⟨ps, rfl⟩
  · exact namedPart_of_no_colon fun hc => ne_of_allowed (hname.allowed _ hc) (by decide) rfl
  · have hends : (Host.ipv6 ps).text.toList.head? = some '[' ∧
        (Host.ipv6 ps).text.toList.getLast? = some ']' := by
      rw [toList_text_ipv6, ← List.cons_append]
      exact ⟨rfl, List.getLast?_concat⟩
    rw [namedPart, if_pos hends]

/-- The text of a host names the host. -/
theorem Host.Proper.setHost_text {h : Host} (hh : h.Proper idna) (u : Url) :
    u.setHost idna h.text = .ok { u with host := some h } := by
  rw [setHost_eq_ok_iff, hh.namedPart_text]
  exact ⟨h, hh.read_text, rfl⟩

/-! ## A word before a name -/

theorem decodeBytes_append {front : List Char} (h : ∀ c ∈ front, c ≠ '%') (rest : List Char) :
    decodeBytes (front ++ rest) = decodeBytes front ++ decodeBytes rest := by
  rw [decodeBytes_of_plain h]
  induction front with
  | nil => rfl
  | cons c front ih =>
    obtain ⟨hc, hfront⟩ := List.forall_mem_cons.1 h
    rw [List.cons_append, decodeBytes.eq_3 c _ (by intro a b r hc'; exact absurd hc' hc), ih hfront,
      List.flatMap_cons, List.append_assoc]

theorem head?_ne_of_allowed {front : List Char} (hne : front ≠ [])
    (h : ∀ c ∈ front, isForbiddenInDomain c = false) (rest : List Char) :
    (front ++ rest).head? ≠ some '[' := by
  intro hhead
  obtain ⟨c, cs, rfl⟩ := List.exists_cons_of_ne_nil hne
  obtain rfl := Option.some.inj hhead
  exact ne_of_allowed (h _ List.mem_cons_self) (by decide) rfl

theorem namedPart_append {front : List Char} (hne : front ≠ [])
    (h : ∀ c ∈ front, isForbiddenInDomain c = false) (rest : List Char) :
    namedPart (front ++ rest) = front ++ rest.takeWhile (· ≠ ':') := by
  have hcolon : ∀ c ∈ front, decide (c ≠ ':') = true := fun c hc =>
    decide_eq_true (ne_of_allowed (h c hc) (by decide))
  rw [namedPart, if_neg fun hends => head?_ne_of_allowed hne h rest hends.1,
    List.takeWhile_append_of_pos hcolon]

/-- A word in front of a dot stays in front of it. -/
theorem domain?_word {word rest name : List Char} (hword : IsName idna word) (hdot : '.' ∉ word)
    (h : idna.domain? (decodeBytes (word ++ '.' :: rest)) = some name) :
    ∃ rest', name = word ++ '.' :: rest' := by
  have hascii := ascii_of_all_allowed hword.allowed
  have hbytes : decodeBytes (word ++ '.' :: rest) =
      word.flatMap String.utf8EncodeChar ++ 46 :: decodeBytes rest := by
    rw [decodeBytes_append fun c hc => ne_of_allowed (hword.allowed c hc) (by decide),
      hword.decodeBytes]
    rfl
  have hfirst : ∀ b ∈ word.flatMap String.utf8EncodeChar, b < 128 ∧ b ≠ 46 := fun b hb =>
    ⟨lt_of_mem_utf8 hascii b hb, ne_of_mem_utf8 (d := '.') hascii (by decide) hdot b hb⟩
  rw [hbytes] at h
  obtain ⟨rest', hrest⟩ := Idna.label_prefix hfirst h
  rw [map_lowerAscii_of_lower hascii hword.lower, List.append_assoc] at hrest
  exact ⟨rest', hrest.symm⟩

theorem nameParts_append {word : List Char} (h : '.' ∉ word) (rest : List Char) :
    ∃ others, nameParts (word ++ '.' :: rest) = word :: others := by
  obtain ⟨first, others, hparts⟩ := List.exists_cons_of_ne_nil (Text.splitOnChar_ne_nil '.' rest)
  unfold nameParts
  simp only [Text.splitOnChar_append h, hparts]
  split
  · exact ⟨_, List.dropLast_cons_cons⟩
  · exact ⟨_, rfl⟩

/-- A name that begins with a word that is no number is no address. -/
theorem readIpv4_of_word {word : List Char} (hdot : '.' ∉ word) (h : endsInNumber word = false)
    (rest : List Char) (n : Nat) : readIpv4 (word ++ '.' :: rest) ≠ .ok n := by
  have hnumber : ipv4Part? word = none := by
    unfold endsInNumber nameParts at h
    rw [Text.splitOnChar_of_not_mem hdot] at h
    simp only [List.length_singleton, lt_self_iff_false, decide_false, Bool.false_and,
      Bool.false_eq_true, if_false, List.getLast?_singleton, Bool.or_eq_false_iff] at h
    simpa using h.2
  obtain ⟨others, hparts⟩ := nameParts_append hdot rest
  unfold readIpv4
  rw [hparts, List.mapM_cons, hnumber]
  simp

/-- A word that is no number makes a domain of every name that it begins. -/
theorem Host.read_word {word rest : List Char} {h : Host} (hword : IsName idna word)
    (hdot : '.' ∉ word) (hnumber : endsInNumber word = false)
    (hread : Host.read idna (word ++ '.' :: rest) = .ok h) :
    ∃ rest', h = .domain (String.ofList (word ++ '.' :: rest')) ∧
      idna.domain? (decodeBytes (word ++ '.' :: rest)) = some (word ++ '.' :: rest') := by
  have hhead : (word ++ '.' :: rest).head? ≠ some '[' := by
    have hne : word ++ ['.'] ≠ [] := List.append_ne_nil_of_right_ne_nil _ (List.cons_ne_nil _ _)
    have hassoc : word ++ '.' :: rest = (word ++ ['.']) ++ rest := by simp
    rw [hassoc]
    exact head?_ne_of_allowed hne hword.dotted.1 rest
  obtain ⟨name, hname, -, hcases⟩ := Host.read_eq_ok_name hhead hread
  obtain ⟨rest', rfl⟩ := domain?_word hword hdot hname
  rcases hcases with ⟨n, -, hn, -⟩ | ⟨-, rfl⟩
  · exact absurd hn (readIpv4_of_word hdot hnumber rest' n)
  · exact ⟨rest', rfl, hname⟩

end SapMonitor.Url
