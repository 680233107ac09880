import SapMonitor.Proofs.Remote.Decimals
import SapMonitor.Proofs.Url.Forms

/-!
# URLs and their texts

A URL whose parts are in their forms is shown as a text and read again.  It stays the same, but for
the slash that an empty path stands for.

Main results:

- `toList_text`: how the text is made up.
- `readUser_text`, `Proper.cutAt_tailText` and `Host.Proper.takeHost_text` give the parts back.
- `Proper.read_text`: the whole URL is read back from its text.
-/

namespace SapMonitor.Url

/-! ## What counts of a text -/

/-- What follows a character outside the class is dropped by itself. -/
theorem dropTrailing_append {p : Char → Bool} {c : Char} (hc : p c = false) (front rest : List Char) :
    Text.dropTrailing p (front ++ c :: rest) = front ++ c :: Text.dropTrailing p rest := by
  induction rest using List.reverseRecOn with
  | nil => exact Text.dropTrailing_concat hc
  | append_singleton rest d ih =>
    have hassoc : front ++ c :: (rest ++ [d]) = (front ++ c :: rest) ++ [d] := by simp
    rw [hassoc]
    by_cases hd : p d = true
    · have htail : ∀ e ∈ [d], p e = true := by simpa using hd
      rw [Text.dropTrailing_append_of_all htail, Text.dropTrailing_append_of_all htail, ih]
    · have hd : p d = false := by simpa using hd
      rw [Text.dropTrailing_concat hd, Text.dropTrailing_concat hd, ← hassoc]

theorem takeScheme?_append {scheme : String} (h : scheme = "http" ∨ scheme = "https")
    (rest : List Char) :
    takeScheme? (scheme.toList ++ ':' :: rest) = some (scheme.toList, rest) := by
  rcases h with rfl | rfl
  · rfl
  · rfl

/-- The scheme and its colon count whatever follows. -/
theorem significant_append {scheme : String} (h : scheme = "http" ∨ scheme = "https")
    (rest : List Char) :
    ∃ rest', significant (scheme.toList ++ ':' :: rest) = scheme.toList ++ ':' :: rest' := by
  have hdrop : (scheme.toList ++ ':' :: rest).dropWhile (fun c => decide (c ≤ ' ')) =
      scheme.toList ++ ':' :: rest := by
    rcases h with rfl | rfl
    · rfl
    · rfl
  have hfilter : scheme.toList.filter (fun c => c != '\t' && c != '\n' && c != '\r') =
      scheme.toList := by
    rcases h with rfl | rfl
    · rfl
    · rfl
  refine ⟨(Text.dropTrailing (fun c => decide (c ≤ ' ')) rest).filter
    fun c => c != '\t' && c != '\n' && c != '\r', ?_⟩
  rw [significant, Text.strip, hdrop, dropTrailing_append (by decide), List.filter_append, hfilter]
  rfl

/-- Whether a character is neither a control nor a blank. -/
def isShown (c : Char) : Bool :=
  !(isControl c || c = ' ')

theorem not_le_blank {c : Char} (h : isShown c = true) : ¬c ≤ ' ' := by
  simp only [isShown, isControl, Bool.not_eq_true', Bool.or_eq_false_iff, decide_eq_false_iff_not,
    not_lt] at h
  obtain ⟨⟨hlo, -⟩, hblank⟩ := h
  intro hle
  have hle : c.toNat ≤ 32 := UInt32.le_iff_toNat_le.1 (Char.le_def.1 hle)
  have heq : c.toNat = 32 := by omega
  exact hblank (Char.ext (UInt32.toNat_inj.1 heq))

/-- Text of shown characters counts as it is. -/
theorem significant_of_shown {cs : List Char} (h : ∀ c ∈ cs, isShown c = true) :
    significant cs = cs := by
  have hlate : ∀ c ∈ cs, decide (c ≤ ' ') = false := fun c hc =>
    decide_eq_false (not_le_blank (h c hc))
  have hline : ∀ c ∈ cs, (c != '\t' && c != '\n' && c != '\r') = true := by
    intro c hc
    have hne {d : Char} (hd : isShown d = false) : c ≠ d := by
      rintro rfl
      rw [h c hc] at hd
      cases hd
    simp [hne (d := '\t') (by decide), hne (d := '\n') (by decide), hne (d := '\r') (by decide)]
  rw [significant, Text.strip_of_none hlate, List.filter_eq_self.2 hline]

/-! ## The parts of a text -/

/-- A part with the sign before it, nothing without a part. -/
def signed (sign : Char) (part : Option String) : List Char :=
  (part.map fun s => sign :: s.toList).getD []

@[simp] theorem signed_none (sign : Char) : signed sign none = [] :=
  rfl

@[simp] theorem signed_some (sign : Char) (s : String) :
    signed sign (some s) = sign :: s.toList :=
  rfl

theorem mem_signed {sign c : Char} {part : Option String} (h : c ∈ signed sign part) :
    c = sign ∨ ∃ s, part = some s ∧ c ∈ s.toList := by
  cases part with
  | none => simp at h
  | some s =>
    rw [signed_some, List.mem_cons] at h
    exact h.imp_right fun hc => ⟨s, rfl, hc⟩

/-- A part is cut off at its sign. -/
theorem cutAt_signed {sign : Char} {front : List Char} (h : sign ∉ front) (part : Option String) :
    cutAt sign (front ++ signed sign part) = (front, part.map String.toList) := by
  cases part with
  | none => simpa using cutAt_of_not_mem h
  | some s => exact cutAt_append h s.toList

/-- The path, the query and the fragment as a text. -/
def tailText (u : Url) : List Char :=
  u.path.toList ++ signed '?' u.query ++ signed '#' u.fragment

/-- The host and the port as a text. -/
def hostPartText (h : Host) (p : Nat) : List Char :=
  h.text.toList ++ ':' :: p.repr.toList

theorem hostPartText_ne_nil (h : Host) (p : Nat) : hostPartText h p ≠ [] :=
  List.append_ne_nil_of_right_ne_nil _ (List.cons_ne_nil _ _)

theorem toList_text {u : Url} {h : Host} {p : Nat} (hhost : u.host = some h)
    (hport : u.port = some p) :
    u.text.toList = u.scheme.toList ++ ':' :: '/' :: '/' ::
      ((u.userText.toList ++ hostPartText h p) ++ u.tailText) := by
  cases hquery : u.query <;> cases hfragment : u.fragment <;>
    simp [text, authorityText, portText, hhost, hport, hquery, hfragment, tailText, hostPartText]

/-- What stands before the last sign of a user part names the user. -/
theorem readUser_append (front : List Char) {hostPart : List Char} (hat : '@' ∉ hostPart)
    (hne : hostPart ≠ []) (rest : List Char) :
    readUser true (front ++ '@' :: hostPart) rest =
      .ok (String.ofList (encode inUserSet (cutAt ':' front).1),
        String.ofList (encode inUserSet ((cutAt ':' front).2.getD [])), hostPart) := by
  have hhost : hostPart.isEmpty = false := by simpa using hne
  unfold readUser
  rw [splitLast?_append front hat]
  simp [hhost]

theorem readUser_text {u : Url} (huser : ∀ c ∈ u.user.toList, inUserSet c = false)
    (hpassword : ∀ c ∈ u.password.toList, inUserSet c = false) {hostPart : List Char}
    (hat : '@' ∉ hostPart) (hne : hostPart ≠ []) (rest : List Char) :
    readUser true (u.userText.toList ++ hostPart) rest = .ok (u.user, u.password, hostPart) := by
  have hcolon : ':' ∉ u.user.toList := fun hc => absurd (huser _ hc) (by decide)
  have hname : String.ofList (encode inUserSet u.user.toList) = u.user := by
    rw [encode_of_allowed huser, String.ofList_toList]
  by_cases hempty : u.password = ""
  · by_cases hanonymous : u.user = ""
    · have htext : u.userText.toList ++ hostPart = hostPart := by
        simp [userText, hempty, hanonymous]
      rw [htext, readUser, splitLast?_of_not_mem hat, hempty, hanonymous]
    · have htext : u.userText.toList ++ hostPart = u.user.toList ++ '@' :: hostPart := by
        simp [userText, hempty, hanonymous]
      rw [htext, readUser_append _ hat hne, cutAt_of_not_mem hcolon, hname, hempty]
      rfl
  · have htext : u.userText.toList ++ hostPart =
        (u.user.toList ++ ':' :: u.password.toList) ++ '@' :: hostPart := by
      simp [userText, hempty]
    rw [htext, readUser_append _ hat hne, cutAt_append hcolon, hname, Option.getD_some,
      encode_of_allowed hpassword, String.ofList_toList]

theorem authorityOf_append {authority tail : List Char}
    (h : ∀ c ∈ authority, endsAuthority true c = false)
    (htail : ∀ c ∈ tail.head?, endsAuthority true c = true) :
    authorityOf (authority ++ tail) = authority ∧ afterAuthority (authority ++ tail) = tail := by
  have hfront : authorityOf (authority ++ tail) = authority := by
    rw [authorityOf, List.takeWhile_append_of_pos fun c hc => by simp [h c hc]]
    cases tail with
    | nil => simp
    | cons c tail => simp [htail c rfl]
  exact ⟨hfront, by rw [afterAuthority, hfront, List.drop_left]⟩

/-- All slashes before an authority are dropped. -/
theorem dropWhile_slashes (slashes : List Char) {authority : List Char}
    (hslashes : ∀ c ∈ slashes, c = '/' ∨ c = '\\') (hne : authority ≠ [])
    (h : ∀ c ∈ authority, endsAuthority true c = false) (tail : List Char) :
    (slashes ++ (authority ++ tail)).dropWhile (fun c => c = '/' || c = '\\') =
      authority ++ tail := by
  obtain ⟨c, cs, rfl⟩ := List.exists_cons_of_ne_nil hne
  have hends : endsAuthority true c = false := h c List.mem_cons_self
  have hslash : ¬(c = '/' ∨ c = '\\') := by
    rintro (rfl | rfl) <;> exact absurd hends (by decide)
  rw [List.dropWhile_append_of_pos (by simpa using hslashes), List.cons_append,
    List.dropWhile_cons_of_neg (by simpa using hslash)]

/-! ## Reading the text of a URL -/

theorem readPort_repr (implied : Option Nat) {p : Nat} (hle : p ≤ 65535) :
    readPort implied p.repr.toList = .ok (if implied = some p then none else some p) := by
  have hread := Decimal.readNat?_repr p
  unfold Decimal.readNat? at hread
  split at hread
  · cases hread
  · rename_i hdigits
    simp only [Bool.or_eq_true, not_or, Bool.not_eq_true', Bool.not_eq_false] at hdigits
    have hvalue : Decimal.digitsValue p.repr.toList = p := Option.some.inj hread
    unfold readPort
    rw [if_neg (by rw [hdigits.2]; decide), if_neg hdigits.1]
    simp only [hvalue]
    rw [if_neg (by omega)]

theorem Host.Proper.isEmpty_eq_false {idna : Idna} {h : Host} (hh : h.Proper idna) :
    h.isEmpty = false := by
  cases hh with
  | domain _ hne _ => simpa [Host.isEmpty] using hne
  | ipv4 _ => rfl
  | ipv6 _ => rfl

/-- The URL with the slash that an empty path stands for. -/
def rooted (u : Url) : Url :=
  { u with path := if u.path.isEmpty then "/" else u.path }

/-- What may stand in the text of an authority. -/
def inAuthority (c : Char) : Bool :=
  isShown c && !endsAuthority true c

theorem inAuthority_of_user {c : Char} (h : inUserSet c = false) : inAuthority c = true := by
  simp only [inUserSet, inPathSet, inFragmentSet, inAuthority, isShown, endsAuthority] at h ⊢
  simp at h ⊢
  tauto

theorem inAuthority_of_host {c : Char} (h : endsHost c = false) : inAuthority c = true := by
  simp only [endsHost, inAuthority, isShown, endsAuthority] at h ⊢
  simp at h ⊢
  tauto

theorem isShown_of_fragment {c : Char} (h : inFragmentSet c = false) : isShown c = true := by
  simp only [inFragmentSet, isShown] at h ⊢
  simp at h ⊢
  tauto

theorem isShown_of_query {c : Char} (h : inQuerySet true c = false) : isShown c = true := by
  simp only [inQuerySet, isShown] at h ⊢
  simp at h ⊢
  tauto

namespace Proper

variable {idna : Idna} {u : Url}

theorem userText_inAuthority (hu : u.Proper idna) :
    ∀ c ∈ u.userText.toList, inAuthority c = true := by
  have huser : ∀ c ∈ u.user.toList, inAuthority c = true := fun c hc =>
    inAuthority_of_user (hu.user c hc)
  have hpassword : ∀ c ∈ u.password.toList, inAuthority c = true := fun c hc =>
    inAuthority_of_user (hu.password c hc)
  have hat : inAuthority '@' = true := by decide
  have hcolon : inAuthority ':' = true := by decide
  intro c hc
  unfold userText at hc
  split at hc
  · split at hc
    · simp at hc
    · simp only [String.toList_append, List.mem_append] at hc
      rcases hc with hc | hc
      · exact huser c hc
      · obtain rfl : c = '@' := by simpa using hc
        exact hat
  · simp only [String.toList_append, List.mem_append] at hc
    rcases hc with ((hc | hc) | hc) | hc
    · exact huser c hc
    · obtain rfl : c = ':' := by simpa using hc
      exact hcolon
    · exact hpassword c hc
    · obtain rfl : c = '@' := by simpa using hc
      exact hat

end Proper

theorem hostPartText_inAuthority {idna : Idna} {h : Host} (hh : h.Proper idna) (p : Nat) :
    ∀ c ∈ hostPartText h p, inAuthority c = true ∧ c ≠ '@' := by
  have hdigit : ∀ d < 10, inAuthority (Nat.digitChar d) = true ∧ Nat.digitChar d ≠ '@' := by decide
  intro c hc
  rw [hostPartText, List.mem_append, List.mem_cons, Nat.toList_repr] at hc
  rcases hc with hc | rfl | hc
  · have hends := hh.endsHost_of_mem c hc
    refine ⟨inAuthority_of_host hends, ?_⟩
    rintro rfl
    exact absurd hends (by decide)
  · decide
  · obtain ⟨d, hd, rfl⟩ := mem_toDigits (by decide) hc
    exact hdigit d hd

namespace Proper

variable {idna : Idna} {u : Url}

theorem path_encoded (hu : u.Proper idna) : ∀ c ∈ u.path.toList, inPathSet c = false := by
  rcases hu.path with hpath | ⟨hpath, -, -⟩
  · exact fun c hc => (hpath.encoded c hc).1
  · simp [hpath]

theorem tailText_shown (hu : u.Proper idna) : ∀ c ∈ u.tailText, isShown c = true := by
  intro c hc
  simp only [tailText, List.mem_append] at hc
  rcases hc with (hc | hc) | hc
  · have hpath := hu.path_encoded c hc
    rw [inPathSet, Bool.or_eq_false_iff] at hpath
    exact isShown_of_fragment hpath.1
  · rcases mem_signed hc with rfl | ⟨q, hquery, hc⟩
    · decide
    · exact isShown_of_query (hu.query q hquery c hc)
  · rcases mem_signed hc with rfl | ⟨f, hfragment, hc⟩
    · decide
    · exact isShown_of_fragment (hu.fragment f hfragment c hc)

/-- What follows the authority, if anything, begins with a slash. -/
theorem tailText_head (hu : u.Proper idna) :
    ∀ c ∈ u.tailText.head?, endsAuthority true c = true := by
  rcases hu.path with ⟨segments, hne, -, hjoin⟩ | ⟨hpath, hquery, hfragment⟩
  · obtain ⟨first, rest, rfl⟩ := List.exists_cons_of_ne_nil hne
    have hhead : u.tailText.head? = some '/' := by
      rw [tailText, hjoin]
      rfl
    rw [hhead]
    rintro c ⟨⟩
    decide
  · simp [tailText, hpath, hquery, hfragment]

/-- The path ends where the query or the fragment begins. -/
theorem cutAt_tailText (hu : u.Proper idna) :
    cutAt '#' u.tailText =
        (u.path.toList ++ signed '?' u.query, u.fragment.map String.toList) ∧
      cutAt '?' (u.path.toList ++ signed '?' u.query) =
        (u.path.toList, u.query.map String.toList) := by
  have hpath {d : Char} (hd : inPathSet d = true) : d ∉ u.path.toList := by
    intro hmem
    rw [hu.path_encoded d hmem] at hd
    cases hd
  constructor
  · apply cutAt_signed
    rw [List.mem_append]
    rintro (hc | hc)
    · exact hpath (by decide) hc
    · rcases mem_signed hc with hc | ⟨q, hquery, hc⟩
      · exact absurd hc (by decide)
      · exact absurd (hu.query q hquery _ hc) (by decide)
  · exact cutAt_signed (hpath (by decide)) _

theorem readPath_rooted (hu : u.Proper idna) : readPath true u.path.toList = u.rooted.path := by
  rcases hu.path with hpath | ⟨hpath, -, -⟩
  · have hne : u.path ≠ "" := by
      rintro hempty
      rw [hempty] at hpath
      exact hpath.ne_nil rfl
    rw [readPath_of_isPath hpath, String.ofList_toList, rooted, if_neg (by simpa using hne)]
  · rw [rooted, hpath]
    rfl

/-- The parts after the host are read back from their texts. -/
theorem withTail_rooted (hu : u.Proper idna) :
    withTail { u with path := readPath true u.path.toList } (u.query.map String.toList)
      (u.fragment.map String.toList) = u.rooted := by
  have hquery : (u.query.map String.toList).map
      (fun q => String.ofList (encode (inQuerySet true) q)) = u.query := by
    cases hquery : u.query with
    | none => rfl
    | some q => simp [encode_of_allowed (hu.query q hquery)]
  have hfragment : (u.fragment.map String.toList).map
      (fun f => String.ofList (encode inFragmentSet f)) = u.fragment := by
    cases hfragment : u.fragment with
    | none => rfl
    | some f => simp [encode_of_allowed (hu.fragment f hfragment)]
  simp only [withTail, isSpecial_of_web hu.scheme, hquery, hfragment, hu.readPath_rooted]
  rfl

/-- All characters of the text are shown, and none in the authority ends it. -/
theorem text_shown (hu : u.Proper idna) {h : Host} {p : Nat} (hh : h.Proper idna)
    (hhost : u.host = some h)
    (hport : u.port = some p) :
    (∀ c ∈ u.text.toList, isShown c = true) ∧
      ∀ c ∈ u.userText.toList ++ hostPartText h p, endsAuthority true c = false := by
  have hauthority : ∀ c ∈ u.userText.toList ++ hostPartText h p, inAuthority c = true := by
    intro c hc
    rcases List.mem_append.1 hc with hc | hc
    · exact hu.userText_inAuthority c hc
    · exact (hostPartText_inAuthority hh p c hc).1
  have hscheme : u.scheme.toList.all isShown = true := by
    rcases hu.scheme with hscheme | hscheme <;> rw [hscheme] <;> decide
  constructor
  · intro c hc
    rw [toList_text hhost hport, List.mem_append, List.mem_cons, List.mem_cons, List.mem_cons,
      List.mem_append] at hc
    rcases hc with hc | rfl | rfl | rfl | hc | hc
    · exact List.all_eq_true.1 hscheme c hc
    · decide
    · decide
    · decide
    · exact (Bool.and_eq_true_iff.1 (hauthority c hc)).1
    · exact hu.tailText_shown c hc
  · intro c hc
    simpa using (Bool.and_eq_true_iff.1 (hauthority c hc)).2

/-- A URL whose parts are in their forms is read back from its text. -/
theorem read_text (hu : u.Proper idna) : Url.read idna u.text = .ok u.rooted := by
  obtain ⟨h, hhost, hh⟩ := hu.host
  obtain ⟨p, hle, hport, himplied⟩ := hu.port
  obtain ⟨hshown, hends⟩ := hu.text_shown hh hhost hport
  have hscheme : takeScheme? (significant u.text.toList) = some (u.scheme.toList,
      '/' :: '/' :: ((u.userText.toList ++ hostPartText h p) ++ u.tailText)) := by
    rw [significant_of_shown hshown, toList_text hhost hport, takeScheme?_append hu.scheme]
  have hne : u.userText.toList ++ hostPartText h p ≠ [] :=
    List.append_ne_nil_of_right_ne_nil _ (hostPartText_ne_nil h p)
  have hat : '@' ∉ hostPartText h p := fun hc => (hostPartText_inAuthority hh p _ hc).2 rfl
  obtain ⟨hfront, hafter⟩ := authorityOf_append hends hu.tailText_head
  have hdrop := dropWhile_slashes ['/', '/'] (by simp) hne hends u.tailText
  rw [List.cons_append, List.cons_append, List.nil_append] at hdrop
  rw [read_of_scheme hu.scheme hscheme, hdrop,
    readAuthority_eq_ok_iff (isSpecial_of_web hu.scheme), hfront, hafter]
  refine ⟨u.user, u.password, hostPartText h p, h, some p, ?_, ?_, ?_, hh.isEmpty_eq_false, ?_, ?_⟩
  · exact readUser_text hu.user hu.password hat (hostPartText_ne_nil h p) _
  · rw [hostPartText, hh.takeHost_text]
    exact hh.text_ne_nil
  · rw [hostPartText, hh.takeHost_text]
    exact hh.read_text
  · rw [hostPartText, hh.takeHost_text]
    rw [List.drop_one, List.tail_cons, readPort_repr _ hle, if_neg himplied]
  · simp only [hu.cutAt_tailText.1, hu.cutAt_tailText.2]
    rw [← hu.withTail_rooted, ← hhost, ← hport]
    rfl

end Proper

end SapMonitor.Url
