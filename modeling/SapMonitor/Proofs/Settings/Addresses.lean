import Mathlib.Data.List.DropRight
import SapMonitor.Proofs.Url.Rereading
import SapMonitor.Settings.Validate

/-!
# The address of the service

The validated address is the text of a URL without the slashes at its end.  These belong to the
last part of the URL, so that the rest of it is read back.

Main results:

- `scheme_of_withScheme`: every address gets a scheme of the web.
- `Url.Proper.text_trimmed`: without its last slashes the text is the text of a URL again.
- `Url.Proper.read_dropSlashes`: what is read back from it.
-/

namespace SapMonitor

open Settings (dropSlashes withScheme)

/-! ## The scheme -/

/-- Every address gets a scheme of the web. -/
theorem scheme_of_withScheme (raw : String) :
    ∃ scheme rest, (scheme = "http" ∨ scheme = "https") ∧
      (withScheme raw).toList = scheme.toList ++ ':' :: '/' :: '/' :: rest := by
  unfold withScheme
  split
  · rename_i hprefix
    rcases Bool.or_eq_true_iff.1 hprefix with h | h
    · obtain ⟨rest, hrest⟩ := List.isPrefixOf_iff_prefix.1 h
      exact ⟨"http", rest, .inl rfl, hrest.symm⟩
    · obtain ⟨rest, hrest⟩ := List.isPrefixOf_iff_prefix.1 h
      exact ⟨"https", rest, .inr rfl, hrest.symm⟩
  · exact ⟨"http", raw.toList, .inl rfl, by rw [String.toList_append]; rfl⟩

/-- The parts of the URL that an address writes are in their forms. -/
theorem proper_of_withScheme {idna : Url.Idna} {raw : String} {u : Url}
    (h : Url.read idna (withScheme raw) = .ok u) {p : Nat} (hport : u.port = some p) :
    u.Proper idna := by
  obtain ⟨scheme, rest, hscheme, hraw⟩ := scheme_of_withScheme raw
  obtain ⟨rest', hrest⟩ := Url.significant_append hscheme ('/' :: '/' :: rest)
  have htake : Url.takeScheme? (Url.significant (withScheme raw).toList) =
      some (scheme.toList, rest') := by
    rw [hraw, hrest, Url.takeScheme?_append hscheme]
  exact Url.proper_of_read hscheme htake h hport

theorem withScheme_of_scheme {s scheme : String} {rest : List Char}
    (hscheme : scheme = "http" ∨ scheme = "https")
    (h : s.toList = scheme.toList ++ ':' :: '/' :: '/' :: rest) : withScheme s = s := by
  unfold withScheme
  rw [if_pos]
  rw [Bool.or_eq_true_iff, List.isPrefixOf_iff_prefix, List.isPrefixOf_iff_prefix]
  rcases hscheme with rfl | rfl
  · exact .inl ⟨rest, h.symm⟩
  · exact .inr ⟨rest, h.symm⟩

/-! ## The slashes at the end -/

theorem toList_dropSlashes (s : String) :
    (dropSlashes s).toList = Text.dropTrailing (· = '/') s.toList := by
  rw [dropSlashes, String.toList_ofList]

theorem mem_dropSlashes {s : String} {c : Char} (h : c ∈ (dropSlashes s).toList) :
    c ∈ s.toList := by
  rw [toList_dropSlashes, Text.dropTrailing, List.mem_reverse] at h
  exact List.mem_reverse.1 ((List.dropWhile_sublist _).subset h)

/-- Slashes are dropped all at once. -/
theorem dropSlashes_dropSlashes (s : String) : dropSlashes (dropSlashes s) = dropSlashes s := by
  rw [dropSlashes, toList_dropSlashes, Text.dropTrailing, Text.dropTrailing, List.reverse_reverse,
    List.dropWhile_idempotent]
  rfl

namespace Url

/-- The URL without slashes at the end of its last part. -/
def trimmed (u : Url) : Url :=
  match u.fragment, u.query with
  | some f, _ => { u with fragment := some (dropSlashes f) }
  | none, some q => { u with query := some (dropSlashes q) }
  | none, none => { u with path := dropSlashes u.path }

theorem trimmed_fragment {u : Url} {f : String} (h : u.fragment = some f) :
    u.trimmed = { u with fragment := some (dropSlashes f) } := by
  simp [trimmed, h]

theorem trimmed_query {u : Url} {q : String} (hf : u.fragment = none) (h : u.query = some q) :
    u.trimmed = { u with query := some (dropSlashes q) } := by
  simp [trimmed, hf, h]

theorem trimmed_path {u : Url} (hf : u.fragment = none) (hq : u.query = none) :
    u.trimmed = { u with path := dropSlashes u.path } := by
  simp [trimmed, hf, hq]

/-- The parts before the path stay as they are. -/
theorem trimmed_authority (u : Url) :
    u.trimmed.scheme = u.scheme ∧ u.trimmed.user = u.user ∧ u.trimmed.password = u.password ∧
      u.trimmed.host = u.host ∧ u.trimmed.port = u.port := by
  unfold trimmed
  split <;> simp

/-- The slashes at the end belong to what follows the port. -/
theorem tailText_trimmed (u : Url) :
    u.trimmed.tailText = Text.dropTrailing (· = '/') u.tailText := by
  have hsign : decide ('#' = '/') = false ∧ decide ('?' = '/') = false := by decide
  cases hfragment : u.fragment with
  | some f =>
    rw [trimmed_fragment hfragment]
    simp only [tailText, hfragment, signed_some]
    rw [dropTrailing_append hsign.1, toList_dropSlashes]
  | none =>
    cases hquery : u.query with
    | some q =>
      rw [trimmed_query hfragment hquery]
      simp only [tailText, hfragment, hquery, signed_some, signed_none, List.append_nil]
      rw [dropTrailing_append hsign.2, toList_dropSlashes]
    | none =>
      rw [trimmed_path hfragment hquery]
      simp only [tailText, hfragment, hquery, signed_none, List.append_nil]
      rw [toList_dropSlashes]

namespace Proper

variable {idna : Idna} {u : Url}

/-- Trimmed parts keep their forms. -/
theorem trimmed (hu : u.Proper idna) : u.trimmed.Proper idna := by
  cases hfragment : u.fragment with
  | some f =>
    rw [trimmed_fragment hfragment]
    refine { hu with path := ?_, fragment := ?_ }
    · exact hu.path.imp_right fun h => absurd (hfragment.symm.trans h.2.2) (by simp)
    · rintro f' hf' c hc
      obtain rfl := Option.some.inj hf'
      exact hu.fragment f hfragment c (mem_dropSlashes hc)
  | none =>
    cases hquery : u.query with
    | some q =>
      rw [trimmed_query hfragment hquery]
      refine { hu with path := ?_, query := ?_ }
      · exact hu.path.imp_right fun h => absurd (hquery.symm.trans h.2.1) (by simp)
      · rintro q' hq' c hc
        obtain rfl := Option.some.inj hq'
        exact hu.query q hquery c (mem_dropSlashes hc)
    | none =>
      rw [trimmed_path hfragment hquery]
      refine { hu with path := ?_ }
      rcases hu.path with hpath | ⟨hpath, -, -⟩
      · rcases isPath_dropTrailing hpath with hnil | hkept
        · refine .inr ⟨?_, hquery, hfragment⟩
          show dropSlashes u.path = ""
          simp [dropSlashes, hnil]
        · refine .inl ?_
          show IsPath (dropSlashes u.path).toList
          rw [toList_dropSlashes]
          exact hkept
      · refine .inr ⟨?_, hquery, hfragment⟩
        show dropSlashes u.path = ""
        simp [hpath, dropSlashes]

/-- The text before the path ends with a digit. -/
theorem toList_text_digit (hu : u.Proper idna) :
    ∃ front d, d ≠ '/' ∧ u.text.toList = front ++ d :: u.tailText ∧
      u.trimmed.text.toList = front ++ d :: u.trimmed.tailText := by
  obtain ⟨h, hhost, -⟩ := hu.host
  obtain ⟨p, -, hport, -⟩ := hu.port
  obtain ⟨hscheme, huser, hpassword, hhost', hport'⟩ := u.trimmed_authority
  have huserText : u.trimmed.userText = u.userText := by
    rw [userText, userText, huser, hpassword]
  obtain ⟨digits, d, hdigits⟩ : ∃ digits d, p.repr.toList = digits ++ [d] := by
    refine ⟨_, _, (List.dropLast_append_getLast ?_).symm⟩
    rw [Nat.toList_repr]
    exact Nat.toDigits_ne_nil
  have hd : d ≠ '/' := by
    have hdigit : Char.isDigit d = true := by
      apply Decimal.isDigit_of_mem_repr (n := p)
      rw [hdigits]
      exact List.mem_append_right _ List.mem_cons_self
    rintro rfl
    exact absurd hdigit (by decide)
  refine ⟨u.scheme.toList ++ ':' :: '/' :: '/' ::
    (u.userText.toList ++ (h.text.toList ++ ':' :: digits)), d, hd, ?_, ?_⟩
  · rw [toList_text hhost hport, hostPartText, hdigits]
    simp
  · rw [toList_text (hhost'.trans hhost) (hport'.trans hport), hostPartText, hdigits, hscheme,
      huserText]
    simp

/-- Without its last slashes the text is the text of the trimmed URL. -/
theorem text_trimmed (hu : u.Proper idna) : u.trimmed.text = dropSlashes u.text := by
  obtain ⟨front, d, hd, htext, htrimmed⟩ := hu.toList_text_digit
  apply String.toList_inj.1
  rw [htrimmed, toList_dropSlashes, htext, dropTrailing_append (by simpa using hd),
    tailText_trimmed]

/-- The slash of an empty path is one that is dropped. -/
theorem dropSlashes_rooted (hu : u.Proper idna) :
    dropSlashes u.rooted.text = dropSlashes u.text := by
  by_cases hempty : u.path = ""
  · obtain ⟨h, hhost, -⟩ := hu.host
    obtain ⟨p, -, hport, -⟩ := hu.port
    have hpath : ¬IsPath u.path.toList := by
      rw [hempty]
      exact fun h => h.ne_nil rfl
    obtain ⟨-, hquery, hfragment⟩ := hu.path.resolve_left hpath
    have htext : u.rooted.text = u.text ++ "/" := by
      simp [rooted, text, authorityText, userText, portText, hhost, hport, hempty, hquery,
        hfragment]
    have hslash : ∀ c ∈ ['/'], decide (c = '/') = true := by simp
    rw [htext, dropSlashes, String.toList_append, dropSlashes]
    exact congrArg String.ofList (Text.dropTrailing_append_of_all hslash)
  · have hsame : u.rooted = u := by simp [rooted, hempty]
    rw [hsame]

/-- A validated address is read back as its trimmed URL, and is trimmed once and for all. -/
theorem read_dropSlashes (hu : u.Proper idna) :
    Url.read idna (dropSlashes u.text) = .ok u.trimmed.rooted ∧
      dropSlashes u.trimmed.rooted.text = dropSlashes u.text := by
  constructor
  · rw [← hu.text_trimmed, hu.trimmed.read_text]
  · rw [hu.trimmed.dropSlashes_rooted, hu.text_trimmed, dropSlashes_dropSlashes]

/-- A validated address has its scheme already. -/
theorem withScheme_dropSlashes (hu : u.Proper idna) :
    withScheme (dropSlashes u.text) = dropSlashes u.text := by
  obtain ⟨h, hhost, -⟩ := hu.trimmed.host
  obtain ⟨p, -, hport, -⟩ := hu.trimmed.port
  rw [← hu.text_trimmed]
  exact withScheme_of_scheme hu.trimmed.scheme (toList_text hhost hport)

end Proper

end Url

end SapMonitor
