import Mathlib.Tactic.SplitIfs
import SapMonitor.LogStore.Labels

/-!
# Keys of streams

The key of a stream is the text of its labels.  If no label name has a sign of equality in
it, the labels can be read off their text: a name ends at the first sign of equality, and a
value in quotes shows where it ends, since the written form of one character never begins
that of another.  So two label sets have one key only if they are the same.

Main results:

- `Text.escapeChar_append_inj`: written characters can be told apart, whatever follows.
- `Text.quoted_append_inj`: a text in quotes shows where it ends.
- `LabelSet.text_eq_iff`: sets of plain labels have one text exactly if they are the same.
- `LabelSet.eq_iff_find?_eq`: label sets are the same exactly if they say the same of every
  name.
-/

namespace SapMonitor.Text

/-- A text can be split in one way only before the first of some mark. -/
theorem append_cons_inj {α : Type} {a : α} {xs us ys vs : List α} (hxs : a ∉ xs) (hus : a ∉ us)
    (h : xs ++ a :: ys = us ++ a :: vs) : xs = us ∧ ys = vs := by
  induction xs generalizing us with
  | nil =>
    cases us with
    | nil => simpa using h
    | cons u us =>
      rw [List.mem_cons, not_or] at hus
      exact absurd (List.cons.inj h).1 hus.1
  | cons x xs ih =>
    rw [List.mem_cons, not_or] at hxs
    cases us with
    | nil => exact absurd (List.cons.inj h).1.symm hxs.1
    | cons u us =>
      rw [List.mem_cons, not_or] at hus
      obtain ⟨rfl, hrest⟩ := List.cons.inj h
      obtain ⟨rfl, hys⟩ := ih hxs.2 hus.2 hrest
      exact ⟨rfl, hys⟩

/-! ## Digits -/

/-- A digit in base sixteen is no brace. -/
theorem brace_not_mem_hexDigits (n : Nat) : '\x7d' ∉ hexDigits n := by
  unfold hexDigits
  induction n using Nat.strongRecOn with
  | _ n ih =>
    have hdigit : ∀ d < 16, '\x7d' ≠ d.digitChar := by decide
    rw [Nat.toDigits_eq_if (by decide)]
    split
    · rename_i hlt
      rw [List.mem_singleton]
      exact hdigit n hlt
    · have hrest := ih (n / 16) (Nat.div_lt_self (by omega) (by decide))
      have hlast := hdigit (n % 16) (Nat.mod_lt _ (by decide))
      simp [hrest, hlast]

/-- Numbers with the same digits are the same. -/
theorem hexDigits_inj {n m : Nat} (h : hexDigits n = hexDigits m) : n = m := by
  have hdigit : ∀ d < 16, ∀ e < 16, d.digitChar = e.digitChar → d = e := by decide
  unfold hexDigits at h
  induction n using Nat.strongRecOn generalizing m with
  | _ n ih =>
    rw [Nat.toDigits_eq_if (n := n) (by decide), Nat.toDigits_eq_if (n := m) (by decide)] at h
    split at h
    · rename_i hn
      split at h
      · rename_i hm
        exact hdigit n hn m hm (by simpa using h)
      · have hlength := congrArg List.length h
        simp [Nat.toDigits_ne_nil] at hlength
    · rename_i hn
      split at h
      · have hlength := congrArg List.length h
        simp [Nat.toDigits_ne_nil] at hlength
      · obtain ⟨hrest, hlast⟩ := List.append_inj' h rfl
        have hdiv := ih (n / 16) (Nat.div_lt_self (by omega) (by decide)) hrest
        have hmod := hdigit _ (Nat.mod_lt n (by decide)) _ (Nat.mod_lt m (by decide))
          (by simpa using hlast)
        omega

/-! ## Written characters -/

/-- What a letter after a backslash stands for. -/
def shorthand? (l : Char) : Option Char :=
  if l = '"' then some '"'
  else if l = '\\' then some '\\'
  else if l = 'n' then some '\n'
  else if l = 'r' then some '\r'
  else if l = 't' then some '\t'
  else if l = '0' then some '\x00'
  else none

/-- A character is written as itself, as a letter after a backslash, or by its code point. -/
theorem escapeChar_cases (c : Char) :
    (escapeChar c = [c] ∧ c ≠ '\\') ∨
      (∃ l, escapeChar c = ['\\', l] ∧ shorthand? l = some c) ∨
      escapeChar c = '\\' :: 'u' :: '\x7b' :: (hexDigits c.toNat ++ ['\x7d']) := by
  unfold escapeChar
  split_ifs with hquote hbackslash hbreak hreturn htab hnull hshown
  · exact .inr (.inl ⟨_, rfl, by rw [hquote]; rfl⟩)
  · exact .inr (.inl ⟨_, rfl, by rw [hbackslash]; rfl⟩)
  · exact .inr (.inl ⟨_, rfl, by rw [hbreak]; rfl⟩)
  · exact .inr (.inl ⟨_, rfl, by rw [hreturn]; rfl⟩)
  · exact .inr (.inl ⟨_, rfl, by rw [htab]; rfl⟩)
  · exact .inr (.inl ⟨_, rfl, by rw [hnull]; rfl⟩)
  · exact .inl ⟨rfl, hbackslash⟩
  · exact .inr (.inr rfl)

/-- Written characters can be told apart, whatever follows. -/
theorem escapeChar_append_inj {c d : Char} {x y : List Char}
    (h : escapeChar c ++ x = escapeChar d ++ y) : c = d ∧ x = y := by
  rcases escapeChar_cases c with ⟨hc, hne⟩ | ⟨l, hc, hl⟩ | hc
  · rcases escapeChar_cases d with ⟨hd, -⟩ | ⟨m, hd, -⟩ | hd
    · rw [hc, hd] at h
      simpa using h
    · rw [hc, hd] at h
      exact absurd (List.cons.inj h).1 hne
    · rw [hc, hd] at h
      exact absurd (List.cons.inj h).1 hne
  · rcases escapeChar_cases d with ⟨hd, hne⟩ | ⟨m, hd, hm⟩ | hd
    · rw [hc, hd] at h
      exact absurd (List.cons.inj h).1.symm hne
    · rw [hc, hd] at h
      obtain ⟨rfl, hxy⟩ : l = m ∧ x = y := by simpa using h
      rw [hl, Option.some.injEq] at hm
      exact ⟨hm, hxy⟩
    · rw [hc, hd] at h
      obtain ⟨rfl, -⟩ : l = 'u' ∧ _ := by simpa using h
      cases hl
  · rcases escapeChar_cases d with ⟨hd, hne⟩ | ⟨m, hd, hm⟩ | hd
    · rw [hc, hd] at h
      exact absurd (List.cons.inj h).1.symm hne
    · rw [hc, hd] at h
      obtain ⟨rfl, -⟩ : 'u' = m ∧ _ := by simpa using h
      cases hm
    · rw [hc, hd] at h
      simp only [List.cons_append, List.cons.injEq, true_and, List.append_assoc,
        List.nil_append] at h
      obtain ⟨hdigits, hxy⟩ :=
        append_cons_inj (brace_not_mem_hexDigits _) (brace_not_mem_hexDigits _) h
      exact ⟨Char.toNat_inj.1 (hexDigits_inj hdigits), hxy⟩

/-! ## Texts in quotes -/

/-- A quote ends a written text, since no written character begins with one. -/
theorem escaped_append_inj {cs ds x y : List Char}
    (h : cs.flatMap escapeChar ++ '"' :: x = ds.flatMap escapeChar ++ '"' :: y) :
    cs = ds ∧ x = y := by
  have hfirst (c : Char) (z w : List Char) : escapeChar c ++ z ≠ '"' :: w := by
    intro hquote
    cases hc : escapeChar c with
    | nil => exact escapeChar_ne_nil c hc
    | cons d rest =>
      rw [hc] at hquote
      exact escapeChar_quote c (by rw [hc, List.head?_cons, (List.cons.inj hquote).1])
  induction cs generalizing ds with
  | nil =>
    cases ds with
    | nil => simpa using h
    | cons d ds =>
      rw [List.flatMap_nil, List.nil_append, List.flatMap_cons, List.append_assoc] at h
      exact absurd h.symm (hfirst _ _ _)
  | cons c cs ih =>
    cases ds with
    | nil =>
      rw [List.flatMap_nil, List.nil_append, List.flatMap_cons, List.append_assoc] at h
      exact absurd h (hfirst _ _ _)
    | cons d ds =>
      rw [List.flatMap_cons, List.flatMap_cons, List.append_assoc, List.append_assoc] at h
      obtain ⟨rfl, hrest⟩ := escapeChar_append_inj h
      obtain ⟨rfl, hxy⟩ := ih hrest
      exact ⟨rfl, hxy⟩

/-- A text in quotes shows where it ends. -/
theorem quoted_append_inj {s t : String} {x y : List Char}
    (h : (quote s).toList ++ x = (quote t).toList ++ y) : s = t ∧ x = y := by
  simp only [quote, String.toList_ofList, List.cons_append, List.append_assoc, List.nil_append,
    List.cons.injEq, true_and] at h
  obtain ⟨hst, hxy⟩ := escaped_append_inj h
  exact ⟨String.toList_inj.1 hst, hxy⟩

end SapMonitor.Text

namespace SapMonitor.LogStore

/-! ## Label sets -/

/-- Labels whose names have no sign of equality in them. -/
def LabelSet.Plain (s : LabelSet) : Prop :=
  ∀ p ∈ s.pairs, '=' ∉ p.1.toList

instance (s : LabelSet) : Decidable s.Plain := by
  unfold LabelSet.Plain
  infer_instance

/-- A plain label shows where it ends. -/
theorem labelText_append_inj {p q : String × String} (hp : '=' ∉ p.1.toList)
    (hq : '=' ∉ q.1.toList) {x y : List Char}
    (h : (LabelSet.labelText p).toList ++ x = (LabelSet.labelText q).toList ++ y) :
    p = q ∧ x = y := by
  have hsign : "=".toList = ['='] := by decide
  simp only [LabelSet.labelText, String.toList_append, hsign, List.append_assoc,
    List.cons_append, List.nil_append] at h
  obtain ⟨hname, hvalue⟩ := Text.append_cons_inj hp hq h
  obtain ⟨hvalue, hxy⟩ := Text.quoted_append_inj hvalue
  exact ⟨Prod.ext (String.toList_inj.1 hname) hvalue, hxy⟩

/-- The labels of a set and the brace after them, with a comma between neighbours. -/
theorem toList_joinWith_cons (p : String × String) (ps : List (String × String)) :
    (Text.joinWith "," ((p :: ps).map LabelSet.labelText)).toList ++ ['\x7d'] =
      (LabelSet.labelText p).toList ++
        match ps with
        | [] => ['\x7d']
        | _ :: _ => ',' :: ((Text.joinWith "," (ps.map LabelSet.labelText)).toList ++
            ['\x7d']) := by
  have hcomma : ",".toList = [','] := by decide
  cases ps with
  | nil => rfl
  | cons q ps =>
    simp only [List.map_cons, Text.joinWith, String.toList_append, hcomma, List.append_assoc,
      List.cons_append, List.nil_append]

/-- Plain labels can be read off their text. -/
theorem pairs_eq_of_joined_eq {ps qs : List (String × String)} (hps : ∀ p ∈ ps, '=' ∉ p.1.toList)
    (hqs : ∀ q ∈ qs, '=' ∉ q.1.toList)
    (h : (Text.joinWith "," (ps.map LabelSet.labelText)).toList ++ ['\x7d'] =
      (Text.joinWith "," (qs.map LabelSet.labelText)).toList ++ ['\x7d']) : ps = qs := by
  -- A label has a sign of equality, and the brace after no labels is none.
  have hnone (p : String × String) (x : List Char) :
      ['\x7d'] ≠ (LabelSet.labelText p).toList ++ x := by
    intro hbrace
    have hsign : '=' ∈ ['\x7d'] := by
      rw [hbrace]
      simp [LabelSet.labelText]
    exact absurd hsign (by decide)
  induction ps generalizing qs with
  | nil =>
    cases qs with
    | nil => rfl
    | cons q qs =>
      rw [toList_joinWith_cons] at h
      exact absurd h (hnone _ _)
  | cons p ps ih =>
    cases qs with
    | nil =>
      rw [toList_joinWith_cons] at h
      exact absurd h.symm (hnone _ _)
    | cons q qs =>
      rw [toList_joinWith_cons, toList_joinWith_cons] at h
      rw [List.forall_mem_cons] at hps hqs
      obtain ⟨rfl, hrest⟩ := labelText_append_inj hps.1 hqs.1 h
      have htails : ps = qs := by
        cases ps with
        | nil =>
          cases qs with
          | nil => rfl
          | cons q' qs => exact absurd (List.cons.inj hrest).1 (by decide)
        | cons p' ps =>
          cases qs with
          | nil => exact absurd (List.cons.inj hrest).1 (by decide)
          | cons q' qs => exact ih hps.2 hqs.2 (List.cons.inj hrest).2
      rw [htails]

/-- A label set is its labels. -/
theorem LabelSet.eq_of_pairs_eq {s t : LabelSet} (h : s.pairs = t.pairs) : s = t := by
  cases s
  cases t
  cases h
  rfl

/-- Sets of plain labels with one text are the same. -/
theorem LabelSet.eq_of_text_eq {s t : LabelSet} (hs : s.Plain) (ht : t.Plain)
    (h : s.text = t.text) : s = t := by
  have hchars := congrArg String.toList h
  simp only [LabelSet.text, String.toList_append, List.append_assoc] at hchars
  exact LabelSet.eq_of_pairs_eq (pairs_eq_of_joined_eq hs ht (List.append_cancel_left hchars))

/-- Plain labels have one text exactly if they are the same. -/
theorem LabelSet.text_eq_iff {s t : LabelSet} (hs : s.Plain) (ht : t.Plain) :
    s.text = t.text ↔ s = t := by
  constructor
  · intro h
    exact LabelSet.eq_of_text_eq hs ht h
  · intro h
    rw [h]

/-! ## Label sets as maps -/

/-- The labels of a set are what is found in it. -/
theorem LabelSet.mem_pairs_iff {s : LabelSet} {l : String × String} :
    l ∈ s.pairs ↔ s.find? l.1 = some l.2 := by
  rw [LabelSet.find?, List.lookup_eq_some_iff]
  constructor
  · intro hl
    obtain ⟨before, after, hsplit⟩ := List.append_of_mem hl
    refine ⟨before, after, hsplit, ?_⟩
    intro p hp
    have hascending := s.ascending
    rw [hsplit, List.pairwise_append] at hascending
    have hlt : p.1 < l.1 := hascending.2.2 p hp l (List.mem_cons_self ..)
    exact bne_iff_ne.2 (String.ne_of_lt hlt).symm
  · intro hfound
    obtain ⟨before, after, hsplit, -⟩ := hfound
    rw [hsplit]
    exact List.mem_append_right _ (List.mem_cons_self ..)

/-- Label sets are the same exactly if they say the same of every name. -/
theorem LabelSet.eq_iff_find?_eq {s t : LabelSet} :
    s = t ↔ ∀ name, s.find? name = t.find? name := by
  constructor
  · intro h name
    rw [h]
  · intro h
    have hnodup (u : LabelSet) : u.pairs.Nodup :=
      u.ascending.imp fun hlt heq => String.ne_of_lt hlt (congrArg Prod.fst heq)
    have hperm : s.pairs.Perm t.pairs := by
      rw [List.perm_ext_iff_of_nodup (hnodup s) (hnodup t)]
      intro l
      rw [mem_pairs_iff, mem_pairs_iff, h]
    -- Two ascending orders of the same labels are one.
    apply LabelSet.eq_of_pairs_eq
    exact hperm.eq_of_pairwise
      (fun _ _ _ _ hab hba => (String.lt_irrefl _ (String.lt_trans hab hba)).elim)
      s.ascending t.ascending

end SapMonitor.LogStore
