import SapMonitor.Proofs.Markup.Written

/-!
# Escaped texts

A text is escaped character by character: most characters may stand for themselves, and
every character may be written as a reference that stands for it.  However this is done,
resolving the references gives the text back.

Main results:

- `Escaped.resolve`: an escaped text stands for the text.
- `escaped_escape`: the way in which values are escaped is one of the ways to escape.
- `strip_escape`: escaping a value and stripping it can change places.
- `Node.textOf_escape` and `Node.textOf_of_escaped`: what an escaped text is read as.
-/

namespace SapMonitor.Markup

/-! ## Ways to escape a text -/

/-- A body of a reference that stands for the character. -/
structure RefersTo (body : List Char) (c : Char) : Prop where
  plain : '&' ∉ body ∧ ';' ∉ body ∧ '<' ∉ body
  means : ∀ start stop, referenced start stop body = .ok c

/-- A text and a way to write it. -/
inductive Escaped : List Char → List Char → Prop
  | nil : Escaped [] []
  /-- A character stands for itself. -/
  | plain {c : Char} {cs raw : List Char} (hamp : c ≠ '&') (hopen : c ≠ '<')
      (h : Escaped cs raw) : Escaped (c :: cs) (c :: raw)
  /-- A reference stands for a character. -/
  | reference {c : Char} {body cs raw : List Char} (hbody : RefersTo body c)
      (h : Escaped cs raw) : Escaped (c :: cs) ('&' :: (body ++ ';' :: raw))

/-- A reference is resolved when its semicolon is met. -/
theorem resolveFrom_reference {total start : Nat} {c : Char} {body : List Char} (rest seen)
    (hplain : '&' ∉ body ∧ ';' ∉ body)
    (hmeans : ∀ stop, referenced start stop (seen.reverse ++ body) = .ok c) (here : Nat) :
    ∃ later, resolveFrom total here (some (start, seen)) (body ++ ';' :: rest) =
      (resolveFrom total later none rest).map (c :: ·) := by
  induction body generalizing seen here with
  | nil =>
    rw [List.append_nil] at hmeans
    refine ⟨here + 1, ?_⟩
    simp [resolveFrom, hmeans here]
  | cons d body ih =>
    simp only [List.mem_cons, not_or] at hplain
    obtain ⟨⟨hamp, hamps⟩, hsemicolon, hsemicolons⟩ := hplain
    obtain ⟨later, hlater⟩ := ih (d :: seen) ⟨hamps, hsemicolons⟩
      (by simpa using hmeans) (here + d.utf8Size)
    refine ⟨later, ?_⟩
    rw [List.cons_append, resolveFrom, if_neg (Ne.symm hamp), if_neg (Ne.symm hsemicolon)]
    exact hlater

namespace Escaped

variable {cs raw : List Char}

/-- An escaped text stands for the text. -/
theorem resolve (h : Escaped cs raw) : resolve raw = .ok cs := by
  have hfrom : ∀ total here, resolveFrom total here none raw = .ok cs := by
    intro total
    induction h with
    | nil =>
      intro here
      rfl
    | @plain c cs raw hamp hopen h ih =>
      intro here
      rw [resolveFrom, if_neg hamp, ih]
      rfl
    | @reference c body cs raw hbody h ih =>
      intro here
      obtain ⟨later, hlater⟩ :
          ∃ later, resolveFrom total (here + 1) (some (here, [])) (body ++ ';' :: raw) =
            (resolveFrom total later none raw).map (c :: ·) :=
        resolveFrom_reference raw [] ⟨hbody.plain.1, hbody.plain.2.1⟩ (hbody.means here) _
      rw [resolveFrom, if_pos rfl, hlater, ih]
      rfl
  exact hfrom _ _

/-- An escaped text opens no tag. -/
theorem not_mem (h : Escaped cs raw) : '<' ∉ raw := by
  induction h with
  | nil => simp
  | plain hamp hopen h ih => simp [ih, Ne.symm hopen]
  | reference hbody h ih => simp [ih, hbody.plain.2.2]

/-- Two escaped texts one after the other are an escaped text. -/
theorem append {cs' raw' : List Char} (h : Escaped cs raw) (h' : Escaped cs' raw') :
    Escaped (cs ++ cs') (raw ++ raw') := by
  induction h with
  | nil => exact h'
  | plain hamp hopen h ih => exact .plain hamp hopen ih
  | reference hbody h ih =>
    rw [List.cons_append, List.cons_append, List.append_assoc, List.cons_append]
    exact .reference hbody ih

/-- Escaping puts no white space at the ends of a text. -/
theorem strip_eq (h : Escaped cs raw) (hhead : cs.head?.all (!isGap ·) = true)
    (hlast : cs.getLast?.all (!isGap ·) = true) : Text.strip isGap raw = raw := by
  have hfront : raw.head?.all (!isGap ·) = true := by
    cases h with
    | nil => rfl
    | plain hamp hopen h => exact hhead
    | reference hbody h => rfl
  have hback : raw.getLast?.all (!isGap ·) = true := by
    clear hhead hfront
    induction h with
    | nil => rfl
    | plain hamp hopen h ih =>
      cases h with
      | nil => exact hlast
      | plain _ _ _ => exact ih (by simpa [List.getLast?_cons] using hlast)
      | reference _ _ => exact ih (by simpa [List.getLast?_cons] using hlast)
    | reference hbody h ih =>
      rw [← List.cons_append, List.getLast?_append, List.getLast?_cons]
      cases h with
      | nil => rfl
      | plain _ _ _ => exact ih (by simpa [List.getLast?_cons] using hlast)
      | reference _ _ => exact ih (by simpa [List.getLast?_cons] using hlast)
  exact Text.strip_of_ends hfront hback

end Escaped

/-! ## The way that values are escaped -/

/-- The three characters that are escaped have references, and the others need none. -/
theorem escaped_escapeChar (c : Char) : Escaped [c] (escapeChar c) := by
  have hreference (body : List Char) {c : Char}
      (hplain : '&' ∉ body ∧ ';' ∉ body ∧ '<' ∉ body)
      (hmeans : ∀ start stop, referenced start stop body = .ok c) :
      Escaped [c] ('&' :: (body ++ [';'])) :=
    .reference ⟨hplain, hmeans⟩ .nil
  unfold escapeChar
  split
  · rename_i h
    subst h
    exact hreference ['a', 'm', 'p'] (by decide) fun _ _ => rfl
  · rename_i hamp
    split
    · rename_i h
      subst h
      exact hreference ['l', 't'] (by decide) fun _ _ => rfl
    · rename_i hopen
      split
      · rename_i h
        subst h
        exact hreference ['g', 't'] (by decide) fun _ _ => rfl
      · exact .plain hamp hopen .nil

/-- The way in which values are escaped is one of the ways to escape. -/
theorem escaped_escape (cs : List Char) : Escaped cs (escape cs) := by
  induction cs with
  | nil => exact .nil
  | cons c cs ih => exact (escaped_escapeChar c).append ih

/-- A class can be dropped before or after every character is written out, if what is in
the class stands for itself and anything else is written with a first character outside
of it. -/
theorem dropWhile_flatMap {p : Char → Bool} {write : Char → List Char}
    (hin : ∀ c, p c = true → write c = [c])
    (hout : ∀ c, p c = false → (write c).head?.any (!p ·) = true) (cs : List Char) :
    (cs.flatMap write).dropWhile p = (cs.dropWhile p).flatMap write := by
  induction cs with
  | nil => rfl
  | cons c cs ih =>
    cases hc : p c with
    | true => simp [hin c hc, hc, ih]
    | false =>
      have hfirst := hout c hc
      cases hw : write c with
      | nil => simp [hw] at hfirst
      | cons d ds =>
        have hd : p d = false := by simpa [hw] using hfirst
        simp [hw, hc, hd]

/-- White space stands for itself. -/
theorem escapeChar_of_gap {c : Char} (h : isGap c = true) : escapeChar c = [c] := by
  have hne : c ≠ '&' ∧ c ≠ '<' ∧ c ≠ '>' := by
    refine ⟨?_, ?_, ?_⟩ <;> rintro rfl <;> exact absurd h (by decide)
  simp [escapeChar, hne]

/-- Anything else is written without white space at its ends. -/
theorem escapeChar_of_not_gap {c : Char} (h : isGap c = false) :
    (escapeChar c).head?.any (!isGap ·) = true ∧
      (escapeChar c).reverse.head?.any (!isGap ·) = true := by
  unfold escapeChar
  split
  · decide
  · split
    · decide
    · split
      · decide
      · simp [h]

/-- A value can be stripped before or after it is escaped. -/
theorem strip_escape (cs : List Char) :
    Text.strip isGap (escape cs) = escape (Text.strip isGap cs) := by
  have hfront (cs : List Char) : (escape cs).dropWhile isGap = escape (cs.dropWhile isGap) :=
    dropWhile_flatMap (fun _ h => escapeChar_of_gap h) (fun _ h => (escapeChar_of_not_gap h).1) cs
  have hreverse (cs : List Char) :
      (escape cs).reverse = cs.reverse.flatMap fun c => (escapeChar c).reverse := by
    rw [escape, List.reverse_flatMap]
    rfl
  have hback (cs : List Char) : ((escape cs).reverse.dropWhile isGap).reverse =
      escape (cs.reverse.dropWhile isGap).reverse := by
    rw [hreverse, dropWhile_flatMap (fun c h => by rw [escapeChar_of_gap h]; rfl)
      fun _ h => (escapeChar_of_not_gap h).2]
    rw [← List.reverse_inj, hreverse, List.reverse_reverse, List.reverse_reverse]
  rw [Text.strip, Text.strip, hfront]
  exact hback _

/-! ## What an escaped text is read as -/

namespace Node

/-- An escaped value can be read. -/
theorem readable_escape (cs : List Char) : Readable (escape cs) :=
  ⟨(escaped_escape cs).not_mem, _, by rw [strip_escape]; exact (escaped_escape _).resolve⟩

/-- It stands for the value without the white space at its ends. -/
theorem textOf_escape (cs : List Char) : textOf (escape cs) = Text.strip isGap cs := by
  rw [textOf, strip_escape, (escaped_escape _).resolve]

/-- An escaped text without white space at its ends stands for the text. -/
theorem textOf_of_escaped {cs raw : List Char} (h : Escaped cs raw)
    (hhead : cs.head?.all (!isGap ·) = true) (hlast : cs.getLast?.all (!isGap ·) = true) :
    textOf raw = cs := by
  rw [textOf, h.strip_eq hhead hlast, h.resolve]

end Node

end SapMonitor.Markup
