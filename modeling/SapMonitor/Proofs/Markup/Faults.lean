import SapMonitor.Proofs.Markup.Building

/-!
# Faulty documents

Reading stops at the first fault of a document.  Wherever the fault is, before, inside or
after the elements that a reader looks for, there is no tree then.

Main results:

- `Builder.addAll_eq_error`: the fold over the events of a document stops at one of them.
- `malformed_iff`: the documents with a fault are those that cannot be read, apart from the
  ones without an element.
-/

namespace SapMonitor.Markup

/-! ## Kinds of faults -/

/-- A document with a fault, wherever in it the fault is. -/
inductive Malformed (cs : List Char) : Prop
  /-- The markup is faulty: it is cut off, or an end tag does not match its start tag, or a
  declaration is none. -/
  | markup {cause : MarkupError} (hfault : (readEvents cs).2 = some cause)
  /-- An end tag stands outside of every element. -/
  | unopened {before after : List Event} {b : Builder}
      (hevents : (readEvents cs).1 = before ++ .stop :: after)
      (hbefore : Builder.empty.addAll before = .ok b) (houtside : b.frames = [])
  /-- A text inside an element has a reference that stands for nothing. -/
  | reference {before after : List Event} {raw : List Char} {b : Builder}
      {cause : ReferenceError} (hevents : (readEvents cs).1 = before ++ .text raw :: after)
      (hbefore : Builder.empty.addAll before = .ok b) (hinside : b.frames ≠ [])
      (hraw : resolve raw = .error cause)
  /-- The document ends inside an element. -/
  | unclosed {b : Builder} (hall : Builder.empty.addAll (readEvents cs).1 = .ok b)
      (hinside : b.frames ≠ [])

/-! ## Faults of the fold -/

namespace Builder

/-- The faults that an event can have are an end tag outside of every element and a bad
reference inside one. -/
theorem add_eq_error {b : Builder} {e : Event} {cause : DocumentError}
    (h : b.add e = .error cause) :
    (e = .stop ∧ b.frames = [] ∧ cause = .unopened) ∨
      ∃ raw reason, e = .text raw ∧ b.frames ≠ [] ∧ resolve raw = .error reason ∧
        cause = .markup (.reference reason) := by
  cases e with
  | start name => cases h
  | empty name => cases h
  | verbatim raw => cases h
  | stop =>
    cases hframes : b.frames with
    | nil =>
      rw [add, hframes] at h
      cases h
      exact .inl ⟨rfl, rfl, rfl⟩
    | cons f rest =>
      rw [add_stop_of_open hframes] at h
      cases h
  | text raw =>
    cases hframes : b.frames with
    | nil =>
      rw [add_text_outside hframes] at h
      cases h
    | cons f rest =>
      simp only [add, hframes] at h
      cases hraw : resolve raw with
      | ok cs =>
        rw [hraw] at h
        cases h
      | error reason =>
        rw [hraw] at h
        cases h
        exact .inr ⟨raw, reason, rfl, by simp, hraw, rfl⟩

/-- An end tag outside of every element cannot be taken. -/
theorem add_stop_outside {b : Builder} (h : b.frames = []) :
    b.add .stop = .error .unopened := by
  simp only [add, h]

/-- A bad reference inside an element cannot be taken. -/
theorem add_text_of_bad {b : Builder} (h : b.frames ≠ []) {raw : List Char}
    {reason : ReferenceError} (hraw : resolve raw = .error reason) :
    b.add (.text raw) = .error (.markup (.reference reason)) := by
  cases hframes : b.frames with
  | nil => exact absurd hframes h
  | cons f rest => simp only [add, hframes, hraw]

/-- The first event that cannot be taken stops the fold. -/
theorem addAll_eq_error {b : Builder} {es : List Event} {cause : DocumentError}
    (h : b.addAll es = .error cause) :
    ∃ before e after b', es = before ++ e :: after ∧ b.addAll before = .ok b' ∧
      b'.add e = .error cause := by
  induction es generalizing b with
  | nil => cases h
  | cons e es ih =>
    rw [addAll] at h
    cases hadd : b.add e with
    | error c =>
      rw [hadd] at h
      cases h
      exact ⟨[], e, es, b, rfl, rfl, hadd⟩
    | ok next =>
      rw [hadd] at h
      obtain ⟨before, e', after, b', rfl, hbefore, hfault⟩ := ih h
      refine ⟨e :: before, e', after, b', rfl, ?_, hfault⟩
      rw [addAll, hadd]
      exact hbefore

/-- An event that cannot be taken stops the fold at its place. -/
theorem addAll_of_fault {b b' : Builder} {before after : List Event} {e : Event}
    {cause : DocumentError} (hbefore : b.addAll before = .ok b') (hfault : b'.add e = .error cause) :
    b.addAll (before ++ e :: after) = .error cause := by
  rw [addAll_append, hbefore, Except.bind, addAll, hfault]

/-- A fold that fails does so for another reason than the lack of an element. -/
theorem addAll_ne_empty {b : Builder} {es : List Event} {cause : DocumentError}
    (h : b.addAll es = .error cause) : cause ≠ .empty := by
  obtain ⟨before, e, after, b', -, -, hfault⟩ := addAll_eq_error h
  rcases add_eq_error hfault with ⟨-, -, rfl⟩ | ⟨raw, reason, -, -, -, rfl⟩ <;> nofun

/-- A finished document has no open element. -/
theorem finish_of_open {b : Builder} (h : b.frames ≠ []) :
    ∃ name, b.finish = .error (.unclosed name) := by
  cases hframes : b.frames with
  | nil => exact absurd hframes h
  | cons f rest => exact ⟨f.name, by simp only [finish, hframes]⟩

/-- Outside of every element a document ends well, unless it has none. -/
theorem finish_of_closed {b : Builder} (h : b.frames = []) {cause : DocumentError}
    (hfinish : b.finish = .error cause) : cause = .empty := by
  cases hroot : b.root with
  | none =>
    simp only [finish, h, hroot] at hfinish
    cases hfinish
    rfl
  | some e =>
    simp only [finish, h, hroot] at hfinish
    cases hfinish

end Builder

/-! ## Documents -/

/-- A document is read by taking its events, looking for a fault of the markup, and closing
the fold. -/
theorem readDocument_eq (cs : List Char) :
    readDocument cs = (Builder.empty.addAll (readEvents cs).1).bind fun b =>
      match (readEvents cs).2 with
      | some cause => .error (.markup cause)
      | none => b.finish := by
  unfold readDocument
  cases h : Builder.empty.addAll (readEvents cs).1 with
  | error cause => simp only [h, Except.bind]
  | ok b =>
    cases hfault : (readEvents cs).2 with
    | none => simp only [h, hfault, Except.bind]
    | some cause => simp only [h, hfault, Except.bind]

/-- A document with a fault cannot be read, and not for the lack of an element. -/
theorem Malformed.readDocument_error {cs : List Char} (h : Malformed cs) :
    ∃ cause, readDocument cs = .error cause ∧ cause ≠ .empty := by
  rw [readDocument_eq]
  cases hall : Builder.empty.addAll (readEvents cs).1 with
  | error c => exact ⟨c, rfl, Builder.addAll_ne_empty hall⟩
  | ok b =>
    cases hfault : (readEvents cs).2 with
    | some cause => exact ⟨.markup cause, rfl, nofun⟩
    | none =>
      -- only an element that is still open is left to be the fault
      cases h with
      | markup h => simp [hfault] at h
      | unopened hevents hbefore hout =>
        rw [hevents, Builder.addAll_of_fault hbefore (Builder.add_stop_outside hout)] at hall
        cases hall
      | reference hevents hbefore hin hraw =>
        rw [hevents, Builder.addAll_of_fault hbefore (Builder.add_text_of_bad hin hraw)] at hall
        cases hall
      | unclosed hopen hin =>
        obtain ⟨name, hname⟩ := Builder.finish_of_open hin
        rw [hall] at hopen
        cases hopen
        exact ⟨_, hname, nofun⟩

/-- A document that cannot be read has a fault, or no element. -/
theorem malformed_of_readDocument {cs : List Char} {cause : DocumentError}
    (h : readDocument cs = .error cause) (hne : cause ≠ .empty) : Malformed cs := by
  rw [readDocument_eq] at h
  cases hall : Builder.empty.addAll (readEvents cs).1 with
  | error c =>
    obtain ⟨before, e, after, b, hevents, hbefore, hadd⟩ := Builder.addAll_eq_error hall
    rcases Builder.add_eq_error hadd with ⟨rfl, hout, -⟩ | ⟨raw, reason, rfl, hin, hraw, -⟩
    · exact .unopened hevents hbefore hout
    · exact .reference hevents hbefore hin hraw
  | ok b =>
    rw [hall, Except.bind] at h
    cases hfault : (readEvents cs).2 with
    | some cause => exact .markup hfault
    | none =>
      rw [hfault] at h
      exact .unclosed hall fun hframes => hne (Builder.finish_of_closed hframes h)

/-- The documents with a fault are those that cannot be read, apart from the ones without an
element. -/
theorem malformed_iff {cs : List Char} :
    Malformed cs ↔ ∃ cause, readDocument cs = .error cause ∧ cause ≠ .empty :=
  ⟨Malformed.readDocument_error, fun ⟨_, h, hne⟩ => malformed_of_readDocument h hne⟩

end SapMonitor.Markup
