import SapMonitor.Proofs.Markup.Faults
import SapMonitor.Proofs.Markup.Reports
import SapMonitor.Remote.Envelope

/-!
# The structure of a document

The tree of a document is put together event by event on a stack of open elements.  It is the tree
that the nesting of the tags describes: an element has the texts and verbatim sections that stand
in it directly, and the elements that stand in it directly, each of them read in the same way.

Main results:

- `Builder.openAfter_of_addAll`: the stack holds the elements that the reader takes to be open.
- `Piece.addAll_eventsAll_inside` and `Piece.addAll_eventsAll_outside`: the stack puts the trees
  of pieces together.
- `readDocument_eq_ok_iff`: which documents can be read, and as which tree.
- `document_structured`: the reading of an answer as a whole.
-/

namespace SapMonitor.Markup

/-! ## Trees of pieces -/

/-- What a text stands for once its references are resolved. -/
def resolved (raw : List Char) : List Char :=
  match resolve raw with
  | .ok cs => cs
  | .error _ => []

theorem resolved_of_ok {raw cs : List Char} (h : resolve raw = .ok cs) : resolved raw = cs := by
  rw [resolved, h]

namespace Piece

/-- What a piece adds to the text of the element around it.  The texts inside of an element are
not among it. -/
def said : Piece → List Char
  | element _ _ => []
  | empty _ => []
  | text raw => resolved raw
  | verbatim raw => raw

mutual

/-- The element that a piece is, if it is one. -/
def tree? : Piece → Option Element
  | element name inside =>
    some (.mk (String.ofList (localName name)) (String.ofList (inside.flatMap said))
      (trees inside))
  | empty name => some (.mk (String.ofList (localName name)) "" [])
  | text _ => none
  | verbatim _ => none

/-- The elements among pieces, in document order. -/
def trees : List Piece → List Element
  | [] => []
  | p :: ps => p.tree?.toList ++ trees ps

end

@[simp] theorem trees_nil : trees [] = [] := by
  rw [trees]

@[simp] theorem trees_cons (p : Piece) (ps : List Piece) :
    trees (p :: ps) = p.tree?.toList ++ trees ps := by
  rw [trees]

theorem trees_append (ps qs : List Piece) : trees (ps ++ qs) = trees ps ++ trees qs := by
  induction ps with
  | nil => simp
  | cons p ps ih => simp [ih]

end Piece

/-! ## The stack of open elements -/

namespace Builder

variable {b b' : Builder} {es : List Event}

/-- Events that are taken one after the other are taken at once. -/
theorem addAll_cons_eq_ok {e : Event} (h : b.addAll (e :: es) = .ok b') :
    ∃ mid, b.add e = .ok mid ∧ mid.addAll es = .ok b' := by
  rw [addAll] at h
  cases hadd : b.add e with
  | error cause =>
    rw [hadd] at h
    cases h
  | ok mid =>
    rw [hadd] at h
    exact ⟨mid, rfl, h⟩

theorem addAll_append_eq_ok {before after : List Event} (h : b.addAll (before ++ after) = .ok b') :
    ∃ mid, b.addAll before = .ok mid ∧ mid.addAll after = .ok b' := by
  rw [addAll_append] at h
  cases hbefore : b.addAll before with
  | error cause =>
    rw [hbefore] at h
    cases h
  | ok mid =>
    rw [hbefore] at h
    exact ⟨mid, rfl, h⟩

/-- The stack holds the elements with the given names, innermost first. -/
def Holds (b : Builder) (names : List (List Char)) : Prop :=
  b.frames.map Frame.name = names.map fun name => String.ofList (localName name)

theorem holds_empty : Builder.empty.Holds [] := rfl

theorem Holds.frames_eq_nil (h : b.Holds []) : b.frames = [] :=
  List.map_eq_nil_iff.1 h

theorem Holds.frames_ne_nil {name : List Char} {names : List (List Char)}
    (h : b.Holds (name :: names)) : b.frames ≠ [] := by
  intro hframes
  rw [Holds, hframes] at h
  cases h

/-- Finished elements and texts leave the names of the open elements alone. -/
theorem Holds.attach {names : List (List Char)} (h : b.Holds names) (e : Element) :
    (b.attach e).Holds names := by
  unfold Holds at h ⊢
  rw [← h, Builder.attach]
  cases b.frames <;> rfl

theorem Holds.addText {names : List (List Char)} (h : b.Holds names) (cs : List Char) :
    (b.addText cs).Holds names := by
  unfold Holds at h ⊢
  rw [← h, Builder.addText]
  cases hframes : b.frames with
  | nil => simp [hframes]
  | cons f rest => rfl

/-- With every event that it takes, the stack goes along with the open elements. -/
theorem Holds.add {names : List (List Char)} (h : b.Holds names) {e : Event}
    (hadd : b.add e = .ok b') : ∃ names', openAfter names [e] = some names' ∧ b'.Holds names' := by
  cases e with
  | start name =>
    cases hadd
    refine ⟨name :: names, rfl, ?_⟩
    unfold Holds at h ⊢
    rw [List.map_cons, List.map_cons, h]
  | empty name =>
    cases hadd
    exact ⟨names, rfl, h.attach _⟩
  | verbatim raw =>
    cases hadd
    exact ⟨names, rfl, h.addText raw⟩
  | text raw =>
    refine ⟨names, rfl, ?_⟩
    cases hframes : b.frames with
    | nil =>
      rw [add_text_outside hframes] at hadd
      cases hadd
      exact h
    | cons f rest =>
      cases hraw : resolve raw with
      | error reason =>
        rw [add_text_of_bad (by simp [hframes]) hraw] at hadd
        cases hadd
      | ok cs =>
        simp only [Builder.add, hframes, hraw] at hadd
        cases hadd
        exact h.addText cs
  | stop =>
    cases names with
    | nil =>
      rw [add_stop_outside h.frames_eq_nil] at hadd
      cases hadd
    | cons name names =>
      cases hframes : b.frames with
      | nil => exact absurd hframes h.frames_ne_nil
      | cons f rest =>
        rw [add_stop_of_open hframes] at hadd
        cases hadd
        refine ⟨names, rfl, Holds.attach ?_ _⟩
        unfold Holds at h ⊢
        rw [hframes, List.map_cons, List.map_cons] at h
        exact (List.cons.inj h).2

/-- The stack holds the elements that are open after the events it has taken. -/
theorem openAfter_of_addAll {names : List (List Char)} (h : b.Holds names)
    (hall : b.addAll es = .ok b') : ∃ names', openAfter names es = some names' ∧ b'.Holds names' := by
  induction es generalizing b names with
  | nil =>
    cases hall
    exact ⟨names, rfl, h⟩
  | cons e es ih =>
    obtain ⟨mid, hadd, hrest⟩ := addAll_cons_eq_ok hall
    obtain ⟨between, hbetween, hmid⟩ := h.add hadd
    obtain ⟨names', hnames', hb'⟩ := ih hmid hrest
    refine ⟨names', ?_, hb'⟩
    rw [← List.singleton_append, openAfter_append, hbetween, Option.bind_some, hnames']

end Builder

/-! ## Legible texts -/

/-- A text that stands inside an element, among events. -/
def StandsInside (raw : List Char) (es : List Event) : Prop :=
  ∃ before after name names, es = before ++ .text raw :: after ∧
    openAfter [] before = some (name :: names)

/-- Every reference in the texts inside of elements stands for a character. -/
def Legible (es : List Event) : Prop :=
  ∀ raw, StandsInside raw es → ∃ cs, resolve raw = .ok cs

/-- Only legible events can be taken. -/
theorem legible_of_addAll {es : List Event} {b : Builder} (h : Builder.empty.addAll es = .ok b) :
    Legible es := by
  rintro raw ⟨before, after, name, names, rfl, hopen⟩
  obtain ⟨mid, hbefore, hrest⟩ := Builder.addAll_append_eq_ok h
  obtain ⟨next, hadd, -⟩ := Builder.addAll_cons_eq_ok hrest
  obtain ⟨names', hnames', hmid⟩ := Builder.openAfter_of_addAll Builder.holds_empty hbefore
  obtain rfl : name :: names = names' := Option.some.inj (hopen.symm.trans hnames')
  cases hraw : resolve raw with
  | ok cs => exact ⟨cs, rfl⟩
  | error reason =>
    rw [Builder.add_text_of_bad hmid.frames_ne_nil hraw] at hadd
    cases hadd

/-- Legible events can be taken if every end tag among them closes an element. -/
theorem addAll_of_legible {es : List Event} (hes : Legible es) {names : List (List Char)}
    (hopen : openAfter [] es = some names) :
    ∃ b, Builder.empty.addAll es = .ok b ∧ b.Holds names := by
  cases hall : Builder.empty.addAll es with
  | ok b =>
    obtain ⟨names', hnames', hb⟩ := Builder.openAfter_of_addAll Builder.holds_empty hall
    obtain rfl : names = names' := Option.some.inj (hopen.symm.trans hnames')
    exact ⟨b, rfl, hb⟩
  | error cause =>
    -- the event that could not be taken is an end tag outside, or an illegible text inside
    exfalso
    obtain ⟨before, e, after, b, rfl, hbefore, hadd⟩ := Builder.addAll_eq_error hall
    obtain ⟨between, hbetween, hb⟩ := Builder.openAfter_of_addAll Builder.holds_empty hbefore
    rcases Builder.add_eq_error hadd with ⟨rfl, hout, -⟩ | ⟨raw, reason, rfl, hin, hraw, -⟩
    · cases between with
      | nil =>
        rw [openAfter_append, hbetween] at hopen
        simp at hopen
      | cons name between => exact hb.frames_ne_nil hout
    · cases between with
      | nil => exact hin hb.frames_eq_nil
      | cons name between =>
        obtain ⟨cs, hcs⟩ := hes raw ⟨before, after, name, between, rfl, hbetween⟩
        rw [hraw] at hcs
        cases hcs

/-! ## The stack on pieces -/

namespace Piece

open Node (within within_within)

mutual

/-- Inside an element, a piece adds its text and its tree. -/
theorem addAll_events_inside : (p : Piece) → ∀ {f : Frame} {rest : List Frame}
    {root : Option Element} {b : Builder}, Builder.addAll ⟨f :: rest, root⟩ p.events = .ok b →
      b = ⟨within f p.said p.tree?.toList :: rest, root⟩
  | element name inside, f, rest, root, b, h => by
    rw [events] at h
    obtain ⟨opened, hstart, h⟩ := Builder.addAll_cons_eq_ok h
    cases hstart
    obtain ⟨closing, hinside, hstop⟩ := Builder.addAll_append_eq_ok h
    obtain rfl := addAll_eventsAll_inside inside hinside
    cases hstop
    simp [Builder.attach, Frame.close, within, said, tree?]
  | empty name, f, rest, root, b, h => by
    cases h
    simp [Builder.attach, within, said, tree?]
  | verbatim raw, f, rest, root, b, h => by
    cases h
    simp [Builder.addText, within, said, tree?]
  | text raw, f, rest, root, b, h => by
    cases hraw : resolve raw with
    | error reason =>
      rw [events, Builder.addAll, Builder.add_text_of_bad (by simp) hraw] at h
      cases h
    | ok cs =>
      simp only [events, Builder.addAll, Builder.add, hraw, Except.ok.injEq] at h
      rw [← h]
      simp [Builder.addText, within, said, tree?, resolved_of_ok hraw]

/-- Inside an element, pieces add their texts and their trees, in document order. -/
theorem addAll_eventsAll_inside : (ps : List Piece) → ∀ {f : Frame} {rest : List Frame}
    {root : Option Element} {b : Builder}, Builder.addAll ⟨f :: rest, root⟩ (eventsAll ps) = .ok b →
      b = ⟨within f (ps.flatMap said) (trees ps) :: rest, root⟩
  | [], f, rest, root, b, h => by
    rw [eventsAll_nil] at h
    cases h
    simp [within]
  | p :: ps, f, rest, root, b, h => by
    rw [eventsAll_cons] at h
    obtain ⟨mid, hp, hps⟩ := Builder.addAll_append_eq_ok h
    obtain rfl := addAll_events_inside p hp
    rw [addAll_eventsAll_inside ps hps, within_within]
    simp

end

/-- Outside of every element, a piece leaves its tree behind. -/
theorem addAll_events_outside (p : Piece) {root : Option Element} {b : Builder}
    (h : Builder.addAll ⟨[], root⟩ p.events = .ok b) : b = ⟨[], p.tree?.or root⟩ := by
  cases p with
  | element name inside =>
    rw [events] at h
    obtain ⟨opened, hstart, h⟩ := Builder.addAll_cons_eq_ok h
    cases hstart
    obtain ⟨closing, hinside, hstop⟩ := Builder.addAll_append_eq_ok h
    obtain rfl := addAll_eventsAll_inside inside hinside
    cases hstop
    simp [Builder.attach, Frame.close, within, tree?]
  | empty name =>
    cases h
    simp [Builder.attach, tree?]
  | text raw =>
    cases h
    simp [tree?]
  | verbatim raw =>
    cases h
    simp [Builder.addText, tree?]

/-- Of the elements at the top the last one is left. -/
theorem addAll_eventsAll_outside (ps : List Piece) {root : Option Element} {b : Builder}
    (h : Builder.addAll ⟨[], root⟩ (eventsAll ps) = .ok b) :
    b = ⟨[], (trees ps).getLast?.or root⟩ := by
  induction ps generalizing root with
  | nil =>
    rw [eventsAll_nil] at h
    cases h
    simp
  | cons p ps ih =>
    rw [eventsAll_cons] at h
    obtain ⟨mid, hp, hps⟩ := Builder.addAll_append_eq_ok h
    obtain rfl := addAll_events_outside p hp
    rw [ih hps, trees_cons, List.getLast?_append, ← Option.or_assoc]
    cases p.tree? <;> rfl

end Piece

/-! ## Documents -/

/-- A document can be read if its markup has no fault, its texts are legible, its tags nest, and
there is an element among its pieces; it is read as the last such element. -/
theorem readDocument_eq_ok_iff {cs : List Char} {t : Element} :
    readDocument cs = .ok t ↔
      (readEvents cs).2 = none ∧ Legible (readEvents cs).1 ∧
        ∃ ps, Piece.eventsAll ps = (readEvents cs).1 ∧ (Piece.trees ps).getLast? = some t := by
  rw [readDocument_eq]
  constructor
  · intro h
    cases hall : Builder.empty.addAll (readEvents cs).1 with
    | error cause =>
      rw [hall] at h
      cases h
    | ok b =>
      cases hfault : (readEvents cs).2 with
      | some cause =>
        rw [hall, hfault] at h
        cases h
      | none =>
        rw [hall, hfault, Except.bind] at h
        refine ⟨rfl, legible_of_addAll hall, ?_⟩
        obtain ⟨names, hopen, hb⟩ := Builder.openAfter_of_addAll Builder.holds_empty hall
        cases names with
        | cons name names =>
          obtain ⟨unclosed, hunclosed⟩ := Builder.finish_of_open hb.frames_ne_nil
          rw [hunclosed] at h
          cases h
        | nil =>
          obtain ⟨ps, hps⟩ := Piece.exists_eventsAll hopen
          rw [← hps] at hall
          obtain rfl := Piece.addAll_eventsAll_outside ps hall
          refine ⟨ps, hps, ?_⟩
          cases hlast : (Piece.trees ps).getLast? with
          | none => simp [Builder.finish, hlast] at h
          | some e => simpa [Builder.finish, hlast] using h
  · rintro ⟨hfault, hlegible, ps, hps, hlast⟩
    have hopen : openAfter [] (readEvents cs).1 = some [] := by
      rw [← hps, Piece.openAfter_eventsAll]
    obtain ⟨b, hall, -⟩ := addAll_of_legible hlegible hopen
    rw [hall, hfault, Except.bind]
    rw [← hps] at hall
    obtain rfl := Piece.addAll_eventsAll_outside ps hall
    simp [Builder.finish, hlast]

/-- A document that ends inside elements is refused with the name of the innermost one. -/
theorem readDocument_of_open {cs : List Char} (hfault : (readEvents cs).2 = none)
    (hlegible : Legible (readEvents cs).1) {name : List Char} {names : List (List Char)}
    (hopen : openAfter [] (readEvents cs).1 = some (name :: names)) :
    readDocument cs = .error (.unclosed (String.ofList (localName name))) := by
  obtain ⟨b, hall, hb⟩ := addAll_of_legible hlegible hopen
  rw [readDocument_eq, hall, hfault, Except.bind]
  cases hframes : b.frames with
  | nil => exact absurd hframes hb.frames_ne_nil
  | cons f rest =>
    rw [Builder.Holds, hframes] at hb
    simp only [Builder.finish, hframes, (List.cons.inj hb).1]

/-- No document is refused for an end tag outside of every element: the reader has found the end
tag at fault before. -/
theorem readDocument_ne_unopened (cs : List Char) : readDocument cs ≠ .error .unopened := by
  intro h
  rw [readDocument_eq] at h
  cases hall : Builder.empty.addAll (readEvents cs).1 with
  | error cause =>
    rw [hall] at h
    cases h
    obtain ⟨before, e, after, b, hevents, hbefore, hadd⟩ := Builder.addAll_eq_error hall
    obtain ⟨between, hbetween, hb⟩ := Builder.openAfter_of_addAll Builder.holds_empty hbefore
    obtain ⟨names, hopen⟩ := openAfter_readEvents cs
    rcases Builder.add_eq_error hadd with ⟨rfl, hout, -⟩ | ⟨raw, reason, -, -, -, hcause⟩
    · cases between with
      | cons name between => exact hb.frames_ne_nil hout
      | nil =>
        rw [hevents, openAfter_append, hbetween] at hopen
        simp at hopen
    · cases hcause
  | ok b =>
    cases hfault : (readEvents cs).2 with
    | some cause =>
      rw [hall, hfault] at h
      cases h
    | none =>
      rw [hall, hfault, Except.bind] at h
      by_cases hframes : b.frames = []
      · cases Builder.finish_of_closed hframes h
      · obtain ⟨name, hname⟩ := Builder.finish_of_open hframes
        rw [hname] at h
        cases h

/-- The reading of an answer follows the nesting of its tags. -/
structure Structured (body : String) : Prop where
  /-- Every end tag that the reader reports closes an element. -/
  tracked : ∃ names, openAfter [] (readEvents body.toList).1 = some names
  /-- If no element is left open, the events are those of pieces that nest in one way. -/
  nested : openAfter [] (readEvents body.toList).1 = some [] →
    ∃! ps, Piece.eventsAll ps = (readEvents body.toList).1
  /-- The answer is accepted if the reader gets to its end, the references in its elements
  resolve, every element is closed, and there is an element. -/
  accepted : (∃ t, Remote.document body = .ok t) ↔
    (readEvents body.toList).2 = none ∧ Legible (readEvents body.toList).1 ∧
      ∃ ps, Piece.eventsAll ps = (readEvents body.toList).1 ∧ Piece.trees ps ≠ []
  /-- Its tree is that of the last element at the top. -/
  tree : ∀ t ps, Remote.document body = .ok t →
    Piece.eventsAll ps = (readEvents body.toList).1 → (Piece.trees ps).getLast? = some t
  /-- An answer that ends inside elements is refused with the name of the innermost one. -/
  unclosed : ∀ name names, (readEvents body.toList).2 = none →
    Legible (readEvents body.toList).1 →
    openAfter [] (readEvents body.toList).1 = some (name :: names) →
    Remote.document body =
      .error (.answer ("document ended inside <" ++ String.ofList (localName name) ++ ">"))
  /-- No answer is refused for an end tag outside of every element. -/
  opened : readDocument body.toList ≠ .error .unopened

theorem document_eq_ok_iff {body : String} {t : Element} :
    Remote.document body = .ok t ↔ readDocument body.toList = .ok t := by
  rw [Remote.document]
  cases readDocument body.toList with
  | ok e => simp [Except.mapError]
  | error cause => simp [Except.mapError]

/-- Every answer is read by the nesting of its tags. -/
theorem document_structured (body : String) : Structured body where
  tracked := openAfter_readEvents body.toList
  nested := by
    intro hopen
    obtain ⟨ps, hps⟩ := Piece.exists_eventsAll hopen
    refine ⟨ps, hps, ?_⟩
    intro qs hqs
    exact Piece.eventsAll_injective (hqs.trans hps.symm)
  accepted := by
    constructor
    · rintro ⟨t, ht⟩
      rw [document_eq_ok_iff, readDocument_eq_ok_iff] at ht
      obtain ⟨hfault, hlegible, ps, hps, hlast⟩ := ht
      refine ⟨hfault, hlegible, ps, hps, ?_⟩
      intro hnone
      simp [hnone] at hlast
    · rintro ⟨hfault, hlegible, ps, hps, hsome⟩
      refine ⟨(Piece.trees ps).getLast hsome, ?_⟩
      rw [document_eq_ok_iff, readDocument_eq_ok_iff]
      exact ⟨hfault, hlegible, ps, hps, List.getLast?_eq_some_getLast hsome⟩
  tree := by
    intro t ps ht hps
    rw [document_eq_ok_iff, readDocument_eq_ok_iff] at ht
    obtain ⟨-, -, qs, hqs, hlast⟩ := ht
    rw [Piece.eventsAll_injective (hps.trans hqs.symm), hlast]
  unclosed := by
    intro name names hfault hlegible hopen
    rw [Remote.document, readDocument_of_open hfault hlegible hopen]
    rfl
  opened := readDocument_ne_unopened body.toList

end SapMonitor.Markup
