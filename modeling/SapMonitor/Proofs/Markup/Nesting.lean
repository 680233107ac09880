import Mathlib.Data.List.Induction
import SapMonitor.Markup.Document

/-!
# The nesting of tags

The start tags and end tags among events nest.  Events that leave no element open are those of a
list of pieces: elements with the pieces inside of them, empty elements, texts and verbatim
sections.  Such a list is unique, so that it may be taken for the structure of a document.

Main results:

- `openAfter_append`: which elements are open can be followed event by event.
- `Piece.openAfter_eventsAll`: the events of pieces leave open what was open before.
- `Piece.exists_eventsAll`: events that leave no element open are those of pieces.
- `Piece.eventsAll_injective`: tags nest in one way only.
-/

namespace SapMonitor.Markup

/-! ## Open elements -/

/-- The names of the elements that are open after events, innermost first.  There is no answer if
an end tag stands outside of every element. -/
def openAfter (names : List (List Char)) : List Event → Option (List (List Char))
  | [] => some names
  | .start name :: es => openAfter (name :: names) es
  | .stop :: es =>
    match names with
    | [] => none
    | _ :: names => openAfter names es
  | .empty _ :: es => openAfter names es
  | .text _ :: es => openAfter names es
  | .verbatim _ :: es => openAfter names es

section OpenAfter

variable (names : List (List Char)) (es : List Event)

@[simp] theorem openAfter_nil : openAfter names [] = some names := rfl

@[simp] theorem openAfter_start (name : List Char) :
    openAfter names (.start name :: es) = openAfter (name :: names) es := rfl

@[simp] theorem openAfter_stop (name : List Char) :
    openAfter (name :: names) (.stop :: es) = openAfter names es := rfl

@[simp] theorem openAfter_stop_outside : openAfter [] (.stop :: es) = none := rfl

@[simp] theorem openAfter_empty (name : List Char) :
    openAfter names (.empty name :: es) = openAfter names es := rfl

@[simp] theorem openAfter_text (raw : List Char) :
    openAfter names (.text raw :: es) = openAfter names es := rfl

@[simp] theorem openAfter_verbatim (raw : List Char) :
    openAfter names (.verbatim raw :: es) = openAfter names es := rfl

/-- Events can be followed in two pieces. -/
theorem openAfter_append (es fs : List Event) :
    openAfter names (es ++ fs) = (openAfter names es).bind fun names => openAfter names fs := by
  induction es generalizing names with
  | nil => simp
  | cons e es ih =>
    cases e with
    | stop =>
      cases names with
      | nil => simp
      | cons name names => simpa using ih names
    | start name => simpa using ih (name :: names)
    | empty name => simpa using ih names
    | text raw => simpa using ih names
    | verbatim raw => simpa using ih names

end OpenAfter

/-! ## Pieces -/

/-- A piece of a document: an element with the pieces inside of it, or an event that is no tag of
its own. -/
inductive Piece where
  | element (name : List Char) (inside : List Piece)
  | empty (name : List Char)
  | text (raw : List Char)
  | verbatim (raw : List Char)

namespace Piece

mutual

/-- The events of a piece: those of an element stand between its tags. -/
def events : Piece → List Event
  | element name inside => .start name :: (eventsAll inside ++ [.stop])
  | empty name => [.empty name]
  | text raw => [.text raw]
  | verbatim raw => [.verbatim raw]

/-- The events of pieces. -/
def eventsAll : List Piece → List Event
  | [] => []
  | p :: ps => p.events ++ eventsAll ps

end

@[simp] theorem eventsAll_nil : eventsAll [] = [] := by
  rw [eventsAll]

@[simp] theorem eventsAll_cons (p : Piece) (ps : List Piece) :
    eventsAll (p :: ps) = p.events ++ eventsAll ps := by
  rw [eventsAll]

@[simp] theorem eventsAll_append (ps qs : List Piece) :
    eventsAll (ps ++ qs) = eventsAll ps ++ eventsAll qs := by
  induction ps with
  | nil => simp
  | cons p ps ih => simp [ih]

mutual

/-- A piece closes all elements that it opens, and no others. -/
theorem openAfter_events : (p : Piece) → ∀ names, openAfter names p.events = some names
  | element name inside, names => by
    rw [events, openAfter_start, openAfter_append, openAfter_eventsAll inside]
    simp
  | empty name, names => by simp [events]
  | text raw, names => by simp [events]
  | verbatim raw, names => by simp [events]

/-- So do pieces. -/
theorem openAfter_eventsAll : (ps : List Piece) → ∀ names,
    openAfter names (eventsAll ps) = some names
  | [], names => by simp
  | p :: ps, names => by
    rw [eventsAll_cons, openAfter_append, openAfter_events p, Option.bind_some,
      openAfter_eventsAll ps]

end

/-! ### Existence -/

/-- The events of pieces and of elements that are still open around what follows: each has its
name and the pieces inside of it so far, innermost first. -/
def eventsWithin (outside : List Piece) : List (List Char × List Piece) → List Event
  | [] => eventsAll outside
  | (name, inside) :: around => eventsWithin outside around ++ .start name :: eventsAll inside

/-- One more piece goes into the innermost element. -/
theorem exists_grown (p : Piece) (outside : List Piece) (around : List (List Char × List Piece)) :
    ∃ outside' around', around'.map Prod.fst = around.map Prod.fst ∧
      eventsWithin outside' around' = eventsWithin outside around ++ p.events := by
  cases around with
  | nil =>
    refine ⟨outside ++ [p], [], rfl, ?_⟩
    simp [eventsWithin]
  | cons level around =>
    obtain ⟨name, inside⟩ := level
    refine ⟨outside, (name, inside ++ [p]) :: around, rfl, ?_⟩
    simp [eventsWithin]

/-- Events that can be followed are those of pieces and of the elements that are still open. -/
theorem exists_eventsWithin {es : List Event} {names : List (List Char)}
    (h : openAfter [] es = some names) :
    ∃ outside around, around.map Prod.fst = names ∧ eventsWithin outside around = es := by
  -- from the back: the last event opens an element, closes the innermost one, or stands in it
  induction es using List.reverseRecOn generalizing names with
  | nil =>
    obtain rfl : [] = names := by simpa using h
    exact ⟨[], [], rfl, by simp [eventsWithin]⟩
  | append_singleton es e ih =>
    rw [openAfter_append, Option.bind_eq_some_iff] at h
    obtain ⟨before, hbefore, hlast⟩ := h
    obtain ⟨outside, around, hnames, hes⟩ := ih hbefore
    have hpiece (p : Piece) (hp : p.events = [e]) (hsame : before = names) :
        ∃ outside around, around.map Prod.fst = names ∧ eventsWithin outside around = es ++ [e] := by
      obtain ⟨outside', around', hnames', hgrown⟩ := exists_grown p outside around
      refine ⟨outside', around', ?_, ?_⟩
      · rw [hnames', hnames, hsame]
      · rw [hgrown, hes, hp]
    cases e with
    | start name =>
      obtain rfl : name :: before = names := by simpa using hlast
      refine ⟨outside, (name, []) :: around, ?_, ?_⟩
      · rw [List.map_cons, hnames]
      · simp [eventsWithin, hes]
    | empty name => exact hpiece (.empty name) (by simp [events]) (by simpa using hlast)
    | text raw => exact hpiece (.text raw) (by simp [events]) (by simpa using hlast)
    | verbatim raw => exact hpiece (.verbatim raw) (by simp [events]) (by simpa using hlast)
    | stop =>
      cases around with
      | nil =>
        -- outside of every element there is no end tag
        rw [List.map_nil] at hnames
        rw [← hnames] at hlast
        simp at hlast
      | cons level around =>
        obtain ⟨name, inside⟩ := level
        rw [List.map_cons] at hnames
        obtain rfl : around.map Prod.fst = names := by
          rw [← hnames] at hlast
          simpa using hlast
        obtain ⟨outside', around', hnames', hgrown⟩ :=
          exists_grown (.element name inside) outside around
        refine ⟨outside', around', hnames', ?_⟩
        rw [hgrown, ← hes]
        simp [eventsWithin, events]

/-- Events that leave no element open are those of pieces. -/
theorem exists_eventsAll {es : List Event} (h : openAfter [] es = some []) :
    ∃ ps, eventsAll ps = es := by
  obtain ⟨outside, around, hnames, hes⟩ := exists_eventsWithin h
  obtain rfl : around = [] := List.map_eq_nil_iff.1 hnames
  exact ⟨outside, hes⟩

/-! ### Uniqueness -/

/-- Events that cannot go on a list of pieces: none, or an end tag first. -/
def Ends (es : List Event) : Prop :=
  es.head?.all (· = .stop) = true

theorem ends_nil : Ends [] := rfl

theorem ends_stop (es : List Event) : Ends (.stop :: es) := rfl

/-- No piece begins with an end tag. -/
theorem not_ends_events (p : Piece) (es : List Event) : ¬Ends (p.events ++ es) := by
  cases p <;> simp [Ends, events]

/-- A piece that is no element can be told from its event. -/
theorem eq_of_events_append {p q : Piece} (hp : ∀ name inside, p ≠ .element name inside)
    {es fs : List Event} (h : p.events ++ es = q.events ++ fs) : p = q ∧ es = fs := by
  cases p with
  | element name inside => exact absurd rfl (hp name inside)
  | empty name => cases q <;> simp_all [events]
  | text raw => cases q <;> simp_all [events]
  | verbatim raw => cases q <;> simp_all [events]

/-- Pieces that are followed by an end tag, or by nothing, can be told from their events. -/
theorem eq_of_eventsAll_append : (ps qs : List Piece) → ∀ {es fs : List Event}, Ends es →
    Ends fs → eventsAll ps ++ es = eventsAll qs ++ fs → ps = qs ∧ es = fs
  | [], [], es, fs, _, _, h => by simpa using h
  | [], q :: qs, es, fs, hes, _, h => by
    rw [eventsAll_nil, List.nil_append, eventsAll_cons, List.append_assoc] at h
    exact absurd (h ▸ hes) (not_ends_events q _)
  | p :: ps, [], es, fs, _, hfs, h => by
    rw [eventsAll_nil, List.nil_append, eventsAll_cons, List.append_assoc] at h
    exact absurd (h ▸ hfs) (not_ends_events p _)
  | element name inside :: ps, q :: qs, es, fs, hes, hfs, h => by
    rw [eventsAll_cons, eventsAll_cons, List.append_assoc, List.append_assoc] at h
    cases q with
    | element name' inside' =>
      simp only [events, List.cons_append, List.append_assoc, List.nil_append, List.cons.injEq,
        Event.start.injEq] at h
      obtain ⟨hname, h⟩ := h
      -- the end tag of the element ends what is inside
      obtain ⟨hinside, hafter⟩ :=
        eq_of_eventsAll_append inside inside' (ends_stop _) (ends_stop _) h
      obtain ⟨hps, hrest⟩ := eq_of_eventsAll_append ps qs hes hfs (List.cons.inj hafter).2
      exact ⟨by rw [hname, hinside, hps], hrest⟩
    | empty name' => simp [events] at h
    | text raw' => simp [events] at h
    | verbatim raw' => simp [events] at h
  | empty name :: ps, q :: qs, es, fs, hes, hfs, h => by
    rw [eventsAll_cons, eventsAll_cons, List.append_assoc, List.append_assoc] at h
    obtain ⟨hp, h⟩ := eq_of_events_append (by simp) h
    obtain ⟨hps, hrest⟩ := eq_of_eventsAll_append ps qs hes hfs h
    exact ⟨by rw [hp, hps], hrest⟩
  | text raw :: ps, q :: qs, es, fs, hes, hfs, h => by
    rw [eventsAll_cons, eventsAll_cons, List.append_assoc, List.append_assoc] at h
    obtain ⟨hp, h⟩ := eq_of_events_append (by simp) h
    obtain ⟨hps, hrest⟩ := eq_of_eventsAll_append ps qs hes hfs h
    exact ⟨by rw [hp, hps], hrest⟩
  | verbatim raw :: ps, q :: qs, es, fs, hes, hfs, h => by
    rw [eventsAll_cons, eventsAll_cons, List.append_assoc, List.append_assoc] at h
    obtain ⟨hp, h⟩ := eq_of_events_append (by simp) h
    obtain ⟨hps, hrest⟩ := eq_of_eventsAll_append ps qs hes hfs h
    exact ⟨by rw [hp, hps], hrest⟩

/-- Tags nest in one way only. -/
theorem eventsAll_injective {ps qs : List Piece} (h : eventsAll ps = eventsAll qs) : ps = qs := by
  refine (eq_of_eventsAll_append ps qs ends_nil ends_nil ?_).1
  rw [List.append_nil, List.append_nil, h]

end Piece

end SapMonitor.Markup
