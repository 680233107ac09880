import SapMonitor.Proofs.Markup.Reading

/-!
# The trees of written documents

The events of nodes put together the texts and trees that the nodes stand for: inside an
element all of them, and outside of every element the last tree alone.

Main results:

- `Node.addAll_events` and `Node.addAll_eventsAll`: what the events of nodes build inside
  an element.
- `readDocument_written`: a document of sound nodes, with white space alone outside of
  its elements, is read as the last of its top-level elements.
-/

namespace SapMonitor.Markup

/-! ## Elements -/

namespace Builder

/-- Events can be taken in two pieces. -/
theorem addAll_append (b : Builder) (es fs : List Event) :
    b.addAll (es ++ fs) = (b.addAll es).bind fun b => b.addAll fs := by
  induction es generalizing b with
  | nil => rfl
  | cons e es ih =>
    rw [List.cons_append, addAll, addAll]
    cases b.add e with
    | error cause => rfl
    | ok b => exact ih b

end Builder

namespace Node

variable {f : Frame} {rest : List Frame} {root : Option Element}

/-- A frame that what stands in it has been added to. -/
def within (f : Frame) (text : List Char) (children : List Element) : Frame :=
  { f with text := f.text ++ String.ofList text, children := children.reverse ++ f.children }

/-- A raw text adds what it stands for to the element around it. -/
theorem addAll_textEvents {raw : List Char} (h : Readable raw) :
    Builder.addAll ⟨f :: rest, root⟩ (textEvents raw) =
      .ok ⟨within f (textOf raw) [] :: rest, root⟩ := by
  obtain ⟨-, cs, hcs⟩ := h
  have htext : textOf raw = cs := by rw [textOf, hcs]
  rw [htext, textEvents]
  cases hs : Text.strip isGap raw with
  | nil =>
    rw [hs] at hcs
    obtain rfl : cs = [] := by
      cases hcs
      rfl
    simp [Builder.addAll, within]
  | cons c tail =>
    rw [hs] at hcs
    simp [Builder.addAll, Builder.add, hcs, Builder.addText, within]

theorem within_within (f : Frame) (text text' : List Char) (children children' : List Element) :
    within (within f text children) text' children' =
      within f (text ++ text') (children ++ children') := by
  simp [within, String.append_assoc]

mutual

/-- Inside an element, a node adds its text and its tree. -/
theorem addAll_events : (n : Node) → n.Sound → ∀ (f : Frame) (rest : List Frame)
    (root : Option Element), Builder.addAll ⟨f :: rest, root⟩ n.events =
      .ok ⟨within f n.said n.tree?.toList :: rest, root⟩
  | element before tag content after, hn, f, rest, root => by
    cases hn with
    | element hbefore htag hcontent hafter =>
    have hopen (b : Builder) (es : List Event) : b.addAll (.start tag.qualified :: es) =
        Builder.addAll ⟨⟨String.ofList tag.name, "", []⟩ :: b.frames, b.root⟩ es := by
      rw [Builder.addAll, Builder.add, htag.localName_qualified]
    rw [events, Builder.addAll_append, addAll_textEvents hbefore, Except.bind, hopen,
      Builder.addAll_append, addAll_eventsAll content hcontent, Except.bind,
      Builder.addAll_append, addAll_textEvents hafter, Except.bind, within_within]
    simp [Builder.addAll, Builder.add, Builder.attach, within, Frame.close, said, tree?,
      Node.before]
  | empty before tag, hn, f, rest, root => by
    cases hn with
    | empty hbefore htag =>
    rw [events, Builder.addAll_append, addAll_textEvents hbefore, Except.bind]
    simp [Builder.addAll, Builder.add, Builder.attach, within, said, tree?, Node.before,
      htag.localName_qualified]
  | comment before body, hn, f, rest, root => by
    cases hn with
    | comment hbefore hbody => exact addAll_textEvents hbefore
  | instruction before body, hn, f, rest, root => by
    cases hn with
    | instruction hbefore hne hbody => exact addAll_textEvents hbefore
  | verbatim before body, hn, f, rest, root => by
    cases hn with
    | verbatim hbefore hbody =>
    rw [events, Builder.addAll_append, addAll_textEvents hbefore, Except.bind]
    simp [Builder.addAll, Builder.add, Builder.addText, within, said, tree?, String.append_assoc]

/-- Inside an element, nodes add their texts and their trees. -/
theorem addAll_eventsAll : (ns : List Node) → (∀ n ∈ ns, n.Sound) →
    ∀ (f : Frame) (rest : List Frame) (root : Option Element),
      Builder.addAll ⟨f :: rest, root⟩ (eventsAll ns) =
        .ok ⟨within f (ns.flatMap said) (trees ns) :: rest, root⟩
  | [], _, f, rest, root => by
    simp [eventsAll, Builder.addAll, within, trees]
  | n :: ns, hns, f, rest, root => by
    rw [eventsAll, Builder.addAll_append, addAll_events n (hns n (by simp)), Except.bind,
      addAll_eventsAll ns fun m hm => hns m (by simp [hm]), within_within]
    simp [trees]

end

end Node

/-! ## Documents -/

namespace Node

/-- White space gives no events. -/
theorem textEvents_of_gap {raw : List Char} (h : ∀ c ∈ raw, isGap c = true) :
    textEvents raw = [] := by
  rw [textEvents, strip_of_gap h]

/-- Outside of every element, a node without a text of its own leaves its tree behind. -/
theorem addAll_events_outside {n : Node} (hn : n.Sound) (hgap : ∀ c ∈ n.before, isGap c = true)
    (root : Option Element) :
    Builder.addAll ⟨[], root⟩ n.events = .ok ⟨[], n.tree?.or root⟩ := by
  cases hn with
  | @element before tag content after hbefore htag hcontent hafter =>
    have hopen (es : List Event) : Builder.addAll ⟨[], root⟩ (.start tag.qualified :: es) =
        Builder.addAll ⟨[⟨String.ofList tag.name, "", []⟩], root⟩ es := by
      rw [Builder.addAll, Builder.add, htag.localName_qualified]
    rw [Node.before] at hgap
    rw [events, textEvents_of_gap hgap, List.nil_append, hopen, Builder.addAll_append,
      addAll_eventsAll content hcontent, Except.bind, Builder.addAll_append,
      addAll_textEvents hafter, Except.bind, within_within]
    simp [Builder.addAll, Builder.add, Builder.attach, within, Frame.close, tree?]
  | empty hbefore htag =>
    rw [Node.before] at hgap
    rw [events, textEvents_of_gap hgap]
    simp [Builder.addAll, Builder.add, Builder.attach, tree?, htag.localName_qualified]
  | comment hbefore hbody =>
    rw [Node.before] at hgap
    rw [events, textEvents_of_gap hgap]
    simp [Builder.addAll, tree?]
  | instruction hbefore hne hbody =>
    rw [Node.before] at hgap
    rw [events, textEvents_of_gap hgap]
    simp [Builder.addAll, tree?]
  | verbatim hbefore hbody =>
    rw [Node.before] at hgap
    rw [events, textEvents_of_gap hgap]
    simp [Builder.addAll, Builder.add, Builder.addText, tree?]

/-- Of the elements at the top the last one is left. -/
theorem addAll_eventsAll_outside {ns : List Node} (hns : ∀ n ∈ ns, n.Sound)
    (hgap : ∀ n ∈ ns, ∀ c ∈ n.before, isGap c = true) (root : Option Element) :
    Builder.addAll ⟨[], root⟩ (eventsAll ns) = .ok ⟨[], (trees ns).getLast?.or root⟩ := by
  induction ns generalizing root with
  | nil => rfl
  | cons n ns ih =>
    rw [eventsAll, Builder.addAll_append,
      addAll_events_outside (hns n (by simp)) (hgap n (by simp)), Except.bind,
      ih (fun m hm => hns m (by simp [hm])) fun m hm => hgap m (by simp [hm])]
    have hlast : (trees (n :: ns)).getLast? = (trees ns).getLast?.or n.tree? := by
      rw [trees, List.getLast?_append]
      cases n.tree? <;> rfl
    rw [hlast, Option.or_assoc]

end Node

/-- A document does not begin with a byte order mark if white space alone is outside of its
elements. -/
theorem head?_writtenAll {ns : List Node} (hgap : ∀ n ∈ ns, ∀ c ∈ n.before, isGap c = true)
    {trail : List Char} (htrail : ∀ c ∈ trail, isGap c = true) (c : Char)
    (hc : (Node.writtenAll ns ++ trail).head? = some c) : isGap c = true ∨ c = '<' := by
  cases ns with
  | nil =>
    rw [Node.writtenAll, List.nil_append] at hc
    exact .inl (htrail c (List.mem_of_head? hc))
  | cons n ns =>
    obtain ⟨rest, hrest⟩ : ∃ rest, n.written = n.before ++ '<' :: rest := by
      cases n <;> exact ⟨_, rfl⟩
    rw [Node.writtenAll, hrest] at hc
    cases hb : n.before with
    | nil =>
      rw [hb] at hc
      exact .inr (by simpa using hc.symm)
    | cons d ds =>
      rw [hb] at hc
      obtain rfl : d = c := by simpa using hc
      exact .inl (hgap n (by simp) d (by simp [hb]))

/-- Without a byte order mark every character of a document is read. -/
theorem readEvents_of_unmarked {cs : List Char} (h : cs.head? ≠ some '\uFEFF') :
    readEvents cs =
      ((Reader.fresh.run cs).finish.emitted.reverse, (Reader.fresh.run cs).finish.fault?) := by
  cases cs with
  | nil => rfl
  | cons c cs =>
    have hc : c ≠ '\uFEFF' := by simpa using h
    simp [readEvents, hc]

/-- A document of sound nodes, with white space alone outside of its elements, is read as
the last of its top-level elements. -/
theorem readDocument_written {ns : List Node} (hns : ∀ n ∈ ns, n.Sound)
    (hgap : ∀ n ∈ ns, ∀ c ∈ n.before, isGap c = true) {trail : List Char}
    (htrail : ∀ c ∈ trail, isGap c = true) {e : Element}
    (he : (Node.trees ns).getLast? = some e) :
    readDocument (Node.writtenAll ns ++ trail) = .ok e := by
  have hmark : (Node.writtenAll ns ++ trail).head? ≠ some '\uFEFF' := by
    intro hhead
    exact absurd (head?_writtenAll hgap htrail _ hhead) (by decide)
  have hdrop : trail.dropWhile isGap = [] := by
    rw [List.dropWhile_eq_nil_iff]
    exact htrail
  have hrun : Reader.fresh.run (Node.writtenAll ns ++ trail) =
      ⟨.content [], [], (Node.eventsAll ns).reverse⟩ := by
    rw [Reader.fresh, Node.run_writtenAll ns hns, Reader.run_content (Node.not_mem_of_gap htrail),
      hdrop, List.append_nil, List.reverse_nil]
  have hevents : readEvents (Node.writtenAll ns ++ trail) = (Node.eventsAll ns, none) := by
    rw [readEvents_of_unmarked hmark, hrun]
    simp [Reader.finish, Reader.closeText, Reader.fault?]
  rw [readDocument, hevents, Builder.empty]
  simp only [Node.addAll_eventsAll_outside hns hgap, he, Option.some_or]
  rfl

end SapMonitor.Markup
