import Mathlib.Data.List.Forall2
import SapMonitor.Proofs.Markup.Written

/-!
# Nodes among others

Readers of a document look for some of the elements and pass over whatever else stands
between them: comments, instructions, and elements with other names.

Main results:

- `Among.trees_filter`: the elements that are looked for are found in order, whatever
  stands between them.
- `Element.textAt_of_forall₂`: among elements with different names each text is found under
  its name.
- `Node.findIn?_of_not_mem`: a search passes over nodes that the name does not occur in.
-/

namespace SapMonitor.Markup

/-! ## Names -/

/-- A search in trees goes through them in order. -/
theorem Element.findIn?_append (name : String) (es fs : List Element) :
    Element.findIn? name (es ++ fs) =
      (Element.findIn? name es).or (Element.findIn? name fs) := by
  induction es with
  | nil => rfl
  | cons e es ih => rw [List.cons_append, findIn?, findIn?, ih, Option.or_assoc]

namespace Node

/-- The local name of the element that a node is, if it is one. -/
def name? : Node → Option String
  | element _ tag _ _ => some (String.ofList tag.name)
  | empty _ tag => some (String.ofList tag.name)
  | comment .. => none
  | instruction .. => none
  | verbatim .. => none

theorem name?_eq_map (n : Node) : n.name? = n.tree?.map Element.name := by
  cases n <;> rfl

mutual

/-- The names of the elements in a node, in document order. -/
def names : Node → List String
  | element _ tag content _ => String.ofList tag.name :: namesAll content
  | empty _ tag => [String.ofList tag.name]
  | comment .. => []
  | instruction .. => []
  | verbatim .. => []

/-- The names of the elements in nodes, in document order. -/
def namesAll : List Node → List String
  | [] => []
  | n :: ns => n.names ++ namesAll ns

end

mutual

/-- A search passes over an element that the name does not occur in. -/
theorem find?_of_not_mem {name : String} : (n : Node) → name ∉ n.names →
    ∀ e, n.tree? = some e → e.find? name = none
  | element before tag content after, hname, e, he => by
    rw [names, List.mem_cons, not_or] at hname
    rw [tree?, Option.some.injEq] at he
    subst he
    have hne : (String.ofList tag.name == name) = false := by simpa using Ne.symm hname.1
    rw [Element.find?, hne]
    exact findIn?_of_not_mem content hname.2
  | empty before tag, hname, e, he => by
    rw [names, List.mem_singleton] at hname
    rw [tree?, Option.some.injEq] at he
    subst he
    have hne : (String.ofList tag.name == name) = false := by simpa using Ne.symm hname
    rw [Element.find?, hne]
    rfl
  | comment .., _, _, he => nomatch he
  | instruction .., _, _, he => nomatch he
  | verbatim .., _, _, he => nomatch he

/-- A search passes over nodes that the name does not occur in. -/
theorem findIn?_of_not_mem {name : String} : (ns : List Node) → name ∉ namesAll ns →
    Element.findIn? name (trees ns) = none
  | [], _ => rfl
  | n :: ns, hname => by
    rw [namesAll, List.mem_append, not_or] at hname
    have hrest := findIn?_of_not_mem ns hname.2
    rw [trees]
    cases ht : n.tree? with
    | none => exact hrest
    | some e =>
      have hfirst := find?_of_not_mem n hname.1 e ht
      simp [Element.findIn?, hfirst, hrest]

end

/-- Nodes without elements give no trees. -/
theorem trees_of_no_names {ns : List Node} (h : ∀ n ∈ ns, n.name? = none) : trees ns = [] := by
  rw [trees_eq_filterMap, List.filterMap_eq_nil_iff]
  intro n hn
  have hname := h n hn
  rwa [name?_eq_map, Option.map_eq_none_iff] at hname

theorem trees_append (ns ms : List Node) : trees (ns ++ ms) = trees ns ++ trees ms := by
  rw [trees_eq_filterMap, trees_eq_filterMap, trees_eq_filterMap, List.filterMap_append]

end Node

/-! ## Nodes that are looked for -/

/-- Nodes that stand for the given things, one node for each and in their order, among
others that stand apart. -/
inductive Among {α : Type} (apart : Node → Prop) (standsFor : α → Node → Prop) :
    List α → List Node → Prop
  | nil : Among apart standsFor [] []
  | pick {a : α} {n : Node} {as : List α} {ns : List Node} (hn : standsFor a n)
      (h : Among apart standsFor as ns) : Among apart standsFor (a :: as) (n :: ns)
  | skip {n : Node} {as : List α} {ns : List Node} (hn : apart n)
      (h : Among apart standsFor as ns) : Among apart standsFor as (n :: ns)

/-- With nothing between them there is a node for each. -/
theorem Among.map {α : Type} {apart : Node → Prop} {standsFor : α → Node → Prop}
    {write : α → Node} (h : ∀ a, standsFor a (write a)) (as : List α) :
    Among apart standsFor as (as.map write) := by
  induction as with
  | nil => exact .nil
  | cons a as ih => exact .pick (h a) ih

/-- The elements that are looked for are found in order. -/
theorem Among.trees_filter {α : Type} {apart : Node → Prop} {standsFor : α → Node → Prop}
    {p : Element → Bool} {means : α → Element → Prop} {as : List α} {ns : List Node}
    (h : Among apart standsFor as ns)
    (hpick : ∀ a ∈ as, ∀ n, standsFor a n → ∃ e, n.tree? = some e ∧ p e = true ∧ means a e)
    (hskip : ∀ n, apart n → ∀ e, n.tree? = some e → p e = false) :
    List.Forall₂ means as ((Node.trees ns).filter p) := by
  induction h with
  | nil => exact .nil
  | @pick a n as ns hn _ ih =>
    obtain ⟨e, he, hp, hmeans⟩ := hpick a (by simp) n hn
    have htrees : (Node.trees (n :: ns)).filter p = e :: (Node.trees ns).filter p := by
      rw [Node.trees, he]
      exact List.filter_cons_of_pos hp
    rw [htrees]
    exact .cons hmeans (ih fun a ha => hpick a (by simp [ha]))
  | @skip n as ns hn _ ih =>
    have htrees : (Node.trees (n :: ns)).filter p = (Node.trees ns).filter p := by
      rw [Node.trees, List.filter_append]
      cases ht : n.tree? with
      | none => rfl
      | some e => simp [hskip n hn e ht]
    rw [htrees]
    exact ih hpick

/-- A node that is not called by a name is no element with the name. -/
theorem Node.name_ne_of_name? {n : Node} {name : String} (h : n.name? ≠ some name) {e : Element}
    (he : n.tree? = some e) : (e.name == name) = false := by
  rw [Node.name?_eq_map, he] at h
  simpa using h

/-! ## Children -/

namespace Element

/-- A child is the first one of those with its name. -/
theorem child?_eq_head? (e : Element) (name : String) :
    e.child? name = (e.children.filter fun c => c.name == name).head? := by
  rw [child?, List.head?_filter]

/-- Among elements with different names each one is found under its name. -/
theorem find?_of_forall₂ {α : Type} {name text : α → String} {as : List α} {es : List Element}
    (h : List.Forall₂ (fun a e => e.name = name a ∧ e.text = text a) as es)
    (hnodup : (as.map name).Nodup) {a : α} (ha : a ∈ as) :
    ∃ e, es.find? (fun c => c.name == name a) = some e ∧ e.text = text a := by
  induction h with
  | nil => exact absurd ha (by simp)
  | @cons b e as es hbe _ ih =>
    rw [List.map_cons, List.nodup_cons] at hnodup
    rcases List.mem_cons.1 ha with rfl | hmem
    · exact ⟨e, by simp [hbe.1], hbe.2⟩
    · have hne : name b ≠ name a := by
        intro heq
        exact hnodup.1 (heq ▸ List.mem_map_of_mem hmem)
      obtain ⟨e', he', htext⟩ := ih hnodup.2 hmem
      refine ⟨e', ?_, htext⟩
      rw [List.find?_cons_of_neg (by simp [hbe.1, hne])]
      exact he'

/-- The text of a field is found among the children that are called like fields. -/
theorem textAt_of_forall₂ {α : Type} {name text : α → String} {as : List α}
    {names : List String} {e : Element}
    (h : List.Forall₂ (fun a e => e.name = name a ∧ e.text = text a) as
      (e.children.filter fun c => names.contains c.name))
    (hnodup : (as.map name).Nodup) {a : α} (ha : a ∈ as) (hname : name a ∈ names) :
    e.textAt (name a) = text a := by
  obtain ⟨c, hc, htext⟩ := find?_of_forall₂ h hnodup ha
  have hsame : (fun c : Element =>
      decide (names.contains c.name = true ∧ (c.name == name a) = true)) =
      fun c => c.name == name a := by
    funext c
    by_cases hca : c.name = name a
    · simp [hca, hname]
    · simp [hca]
  rw [List.find?_filter, hsame] at hc
  rw [textAt, child?, hc]
  exact htext

end Element

end SapMonitor.Markup
