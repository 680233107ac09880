import SapMonitor.Proofs.Markup.Building
import SapMonitor.Proofs.Markup.Escaping
import SapMonitor.Proofs.Remote.Fields
import SapMonitor.Remote.Envelope

/-!
# Answers read back

An answer is an envelope whose body begins with a response, which holds a list with an item
for every record.  This module says which documents carry a list of records: whatever the
decoder does not look for may stand between the elements, the fields of an item may come in
any order, and every element may have a prefix and attributes.

Main results:

- `CarriesItem.item_tree`: an item is decoded to its record.
- `CarriesResponse.read_tree`: a response is decoded to its records.
- `read_carried`: a document that carries a list of records is decoded to the list.
-/

namespace SapMonitor.Remote

open Markup (Element Node Tag Among Escaped isGap readDocument)

/-! ## Documents that carry records -/

/-- A node that holds a field of a record: an element with the escaped text. -/
inductive CarriesField : String × Value → Node → Prop
  | element {f : String × Value} {before raw : List Char} {tag : Tag}
      (hname : String.ofList tag.name = f.1) (hraw : Escaped f.2.written.toList raw) :
      CarriesField f (.element before tag [] raw)
  /-- An empty text may have an empty element. -/
  | empty {f : String × Value} {before : List Char} {tag : Tag}
      (hname : String.ofList tag.name = f.1) (htext : f.2.written = "") :
      CarriesField f (.empty before tag)

/-- A node that is an item with the fields of a record, in any order and among nodes that
are not called like fields. -/
inductive CarriesItem (k : ListKind) : k.Record → Node → Prop
  | element {r : k.Record} {before after : List Char} {tag : Tag} {content : List Node}
      {fields : List (String × Value)} (hname : String.ofList tag.name = "item")
      (hfields : fields.Perm (k.fields r))
      (hcontent : Among (fun n => ∀ name ∈ k.fieldNames, n.name? ≠ some name) CarriesField
        fields content) :
      CarriesItem k r (.element before tag content after)

/-- A node that is the list of records, among nodes that are not called like items. -/
inductive CarriesList (k : ListKind) : List k.Record → Node → Prop
  | element {records : List k.Record} {before after : List Char} {tag : Tag}
      {content : List Node} (hname : String.ofList tag.name = k.list)
      (hcontent : Among (fun n => n.name? ≠ some "item") (CarriesItem k) records content) :
      CarriesList k records (.element before tag content after)
  /-- A list without records may have an empty element. -/
  | empty {before : List Char} {tag : Tag} (hname : String.ofList tag.name = k.list) :
      CarriesList k [] (.empty before tag)

/-- A node that is a response with the list of records, among nodes that are not called like
the list. -/
inductive CarriesResponse (k : ListKind) : List k.Record → Node → Prop
  | element {records : List k.Record} {before after : List Char} {tag : Tag}
      {content : List Node} (hname : String.ofList tag.name ≠ "Fault")
      (hcontent : Among (fun n => n.name? ≠ some k.list) (CarriesList k) [records] content) :
      CarriesResponse k records (.element before tag content after)

/-- A node that is a body whose first element is the response. -/
inductive CarriesBody (k : ListKind) : List k.Record → Node → Prop
  | element {records : List k.Record} {before after : List Char} {tag : Tag}
      (front rest : List Node) {response : Node} (hname : String.ofList tag.name = "Body")
      (hfront : ∀ n ∈ front, n.name? = none) (hresponse : CarriesResponse k records response) :
      CarriesBody k records (.element before tag (front ++ response :: rest) after)

/-- A node that is an envelope with the body, and no element called like it before. -/
inductive CarriesEnvelope (k : ListKind) : List k.Record → Node → Prop
  | element {records : List k.Record} {before after : List Char} {tag : Tag}
      (front rest : List Node) {body : Node} (hname : String.ofList tag.name ≠ "Body")
      (hfront : "Body" ∉ Node.namesAll front) (hbody : CarriesBody k records body) :
      CarriesEnvelope k records (.element before tag (front ++ body :: rest) after)

/-- A document that carries a list of records: an envelope between nodes that are no
elements, with white space alone around them. -/
structure Carries (k : ListKind) (records : List k.Record) (ns : List Node)
    (trail : List Char) : Prop where
  sound : ∀ n ∈ ns, n.Sound
  /-- Nothing but white space is outside of the elements. -/
  gap : ∀ n ∈ ns, ∀ c ∈ n.before, isGap c = true
  trail : ∀ c ∈ trail, isGap c = true
  envelope : ∃ front envelope rest, ns = front ++ envelope :: rest ∧
    CarriesEnvelope k records envelope ∧ ∀ n ∈ front ++ rest, n.name? = none

/-! ## Decoding -/

variable {k : ListKind} {records : List k.Record}

/-- A field is found under its name. -/
theorem CarriesField.tree {f : String × Value} {n : Node} (h : CarriesField f n)
    (hsound : f.2.Sound) : ∃ e, n.tree? = some e ∧ e.name = f.1 ∧ e.text = f.2.written := by
  cases h with
  | element hname hraw =>
    refine ⟨_, rfl, hname, ?_⟩
    obtain ⟨hhead, hlast⟩ := hsound.ends
    rw [Element.text_mk, List.flatMap_nil, List.nil_append,
      Node.textOf_of_escaped hraw hhead hlast, String.ofList_toList]
  | empty hname htext => exact ⟨_, rfl, hname, htext.symm⟩

/-- An item is decoded to its record. -/
theorem CarriesItem.item_tree {r : k.Record} {n : Node} (h : CarriesItem k r n)
    (hsound : ∀ f ∈ k.fields r, f.2.Sound) :
    ∃ e, n.tree? = some e ∧ (e.name == "item") = true ∧ k.item e = .ok r := by
  cases h with
  | @element before after tag content fields hname hfields hcontent =>
    have hnames : (fields.map Prod.fst).Perm k.fieldNames := by
      rw [← k.map_fst_fields r]
      exact hfields.map _
    have hnodup : (fields.map Prod.fst).Nodup := hnames.nodup_iff.2 k.nodup_fieldNames
    have hfound : List.Forall₂ (fun f e => e.name = f.1 ∧ e.text = f.2.written) fields
        ((Node.trees content).filter fun c => k.fieldNames.contains c.name) := by
      apply hcontent.trees_filter
      · intro f hf n hn
        obtain ⟨e, he, hname, htext⟩ := hn.tree (hsound f (hfields.mem_iff.1 hf))
        have hmem : f.1 ∈ k.fieldNames := hnames.mem_iff.1 (List.mem_map_of_mem hf)
        exact ⟨e, he, by simpa [hname] using hmem, hname, htext⟩
      · intro n hn e he
        rw [List.contains_eq_mem, decide_eq_false_iff_not]
        intro hmem
        have hne := Node.name_ne_of_name? (hn _ hmem) he
        simp at hne
    refine ⟨_, rfl, beq_iff_eq.2 hname, ListKind.item_of_fields hsound ?_⟩
    intro f hf
    have hmem := hfields.mem_iff.2 hf
    have hname := hnames.mem_iff.1 (List.mem_map_of_mem hmem)
    exact Element.textAt_of_forall₂ (e := .mk _ _ _) hfound hnodup hmem hname

/-- The items of a list are decoded to its records. -/
theorem mapM_item {es : List Element}
    (h : List.Forall₂ (fun r e => k.item e = .ok r) records es) : es.mapM k.item = .ok records := by
  induction h with
  | nil => rfl
  | cons hitem _ ih =>
    rw [List.mapM_cons, hitem, ih]
    rfl

/-- The items of a list are those of its records. -/
theorem CarriesList.tree {n : Node} (h : CarriesList k records n)
    (hsound : ∀ r ∈ records, ∀ f ∈ k.fields r, f.2.Sound) :
    ∃ e, n.tree? = some e ∧ (e.name == k.list) = true ∧
      List.Forall₂ (fun r e => k.item e = .ok r) records
        (e.children.filter fun c => c.name == "item") := by
  cases h with
  | element hname hcontent =>
    refine ⟨_, rfl, beq_iff_eq.2 hname, ?_⟩
    apply hcontent.trees_filter
    · intro r hr n hn
      exact hn.item_tree (hsound r hr)
    · intro n hn e he
      exact Node.name_ne_of_name? hn he
  | empty hname => exact ⟨_, rfl, beq_iff_eq.2 hname, .nil⟩

/-- A response is decoded to its records. -/
theorem CarriesResponse.read_tree {n : Node} (h : CarriesResponse k records n)
    (hsound : ∀ r ∈ records, ∀ f ∈ k.fields r, f.2.Sound) :
    ∃ e, n.tree? = some e ∧ e.name ≠ "Fault" ∧ k.read e = .ok records := by
  cases h with
  | @element before after tag content hname hcontent =>
    refine ⟨_, rfl, hname, ?_⟩
    have hlist : List.Forall₂ (fun rs e => List.Forall₂ (fun r e => k.item e = .ok r) rs
        (e.children.filter fun c => c.name == "item")) [records]
        ((Node.trees content).filter fun c => c.name == k.list) := by
      apply hcontent.trees_filter
      · intro rs hrs n hn
        obtain rfl : rs = records := by simpa using hrs
        exact hn.tree hsound
      · intro n hn e he
        exact Node.name_ne_of_name? hn he
    rw [ListKind.read_eq_listOf, listOf, Element.items, Element.child?_eq_head?]
    rw [Element.children_mk]
    cases hfound : (Node.trees content).filter fun c => c.name == k.list with
    | nil =>
      rw [hfound] at hlist
      cases hlist
    | cons l rest =>
      rw [hfound] at hlist
      cases hlist with
      | cons hitems _ => exact mapM_item hitems

/-! ## Envelopes -/

/-- The response is the first element of a body that it is carried in. -/
theorem CarriesBody.tree {n : Node} (h : CarriesBody k records n)
    (hsound : ∀ r ∈ records, ∀ f ∈ k.fields r, f.2.Sound) :
    ∃ e, n.tree? = some e ∧ e.name = "Body" ∧
      ∃ first rest, e.children = first :: rest ∧ first.name ≠ "Fault" ∧
        k.read first = .ok records := by
  cases h with
  | @element before after tag front rest response hname hfront hresponse =>
    obtain ⟨first, hfirst, hfault, hread⟩ := hresponse.read_tree hsound
    refine ⟨_, rfl, hname, first, Node.trees rest, ?_, hfault, hread⟩
    rw [Element.children_mk, Node.trees_append, Node.trees_of_no_names hfront, Node.trees, hfirst]
    rfl

/-- The response of a document is found in its envelope. -/
theorem CarriesEnvelope.read_response {n : Node} (h : CarriesEnvelope k records n)
    (hsound : ∀ r ∈ records, ∀ f ∈ k.fields r, f.2.Sound) (operation : String) :
    ∃ e, n.tree? = some e ∧ (response e operation).bind k.read = .ok records := by
  cases h with
  | @element before after tag front rest body hname hfront hbody =>
    obtain ⟨b, hb, hbname, first, others, hchildren, hfault, hread⟩ := hbody.tree hsound
    refine ⟨_, rfl, ?_⟩
    have hself : b.find? "Body" = some b := by
      cases b with
      | mk name text children =>
        obtain rfl : name = "Body" := hbname
        exact Element.find?_self ..
    have hfind : Element.findIn? "Body" (Node.trees (front ++ body :: rest)) = some b := by
      rw [Node.trees_append, Element.findIn?_append, Node.findIn?_of_not_mem front hfront,
        Node.trees, hb, Option.none_or, Option.toList_some, List.singleton_append, Element.findIn?,
        hself, Option.some_or]
    have hne : (String.ofList tag.name == "Body") = false := by simpa using hname
    rw [response, Element.find?, hne]
    simp only [Bool.false_eq_true, if_false, hfind, hchildren, hfault]
    exact hread

/-- A document that carries a list of records is decoded to the list, whatever operation is
said to have been asked for. -/
theorem read_carried {ns : List Node} {trail : List Char} (h : Carries k records ns trail)
    (hsound : ∀ r ∈ records, ∀ f ∈ k.fields r, f.2.Sound) (operation : String) :
    ((document (String.ofList (Node.writtenAll ns ++ trail))).bind fun d =>
      (response d operation).bind k.read) = .ok records := by
  obtain ⟨front, envelope, rest, rfl, henvelope, hothers⟩ := h.envelope
  obtain ⟨e, he, hread⟩ := henvelope.read_response hsound operation
  have htrees : (Node.trees (front ++ envelope :: rest)).getLast? = some e := by
    rw [Node.trees_append, Node.trees_of_no_names fun n hn => hothers n (by simp [hn]), Node.trees,
      he, Node.trees_of_no_names fun n hn => hothers n (by simp [hn])]
    rfl
  rw [document, String.toList_ofList, Markup.readDocument_written h.sound h.gap h.trail htrees]
  exact hread

/-! ### An example -/

/-- A queue whose type needs escaping and whose numbers are at the ends of their range. -/
def busyQueue : Queue :=
  { type := "ABAP/<NOWP> & \"co\"", now := -2147483648, high := 2147483647, max := 0, writes := -1,
    reads := 10 }

/-- A field of a queue without white space around it. -/
def bareField (f : String × Value) : Node :=
  .element [] { space := some ['q'], name := f.1.toList } []
    (Markup.escape f.2.written.toList)

/-- The item of a queue: its fields in another order, with a comment and elements of other
names between them. -/
def busyItem : Node :=
  .element ['\n'] { space := none, name := "item".toList }
    [.comment [' '] " <Typ>none</Typ> ".toList, bareField ("Now", .number (-2147483648)),
      .empty ['\t'] { space := none, name := "Peak".toList },
      bareField ("Typ", .text busyQueue.type), bareField ("Max", .number 0),
      .element [] { space := none, name := "details".toList }
        [.empty [] { space := none, name := "High".toList }] [],
      bareField ("Reads", .number 10), bareField ("Writes", .number (-1)),
      bareField ("High", .number 2147483647)]
    ['\r', '\n']

/-- A response with the queue. -/
def busyResponse : Node :=
  .element [] { space := some ['s'], name := "GetQueueStatisticResponse".toList }
    [.element [] { space := none, name := "queue".toList }
      [.empty [] { space := none, name := "count".toList }, busyItem] []] []

/-- A document with the queue, and an item that is none before its body. -/
def busyAnswer : List Node :=
  [.instruction [] "xml version='1.0'".toList,
    .element ['\n']
      { space := some ['e'], name := "Envelope".toList, attributes := " a='>'".toList }
      [.element [] { space := some ['e'], name := "Header".toList }
          [.empty [] { space := none, name := "item".toList }] [],
        .element [] { space := some ['e'], name := "Body".toList }
          [.comment [] "first".toList, busyResponse] []]
      []]

theorem read_carried_busy :
    Carries .queues [busyQueue] busyAnswer ['\n'] ∧
    (∀ r ∈ [busyQueue], ∀ f ∈ ListKind.queues.fields r, f.2.Sound) ∧
    ((document (String.ofList (Node.writtenAll busyAnswer ++ ['\n']))).bind fun d =>
      (response d "GetQueueStatistic").bind ListKind.queues.read) = .ok [busyQueue] := by
  have hfield (f : String × Value) : CarriesField f (bareField f) :=
    .element (String.ofList_toList) (Markup.escaped_escape _)
  have hfields : List.Perm [("Now", .number (-2147483648)), ("Typ", .text busyQueue.type),
      ("Max", .number 0), ("Reads", .number 10), ("Writes", .number (-1)),
      ("High", .number 2147483647)] (ListKind.queues.fields busyQueue) := by
    decide
  have hitem : CarriesItem .queues busyQueue busyItem :=
    .element rfl hfields (.skip (by decide) (.pick (hfield _) (.skip (by decide)
      (.pick (hfield _) (.pick (hfield _) (.skip (by decide) (.pick (hfield _)
        (.pick (hfield _) (.pick (hfield _) .nil)))))))))
  have hresponse : CarriesResponse .queues [busyQueue] busyResponse :=
    .element (by decide) (.pick (.element rfl (.skip (by decide) (.pick hitem .nil))) .nil)
  have hcarries : Carries .queues [busyQueue] busyAnswer ['\n'] :=
    { sound := by decide +kernel
      gap := by simp [busyAnswer, Node.before, isGap]
      trail := by simp [isGap]
      envelope := ⟨[.instruction [] _], _, [], rfl,
        .element [_] [] (by decide) (by decide)
          (.element [.comment [] _] [] rfl (by decide) hresponse),
        by decide⟩ }
  have hsound : ∀ r ∈ [busyQueue], ∀ f ∈ ListKind.queues.fields r, f.2.Sound := by
    intro r hr
    obtain rfl : r = busyQueue := by simpa using hr
    decide
  exact ⟨hcarries, hsound, read_carried hcarries hsound "GetQueueStatistic"⟩

end SapMonitor.Remote
