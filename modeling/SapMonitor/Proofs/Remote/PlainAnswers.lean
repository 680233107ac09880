import SapMonitor.Proofs.Remote.Answers

/-!
# Answers in their plainest form

Every list of records whose values can be sent has a document that carries it: an element for
each record and for each of its fields, with nothing between them and no more escaped than has
to be.

Main results:

- `carries_plainAnswer`: the plain document of a list of records carries it.
-/

namespace SapMonitor.Remote

open Markup (Node Tag Among)

/-! ## Plain documents -/

/-- An element with a bare tag. -/
def plainElement (name : String) (content : List Node) (text : List Char) : Node :=
  .element [] (.bare name) content text

/-- The element of a field. -/
def plainField (f : String × Value) : Node :=
  plainElement f.1 [] (Markup.escape f.2.written.toList)

/-- The item of a record. -/
def plainItem (k : ListKind) (r : k.Record) : Node :=
  plainElement "item" ((k.fields r).map plainField) []

/-- The response with a list of records. -/
def plainResponse (k : ListKind) (records : List k.Record) : Node :=
  plainElement "Response" [plainElement k.list (records.map (plainItem k)) []] []

/-- A document with a list of records. -/
def plainAnswer (k : ListKind) (records : List k.Record) : List Node :=
  [plainElement "Envelope" [plainElement "Body" [plainResponse k records] []] []]

/-! ## They can be read back -/

variable {k : ListKind}

/-- The names of lists and fields can stand in bare tags. -/
theorem bare_sound (k : ListKind) :
    (Tag.bare k.list).Sound ∧ ∀ name ∈ k.fieldNames, (Tag.bare name).Sound := by
  cases k <;> decide

theorem plainElement_sound {name : String} (hname : (Tag.bare name).Sound) {content : List Node}
    (hcontent : ∀ n ∈ content, n.Sound) : (plainElement name content []).Sound := by
  have hnil : Node.Readable [] := Node.readable_of_gap (by simp)
  exact .element hnil hname hcontent hnil

theorem plainItem_sound (r : k.Record) : (plainItem k r).Sound := by
  apply plainElement_sound (by decide)
  intro n hn
  obtain ⟨f, hf, rfl⟩ := List.mem_map.1 hn
  have hname : f.1 ∈ k.fieldNames := by
    rw [← k.map_fst_fields r]
    exact List.mem_map_of_mem hf
  exact .element (Node.readable_of_gap (by simp)) ((bare_sound k).2 _ hname) (by simp)
    (Node.readable_escape _)

theorem plainAnswer_sound (records : List k.Record) :
    ∀ n ∈ plainAnswer k records, n.Sound := by
  have hlist : (plainElement k.list (records.map (plainItem k)) []).Sound := by
    apply plainElement_sound (bare_sound k).1
    intro n hn
    obtain ⟨r, -, rfl⟩ := List.mem_map.1 hn
    exact plainItem_sound r
  have hresponse : (plainResponse k records).Sound :=
    plainElement_sound (by decide) (by simpa using hlist)
  have hbody : (plainElement "Body" [plainResponse k records] []).Sound :=
    plainElement_sound (by decide) (by simpa using hresponse)
  intro n hn
  obtain rfl := List.mem_singleton.1 hn
  exact plainElement_sound (by decide) (by simpa using hbody)

/-! ## They carry their lists -/

theorem plainField_carries (f : String × Value) : CarriesField f (plainField f) :=
  .element String.ofList_toList (Markup.escaped_escape _)

theorem plainItem_carries (r : k.Record) : CarriesItem k r (plainItem k r) :=
  .element rfl (.refl _) (.map plainField_carries _)

theorem plainResponse_carries (records : List k.Record) :
    CarriesResponse k records (plainResponse k records) := by
  have hlist : CarriesList k records (plainElement k.list (records.map (plainItem k)) []) :=
    .element String.ofList_toList (.map plainItem_carries _)
  exact .element (by decide) (.pick hlist .nil)

/-- The plain document of a list of records carries it. -/
theorem carries_plainAnswer (records : List k.Record) :
    Carries k records (plainAnswer k records) [] where
  sound := plainAnswer_sound records
  gap := by simp [plainAnswer, plainElement, Node.before]
  trail := by simp
  envelope := by
    have hbody : CarriesBody k records (plainElement "Body" [plainResponse k records] []) :=
      .element [] [] rfl (by simp) (plainResponse_carries records)
    exact ⟨[], _, [], rfl, .element [] [] (by decide) (by simp [Node.namesAll]) hbody, by simp⟩

end SapMonitor.Remote
