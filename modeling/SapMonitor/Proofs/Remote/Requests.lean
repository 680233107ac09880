import SapMonitor.Proofs.Markup.Building
import SapMonitor.Proofs.Markup.Escaping
import SapMonitor.Remote.Service
import SapMonitor.Remote.Envelope

/-!
# Requests read back

The envelope of an operation is a written document of nodes, one for every parameter, so
whatever reads envelopes finds the operation and its parameters in it.  The value of a
parameter stands inside its element and nowhere else, whatever it looks like.

Main results:

- `requestEnvelope_eq_written`: an envelope is a written document.
- `readDocument_requestEnvelope`: reading an envelope gives the operation and, in order, the
  parameters with their values stripped of white space.
-/

namespace SapMonitor.Remote

open Markup (Element Node Tag isGap isTagChar readDocument)

/-! ## Names -/

/-- A name of an operation: nothing in it ends a name or a tag. -/
def IsOperationName (name : String) : Prop :=
  ∀ c ∈ name.toList, isTagChar c = true

instance (name : String) : Decidable (IsOperationName name) :=
  decidable_of_iff (name.toList.all isTagChar = true) List.all_eq_true

/-- The operations of the service have names. -/
theorem Operation.isOperationName (o : Operation) : IsOperationName o.name := by
  cases o <;> decide

/-- Whether a character may be part of a parameter name: letters, digits and three marks
may. -/
def isNameChar (c : Char) : Bool :=
  c.isAlphanum || c = '_' || c = '-' || c = '.'

/-- A name of a parameter. -/
structure IsParameterName (name : String) : Prop where
  filled : name ≠ ""
  plain : ∀ c ∈ name.toList, isNameChar c = true

instance (name : String) : Decidable (IsParameterName name) :=
  decidable_of_iff (name ≠ "" ∧ name.toList.all isNameChar = true)
    ⟨fun h => ⟨h.1, List.all_eq_true.1 h.2⟩, fun h => ⟨h.filled, List.all_eq_true.2 h.plain⟩⟩

/-- What ends a name or a tag is no part of a parameter name. -/
theorem isTagChar_of_isNameChar {c : Char} (h : isNameChar c = true) : isTagChar c = true := by
  by_contra hc
  simp only [isTagChar, isGap, Bool.not_eq_true, Bool.not_eq_false', Bool.or_eq_true,
    decide_eq_true_eq] at hc
  rcases hc with (((((((rfl | rfl) | rfl) | rfl) | rfl) | rfl) | rfl) | rfl) | rfl <;>
    exact absurd h (by decide)

/-- A character that is no part of parameter names is in none of them. -/
theorem IsParameterName.not_mem {name : String} (h : IsParameterName name) {c : Char}
    (hc : isNameChar c = false) : c ∉ name.toList := by
  intro hmem
  rw [h.plain c hmem] at hc
  cases hc

/-! ## The tags of an envelope -/

/-- The tag of an operation. -/
def operationTag (operation : String) : Tag :=
  { space := some "SAPControl".toList, name := operation.toList }

/-- The tag of the body. -/
def bodyTag : Tag :=
  { space := some "SOAP-ENV".toList, name := "Body".toList }

/-- The tag of the envelope. -/
def envelopeTag : Tag :=
  { space := some "SOAP-ENV".toList
    name := "Envelope".toList
    attributes := (" xmlns:SOAP-ENV=\"" ++ envelopeNamespace ++ "\" xmlns:SAPControl=\"" ++
      serviceNamespace ++ "\"").toList }

theorem bareTag_sound {name : String} (h : IsParameterName name) :
    (Tag.bare name).Sound where
  named := by
    intro hnil
    exact h.filled (String.toList_eq_nil_iff.1 hnil)
  plain := by
    intro c hc
    exact isTagChar_of_isNameChar (h.plain c hc)
  opening := by
    constructor
    · intro hhead
      exact h.not_mem (by decide) (List.mem_of_head? hhead)
    · intro hhead
      exact h.not_mem (by decide) (List.mem_of_head? hhead)
  space := h.not_mem (by decide)
  apart := rfl
  closed := rfl
  filled := by simp [Tag.bare]

theorem operationTag_sound {operation : String} (h : IsOperationName operation) :
    (operationTag operation).Sound where
  named := by simp [operationTag, Tag.qualified]
  plain := by
    intro c hc
    rw [operationTag, Tag.qualified, List.mem_append, List.mem_cons] at hc
    rcases hc with hspace | rfl | hname
    · have hchars : "SAPControl".toList.all isTagChar = true := by decide
      exact List.all_eq_true.1 hchars c hspace
    · decide
    · exact h c hname
  opening := by
    rw [operationTag, Tag.qualified]
    constructor <;> simp
  space := by
    rw [operationTag, Option.getD_some]
    decide
  apart := rfl
  closed := rfl
  filled := by simp [operationTag]

theorem bodyTag_sound : bodyTag.Sound := by
  decide

theorem envelopeTag_sound : envelopeTag.Sound := by
  decide

/-! ## The nodes of an envelope -/

/-- The element of a parameter. -/
def parameterNode (p : String × String) : Node :=
  .element [] (.bare p.1) [] (Markup.escape p.2.toList)

/-- The element of an operation. -/
def operationNode (operation : String) (params : List (String × String)) : Node :=
  .element [] (operationTag operation) (params.map parameterNode) []

/-- The nodes of an envelope. -/
def requestNodes (operation : String) (params : List (String × String)) : List Node :=
  [.instruction [] "xml version=\"1.0\" encoding=\"UTF-8\"".toList,
    .element [] envelopeTag [.element [] bodyTag [operationNode operation params] []] []]

/-- The parameters of an envelope are written one after the other. -/
theorem writtenAll_parameters (params : List (String × String)) :
    Node.writtenAll (params.map parameterNode) = (parameters params).toList := by
  induction params with
  | nil => rfl
  | cons p params ih =>
    rw [List.map_cons, Node.writtenAll, ih, parameters, String.toList_append, parameter_eq]
    simp [parameterNode, Node.written, Node.writtenAll, Tag.bare, Tag.inside, Tag.qualified]

/-- What an envelope has before the name of the operation. -/
def requestFront : String :=
  "<?xml version=\"1.0\" encoding=\"UTF-8\"?>" ++
    "<SOAP-ENV:Envelope xmlns:SOAP-ENV=\"" ++ envelopeNamespace ++
    "\" xmlns:SAPControl=\"" ++ serviceNamespace ++ "\">" ++ "<SOAP-ENV:Body><SAPControl:"

theorem toList_requestFront : requestFront.toList =
    '<' :: '?' :: ("xml version=\"1.0\" encoding=\"UTF-8\"".toList ++ ['?', '>']) ++
      '<' :: (envelopeTag.inside ++ '>' :: '<' :: (bodyTag.inside ++ '>' :: '<' ::
        "SAPControl:".toList)) := by
  decide +kernel

/-- What an envelope has after its operation. -/
def requestBack : String :=
  "></SOAP-ENV:Body></SOAP-ENV:Envelope>"

theorem toList_requestBack : requestBack.toList =
    '>' :: '<' :: '/' :: (bodyTag.qualified ++ '>' :: '<' :: '/' ::
      (envelopeTag.qualified ++ ['>'])) := by
  decide

/-- An envelope is a written document. -/
theorem requestEnvelope_eq_written (operation : String) (params : List (String × String)) :
    (requestEnvelope operation params).toList =
      Node.writtenAll (requestNodes operation params) := by
  have hsplit : requestEnvelope operation params = requestFront ++ operation ++ ">" ++
      parameters params ++ "</SAPControl:" ++ operation ++ requestBack := rfl
  have hoperation : (operationTag operation).qualified =
      "SAPControl:".toList ++ operation.toList := rfl
  have hinside : (operationTag operation).inside =
      "SAPControl:".toList ++ operation.toList := by
    rw [Tag.inside, hoperation]
    exact List.append_nil _
  have hend : "</SAPControl:".toList = '<' :: '/' :: "SAPControl:".toList := by decide
  have hclose : ">".toList = ['>'] := by decide
  rw [hsplit]
  simp only [String.toList_append, toList_requestFront, toList_requestBack, hend, hclose]
  simp only [requestNodes, operationNode, Node.writtenAll, Node.written, writtenAll_parameters,
    hinside, hoperation, List.nil_append, List.append_nil, List.append_assoc, List.cons_append]

/-- The nodes of an envelope can be read. -/
theorem requestNodes_sound {operation : String} (hoperation : IsOperationName operation)
    {params : List (String × String)} (hparams : ∀ p ∈ params, IsParameterName p.1) :
    ∀ n ∈ requestNodes operation params, n.Sound := by
  have hnil : Node.Readable [] := Node.readable_of_gap (by simp)
  have hparam : ∀ n ∈ params.map parameterNode, n.Sound := by
    intro n hn
    obtain ⟨p, hp, rfl⟩ := List.mem_map.1 hn
    exact .element hnil (bareTag_sound (hparams p hp)) (by simp) (Node.readable_escape _)
  have hop : (operationNode operation params).Sound :=
    .element hnil (operationTag_sound hoperation) hparam hnil
  have hbody : (Node.element [] bodyTag [operationNode operation params] []).Sound :=
    .element hnil bodyTag_sound (by simpa using hop) hnil
  intro n hn
  simp only [requestNodes, List.mem_cons, List.not_mem_nil, or_false] at hn
  rcases hn with rfl | rfl
  · exact .instruction hnil (by decide) (by decide)
  · exact .element hnil envelopeTag_sound (by simpa using hbody) hnil

/-! ## What an envelope says -/

/-- The element that a parameter is read as. -/
def parameterElement (p : String × String) : Element :=
  .mk p.1 (String.ofList (Text.strip isGap p.2.toList)) []

theorem tree?_parameterNode (p : String × String) :
    (parameterNode p).tree? = some (parameterElement p) := by
  simp [parameterNode, parameterElement, Node.tree?, Node.trees, Node.textOf_escape, Tag.bare]

/-- The parameters of an envelope give no text and an element each. -/
theorem trees_parameters (params : List (String × String)) :
    Node.trees (params.map parameterNode) = params.map parameterElement := by
  have hsome : Node.tree? ∘ parameterNode = some ∘ parameterElement :=
    funext tree?_parameterNode
  rw [Node.trees_eq_filterMap, List.filterMap_map, hsome, List.filterMap_eq_map]

theorem said_parameters (params : List (String × String)) :
    (params.map parameterNode).flatMap Node.said = [] := by
  rw [List.flatMap_eq_nil_iff]
  intro n hn
  obtain ⟨p, -, rfl⟩ := List.mem_map.1 hn
  rfl

/-- Whatever the values of its parameters are, an envelope is read as the operation with its
parameters in order, each with its value stripped of white space as its text. -/
theorem readDocument_requestEnvelope {operation : String}
    (hoperation : IsOperationName operation) {params : List (String × String)}
    (hparams : ∀ p ∈ params, IsParameterName p.1) :
    readDocument (requestEnvelope operation params).toList =
      .ok (.mk "Envelope" "" [.mk "Body" "" [.mk operation ""
        (params.map fun p => .mk p.1 (String.ofList (Text.strip isGap p.2.toList)) [])]]) := by
  have htrees : Node.trees (requestNodes operation params) =
      [.mk "Envelope" "" [.mk "Body" "" [.mk operation "" (params.map parameterElement)]]] := by
    have hnil : Node.textOf [] = [] := rfl
    simp [requestNodes, operationNode, Node.trees, Node.tree?, Node.said, Node.before, hnil,
      trees_parameters, said_parameters, envelopeTag, bodyTag, operationTag]
  have hgap : ∀ n ∈ requestNodes operation params, ∀ c ∈ n.before, isGap c = true := by
    simp [requestNodes, Node.before]
  have htrail : ∀ c ∈ ([] : List Char), isGap c = true := by simp
  rw [requestEnvelope_eq_written, ← List.append_nil (Node.writtenAll _)]
  apply Markup.readDocument_written (requestNodes_sound hoperation hparams) hgap htrail
  rw [htrees]
  rfl

/-- A value that looks like the end of its element, a reference and the end of a verbatim
section, and one that is blank. -/
theorem readDocument_requestEnvelope_markup :
    IsOperationName "GetSystemInstanceList" ∧
    (∀ p ∈ [("timeout", " </timeout><x a='1'/>&lt;&#60;]]>\n"), ("timeout", "\t\r")],
      IsParameterName p.1) ∧
    readDocument (requestEnvelope "GetSystemInstanceList"
        [("timeout", " </timeout><x a='1'/>&lt;&#60;]]>\n"), ("timeout", "\t\r")]).toList =
      .ok (.mk "Envelope" "" [.mk "Body" "" [.mk "GetSystemInstanceList" ""
        [.mk "timeout" "</timeout><x a='1'/>&lt;&#60;]]>" [], .mk "timeout" "" []]]]) := by
  have hoperation : IsOperationName "GetSystemInstanceList" := by decide
  have hparams : ∀ p ∈ [("timeout", " </timeout><x a='1'/>&lt;&#60;]]>\n"), ("timeout", "\t\r")],
      IsParameterName p.1 := by
    decide
  have hvalue : String.ofList (Text.strip isGap " </timeout><x a='1'/>&lt;&#60;]]>\n".toList) =
      "</timeout><x a='1'/>&lt;&#60;]]>" := by
    decide
  have hblank : String.ofList (Text.strip isGap "\t\r".toList) = "" := by decide
  have hread := readDocument_requestEnvelope hoperation hparams
  simp only [List.map_cons, List.map_nil, hvalue, hblank] at hread
  exact ⟨hoperation, hparams, hread⟩

end SapMonitor.Remote
