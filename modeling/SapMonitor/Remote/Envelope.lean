import SapMonitor.Remote.Error

/-!
# Envelopes

A request wraps the operation and its parameters in an envelope; an answer
wraps the response, or a fault, in the body of an envelope.

Main results:

- `parameter_eq` is the written form of a parameter.
- `response_of_no_body`: a document without a body carries no response.
-/

namespace SapMonitor.Remote

open Markup (Element)

/-! ## Requests -/

/-- The namespace of envelopes. -/
def envelopeNamespace : String := "http://schemas.xmlsoap.org/soap/envelope/"

/-- The namespace of the operations. -/
def serviceNamespace : String := "urn:SAPControl"

/-- A parameter element with its value escaped. -/
def parameter (p : String × String) : String :=
  "<" ++ p.1 ++ ">" ++ String.ofList (Markup.escape p.2.toList) ++ "</" ++ p.1 ++ ">"

/-- The parameter elements one after the other. -/
def parameters : List (String × String) → String
  | [] => ""
  | p :: ps => parameter p ++ parameters ps

/-- The written form of a parameter. -/
theorem parameter_eq (name value : String) :
    (parameter (name, value)).toList =
      '<' :: name.toList ++ '>' :: Markup.escape value.toList ++ '<' :: '/' :: name.toList ++
        ['>'] := by
  simp [parameter]

/-- The envelope that asks for an operation. -/
def requestEnvelope (operation : String) (params : List (String × String)) : String :=
  "<?xml version=\"1.0\" encoding=\"UTF-8\"?>" ++
    "<SOAP-ENV:Envelope xmlns:SOAP-ENV=\"" ++ envelopeNamespace ++
    "\" xmlns:SAPControl=\"" ++ serviceNamespace ++ "\">" ++
    "<SOAP-ENV:Body><SAPControl:" ++ operation ++ ">" ++ parameters params ++
    "</SAPControl:" ++ operation ++ "></SOAP-ENV:Body></SOAP-ENV:Envelope>"

/-! ## Answers -/

/-- The text of a fault: its own text, or that of the first message inside. -/
def faultText (fault : Element) : String :=
  let text := fault.textAt "faultstring"
  if text.isEmpty then
    match fault.find? "message" with
    | some m => m.text
    | none => ""
  else text

/-- The response in the body of an envelope.  The response is the first child of
the first body, whatever its name, unless that child is a fault. -/
def response (document : Element) (operation : String) : Except RemoteError Element :=
  match document.find? "Body" with
  | none => .error (.answer (operation ++ ": no SOAP body"))
  | some body =>
    match body.children with
    | [] => .error (.answer (operation ++ ": empty SOAP body"))
    | first :: _ =>
      if first.name = "Fault" then
        .error (.fault (first.textAt "faultcode") (faultText first))
      else .ok first

/-- A document without a body carries no response. -/
theorem response_of_no_body {document : Element} (h : document.find? "Body" = none)
    (operation : String) :
    response document operation = .error (.answer (operation ++ ": no SOAP body")) := by
  simp [response, h]

/-- The tree of a text, or the cause. -/
def document (body : String) : Except RemoteError Element :=
  (Markup.readDocument body.toList).mapError .ofDocument

end SapMonitor.Remote
