import SapMonitor.Http.Status
import SapMonitor.Markup.Document

/-!
# Why a call of the web service fails

Every call of the service ends in a record or in one of these causes.  A cause
can be wrapped by the operation it stopped, as often as needed; the wording of
the wrapped cause follows that of the operation.
-/

namespace SapMonitor.Remote

/-- Why a call of the web service fails. -/
inductive RemoteError where
  /-- The answer has a status that carries no record. -/
  | http (status : Http.Status) (text : String)
  /-- The request could not be sent, or its task was lost. -/
  | request (text : String)
  /-- The markup of the answer is faulty. -/
  | markup (cause : Markup.MarkupError)
  /-- The answer is no envelope, or a number in it is none. -/
  | answer (text : String)
  /-- The service reports a fault of its own. -/
  | fault (code text : String)
  /-- The deadline of the scrape passed. -/
  | deadline (text : String)
  /-- No access point named any instance. -/
  | noInstances (text : String)
  /-- The cached value records a failure. -/
  | unavailable (text : String)
  /-- The text is no state colour. -/
  | stateColor (value : String)
  /-- The cause stopped an operation. -/
  | within (operation : String) (cause : RemoteError)

instance : Inhabited RemoteError := ⟨.request ""⟩

namespace RemoteError

/-- The wording of a cause. -/
def message : RemoteError → String
  | http status text => "HTTP error (" ++ status.text ++ "): " ++ text
  | request text => "Request failed: " ++ text
  | markup cause => "XML parse error: " ++ cause.message
  | answer text => "Response parse error: " ++ text
  | fault code text => "SOAP fault (" ++ code ++ "): " ++ text
  | deadline text => "Deadline exceeded: " ++ text
  | noInstances text => "No instances found: " ++ text
  | unavailable text => "Cache retrieval error: " ++ text
  | stateColor value => "Invalid STATECOLOR value: " ++ Text.quote value
  | within operation cause => operation ++ ": " ++ cause.message

/-- The cause inside all wrappings. -/
def root : RemoteError → RemoteError
  | within _ cause => cause.root
  | e => e

/-- A fault of a document as a cause: faults of the markup keep their kind, the
others are faults of the answer. -/
def ofDocument : Markup.DocumentError → RemoteError
  | .markup cause => markup cause
  | e => answer e.message

end RemoteError

end SapMonitor.Remote
