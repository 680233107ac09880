import SapMonitor.Http.Network
import SapMonitor.Settings.Validate
import SapMonitor.Remote.Decode
import SapMonitor.Remote.Envelope
import SapMonitor.Remote.Service

/-!
# The web service behind a network

A call posts the envelope of an operation to an access point and decodes the
answer: completely, or not at all.  The list of instances is asked for at the
access point of the settings and then at two well-known ones, until one of them
names an instance.

Main results:

- `decode_of_ok`: an answer with the status of success is its decoded response.
- `decode_of_other`: an answer with a status beside success and service fault
  is an error that shows its body.
-/

namespace SapMonitor.Remote

open Http (Network Status)
open Markup (Element)

/-! ## Answers -/

/-- What an operation was asked of, in messages. -/
def target (o : Operation) (url : String) : String :=
  o.name ++ " endpoint=" ++ url

/-- The response of an answer that may be an envelope.  A body that is no
document is reported by its status unless that is success. -/
def openAnswer (o : Operation) (url : String) (status : Status) (body : String) :
    Outcome Element :=
  match document body with
  | .error e =>
    if status = .ok then .error (.within (target o url) e) else .error (.http status body)
  | .ok d => (response d o.name).mapError (.within (target o url))

/-- The record of an answer. -/
def decode {α : Type} (o : Operation) (url : String) (read : Element → Outcome α)
    (status : Status) (body : String) : Outcome α :=
  if status = .ok || status = .internalServerError then
    match openAnswer o url status body with
    | .error e => .error e
    | .ok r => if status = .ok then read r else .error (.http status body)
  else .error (.http status (target o url ++ ": " ++ body))

/-- An answer with the status of success is its decoded response. -/
theorem decode_of_ok {α : Type} (o : Operation) (url : String) (read : Element → Outcome α)
    (body : String) :
    decode o url read .ok body = (openAnswer o url .ok body).bind read := by
  simp only [decode, decide_true, Bool.true_or, if_true]
  cases openAnswer o url .ok body <;> rfl

/-- An answer with a status beside success and service fault is an error that
shows its body. -/
theorem decode_of_other {α : Type} (o : Operation) (url : String) (read : Element → Outcome α)
    {status : Status} (body : String) (h1 : status ≠ .ok) (h2 : status ≠ .internalServerError) :
    decode o url read status body = .error (.http status (target o url ++ ": " ++ body)) := by
  simp [decode, h1, h2]

/-! ## Calls -/

/-- How the service is reached. -/
structure Access where
  /-- The address of the central instance, without a slash at its end. -/
  base : String
  accessPoint : String
  credentials : Option Http.Credentials

/-- The access of settings; without a user there are no credentials. -/
def Access.ofSettings (s : Settings) : Access :=
  { base := Settings.dropSlashes s.sapControlUrl
    accessPoint := s.accessPoint
    credentials := if s.user.isEmpty then none else some (.ofTexts s.user s.password) }

namespace Access

variable {σ α : Type}

/-- The post of an operation. -/
def post (a : Access) (url : String) (o : Operation) (params : List (String × String))
    (limit : Time.Span) : Http.Post :=
  { address := url
    headers := [("Content-Type", "text/xml; charset=utf-8"), ("SOAPAction", "\"\"")]
    credentials := a.credentials
    body := requestEnvelope o.name params
    limit := limit }

/-- Makes a call. -/
def call (a : Access) (n : Network σ) (d : Deadline) (url : String) (o : Operation)
    (params : List (String × String)) (read : Element → Outcome α) : Work σ (Outcome α) := do
  let now ← Work.now
  match ← n.post (a.post url o params (d.remaining now)) with
  | .error reason =>
    return .error (.request (o.name ++ " failed, endpoint=" ++ url ++ ", err=" ++ reason))
  | .ok answer =>
    match answer.body with
    | .error reason => return .error (.http answer.status ("Failed to read response: " ++ reason))
    | .ok body => return decode o url read answer.status body

/-- The URL of the access point of an instance. -/
def urlAt (a : Access) (endpoint : String) : String :=
  Settings.dropSlashes endpoint ++ a.accessPoint

/-- The access points that serve without being set. -/
def wellKnown : List String :=
  ["/SAPControl.cgi", "/sap/bc/webdynpro/sap/dba_control"]

/-- The access points to try, each once. -/
def accessPoints (a : Access) : List String :=
  a.accessPoint :: wellKnown.filter (· ≠ a.accessPoint)

/-- The failure of all attempts. -/
def exhausted (reasons : List String) : RemoteError :=
  .noInstances ("GetSystemInstanceList: failed to get instances from any endpoint: " ++
    Text.joinWith ", " reasons)

/-- Asks one URL after the other for instances, collecting the reasons of those
that name none.  A failed attempt is the last one if the deadline has passed. -/
def tryEach (ask : String → Work σ (Outcome (List Instance))) (d : Deadline)
    (reasons : List String) : List String → Work σ (Outcome (List Instance))
  | [] => return .error (exhausted reasons)
  | url :: rest => do
    match ← ask url with
    | .ok [] => tryEach ask d (reasons ++ ["no instances found at " ++ url]) rest
    | .ok (i :: is) => return .ok (i :: is)
    | .error e =>
      let now ← Work.now
      if d.hasPassed now then return .error (exhausted (reasons ++ [e.message]))
      else tryEach ask d (reasons ++ [e.message]) rest

/-- The service behind a network. -/
def service (a : Access) (n : Network σ) : ControlService σ :=
  let ask {α : Type} (o : Operation) (read : Element → Outcome α) (d : Deadline)
      (endpoint : String) : Work σ (Outcome α) :=
    a.call n d (a.urlAt endpoint) o [] read
  { systemInstances := fun d =>
      tryEach (fun url => a.call n d url .systemInstances [("timeout", "0")] Remote.instances) d []
        (a.accessPoints.map (a.base ++ ·))
    properties := fun d endpoint => some <$> ask .properties Remote.properties d endpoint
    processes := ask .processes Remote.processes
    queues := ask .queues Remote.queues
    alerts := ask .alerts Remote.alertTree
    workProcesses := ask .workProcesses Remote.workProcesses
    lockStatistic := ask .lockStatistic Remote.lockStatistic }

end Access

end SapMonitor.Remote
