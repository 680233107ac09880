import SapMonitor.Http.Network
import SapMonitor.LogStore.Streams
import SapMonitor.Settings.Basic

/-!
# Pushing log lines

The client adds its own name to a line, puts the line into its stream and
pushes batches to the log store.  What was taken for a push is gone, whether the
push succeeds or not.
-/

namespace SapMonitor.LogStore

open Time (Span)
open Http (Network)

/-! ## Settings of the client -/

/-- How lines are pushed. -/
structure ClientSettings where
  address : String
  name : String
  tenant : String
  wait : Span
  batch : Nat
  timeout : Span
  /-- The seconds that the clock of the system is ahead of universal time. -/
  offset : Int

/-- The offset that a setting means: universal time if it cannot be read. -/
def offsetOf (raw : String) : Int × List Note :=
  match Time.readOffset raw.toList with
  | .ok offset => (offset, [])
  | .error e =>
    (0, [⟨.error, "Option loki_time_offset incorrect (" ++ raw ++ "): " ++ e.message ++
      ". Use UTC"⟩])

/-- The settings of the client, if lines are to be pushed at all. -/
def ClientSettings.ofSettings (s : Settings) : Option ClientSettings × List Note :=
  if s.lokiUrl.isEmpty then (none, [])
  else
    let (offset, notes) := offsetOf s.lokiTimeOffset
    (some {
      address := s.lokiUrl
      name := s.lokiName
      tenant := s.lokiTenant
      wait := s.lokiBatchWait.orElse (.ofMillis 100)
      batch := max s.lokiBatchEntries 1
      timeout := s.lokiTimeout.orElse (.ofMillis 1000)
      offset := offset }, notes)

/-! ## Pushes -/

/-- Why lines could not be pushed. -/
inductive PushError where
  | http (status : Http.Status) (body : String)
  | request (text : String)

/-- The wording of a failed push. -/
def PushError.message : PushError → String
  | http status body => "HTTP error (" ++ status.text ++ "): " ++ body
  | request text => "Request failed: " ++ text

variable {σ : Type}

/-- Pushes batches. -/
def push (n : Network σ) (s : ClientSettings) (batches : List Stream) :
    Work σ (Except PushError Unit) := do
  let post : Http.Post := {
    address := s.address
    headers := [("Content-Type", "application/json"), ("X-Scope-OrgID", s.tenant)]
    body := pushBody batches
    limit := s.timeout }
  match ← n.post post with
  | .error reason => return .error (.request reason)
  | .ok answer =>
    if answer.status.isSuccess then return .ok ()
    else return .error (.http answer.status (answer.body.toOption.getD ""))

/-- The line with the name of the client in its labels, unless it names another
job. -/
def LogLine.named (l : LogLine) (name : String) : LogLine :=
  { l with labels := l.labels.insertNew "job" name }

/-- Adds a line to what waits, and takes its stream if that is full. -/
def enqueue (s : ClientSettings) (l : LogLine) (p : Pending) : Option Stream × Pending :=
  let l := l.named s.name
  p.append s.batch l.labels.text l.labels (l.moment.epochNanos, l.text)

/-- Sends a line: it waits, or goes out with its full stream. -/
def send {m : Type → Type} [Monad m] [MonadLiftT (Work σ) m]
    (pending : {α : Type} → (Pending → α × Pending) → m α) (n : Network σ) (s : ClientSettings)
    (l : LogLine) : m (Except PushError Unit) := do
  match ← pending (enqueue s l) with
  | none => return .ok ()
  | some batch => push n s [batch]

/-- Pushes everything that waits and tells how many lines that were. -/
def flush {m : Type → Type} [Monad m] [MonadLiftT (Work σ) m]
    (pending : {α : Type} → (Pending → α × Pending) → m α) (n : Network σ) (s : ClientSettings) :
    m (Except PushError Nat) := do
  let batches ← pending Pending.takeAll
  let count := batchLines batches
  if count = 0 then return .ok 0
  else
    match ← (push n s batches : Work σ _) with
    | .ok () => return .ok count
    | .error e => return .error e

end SapMonitor.LogStore
