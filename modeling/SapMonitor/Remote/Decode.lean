import SapMonitor.Decimal.Binary
import SapMonitor.Remote.Error
import SapMonitor.Remote.Record

/-!
# From element trees to records

Each record is read field by field from the child elements of an item.  A
missing or blank number is zero; a number that cannot be read is the cause of
failure, and the first one in the order of the fields is reported.

Main results:

- `number_of_blank`: a blank number is zero.
-/

namespace SapMonitor.Remote

open Markup (Element)

/-! ## Fields -/

/-- The text of a number field without the white space around it. -/
def numberText (e : Element) (field : String) : String :=
  Text.trim (e.textAt field)

/-- The number in a field, zero if the field is blank. -/
def number {α : Type} (zero : α) (read? : List Char → Option α) (e : Element) (field : String) :
    Except RemoteError α :=
  let raw := numberText e field
  if raw.isEmpty then .ok zero
  else
    match read? raw.toList with
    | some n => .ok n
    | none => .error (.answer ("invalid " ++ field ++ " value: " ++ raw))

/-- A blank number is zero. -/
theorem number_of_blank {α : Type} {zero : α} {read? : List Char → Option α} {e : Element}
    {field : String} (h : (numberText e field).isEmpty = true) :
    number zero read? e field = .ok zero := by
  simp only [number, h, if_true]

/-- An integer of 32 bits. -/
def int32 : Element → String → Except RemoteError Int :=
  number 0 (Decimal.read? .int32)

/-- An integer of 64 bits. -/
def int64 : Element → String → Except RemoteError Int :=
  number 0 (Decimal.read? .int64)

/-- A floating point number. -/
def float : Element → String → Except RemoteError Float :=
  number 0 Decimal.readFloat?

/-! ## Items -/

/-- An instance of the system. -/
def Instance.ofElement (e : Element) : Except RemoteError Instance := do
  let nr ← int32 e "instanceNr"
  let http ← int32 e "httpPort"
  let https ← int32 e "httpsPort"
  return {
    hostname := e.textAt "hostname"
    number := nr
    httpPort := http
    httpsPort := https
    startPriority := e.textAt "startPriority"
    features := e.textAt "features"
    dispstatus := e.textAt "dispstatus" }

/-- A property of an instance. -/
def Property.ofElement (e : Element) : Except RemoteError Property :=
  .ok {
    name := e.textAt "property"
    type := e.textAt "propertytype"
    value := e.textAt "value" }

/-- A process of an instance. -/
def OsProcess.ofElement (e : Element) : Except RemoteError OsProcess := do
  let pid ← int32 e "pid"
  return {
    name := e.textAt "name"
    description := e.textAt "description"
    dispstatus := e.textAt "dispstatus"
    textstatus := e.textAt "textstatus"
    starttime := e.textAt "starttime"
    elapsedtime := e.textAt "elapsedtime"
    pid := pid }

/-- A queue of the dispatcher. -/
def Queue.ofElement (e : Element) : Except RemoteError Queue := do
  let now ← int32 e "Now"
  let high ← int32 e "High"
  let max ← int32 e "Max"
  let writes ← int32 e "Writes"
  let reads ← int32 e "Reads"
  return {
    type := e.textAt "Typ"
    now := now
    high := high
    max := max
    writes := writes
    reads := reads }

/-- An alert. -/
def Alert.ofElement (e : Element) : Except RemoteError Alert :=
  .ok {
    object := e.textAt "Object"
    attributeName := e.textAt "Attribute"
    value := e.textAt "Value"
    description := e.textAt "Description"
    time := e.textAt "Time"
    tid := e.textAt "Tid"
    aid := e.textAt "Aid" }

/-- A work process. -/
def WorkProcess.ofElement (e : Element) : Except RemoteError WorkProcess :=
  .ok {
    number := e.textAt "No"
    type := e.textAt "Typ"
    pid := e.textAt "Pid"
    status := e.textAt "Status"
    reason := e.textAt "Reason"
    start := e.textAt "Start"
    err := e.textAt "Err"
    sem := e.textAt "Sem"
    cpu := e.textAt "Cpu"
    time := e.textAt "Time"
    program := e.textAt "Program"
    client := e.textAt "Client"
    user := e.textAt "User"
    action := e.textAt "Action"
    table := e.textAt "Table" }

/-! ## Answers -/

/-- The records of the items of a list element. -/
def listOf {α : Type} (item : Element → Except RemoteError α) (list : String) (e : Element) :
    Except RemoteError (List α) :=
  (e.items list).mapM item

/-- The instances of an instance list. -/
def instances : Element → Except RemoteError (List Instance) :=
  listOf Instance.ofElement "instance"

/-- The properties of an instance. -/
def properties : Element → Except RemoteError (List Property) :=
  listOf Property.ofElement "properties"

/-- The processes of an instance. -/
def processes : Element → Except RemoteError (List OsProcess) :=
  listOf OsProcess.ofElement "process"

/-- The queues of an instance. -/
def queues : Element → Except RemoteError (List Queue) :=
  listOf Queue.ofElement "queue"

/-- The alerts of an instance. -/
def alertTree (e : Element) : Except RemoteError AlertTree :=
  (listOf Alert.ofElement "alert" e).map fun alerts =>
    { rootName := e.textAt "RootTidName", alerts := alerts }

/-- The work processes of an instance. -/
def workProcesses : Element → Except RemoteError (List WorkProcess) :=
  listOf WorkProcess.ofElement "workprocess"

/-! ## Lock statistics -/

/-- The element that holds the lock statistics.  Some releases wrap them in one
further element, which is the first child with a current number of owners. -/
def statisticElement (e : Element) : Element :=
  (e.children.find? fun c => (c.child? "owner-now").isSome).getD e

/-- The fill level of the part of the lock table whose fields begin with the
name. -/
def LockLevel.ofElement (e : Element) (part : String) : Except RemoteError LockLevel := do
  let now ← int32 e (part ++ "-now")
  let high ← int32 e (part ++ "-high")
  let max ← int32 e (part ++ "-max")
  return { now := now, high := high, max := max, state := e.textAt (part ++ "-state") }

/-- The counts of the lock server. -/
def LockCounts.ofElement (e : Element) : Except RemoteError LockCounts := do
  let enqueueRequests ← int64 e "enqueue-requests"
  let enqueueRejects ← int64 e "enqueue-rejects"
  let enqueueErrors ← int64 e "enqueue-errors"
  let dequeueRequests ← int64 e "dequeue-requests"
  let dequeueErrors ← int64 e "dequeue-errors"
  let dequeueAllRequests ← int64 e "dequeue-all-requests"
  let cleanupRequests ← int64 e "cleanup-requests"
  let backupRequests ← int64 e "backup-requests"
  let reportingRequests ← int64 e "reporting-requests"
  let compressRequests ← int64 e "compress-requests"
  let verifyRequests ← int64 e "verify-requests"
  return {
    enqueueRequests, enqueueRejects, enqueueErrors, dequeueRequests, dequeueErrors,
    dequeueAllRequests, cleanupRequests, backupRequests, reportingRequests, compressRequests,
    verifyRequests }

/-- The statistics of the lock server. -/
def lockStatistic (response : Element) : Except RemoteError LockStatistic := do
  let e := statisticElement response
  let owner ← LockLevel.ofElement e "owner"
  let arguments ← LockLevel.ofElement e "arguments"
  let locks ← LockLevel.ofElement e "locks"
  let counts ← LockCounts.ofElement e
  let lockTime ← float e "lock-time"
  let lockWaitTime ← float e "lock-wait-time"
  let serverTime ← float e "server-time"
  return {
    owner, arguments, locks, counts, lockTime, lockWaitTime, serverTime,
    replicationState := e.textAt "replication-state" }

end SapMonitor.Remote
