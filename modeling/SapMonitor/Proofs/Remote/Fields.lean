import SapMonitor.Proofs.Markup.Siblings
import SapMonitor.Proofs.Remote.Decimals
import SapMonitor.Remote.Decode

/-!
# The fields of records

The answers that are lists differ in the name of their list and in the fields of their
records.  A record is decoded from the texts of its fields alone, so an item that has the
right text under every name is decoded to the record.

Main results:

- `int32_of_text`: a number field that holds the text of a number is read as the number.
- `ListKind.item_of_fields`: an item with the texts of a record is decoded to the record.
-/

namespace SapMonitor.Remote

open Markup (Element isGap)

/-! ## Values of fields -/

/-- What a field of a record holds. -/
inductive Value where
  | text (s : String)
  | number (n : Int)
  deriving DecidableEq

namespace Value

/-- The text that a value is sent as. -/
def written : Value → String
  | text s => s
  | number n => toString n

/-- A value that can be sent: a text without white space at its ends, or a number of 32
bits. -/
def Sound : Value → Prop
  | text s => s.toList.head?.all (!isGap ·) = true ∧ s.toList.getLast?.all (!isGap ·) = true
  | number n => Decimal.Range.int32.lo ≤ n ∧ n ≤ Decimal.Range.int32.hi

instance (v : Value) : Decidable v.Sound := by
  cases v <;> unfold Sound <;> infer_instance

/-- White space is blank. -/
theorem isGap_of_not_isBlank {c : Char} (h : Text.isBlank c = false) : isGap c = false := by
  rw [← Bool.not_eq_true] at h ⊢
  intro hgap
  apply h
  simp only [isGap, Bool.or_eq_true, decide_eq_true_eq] at hgap
  rcases hgap with ((rfl | rfl) | rfl) | rfl <;> decide

/-- The text that a value is sent as has no white space at its ends. -/
theorem Sound.ends {v : Value} (h : v.Sound) : v.written.toList.head?.all (!isGap ·) = true ∧
    v.written.toList.getLast?.all (!isGap ·) = true := by
  cases v with
  | text s => exact h
  | number n =>
    have hall : ∀ c ∈ (toString n).toList, (!isGap c) = true := by
      intro c hc
      rw [isGap_of_not_isBlank (Decimal.not_isBlank_of_mem_toString hc), Bool.not_false]
    constructor
    · rw [Option.all_eq_true]
      intro c hc
      exact hall c (List.mem_of_head? hc)
    · rw [Option.all_eq_true]
      intro c hc
      exact hall c (List.mem_of_getLast? hc)

end Value

/-- A number field that holds the text of a number is read as the number. -/
theorem int32_of_text {e : Element} {field : String} {n : Int}
    (htext : e.textAt field = toString n)
    (hrange : Decimal.Range.int32.lo ≤ n ∧ n ≤ Decimal.Range.int32.hi) :
    int32 e field = .ok n := by
  have hread := Decimal.read?_toString hrange.1 hrange.2
  have hfilled : (toString n).isEmpty = false := by
    rw [← Bool.not_eq_true, String.isEmpty_iff]
    intro hempty
    rw [hempty] at hread
    have hnone : Decimal.read? .int32 "".toList = none := by decide
    rw [hnone] at hread
    cases hread
  rw [int32, number, numberText, htext, Text.trim_toString, hfilled]
  simp only [hread]
  rfl

/-! ## Kinds of lists -/

/-- The answers that are lists. -/
inductive ListKind where
  | instances
  | properties
  | processes
  | queues
  | alerts
  | workProcesses
  deriving DecidableEq

namespace ListKind

/-- What is listed. -/
def Record : ListKind → Type
  | instances => Instance
  | properties => Property
  | processes => OsProcess
  | queues => Queue
  | alerts => Alert
  | workProcesses => WorkProcess

/-- The element that holds the items. -/
def list : ListKind → String
  | instances => "instance"
  | properties => "properties"
  | processes => "process"
  | queues => "queue"
  | alerts => "alert"
  | workProcesses => "workprocess"

/-- The record of an item. -/
def item : (k : ListKind) → Element → Except RemoteError k.Record
  | instances => Instance.ofElement
  | properties => Property.ofElement
  | processes => OsProcess.ofElement
  | queues => Queue.ofElement
  | alerts => Alert.ofElement
  | workProcesses => WorkProcess.ofElement

/-- The records of a response. -/
def read : (k : ListKind) → Element → Except RemoteError (List k.Record)
  | instances => Remote.instances
  | properties => Remote.properties
  | processes => Remote.processes
  | queues => Remote.queues
  | alerts => fun e => (alertTree e).map AlertTree.alerts
  | workProcesses => Remote.workProcesses

/-- All responses are read item by item. -/
theorem read_eq_listOf (k : ListKind) (e : Element) : k.read e = listOf k.item k.list e := by
  cases k with
  | alerts =>
    change (alertTree e).map AlertTree.alerts = listOf Alert.ofElement "alert" e
    unfold alertTree
    cases listOf Alert.ofElement "alert" e <;> rfl
  | instances => rfl
  | properties => rfl
  | processes => rfl
  | queues => rfl
  | workProcesses => rfl

/-- The names and values of the fields of a record. -/
def fields : (k : ListKind) → k.Record → List (String × Value)
  | instances, (r : Instance) =>
    [("hostname", .text r.hostname), ("instanceNr", .number r.number),
      ("httpPort", .number r.httpPort), ("httpsPort", .number r.httpsPort),
      ("startPriority", .text r.startPriority), ("features", .text r.features),
      ("dispstatus", .text r.dispstatus)]
  | properties, (r : Property) =>
    [("property", .text r.name), ("propertytype", .text r.type), ("value", .text r.value)]
  | processes, (r : OsProcess) =>
    [("name", .text r.name), ("description", .text r.description),
      ("dispstatus", .text r.dispstatus), ("textstatus", .text r.textstatus),
      ("starttime", .text r.starttime), ("elapsedtime", .text r.elapsedtime),
      ("pid", .number r.pid)]
  | queues, (r : Queue) =>
    [("Typ", .text r.type), ("Now", .number r.now), ("High", .number r.high),
      ("Max", .number r.max), ("Writes", .number r.writes), ("Reads", .number r.reads)]
  | alerts, (r : Alert) =>
    [("Object", .text r.object), ("Attribute", .text r.attributeName), ("Value", .text r.value),
      ("Description", .text r.description), ("Time", .text r.time), ("Tid", .text r.tid),
      ("Aid", .text r.aid)]
  | workProcesses, (r : WorkProcess) =>
    [("No", .text r.number), ("Typ", .text r.type), ("Pid", .text r.pid),
      ("Status", .text r.status), ("Reason", .text r.reason), ("Start", .text r.start),
      ("Err", .text r.err), ("Sem", .text r.sem), ("Cpu", .text r.cpu), ("Time", .text r.time),
      ("Program", .text r.program), ("Client", .text r.client), ("User", .text r.user),
      ("Action", .text r.action), ("Table", .text r.table)]

/-- The names of fields, the same for all records of a kind. -/
def fieldNames : ListKind → List String
  | instances =>
    ["hostname", "instanceNr", "httpPort", "httpsPort", "startPriority", "features", "dispstatus"]
  | properties => ["property", "propertytype", "value"]
  | processes =>
    ["name", "description", "dispstatus", "textstatus", "starttime", "elapsedtime", "pid"]
  | queues => ["Typ", "Now", "High", "Max", "Writes", "Reads"]
  | alerts => ["Object", "Attribute", "Value", "Description", "Time", "Tid", "Aid"]
  | workProcesses =>
    ["No", "Typ", "Pid", "Status", "Reason", "Start", "Err", "Sem", "Cpu", "Time", "Program",
      "Client", "User", "Action", "Table"]

theorem map_fst_fields (k : ListKind) (r : k.Record) : (k.fields r).map Prod.fst = k.fieldNames := by
  cases k <;> rfl

/-- No name is used for two fields. -/
theorem nodup_fieldNames (k : ListKind) : k.fieldNames.Nodup := by
  cases k <;> decide

/-- An item with the texts of a record is decoded to the record. -/
theorem item_of_fields {k : ListKind} {r : k.Record} (hsound : ∀ f ∈ k.fields r, f.2.Sound)
    {e : Element} (htext : ∀ f ∈ k.fields r, e.textAt f.1 = f.2.written) : k.item e = .ok r := by
  cases k with
  | instances =>
    simp only [fields, List.forall_mem_cons, Value.written, Value.Sound] at hsound htext
    obtain ⟨-, hnr, hhttp, hhttps, -⟩ := hsound
    obtain ⟨hostname, nr, http, https, priority, features, status, -⟩ := htext
    change Instance.ofElement e = .ok r
    simp only [Instance.ofElement, int32_of_text nr hnr, int32_of_text http hhttp,
      int32_of_text https hhttps, hostname, priority, features, status]
    rfl
  | properties =>
    simp only [fields, List.forall_mem_cons, Value.written] at htext
    obtain ⟨name, type, value, -⟩ := htext
    change Property.ofElement e = .ok r
    simp only [Property.ofElement, name, type, value]
    rfl
  | processes =>
    simp only [fields, List.forall_mem_cons, Value.written, Value.Sound] at hsound htext
    obtain ⟨-, -, -, -, -, -, hpid, -⟩ := hsound
    obtain ⟨name, description, status, text, start, elapsed, pid, -⟩ := htext
    change OsProcess.ofElement e = .ok r
    simp only [OsProcess.ofElement, int32_of_text pid hpid, name, description, status, text,
      start, elapsed]
    rfl
  | queues =>
    simp only [fields, List.forall_mem_cons, Value.written, Value.Sound] at hsound htext
    obtain ⟨-, hnow, hhigh, hmax, hwrites, hreads, -⟩ := hsound
    obtain ⟨type, now, high, max, writes, reads, -⟩ := htext
    change Queue.ofElement e = .ok r
    simp only [Queue.ofElement, int32_of_text now hnow, int32_of_text high hhigh,
      int32_of_text max hmax, int32_of_text writes hwrites, int32_of_text reads hreads, type]
    rfl
  | alerts =>
    simp only [fields, List.forall_mem_cons, Value.written] at htext
    obtain ⟨object, name, value, description, time, tid, aid, -⟩ := htext
    change Alert.ofElement e = .ok r
    simp only [Alert.ofElement, object, name, value, description, time, tid, aid]
    rfl
  | workProcesses =>
    simp only [fields, List.forall_mem_cons, Value.written] at htext
    obtain ⟨no, type, pid, status, reason, start, err, sem, cpu, time, program, client, user,
      action, table, -⟩ := htext
    change WorkProcess.ofElement e = .ok r
    simp only [WorkProcess.ofElement, no, type, pid, status, reason, start, err, sem, cpu, time,
      program, client, user, action, table]
    rfl

end ListKind

end SapMonitor.Remote
