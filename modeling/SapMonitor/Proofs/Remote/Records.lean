import SapMonitor.Proofs.Fallible
import SapMonitor.Proofs.Remote.Fields
import SapMonitor.Remote.Service

/-!
# Responses decoded whole

A response is decoded if all of its numbers can be read, wherever among its items they are.
The records then stand for the items one by one, and no field of a record is made up: a text
is the one of the item, a number is the one that the item shows, or zero where the item shows
none.

Main results:

- `ListKind.item_eq_ok_iff`: the records that an item is decoded to show its fields.
- `mapM_eq_ok_iff`: a list is decoded to as many records as it has items, in their order.
- `Operation.exists_read_iff`: a response is decoded if its numbers can be read.
-/

namespace SapMonitor.Remote

open Markup (Element)

/-! ## Outcomes -/

variable {α β : Type}

/-- A list is decoded to as many records as it has items, in their order. -/
theorem mapM_eq_ok_iff {item : Element → Outcome α} {es : List Element} {rs : List α} :
    es.mapM item = .ok rs ↔ List.Forall₂ (fun e r => item e = .ok r) es rs := by
  induction es generalizing rs with
  | nil =>
    rw [List.mapM_nil, pure_eq_ok_iff, List.forall₂_nil_left_iff]
    exact eq_comm
  | cons e es ih =>
    simp only [List.mapM_cons, bind_eq_ok_iff, pure_eq_ok_iff, List.forall₂_cons_left_iff, ih]
    constructor
    · rintro ⟨r, hr, rs', hrs, rfl⟩
      exact ⟨r, rs', hr, hrs, rfl⟩
    · rintro ⟨r, rs', hr, hrs, rfl⟩
      exact ⟨r, hr, rs', hrs, rfl⟩

/-- A list is decoded if each of its items is. -/
theorem exists_mapM_iff {item : Element → Outcome α} {es : List Element} :
    (∃ rs, es.mapM item = .ok rs) ↔ ∀ e ∈ es, ∃ r, item e = .ok r := by
  simp only [mapM_eq_ok_iff]
  induction es with
  | nil => simp
  | cons e es ih =>
    rw [List.forall_mem_cons, ← ih]
    constructor
    · rintro ⟨rs, h⟩
      cases h with
      | cons hr hrs => exact ⟨⟨_, hr⟩, _, hrs⟩
    · rintro ⟨⟨r, hr⟩, rs, hrs⟩
      exact ⟨r :: rs, .cons hr hrs⟩

/-! ## Numbers -/

/-- The kinds of numbers in responses. -/
inductive NumberFormat where
  | int32
  | int64
  | float
  deriving DecidableEq

/-- Whether the text is a number of the kind. -/
def NumberFormat.reads : NumberFormat → List Char → Bool
  | int32, cs => (Decimal.read? .int32 cs).isSome
  | int64, cs => (Decimal.read? .int64 cs).isSome
  | float, cs => (Decimal.readFloat? cs).isSome

/-- A number in a response: the element that holds its field, the name of the field, and the
kind of the number. -/
structure NumberField where
  place : Element
  name : String
  format : NumberFormat

/-- A number field is readable if it is blank or holds a number of its kind. -/
def NumberField.Readable (f : NumberField) : Prop :=
  numberText f.place f.name = "" ∨ f.format.reads (numberText f.place f.name).toList = true

/-- What a number field is read as. -/
theorem number_eq_ok_iff {zero n : α} {read? : List Char → Option α} {e : Element}
    {field : String} (hblank : read? [] = none) : number zero read? e field = .ok n ↔
      (numberText e field = "" ∧ n = zero) ∨ read? (numberText e field).toList = some n := by
  unfold number
  generalize numberText e field = text
  by_cases h : text = ""
  · subst h
    have hempty : "".isEmpty = true := rfl
    have hnone : read? "".toList = none := by rw [String.toList_empty, hblank]
    simp only [hempty, if_true, hnone, true_and, reduceCtorEq, or_false, Except.ok.injEq]
    exact eq_comm
  · have hfilled : text.isEmpty = false := by simpa using h
    simp only [hfilled, h, Bool.false_eq_true, if_false, false_and, false_or]
    cases read? text.toList <;> simp

/-- A number field is read if it is blank or holds a number. -/
theorem exists_number_iff {zero : α} {read? : List Char → Option α} {e : Element}
    {field : String} (hblank : read? [] = none) : (∃ n, number zero read? e field = .ok n) ↔
      numberText e field = "" ∨ (read? (numberText e field).toList).isSome = true := by
  simp only [number_eq_ok_iff hblank, exists_or, exists_and_left, exists_eq, and_true,
    Option.isSome_iff_exists]

theorem int32_eq_ok_iff {e : Element} {field : String} {n : Int} : int32 e field = .ok n ↔
    (numberText e field = "" ∧ n = 0) ∨
      Decimal.read? .int32 (numberText e field).toList = some n :=
  number_eq_ok_iff (by decide)

theorem exists_int32_iff {e : Element} {field : String} :
    (∃ n, int32 e field = .ok n) ↔ NumberField.Readable ⟨e, field, .int32⟩ :=
  exists_number_iff (by decide)

theorem exists_int64_iff {e : Element} {field : String} :
    (∃ n, int64 e field = .ok n) ↔ NumberField.Readable ⟨e, field, .int64⟩ :=
  exists_number_iff (by decide)

theorem exists_float_iff {e : Element} {field : String} :
    (∃ x, float e field = .ok x) ↔ NumberField.Readable ⟨e, field, .float⟩ :=
  exists_number_iff (by simp [Decimal.readFloat?, Decimal.readUnsigned?])

/-! ## Items -/

/-- An element shows a value under a name: the text of its field, or the number in it.  A
missing or blank number shows as zero. -/
def Value.ShownIn (e : Element) (name : String) : Value → Prop
  | .text s => e.textAt name = s
  | .number n => (numberText e name = "" ∧ n = 0) ∨
      Decimal.read? .int32 (numberText e name).toList = some n

theorem Instance.ofElement_eq_ok_iff {e : Element} {r : Instance} :
    Instance.ofElement e = .ok r ↔ ∀ f ∈ ListKind.instances.fields r, f.2.ShownIn e f.1 := by
  obtain ⟨hostname, nr, http, https, priority, features, status⟩ := r
  simp only [Instance.ofElement, bind_eq_ok_iff, pure_eq_ok_iff, ListKind.fields,
    List.forall_mem_cons, Value.ShownIn, ← int32_eq_ok_iff]
  constructor
  · rintro ⟨_, hnr, _, hhttp, _, hhttps, h⟩
    cases h
    exact ⟨rfl, hnr, hhttp, hhttps, rfl, rfl, rfl, List.forall_mem_nil _⟩
  · rintro ⟨rfl, hnr, hhttp, hhttps, rfl, rfl, rfl, -⟩
    exact ⟨nr, hnr, http, hhttp, https, hhttps, rfl⟩

theorem Property.ofElement_eq_ok_iff {e : Element} {r : Property} :
    Property.ofElement e = .ok r ↔ ∀ f ∈ ListKind.properties.fields r, f.2.ShownIn e f.1 := by
  obtain ⟨name, type, value⟩ := r
  simp only [Property.ofElement, Except.ok.injEq, Property.mk.injEq, ListKind.fields,
    List.forall_mem_cons, Value.ShownIn, List.not_mem_nil, false_implies, implies_true, and_true]

theorem OsProcess.ofElement_eq_ok_iff {e : Element} {r : OsProcess} :
    OsProcess.ofElement e = .ok r ↔ ∀ f ∈ ListKind.processes.fields r, f.2.ShownIn e f.1 := by
  obtain ⟨name, description, status, text, start, elapsed, pid⟩ := r
  simp only [OsProcess.ofElement, bind_eq_ok_iff, pure_eq_ok_iff, ListKind.fields,
    List.forall_mem_cons, Value.ShownIn, ← int32_eq_ok_iff]
  constructor
  · rintro ⟨_, hpid, h⟩
    cases h
    exact ⟨rfl, rfl, rfl, rfl, rfl, rfl, hpid, List.forall_mem_nil _⟩
  · rintro ⟨rfl, rfl, rfl, rfl, rfl, rfl, hpid, -⟩
    exact ⟨pid, hpid, rfl⟩

theorem Queue.ofElement_eq_ok_iff {e : Element} {r : Queue} :
    Queue.ofElement e = .ok r ↔ ∀ f ∈ ListKind.queues.fields r, f.2.ShownIn e f.1 := by
  obtain ⟨type, now, high, max, writes, reads⟩ := r
  simp only [Queue.ofElement, bind_eq_ok_iff, pure_eq_ok_iff, ListKind.fields,
    List.forall_mem_cons, Value.ShownIn, ← int32_eq_ok_iff]
  constructor
  · rintro ⟨_, hnow, _, hhigh, _, hmax, _, hwrites, _, hreads, h⟩
    cases h
    exact ⟨rfl, hnow, hhigh, hmax, hwrites, hreads, List.forall_mem_nil _⟩
  · rintro ⟨rfl, hnow, hhigh, hmax, hwrites, hreads, -⟩
    exact ⟨now, hnow, high, hhigh, max, hmax, writes, hwrites, reads, hreads, rfl⟩

theorem Alert.ofElement_eq_ok_iff {e : Element} {r : Alert} :
    Alert.ofElement e = .ok r ↔ ∀ f ∈ ListKind.alerts.fields r, f.2.ShownIn e f.1 := by
  obtain ⟨object, name, value, description, time, tid, aid⟩ := r
  simp only [Alert.ofElement, Except.ok.injEq, Alert.mk.injEq, ListKind.fields,
    List.forall_mem_cons, Value.ShownIn, List.not_mem_nil, false_implies, implies_true, and_true]

theorem WorkProcess.ofElement_eq_ok_iff {e : Element} {r : WorkProcess} :
    WorkProcess.ofElement e = .ok r ↔
      ∀ f ∈ ListKind.workProcesses.fields r, f.2.ShownIn e f.1 := by
  obtain ⟨no, type, pid, status, reason, start, err, sem, cpu, time, program, client, user, action,
    table⟩ := r
  simp only [WorkProcess.ofElement, Except.ok.injEq, WorkProcess.mk.injEq, ListKind.fields,
    List.forall_mem_cons, Value.ShownIn, List.not_mem_nil, false_implies, implies_true, and_true]

namespace ListKind

/-- The records that an item is decoded to show its fields. -/
theorem item_eq_ok_iff {k : ListKind} {e : Element} {r : k.Record} :
    k.item e = .ok r ↔ ∀ f ∈ k.fields r, f.2.ShownIn e f.1 := by
  cases k with
  | instances => exact Instance.ofElement_eq_ok_iff
  | properties => exact Property.ofElement_eq_ok_iff
  | processes => exact OsProcess.ofElement_eq_ok_iff
  | queues => exact Queue.ofElement_eq_ok_iff
  | alerts => exact Alert.ofElement_eq_ok_iff
  | workProcesses => exact WorkProcess.ofElement_eq_ok_iff

/-- The names of the fields that hold numbers. -/
def numberNames : ListKind → List String
  | instances => ["instanceNr", "httpPort", "httpsPort"]
  | processes => ["pid"]
  | queues => ["Now", "High", "Max", "Writes", "Reads"]
  | properties => []
  | alerts => []
  | workProcesses => []

/-- An item is decoded if its numbers can be read. -/
theorem exists_item_iff {k : ListKind} {e : Element} :
    (∃ r, k.item e = .ok r) ↔ ∀ name ∈ k.numberNames, NumberField.Readable ⟨e, name, .int32⟩ := by
  cases k with
  | instances =>
    change (∃ r, Instance.ofElement e = .ok r) ↔ _
    simp only [Instance.ofElement, exists_bind_iff, exists_pure_iff, and_true, exists_and_right,
      exists_int32_iff, numberNames, List.forall_mem_cons, List.not_mem_nil, false_implies,
      implies_true]
  | processes =>
    change (∃ r, OsProcess.ofElement e = .ok r) ↔ _
    simp only [OsProcess.ofElement, exists_bind_iff, exists_pure_iff, and_true,
      exists_int32_iff, numberNames, List.forall_mem_cons, List.not_mem_nil, false_implies,
      implies_true]
  | queues =>
    change (∃ r, Queue.ofElement e = .ok r) ↔ _
    simp only [Queue.ofElement, exists_bind_iff, exists_pure_iff, and_true, exists_and_right,
      exists_int32_iff, numberNames, List.forall_mem_cons, List.not_mem_nil, false_implies,
      implies_true]
  | properties => exact ⟨fun _ => List.forall_mem_nil _, fun _ => ⟨_, rfl⟩⟩
  | alerts => exact ⟨fun _ => List.forall_mem_nil _, fun _ => ⟨_, rfl⟩⟩
  | workProcesses => exact ⟨fun _ => List.forall_mem_nil _, fun _ => ⟨_, rfl⟩⟩

/-- The numbers in a response with a list. -/
def numbers (k : ListKind) (response : Element) : List NumberField :=
  (response.items k.list).flatMap fun item => k.numberNames.map fun name => ⟨item, name, .int32⟩

/-- A response with a list is decoded if all of its numbers can be read. -/
theorem exists_read_iff {k : ListKind} {response : Element} :
    (∃ rs, k.read response = .ok rs) ↔ ∀ f ∈ k.numbers response, f.Readable := by
  simp only [read_eq_listOf, listOf, exists_mapM_iff, exists_item_iff, numbers, List.mem_flatMap,
    List.mem_map]
  constructor
  · rintro h f ⟨item, hitem, name, hname, rfl⟩
    exact h item hitem name hname
  · intro h item hitem name hname
    exact h _ ⟨item, hitem, name, hname, rfl⟩

/-- The records of a response stand for the items of its list. -/
theorem read_eq_ok_iff {k : ListKind} {response : Element} {rs : List k.Record} :
    k.read response = .ok rs ↔
      List.Forall₂ (fun item r => ∀ f ∈ k.fields r, f.2.ShownIn item f.1)
        (response.items k.list) rs := by
  simp only [read_eq_listOf, listOf, mapM_eq_ok_iff, item_eq_ok_iff]

end ListKind

/-! ## Lock statistics -/

/-- The numbers in the statistics of the lock server. -/
def statisticNumbers (e : Element) : List NumberField :=
  (["owner", "arguments", "locks"].flatMap fun part =>
    ["-now", "-high", "-max"].map fun field => ⟨e, part ++ field, .int32⟩) ++
  (["enqueue-requests", "enqueue-rejects", "enqueue-errors", "dequeue-requests",
    "dequeue-errors", "dequeue-all-requests", "cleanup-requests", "backup-requests",
    "reporting-requests", "compress-requests", "verify-requests"].map fun field =>
    ⟨e, field, .int64⟩) ++
  (["lock-time", "lock-wait-time", "server-time"].map fun field => ⟨e, field, .float⟩)

/-- Lock statistics are decoded if all of their numbers can be read. -/
theorem exists_lockStatistic_iff {response : Element} :
    (∃ v, lockStatistic response = .ok v) ↔
      ∀ f ∈ statisticNumbers (statisticElement response), f.Readable := by
  simp only [lockStatistic, LockLevel.ofElement, LockCounts.ofElement, exists_bind_iff,
    exists_pure_iff, and_true, exists_and_right, exists_int32_iff, exists_int64_iff,
    exists_float_iff, statisticNumbers, List.flatMap_cons, List.flatMap_nil, List.map_cons,
    List.map_nil, List.forall_mem_append, List.forall_mem_cons, List.not_mem_nil, false_implies,
    implies_true, and_assoc, List.append_nil]

/-! ## Operations -/

namespace Operation

/-- What an operation reports. -/
def Answer : Operation → Type
  | systemInstances => List Instance
  | properties => List Property
  | processes => List OsProcess
  | queues => List Queue
  | alerts => AlertTree
  | workProcesses => List WorkProcess
  | lockStatistic => LockStatistic

/-- The report in a response. -/
def read : (o : Operation) → Element → Outcome o.Answer
  | systemInstances => Remote.instances
  | properties => Remote.properties
  | processes => Remote.processes
  | queues => Remote.queues
  | alerts => Remote.alertTree
  | workProcesses => Remote.workProcesses
  | lockStatistic => Remote.lockStatistic

/-- The list in a report; the statistics of the lock server have none. -/
def listed? : (o : Operation) → o.Answer → Option ((k : ListKind) × List k.Record)
  | systemInstances, v => some ⟨.instances, v⟩
  | properties, v => some ⟨.properties, v⟩
  | processes, v => some ⟨.processes, v⟩
  | queues, v => some ⟨.queues, v⟩
  | alerts, v => some ⟨.alerts, AlertTree.alerts v⟩
  | workProcesses, v => some ⟨.workProcesses, v⟩
  | lockStatistic, _ => none

/-- The numbers in a response. -/
def numbers : Operation → Element → List NumberField
  | systemInstances, e => ListKind.instances.numbers e
  | properties, e => ListKind.properties.numbers e
  | processes, e => ListKind.processes.numbers e
  | queues, e => ListKind.queues.numbers e
  | alerts, e => ListKind.alerts.numbers e
  | workProcesses, e => ListKind.workProcesses.numbers e
  | lockStatistic, e => statisticNumbers (statisticElement e)

/-- The list in a report has a record for every item of the response. -/
theorem read_listed {o : Operation} {response : Element} {v : o.Answer}
    (h : o.read response = .ok v) {k : ListKind} {rs : List k.Record}
    (hlisted : o.listed? v = some ⟨k, rs⟩) : k.read response = .ok rs := by
  cases o with
  | systemInstances => cases hlisted; exact h
  | properties => cases hlisted; exact h
  | processes => cases hlisted; exact h
  | queues => cases hlisted; exact h
  | alerts =>
    cases hlisted
    have h : alertTree response = .ok v := h
    change (alertTree response).map AlertTree.alerts = _
    rw [h]
    rfl
  | workProcesses => cases hlisted; exact h
  | lockStatistic => cases hlisted

/-- A response is decoded if all of its numbers can be read. -/
theorem exists_read_iff {o : Operation} {response : Element} :
    (∃ v, o.read response = .ok v) ↔ ∀ f ∈ o.numbers response, f.Readable := by
  cases o with
  | systemInstances => exact ListKind.exists_read_iff (k := .instances)
  | properties => exact ListKind.exists_read_iff (k := .properties)
  | processes => exact ListKind.exists_read_iff (k := .processes)
  | queues => exact ListKind.exists_read_iff (k := .queues)
  | workProcesses => exact ListKind.exists_read_iff (k := .workProcesses)
  | lockStatistic => exact exists_lockStatistic_iff
  | alerts =>
    refine Iff.trans ?_ (ListKind.exists_read_iff (k := .alerts))
    change (∃ v, alertTree response = .ok v) ↔
      ∃ rs, (alertTree response).map AlertTree.alerts = .ok rs
    simp only [map_eq_ok_iff]
    constructor
    · rintro ⟨v, hv⟩
      exact ⟨_, v, hv, rfl⟩
    · rintro ⟨-, v, hv, -⟩
      exact ⟨v, hv⟩

end Operation

end SapMonitor.Remote
