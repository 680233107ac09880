import SapMonitor.Series.Descriptor
import SapMonitor.Series.Family

/-!
# Buffers of samples

One scrape of a collector fills a buffer.  A series comes into being with the
first sample of its metric, and a sample replaces the value of an earlier one
whose labels have the same key.  Samples that fit no descriptor, and counters below zero,
are rejected.

Main results:

- `Buffer.record_rejected_counter`: a counter below zero changes nothing.
-/

namespace SapMonitor.Series

/-! ## Samples and their rejection -/

/-- A sample as a collector hands it in. -/
structure Sample where
  kind : Kind
  metric : String
  value : Float
  labels : List String

/-- A gauge sample. -/
def Sample.gauge (metric : String) (value : Float) (labels : List String) : Sample :=
  ⟨.gauge, metric, value, labels⟩

/-- A counter sample. -/
def Sample.counter (metric : String) (value : Float) (labels : List String) : Sample :=
  ⟨.counter, metric, value, labels⟩

/-- Why a sample is rejected. -/
inductive Rejection where
  | negative (metric : String) (value : Float)
  | undescribed (metric : String)
  | descriptor (metric : String) (cause : DescriptorError)
  | labelCount (metric : String) (expected given : Nat)

/-- The wording of a rejection. -/
def Rejection.message (subsystem : String) : Rejection → String
  | negative metric value =>
    "[" ++ subsystem ++ "] " ++ metric ++ ": negative counter value " ++ Decimal.display value ++
      " dropped"
  | undescribed metric => "[" ++ subsystem ++ "] unknown metric descriptor: " ++ metric
  | descriptor metric cause => "[" ++ subsystem ++ "] " ++ metric ++ ": " ++ cause.message
  | labelCount metric expected given =>
    "[" ++ subsystem ++ "] " ++ metric ++ ": Inconsistent label cardinality, expect " ++
      toString expected ++ " label values, but got " ++ toString given

/-! ## Vectors -/

/-- The 64-bit FNV-1a hash of a text, over its bytes in UTF-8. -/
def fnv1a (s : String) : UInt64 :=
  (s.toList.flatMap String.utf8EncodeChar).foldl
    (fun hash byte => (hash ^^^ byte.toUInt64) * 0x100000001b3) 0xcbf29ce484222325

/-- The key that label values are looked up by: the hash of the values one after
the other.  The values themselves are not compared. -/
def cellKey (values : List String) : UInt64 :=
  fnv1a (String.join values)

/-- A cell of a vector: the label values it was created with, and its latest
value. -/
structure Cell where
  labels : List String
  value : Float

/-- The samples of one metric, in order of creation. -/
structure Vector where
  metric : String
  descriptor : Descriptor
  cells : List Cell

/-- The cells with the value set in the cell of the labels, or in a new one. -/
def setCell (labels : List String) (value : Float) : List Cell → List Cell
  | [] => [⟨labels, value⟩]
  | c :: cs =>
    if cellKey c.labels = cellKey labels then { c with value := value } :: cs
    else c :: setCell labels value cs

/-- Vectors in ascending order of metric names, with one more. -/
def insertVector (v : Vector) : List Vector → List Vector
  | [] => [v]
  | w :: ws => if v.metric < w.metric then v :: w :: ws else w :: insertVector v ws

/-- The vectors with one of them changed. -/
def modifyVector (metric : String) (f : Vector → Vector) : List Vector → List Vector
  | [] => []
  | v :: vs => if v.metric = metric then f v :: vs else v :: modifyVector metric f vs

/-! ## Buffers -/

/-- The vectors that a scrape has filled so far, gauges and counters apart. -/
structure Buffer where
  catalog : Catalog
  gauges : List Vector
  counters : List Vector

namespace Buffer

/-- The buffer before the first sample. -/
def empty (catalog : Catalog) : Buffer :=
  { catalog := catalog, gauges := [], counters := [] }

/-- Whether no vector has come into being. -/
def isEmpty (b : Buffer) : Bool :=
  b.gauges.isEmpty && b.counters.isEmpty

/-- The vectors of a kind. -/
def vectors (b : Buffer) : Kind → List Vector
  | .gauge => b.gauges
  | .counter => b.counters

/-- The buffer with other vectors of a kind. -/
def withVectors (b : Buffer) (vs : List Vector) : Kind → Buffer
  | .gauge => { b with gauges := vs }
  | .counter => { b with counters := vs }

/-- The value that a vector keeps: a counter starts from zero and adds. -/
def keptValue : Kind → Float → Float
  | .gauge, x => x
  | .counter, x => 0 + x

/-- The vectors with a vector for the metric, created if there is none. -/
def ensure (b : Buffer) (s : Sample) : Except Rejection (List Vector) :=
  let vs := b.vectors s.kind
  if vs.any fun v => v.metric == s.metric then .ok vs
  else
    match b.catalog.find? s.metric with
    | none => .error (.undescribed s.metric)
    | some d =>
      match d.fault? (b.catalog.seriesName s.metric) with
      | some cause => .error (.descriptor s.metric cause)
      | none => .ok (insertVector ⟨s.metric, d, []⟩ vs)

/-- The vectors with the value set, given that there is one for the metric. -/
def place (vs : List Vector) (s : Sample) : Except Rejection (List Vector) :=
  match vs.find? fun v => v.metric == s.metric with
  | none => .error (.undescribed s.metric)
  | some v =>
    if v.descriptor.labels.length = s.labels.length then
      .ok (modifyVector s.metric
        (fun v => { v with cells := setCell s.labels (keptValue s.kind s.value) v.cells }) vs)
    else .error (.labelCount s.metric v.descriptor.labels.length s.labels.length)

/-- The buffer after a sample, and why the sample was rejected if it was.  A
vector stays even if its first sample is rejected for the number of labels. -/
def record (b : Buffer) (s : Sample) : Buffer × Option Rejection :=
  if s.kind = .counter && s.value < 0 then (b, some (.negative s.metric s.value))
  else
    match b.ensure s with
    | .error r => (b, some r)
    | .ok vs =>
      match place vs s with
      | .error r => (b.withVectors vs s.kind, some r)
      | .ok vs => (b.withVectors vs s.kind, none)

/-- A counter below zero changes nothing. -/
theorem record_rejected_counter (b : Buffer) {s : Sample} (hk : s.kind = .counter)
    (hv : s.value < 0) : b.record s = (b, some (.negative s.metric s.value)) := by
  simp [record, hk, hv]

/-- The order of label lists: the first difference decides. -/
def labelsLe : List (String × String) → List (String × String) → Bool
  | [], _ => true
  | _ :: _, [] => false
  | (m, v) :: as, (n, w) :: bs =>
    if m = n then (if v = w then labelsLe as bs else v < w) else m < n

/-- The family of a vector. -/
def family (c : Catalog) (kind : Kind) (v : Vector) : Family :=
  let point (cell : Cell) : Point :=
    { labels := (v.descriptor.labels.zip cell.labels).mergeSort fun a b => a.1 ≤ b.1
      value := cell.value }
  let before (a b : Point) : Bool := labelsLe a.labels b.labels
  { name := c.seriesName v.metric
    help := v.descriptor.help
    kind := kind
    points := (v.cells.map point).mergeSort before }

/-- The families of a buffer: gauges before counters, each in ascending order
of names, those without samples left out. -/
def families (b : Buffer) : List Family :=
  ((b.gauges.map (family b.catalog .gauge)) ++ (b.counters.map (family b.catalog .counter))).filter
    fun f => !f.points.isEmpty

/-- The buffer after several samples, with the rejections in order. -/
def recordAll (b : Buffer) : List Sample → Buffer × List Rejection
  | [] => (b, [])
  | s :: ss =>
    let (b, r) := b.record s
    let (b, rs) := recordAll b ss
    (b, r.toList ++ rs)

end Buffer

end SapMonitor.Series
