import SapMonitor.LogStore.Labels
import SapMonitor.Text.Json
import SapMonitor.Time.Moment

/-!
# Pending log lines

Log lines wait in the stream of their label set until a batch is taken: one
stream as soon as it is full, or all streams together.
-/

namespace SapMonitor.LogStore

open Time (Moment)

/-- A log line on its way. -/
structure LogLine where
  labels : LabelSet
  moment : Moment
  text : String

/-- The lines of one label set with their times in nanoseconds. -/
structure Stream where
  labels : LabelSet
  values : List (Int × String) := []

/-- The streams by their keys. -/
structure Pending where
  streams : List (String × Stream) := []

/-- The number of lines in streams. -/
def linesIn : List (String × Stream) → Nat
  | [] => 0
  | (_, s) :: rest => s.values.length + linesIn rest

/-- The streams with a line appended to the one with the key; and that stream if
it has become full, in which case it is left empty. -/
def appendLine (limit : Nat) (key : String) (labels : LabelSet) (value : Int × String) :
    List (String × Stream) → Option Stream × List (String × Stream)
  | [] =>
    let s : Stream := { labels := labels, values := [value] }
    if limit ≤ s.values.length then (some s, [(key, { s with values := [] })])
    else (none, [(key, s)])
  | (k, s) :: rest =>
    if k = key then
      let s := { s with values := s.values ++ [value] }
      if limit ≤ s.values.length then (some s, (k, { s with values := [] }) :: rest)
      else (none, (k, s) :: rest)
    else
      let (batch, rest) := appendLine limit key labels value rest
      (batch, (k, s) :: rest)

namespace Pending

/-- The number of lines that wait. -/
def count (p : Pending) : Nat :=
  linesIn p.streams

/-- Adds a line, and takes the batch of its stream if it is full. -/
def append (limit : Nat) (key : String) (labels : LabelSet) (value : Int × String)
    (p : Pending) : Option Stream × Pending :=
  let (batch, streams) := appendLine limit key labels value p.streams
  (batch, { streams := streams })

/-- Takes everything that waits: the streams that are not empty. -/
def takeAll (p : Pending) : List Stream × Pending :=
  ((p.streams.map Prod.snd).filter fun s => !s.values.isEmpty, {})

end Pending

/-- The number of lines in batches. -/
def batchLines : List Stream → Nat
  | [] => 0
  | s :: rest => s.values.length + batchLines rest

/-! ## The text of a push -/

/-- A line in a push: its time as a text of digits, and the line. -/
def valueJson (v : Int × String) : Text.Json :=
  .arr [.str (toString v.1), .str v.2]

/-- A batch in a push. -/
def Stream.json (s : Stream) : Text.Json :=
  .obj [("stream", .obj (s.labels.pairs.map fun l => (l.1, .str l.2))),
    ("values", .arr (s.values.map valueJson))]

/-- The body of a push. -/
def pushBody (batches : List Stream) : String :=
  (Text.Json.obj [("streams", .arr (batches.map Stream.json))]).render

end SapMonitor.LogStore
