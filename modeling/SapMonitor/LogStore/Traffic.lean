import SapMonitor.LogStore.Client

/-!
# Calls of one client at the same time

Calls of a client share its streams, and do one operation on one key at a time.  A line is
filed in one operation, which also takes its stream if it has become full.  A flush takes
the streams with lines one after the other and removes those without lines in a second
pass; between any two of its operations other calls go on.  In which order a flush comes to
the keys, and to which of those that come and go meanwhile, is left open, and so is what a
push is answered.

Main results:

- `Traffic.run?_append`: traffic goes on from where it was.
-/

namespace SapMonitor.LogStore

/-! ## Operations on one key -/

/-- The lines of the stream with the key, if it has any, and the streams with that one left
empty. -/
def takeLines (key : String) :
    List (String × Stream) → Option (Stream × List (String × Stream))
  | [] => none
  | (k, s) :: rest =>
    if k = key then
      if s.values.isEmpty then none else some (s, (k, { s with values := [] }) :: rest)
    else
      match takeLines key rest with
      | none => none
      | some (batch, rest) => some (batch, (k, s) :: rest)

/-- The streams without the one with the key if that has no lines. -/
def dropEmpty (key : String) (streams : List (String × Stream)) : List (String × Stream) :=
  streams.filter fun q => !(decide (q.1 = key) && q.2.values.isEmpty)

/-! ## Calls -/

/-- How far a call has come. -/
inductive Call where
  /-- It is to file its line. -/
  | sending (line : LogLine)
  /-- It has taken the stream that its line has filled. -/
  | holding (batch : Stream)
  /-- It waits for the answer to its push. -/
  | pushing (batch : Stream)
  | sent (outcome : Except PushError Unit)
  /-- It takes streams with lines. -/
  | collecting (batches : List Stream)
  /-- It removes streams without lines. -/
  | pruning (batches : List Stream)
  /-- It waits for the answer to its push of all it has taken. -/
  | pushingAll (batches : List Stream)
  | flushed (outcome : Except PushError Nat)

/-- The batches that a call has taken and not yet pushed. -/
def Call.held : Call → List Stream
  | holding batch => [batch]
  | collecting batches => batches
  | pruning batches => batches
  | _ => []

/-! ## Traffic -/

/-- The streams of a client and its calls, with what has happened so far: the lines that
were filed, the batches that were taken, and the pushes with the positions of their
calls. -/
structure Traffic where
  pending : Pending := {}
  calls : List Call := []
  filed : List LogLine := []
  taken : List Stream := []
  pushes : List (Nat × List Stream) := []

/-- What can happen. -/
inductive Act where
  /-- A line is sent. -/
  | send (line : LogLine)
  /-- A flush is called for. -/
  | flush
  /-- A call files its line. -/
  | file (call : Nat)
  /-- A flush takes the stream with a key. -/
  | collect (call : Nat) (key : String)
  /-- A flush has taken what it takes. -/
  | turn (call : Nat)
  /-- A flush comes to a key in its second pass. -/
  | prune (call : Nat) (key : String)
  /-- A call pushes what it has taken, if that has lines. -/
  | push (call : Nat)
  /-- A push is answered. -/
  | answer (call : Nat) (outcome : Except PushError Unit)

namespace Traffic

/-- The traffic with a call replaced. -/
def put (t : Traffic) (i : Nat) (c : Call) : Traffic :=
  { t with calls := t.calls.set i c }

/-- A call files its line. -/
def file? (s : ClientSettings) (t : Traffic) (i : Nat) : Option Traffic :=
  match t.calls[i]? with
  | some (.sending line) =>
    match enqueue s line t.pending with
    | (none, pending) =>
      some ({ t with pending := pending, filed := t.filed ++ [line] }.put i (.sent (.ok ())))
    | (some batch, pending) =>
      some ({ t with
        pending := pending
        filed := t.filed ++ [line]
        taken := t.taken ++ [batch] }.put i (.holding batch))
  | _ => none

/-- A flush takes the stream with a key. -/
def collect? (t : Traffic) (i : Nat) (key : String) : Option Traffic :=
  match t.calls[i]? with
  | some (.collecting batches) =>
    match takeLines key t.pending.streams with
    | none => none
    | some (batch, streams) =>
      some ({ t with pending := { streams := streams }, taken := t.taken ++ [batch] }.put i
        (.collecting (batches ++ [batch])))
  | _ => none

/-- A flush begins its second pass. -/
def turn? (t : Traffic) (i : Nat) : Option Traffic :=
  match t.calls[i]? with
  | some (.collecting batches) => some (t.put i (.pruning batches))
  | _ => none

/-- A flush comes to a key in its second pass. -/
def prune? (t : Traffic) (i : Nat) (key : String) : Option Traffic :=
  match t.calls[i]? with
  | some (.pruning _) =>
    some { t with pending := { streams := dropEmpty key t.pending.streams } }
  | _ => none

/-- A call pushes what it has taken, unless that has no lines. -/
def push? (t : Traffic) (i : Nat) : Option Traffic :=
  match t.calls[i]? with
  | some (.holding batch) =>
    some ({ t with pushes := t.pushes ++ [(i, [batch])] }.put i (.pushing batch))
  | some (.pruning batches) =>
    if batchLines batches = 0 then some (t.put i (.flushed (.ok 0)))
    else some ({ t with pushes := t.pushes ++ [(i, batches)] }.put i (.pushingAll batches))
  | _ => none

/-- A push is answered, and its call is over. -/
def answer? (t : Traffic) (i : Nat) (outcome : Except PushError Unit) : Option Traffic :=
  match t.calls[i]? with
  | some (.pushing _) => some (t.put i (.sent outcome))
  | some (.pushingAll batches) =>
    some (t.put i (.flushed (outcome.map fun () => batchLines batches)))
  | _ => none

/-- The traffic after something has happened, if that is possible. -/
def step? (s : ClientSettings) (t : Traffic) : Act → Option Traffic
  | .send line => some { t with calls := t.calls ++ [.sending line] }
  | .flush => some { t with calls := t.calls ++ [.collecting []] }
  | .file i => t.file? s i
  | .collect i key => t.collect? i key
  | .turn i => t.turn? i
  | .prune i key => t.prune? i key
  | .push i => t.push? i
  | .answer i outcome => t.answer? i outcome

/-- The traffic after several acts, if all of them are possible. -/
def run? (s : ClientSettings) (t : Traffic) : List Act → Option Traffic
  | [] => some t
  | a :: rest => (t.step? s a).bind fun t => t.run? s rest

@[simp] theorem run?_nil (s : ClientSettings) (t : Traffic) : t.run? s [] = some t :=
  rfl

/-- Traffic goes on from where it was. -/
theorem run?_append (s : ClientSettings) (t : Traffic) (before after : List Act) :
    t.run? s (before ++ after) = (t.run? s before).bind fun t => t.run? s after := by
  induction before generalizing t with
  | nil => rfl
  | cons a rest ih =>
    cases h : t.step? s a with
    | none => simp [run?, h]
    | some t' => simp [run?, h, ih]

end Traffic

end SapMonitor.LogStore
