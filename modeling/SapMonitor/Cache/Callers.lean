import SapMonitor.Cache.Expiring

/-!
# Callers that meet at one cache

Callers of a cache share a lock, which any number of readers or one
owner can hold.  A fetch looks its key up as a reader.  If nothing live is there it gives
the lock back, waits to own it, looks again, and holds on to it while it
populates the key.  Removals and sweeps own the lock from the start.  Whatever a
caller does between two waits is one step, and a caller that waits, for the lock
or for its population, can be dropped.  A population that would live beyond the
end of the clock is not stored: it is complete, but its caller is lost like one
that is dropped.

A meeting is the cache, the callers with the phases they are in, and the state
of the lock.

Main results:

- `Meeting.grant?_of_alone`: while a caller owns the lock, nobody else gets at
  the cache.
- `Meeting.run?_append`: a run goes on from where an earlier run ends.
-/

namespace SapMonitor.Cache

open Time (Span)

/-! ## Requests, answers and phases -/

/-- What a caller wants of the cache. -/
inductive Request where
  | fetch (key : String)
  | get (key : String)
  | remove (key : String)
  | purge
  | size
  deriving DecidableEq

/-- What a caller gets.  A fetched value was found, or comes from the caller's
own population. -/
inductive Answer (ν : Type) where
  | found (value : ν)
  | populated (value : ν)
  | live (value : Option ν)
  | removed (held : Bool)
  | swept (count : Nat)
  | size (count : Nat)

/-- The value of a fetch. -/
def Answer.value? {ν : Type} : Answer ν → Option ν
  | found v => some v
  | populated v => some v
  | _ => none

/-- How far a caller has come. -/
inductive Phase (ν : Type) where
  /-- It waits to hold the lock together with other readers. -/
  | arrived
  /-- It holds the lock together with other readers. -/
  | reading
  /-- It waits to own the lock. -/
  | queued
  /-- It owns the lock. -/
  | owning
  /-- It owns the lock and waits for its population. -/
  | populating (stale : Bool)
  /-- It has removed a key and given the lock back, and counts what it did. -/
  | counting (held : Bool)
  | done (answer : Answer ν)
  | gone

namespace Phase

variable {ν : Type}

/-- Whether the caller holds the lock together with others. -/
def reads : Phase ν → Bool
  | reading => true
  | _ => false

/-- Whether the caller owns the lock. -/
def owns : Phase ν → Bool
  | owning => true
  | populating _ => true
  | _ => false

/-- Whether the caller populates its key. -/
def populates : Phase ν → Bool
  | populating _ => true
  | _ => false

/-- Whether the caller waits, so that it can be dropped. -/
def waits : Phase ν → Bool
  | counting _ => false
  | done _ => false
  | gone => false
  | _ => true

/-- What the caller got. -/
def answer? : Phase ν → Option (Answer ν)
  | done a => some a
  | _ => none

end Phase

/-- The phase in which a request begins. -/
def Request.start {ν : Type} : Request → Phase ν
  | remove _ => .queued
  | purge => .queued
  | _ => .arrived

/-- What a reader does: the phase it gets to, and the cache. -/
def Request.read {ν : Type} (r : Request) (now : Nat) (c : ExpiringCache ν) :
    Phase ν × ExpiringCache ν :=
  match r with
  | fetch key =>
    match c.look key now with
    | (some v, c) => (.done (.found v), c)
    | (none, c) => (.queued, c)
  | get key => (.done (.live (c.live? key now)), c)
  | size => (.done (.size c.size), c)
  | _ => (.queued, c)

/-- What an owner does: the phase it gets to, and the cache.  A sweep goes by
the time at which it was called. -/
def Request.own {ν : Type} (r : Request) (since now : Nat) (c : ExpiringCache ν) :
    Phase ν × ExpiringCache ν :=
  match r with
  | fetch key =>
    match c.claim key now with
    | (.held v, c) => (.done (.found v), c)
    | (.vacant, c) => (.populating false, c)
    | (.stale, c) => (.populating true, c)
  | remove key => (.counting (c.drop key).1, (c.drop key).2)
  | purge => (.done (.swept (c.purge since).1), (c.purge since).2)
  | get key => (.done (.live (c.live? key now)), c)
  | size => (.done (.size c.size), c)

/-! ## Meetings -/

/-- A caller: what it wants, when it came, and how far it has come. -/
structure Caller (ν : Type) where
  request : Request
  since : Nat
  phase : Phase ν

/-- How a lock is held: by some readers together, or by one owner, whose
position among the callers is kept. -/
inductive Lock where
  | together (readers : Nat)
  | alone (owner : Nat)
  deriving DecidableEq

namespace Lock

/-- The lock that nobody holds. -/
def free : Lock := together 0

/-- The number of readers. -/
def readers : Lock → Nat
  | together n => n
  | alone _ => 0

/-- The lock after a reader has given it back. -/
def readerLeaves : Lock → Lock
  | together n => together (n - 1)
  | alone i => alone i

end Lock

/-- The callers of a cache. -/
structure Meeting (ν : Type) where
  cache : ExpiringCache ν
  callers : List (Caller ν) := []
  lock : Lock := .free

/-- What can happen at a meeting. -/
inductive Step (ν : Type) where
  /-- A caller comes. -/
  | come (request : Request)
  /-- The lock is granted to a caller. -/
  | grant (caller : Nat)
  /-- A caller does what it does until it waits again. -/
  | proceed (caller : Nat)
  /-- The population of a caller is complete. -/
  | finish (caller : Nat) (value : ν) (lifetime : Span)
  /-- A caller is dropped. -/
  | leave (caller : Nat)

namespace Meeting

variable {ν : Type}

/-- The meeting with a caller replaced. -/
def put (m : Meeting ν) (i : Nat) (c : Caller ν) : Meeting ν :=
  { m with callers := m.callers.set i c }

/-- The lock is granted to readers as long as nobody owns it, and an owner if nobody
holds it. -/
def grant? (m : Meeting ν) (i : Nat) : Option (Meeting ν) :=
  match m.callers[i]? with
  | none => none
  | some c =>
    match c.phase, m.lock with
    | .arrived, .together n =>
      some ({ m with lock := .together (n + 1) }.put i { c with phase := .reading })
    | .queued, .together 0 => some ({ m with lock := .alone i }.put i { c with phase := .owning })
    | _, _ => none

/-- A caller that holds the lock uses it, and gives it back unless it has to
populate its key; one that has removed a key counts that. -/
def proceed? (m : Meeting ν) (now i : Nat) : Option (Meeting ν) :=
  match m.callers[i]? with
  | none => none
  | some c =>
    match c.phase with
    | .reading =>
      let (phase, cache) := c.request.read now m.cache
      some ({ m with cache := cache, lock := m.lock.readerLeaves }.put i { c with phase := phase })
    | .owning =>
      let (phase, cache) := c.request.own c.since now m.cache
      let lock := if phase.owns then m.lock else .free
      some ({ m with cache := cache, lock := lock }.put i { c with phase := phase })
    | .counting held =>
      some ({ m with cache := m.cache.countDrop held }.put i
        { c with phase := .done (.removed held) })
    | _ => none

/-- The lock after a caller in a phase has been dropped. -/
def lockWithout (m : Meeting ν) (p : Phase ν) : Lock :=
  if p.reads then m.lock.readerLeaves else if p.owns then .free else m.lock

/-- A caller that waits is dropped, and gives the lock back if it holds it. -/
def leave? (m : Meeting ν) (i : Nat) : Option (Meeting ν) :=
  match m.callers[i]? with
  | none => none
  | some c =>
    if c.phase.waits then
      some ({ m with lock := m.lockWithout c.phase }.put i { c with phase := .gone })
    else none

/-- A populating caller stores its value and gives the lock back.  If the clock cannot tell
when the value ends, the caller is gone without having stored it. -/
def finish? (m : Meeting ν) (now i : Nat) (value : ν) (lifetime : Span) : Option (Meeting ν) :=
  match m.callers[i]? with
  | none => none
  | some c =>
    match c.request, c.phase with
    | .fetch key, .populating stale =>
      if lifetime.fits now then
        some ({ m with cache := m.cache.store key value lifetime now stale, lock := .free }.put i
          { c with phase := .done (.populated value) })
      else m.leave? i
    | _, _ => none

/-- The meeting after a step, if the step is possible. -/
def step? (m : Meeting ν) (now : Nat) : Step ν → Option (Meeting ν)
  | .come r => some { m with callers := m.callers ++ [⟨r, now, r.start⟩] }
  | .grant i => m.grant? i
  | .proceed i => m.proceed? now i
  | .finish i value lifetime => m.finish? now i value lifetime
  | .leave i => m.leave? i

/-- While a caller owns the lock, it is granted to nobody. -/
theorem grant?_of_alone {m : Meeting ν} {j : Nat} (h : m.lock = .alone j) (i : Nat) :
    m.grant? i = none := by
  unfold grant?
  split
  · rfl
  · rw [h]
    split <;> simp_all

/-! ### Runs -/

/-- The meeting after steps at their times, if all of them are possible. -/
def run? (m : Meeting ν) : List (Nat × Step ν) → Option (Meeting ν)
  | [] => some m
  | (now, s) :: rest => (m.step? now s).bind fun m => m.run? rest

@[simp] theorem run?_nil (m : Meeting ν) : m.run? [] = some m :=
  rfl

/-- A run goes on from where an earlier run ends. -/
theorem run?_append (m : Meeting ν) (before after : List (Nat × Step ν)) :
    m.run? (before ++ after) = (m.run? before).bind fun m => m.run? after := by
  induction before generalizing m with
  | nil => rfl
  | cons e rest ih =>
    obtain ⟨now, s⟩ := e
    cases h : m.step? now s with
    | none => simp [run?, h]
    | some m' => simp [run?, h, ih]

/-! ### Results -/

/-- The meeting after a step, which is left out if it is not possible. -/
def act (m : Meeting ν) (now : Nat) (s : Step ν) : Meeting ν :=
  (m.step? now s).getD m

/-- A caller takes the lock, if it can, and uses it. -/
def visit (m : Meeting ν) (now i : Nat) : Meeting ν :=
  (m.act now (.grant i)).act now (.proceed i)

/-- Whether a caller populates its key. -/
def isPopulating (m : Meeting ν) (i : Nat) : Bool :=
  m.callers[i]?.any fun c => c.phase.populates

/-- What a caller wants. -/
def request? (m : Meeting ν) (i : Nat) : Option Request :=
  m.callers[i]?.map Caller.request

/-- What a caller got. -/
def answer? (m : Meeting ν) (i : Nat) : Option (Answer ν) :=
  m.callers[i]?.bind fun c => c.phase.answer?

/-- What the callers fetched. -/
def values (m : Meeting ν) : List (Option ν) :=
  m.callers.map fun c => c.phase.answer?.bind Answer.value?

end Meeting

/-! ## First come, first served -/

/-- A call: the key, what it would be populated with, and how long that takes. -/
structure Call (ν : Type) where
  key : String
  value : ν
  lifetime : Span
  delay : Nat

namespace Meeting

variable {ν : Type}

/-- Lets callers come together. -/
def receive (m : Meeting ν) (clock : Nat) (calls : List (Call ν)) : Meeting ν :=
  calls.foldl (fun m call => m.act clock (.come (.fetch call.key))) m

/-- Lets queued callers take the lock one after the other. -/
def serve (m : Meeting ν) (clock : Nat) : List (Nat × Call ν) → Meeting ν × Nat
  | [] => (m, clock)
  | (i, call) :: rest =>
    let m := m.visit clock i
    if m.isPopulating i then
      let clock := clock + call.delay
      (m.act clock (.finish i call.value call.lifetime)).serve clock rest
    else m.serve clock rest

/-- Lets callers look their keys up all together. -/
def lookAll (m : Meeting ν) (clock : Nat) (calls : List (Nat × Call ν)) : Meeting ν :=
  calls.foldl (fun m call => m.visit clock call.1) m

/-- Lets callers take the lock in order.  As long as populations take no time
each is served at once; behind one that takes time all others wait, look their
keys up together when it ends, and queue. -/
def welcome (m : Meeting ν) (clock : Nat) : List (Nat × Call ν) → Meeting ν × Nat
  | [] => (m, clock)
  | (i, call) :: rest =>
    let m := (m.visit clock i).visit clock i
    if m.isPopulating i then
      let later := clock + call.delay
      let m := m.act later (.finish i call.value call.lifetime)
      if call.delay = 0 then m.welcome clock rest
      else (m.lookAll later rest).serve later rest
    else m.welcome clock rest

end Meeting

/-- The cache after calls that come together, what each of them got, and when
the last one was done. -/
def ExpiringCache.fetchTogether {ν : Type} (c : ExpiringCache ν) (clock : Nat)
    (calls : List (Call ν)) : ExpiringCache ν × List (Option ν) × Nat :=
  let start : Meeting ν := { cache := c }
  let (m, clock) := (start.receive clock calls).welcome clock
    (calls.zipIdx.map fun (call, i) => (i, call))
  (m.cache, m.values, clock)

end SapMonitor.Cache
