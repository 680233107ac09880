import SapMonitor.Http.Network
import SapMonitor.Proofs.Landscape.Population
import SapMonitor.Proofs.Monitor.CachedReads

/-!
# What goes out

A peer can keep a record of the calls about single instances, and of the requests that are
sent over a network.  The record changes nothing else, so a monitor that works with it shows
what any monitor sends.

Main results:

- `Http.Network.sent_post`: what a post sends.
- `sent_directory_of_error`: a read of the directory that fails, and is not lost, sends
  nothing about single instances.
- `sent_processes`: a read of a process list asks for nothing else.
-/

namespace SapMonitor

open Remote (ControlService Operation Outcome RemoteError)

variable {σ α : Type}

theorem Work.bind_run {β : Type} (x : Work σ α) (k : α → Work σ β) (w : World σ) :
    (x >>= k) w = k (x w).1 (x w).2 :=
  rfl

/-! ## Records -/

/-- Something that goes out: a call about an instance, or a request over a network. -/
inductive Sent where
  | call (operation : Operation) (endpoint : String)
  | request (r : Http.Request)

/-- Work that goes on record as something sent. -/
def Work.sending (out : List Sent) (work : Work σ α) : Work (σ × List Sent) α :=
  fun w =>
    let done := work ⟨w.clock, w.journal, w.peer.1⟩
    (done.1, ⟨done.2.clock, done.2.journal, (done.2.peer, w.peer.2 ++ out)⟩)

/-- What has been sent so far. -/
def World.sent (w : World (σ × List Sent)) : List Sent :=
  w.peer.2

/-- The service with its calls about instances on record. -/
def Remote.ControlService.recorded (service : ControlService σ) :
    ControlService (σ × List Sent) where
  systemInstances d := (service.systemInstances d).sending []
  properties d url := (service.properties d url).sending [.call .properties url]
  processes d url := (service.processes d url).sending [.call .processes url]
  queues d url := (service.queues d url).sending [.call .queues url]
  alerts d url := (service.alerts d url).sending [.call .alerts url]
  workProcesses d url := (service.workProcesses d url).sending [.call .workProcesses url]
  lockStatistic d url := (service.lockStatistic d url).sending [.call .lockStatistic url]

/-- The network with its requests on record. -/
def Http.Network.recorded (n : Http.Network σ) : Http.Network (σ × List Sent) where
  idna := n.idna
  exchange r limit := (n.exchange r limit).sending [.request r]

/-- The requests that a post makes: none, if it cannot be sent. -/
def Http.Post.requests (p : Http.Post) (idna : Url.Idna) : List Http.Request :=
  match p.request idna with
  | .ok r => [r]
  | .error _ => []

/-- A post sends its requests and nothing else. -/
theorem Http.Network.sent_post (n : Http.Network σ) (p : Http.Post) (w : World (σ × List Sent)) :
    (n.recorded.post p w).2.sent = w.sent ++ (p.requests n.idna).map .request := by
  have hidna : n.recorded.idna = n.idna := rfl
  rw [Http.Network.post, Http.Post.requests, hidna]
  cases p.request n.idna with
  | error reason => exact (List.append_nil _).symm
  | ok r => rfl

/-- The access to a system, with what goes out on record. -/
def MonitoredSystem.recorded (s : MonitoredSystem σ) : MonitoredSystem (σ × List Sent) where
  service := s.service.recorded
  policy := s.policy

/-- The instances that were asked a question. -/
def asked (operation : Operation) (sent : List Sent) : List String :=
  sent.filterMap fun
    | .call o endpoint => if o = operation then some endpoint else none
    | .request _ => none

@[simp] theorem asked_append (operation : Operation) (a b : List Sent) :
    asked operation (a ++ b) = asked operation a ++ asked operation b :=
  List.filterMap_append

@[simp] theorem asked_call (operation o : Operation) (endpoint : String) :
    asked operation [.call o endpoint] = if o = operation then [endpoint] else [] := by
  unfold asked
  rw [List.filterMap_cons]
  split <;> simp_all

@[simp] theorem asked_requests (operation : Operation) (rs : List Http.Request) :
    asked operation (rs.map .request) = [] := by
  simp [asked]

/-! ## Reads -/

/-- A read that is served sends nothing; any other sends what it asks, and returns what it was
told, if it is not lost. -/
theorem CachedRead.sent_read {shelf : Shelf (Option α)} (r : CachedRead (σ × List Sent) shelf)
    (p : Landscape.Policy) (m : Memory) (w : World (σ × List Sent)) :
    (r.read p m w).2.sent = w.sent ∨
      (r.read p m w).2.sent = (r.upstream m w).2.sent ∧
        ∀ a, (r.read p m w).1.1 = some a →
          ∃ o, (r.upstream m w).1.1 = some o ∧ a = r.reply (p.remember o).1 := by
  cases h : (shelf.get m).live? r.key w.clock with
  | some v =>
    rw [read_of_live h]
    exact .inl rfl
  | none =>
    have hasks := asks_of_dead p h
    exact .inr ⟨congrArg Prod.snd hasks.peer, fun a ha => hasks.exists_kept ha⟩

namespace MonitoredSystem

/-- Asking for the directory asks no instance if it fails. -/
theorem sent_askDirectory_of_error {s : MonitoredSystem σ} {d : Deadline} {m : Memory}
    {w : World (σ × List Sent)} {e : RemoteError}
    (h : (s.recorded.askDirectory d m w).1.1 = some (.error e)) :
    (s.recorded.askDirectory d m w).2.sent = w.sent := by
  cases hlist : s.recorded.service.systemInstances d w with
  | mk outcome w' =>
    have hsent : w'.sent = w.sent := by
      have hw : (s.recorded.service.systemInstances d w).2 = w' := congrArg Prod.snd hlist
      rw [← hw]
      exact List.append_nil _
    cases outcome with
    | error cause =>
      rw [askDirectory_of_error (Landscape.populate_of_error hlist)]
      exact hsent
    | ok listed =>
      by_cases hp : Landscape.maxPermits < s.recorded.policy.fanoutLimit
      · rw [askDirectory_of_lost (Landscape.populate_of_crowded hp hlist)] at h
        cases h
      · have hpopulate : (Landscape.populate s.recorded.service s.recorded.policy d m.systemId
            w).1 = some (.ok _) := (Landscape.populate_of_listed (Nat.not_lt.1 hp) hlist).1
        rw [askDirectory_of_ok (Prod.ext hpopulate rfl)] at h
        cases h

/-- A read of the directory that fails, and is not lost, asks no instance. -/
theorem sent_directory_of_error {s : MonitoredSystem σ} {d : Deadline} {m m' : Memory}
    {w w' : World (σ × List Sent)} {e : RemoteError}
    (h : s.recorded.directory d m w = ((.error e, m'), w')) (hne : e ≠ CachedRead.lostRead) :
    w'.sent = w.sent := by
  have hw : (s.recorded.directory d m w).2 = w' := congrArg Prod.snd h
  have hread : ((s.recorded.directoryRead d).read s.recorded.policy m w).1.1 =
      some (.error e) :=
    CachedRead.read_of_outcome (congrArg (fun x => x.1.1) h) fun he => hne (Except.error.inj he)
  rw [← hw]
  rcases (s.recorded.directoryRead d).sent_read s.recorded.policy m w with hsame | ⟨hsent, hanswer⟩
  · exact hsame
  · rcases hanswer _ hread with ⟨cause | directory, hask, ha⟩
    · exact hsent.trans (sent_askDirectory_of_error hask)
    · cases ha

/-- A read of a process list asks for nothing but that list. -/
theorem sent_processes (s : MonitoredSystem σ) (d : Deadline) (endpoint : String) (m : Memory)
    (w : World (σ × List Sent)) :
    (s.recorded.processes d endpoint m w).2.sent = w.sent ∨
      (s.recorded.processes d endpoint m w).2.sent = w.sent ++ [.call .processes endpoint] := by
  refine ((s.recorded.processRead d endpoint).sent_read s.recorded.policy m w).imp id ?_
  rintro ⟨hsent, -⟩
  refine hsent.trans ?_
  change (Landscape.readProcesses s.recorded.service d endpoint w).2.sent = _
  have hcall : (s.recorded.service.processes d endpoint w).2.sent =
      w.sent ++ [.call .processes endpoint] := rfl
  cases h : s.recorded.service.processes d endpoint w with
  | mk outcome w' =>
    rw [h] at hcall
    simp only [Landscape.readProcesses, bind, StateT.bind, h]
    cases outcome with
    | error e => exact hcall
    | ok ps => exact (congrArg Prod.snd (Landscape.peer_noteAll _ w')).trans hcall

end MonitoredSystem

end SapMonitor
