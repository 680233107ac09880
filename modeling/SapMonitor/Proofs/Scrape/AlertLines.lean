import SapMonitor.Proofs.Monitor.Outgoing
import SapMonitor.Proofs.Scrape.Inquiries

/-!
# Lines of alerts

The collector of alerts inquires too, but besides making samples of the alerts it hands lines
to the log store.  Which lines these are depends on the alerts, and on what the clock shows
when they are worked off: a line takes its first reading for a time that cannot be read, and
the second one decides whether the alert is too old.

Main results:

- `report_run`: working through alerts yields their samples and hands over their lines.
- `collect_eq`: the collector is an inquiry.
- `traffic_collect`: what a run asks, and what it hands to the log store.
-/

namespace SapMonitor.Scrape.Alerts

open LogStore (ClientSettings LogLine Pending Stream)
open Series (Family Sample)
open Time (Moment)
open Landscape (Directory Member)
open Remote (Alert Operation Outcome StateColor)

variable {σ : Type}

/-! ## Working off alerts -/

/-- The samples of alerts whose states are colours, if alerts become metrics. -/
def samples (p : Policy) (m : Member) : List Alert → List Sample
  | [] => []
  | a :: rest =>
    match StateColor.read? a.value with
    | some c => if p.toMetrics then sample m a c :: samples p m rest else samples p m rest
    | none => samples p m rest

/-- What is done about an alert besides its sample, with `left` alerts still to come. -/
def handle (p : Policy) (outlet : Option (Outlet σ)) (m : Member) (a : Alert) (left : Nat) :
    Watch σ Unit := do
  match StateColor.read a.value with
  | .error e => (Work.warn ("recordAlerts: Alert State conversion: " ++ e.message) : Work σ Unit)
  | .ok _ =>
    match outlet with
    | some o => forward p o m a left
    | none => pure ()

/-- What is done about alerts, one after the other. -/
def handleAll (p : Policy) (outlet : Option (Outlet σ)) (m : Member) : List Alert → Watch σ Unit
  | [] => pure ()
  | a :: rest => do
    handle p outlet m a rest.length
    handleAll p outlet m rest

/-- Working through alerts yields their samples, whatever is done about them. -/
theorem report_run (p : Policy) (outlet : Option (Outlet σ)) (m : Member) (alerts : List Alert)
    (memory : Memory) (w : World σ) :
    report p outlet m alerts memory w =
      let handled := handleAll p outlet m alerts memory w
      ((samples p m alerts, handled.1.2), handled.2) := by
  induction alerts generalizing memory w with
  | nil => rfl
  | cons a rest ih =>
    simp only [report, handleAll, handle, samples, StateColor.read]
    cases StateColor.read? a.value with
    | none =>
      simp only [Watch.bind_run, Watch.lift_run]
      exact ih ..
    | some c =>
      cases outlet <;> cases p.toMetrics <;>
        simp only [Watch.bind_run, Watch.pure_run, ih, if_true, if_false, Bool.false_eq_true]

/-! ## Lines -/

/-- The line of an alert that is worked off with readings of the clock; none, if its state is no
colour or if it is too old. -/
def line? (p : Policy) (c : ClientSettings) (m : Member) (x : Alert × Readings) : Option LogLine :=
  (StateColor.read? x.1.value).bind fun _ =>
    let t := (alertTime x.1.time c.offset x.2.fallback).1
    if t.isOutdated x.2.present p.maxAge then none else some (line m x.1 t)

/-- The post of a push. -/
def pushPost (c : ClientSettings) (batches : List Stream) : Http.Post where
  address := c.address
  headers := [("Content-Type", "application/json"), ("X-Scope-OrgID", c.tenant)]
  body := LogStore.pushBody batches
  limit := c.timeout

/-- The requests that a push makes: none, if the post cannot be sent. -/
def pushRequests (o : Outlet σ) (batches : List Stream) : List Http.Request :=
  (pushPost o.settings batches).requests o.network.idna

/-- What has been sent and the lines that wait, after a line is handed to the log store: it
waits, or goes out with its full stream. -/
def hand (o : Outlet σ) (x : List Sent × Pending) (l : LogLine) : List Sent × Pending :=
  let filed := LogStore.enqueue o.settings l x.2
  (x.1 ++ (filed.1.toList.flatMap fun batch => pushRequests o [batch]).map .request, filed.2)

/-- Handing lines over asks nobody. -/
theorem asked_hand (o : Outlet σ) (lines : List LogLine) (x : List Sent × Pending)
    (operation : Operation) : asked operation (lines.foldl (hand o) x).1 = asked operation x.1 := by
  induction lines generalizing x with
  | nil => rfl
  | cons l lines ih =>
    rw [List.foldl_cons, ih, hand, asked_append, asked_requests, List.append_nil]

/-- What has been sent and the lines that wait. -/
def traffic (memory : Memory) (w : World (σ × List Sent)) : List Sent × Pending :=
  (w.sent, memory.pending)

/-- The way to the log store, with what goes out on record. -/
def Outlet.recorded (o : Outlet σ) : Outlet (σ × List Sent) where
  network := o.network.recorded
  settings := o.settings

/-- A push is over when its post is. -/
theorem world_push (n : Http.Network σ) (c : ClientSettings) (batches : List Stream) (w : World σ) :
    (LogStore.push n c batches w).2 = (n.post (pushPost c batches) w).2 := by
  change ((n.post (pushPost c batches) >>= _) w).2 = _
  rw [Work.bind_run]
  cases (n.post (pushPost c batches) w).1 with
  | error reason => rfl
  | ok answer =>
    simp only
    split <;> rfl

/-- A push sends its requests and nothing else. -/
theorem sent_push (o : Outlet σ) (batches : List Stream) (w : World (σ × List Sent)) :
    (LogStore.push o.network.recorded o.settings batches w).2.sent =
      w.sent ++ (pushRequests o batches).map .request := by
  rw [world_push]
  exact o.network.sent_post (pushPost o.settings batches) w

/-- Sends a line with the memory at hand. -/
def Outlet.send (o : Outlet σ) (l : LogLine) : Watch σ (Except LogStore.PushError Unit) :=
  LogStore.send (fun f => modifyGet (Memory.onPending f)) o.network o.settings l

/-- Sending a line hands it over. -/
theorem traffic_send (o : Outlet σ) (l : LogLine) (memory : Memory) (w : World (σ × List Sent)) :
    traffic (o.recorded.send l memory w).1.2 (o.recorded.send l memory w).2 =
      hand o (traffic memory w) l := by
  have hfiled : (modifyGet (Memory.onPending (LogStore.enqueue o.settings l)) :
      Watch (σ × List Sent) _) memory w =
        (((LogStore.enqueue o.settings l memory.pending).1,
          { memory with pending := (LogStore.enqueue o.settings l memory.pending).2 }), w) := rfl
  have hsettings : o.recorded.settings = o.settings := rfl
  simp only [Outlet.send, LogStore.send, Watch.bind_run, traffic, hand]
  rw [hsettings, hfiled]
  cases (LogStore.enqueue o.settings l memory.pending).1 with
  | none => simp [Watch.pure_run]
  | some batch =>
    simp only [Watch.lift_run, Option.toList_some, List.flatMap_singleton]
    exact Prod.ext (sent_push o [batch] w) rfl

/-- An alert that is too old leaves a note at most; the line of any other is sent. -/
theorem forward_run (p : Policy) (o : Outlet σ) (m : Member) (a : Alert) (left : Nat)
    (memory : Memory) (w : World σ) :
    let t := alertTime a.time o.settings.offset (p.readingsAt w.clock left).fallback
    let noted : World σ := { w with journal := t.2.toList.reverse ++ w.journal }
    let sent := o.send (line m a t.1) memory noted
    ∃ journal, forward p o m a left memory w =
      if t.1.isOutdated (p.readingsAt w.clock left).present p.maxAge then (((), memory), noted)
      else (((), sent.1.2), { sent.2 with journal := journal }) := by
  unfold forward
  rw [Watch.bind_run, Watch.lift_run, Work.now_run]
  simp only
  rw [Watch.bind_run, Watch.lift_run, noteAll_run]
  split
  · exact ⟨[], rfl⟩
  · rw [Watch.bind_run, ← Outlet.send]
    cases (o.send _ memory _).1.1 with
    | ok => exact ⟨_, rfl⟩
    | error e => exact ⟨_, rfl⟩

/-- What is done about an alert hands its line over. -/
theorem traffic_handle (p : Policy) (o : Outlet σ) (m : Member) (a : Alert) (left : Nat)
    (memory : Memory) (w : World (σ × List Sent)) :
    let handled := handle p (some o.recorded) m a left memory w
    traffic handled.1.2 handled.2 =
      (line? p o.settings m (a, p.readingsAt w.clock left)).toList.foldl (hand o)
        (traffic memory w) := by
  simp only [handle, line?, StateColor.read]
  cases StateColor.read? a.value with
  | none => rfl
  | some c =>
    obtain ⟨journal, hrun⟩ := forward_run p o.recorded m a left memory w
    have hsettings : o.recorded.settings = o.settings := rfl
    simp only [Option.bind_some]
    rw [hrun, hsettings]
    split
    · rfl
    · exact traffic_send o _ memory _

/-! ## The alerts of a member -/

/-- Alerts, each with the readings of the clock with which it is worked off. -/
def handling (p : Policy) (outlet : Option (Outlet σ)) (m : Member) :
    List Alert → Memory → World σ → List (Alert × Readings)
  | [], _, _ => []
  | a :: rest, memory, w =>
    let handled := handle p outlet m a rest.length memory w
    (a, p.readingsAt w.clock rest.length) :: handling p outlet m rest handled.1.2 handled.2

theorem alerts_handling (p : Policy) (outlet : Option (Outlet σ)) (m : Member)
    (alerts : List Alert) (memory : Memory) (w : World σ) :
    (handling p outlet m alerts memory w).map Prod.fst = alerts := by
  induction alerts generalizing memory w with
  | nil => rfl
  | cons a rest ih => rw [handling, List.map_cons, ih]

/-- The lines of alerts are handed over one after the other. -/
theorem traffic_handleAll (p : Policy) (o : Outlet σ) (m : Member) (alerts : List Alert)
    (memory : Memory) (w : World (σ × List Sent)) :
    let handled := handleAll p (some o.recorded) m alerts memory w
    traffic handled.1.2 handled.2 =
      ((handling p (some o.recorded) m alerts memory w).filterMap (line? p o.settings m)).foldl
        (hand o) (traffic memory w) := by
  induction alerts generalizing memory w with
  | nil => rfl
  | cons a rest ih =>
    have hfirst := traffic_handle p o m a rest.length memory w
    have hrest := ih (handle p (some o.recorded) m a rest.length memory w).1.2
      (handle p (some o.recorded) m a rest.length memory w).2
    have hsplit : (handling p (some o.recorded) m (a :: rest) memory w).filterMap
        (line? p o.settings m) =
          (line? p o.settings m (a, p.readingsAt w.clock rest.length)).toList ++
            (handling p (some o.recorded) m rest
              (handle p (some o.recorded) m a rest.length memory w).1.2
              (handle p (some o.recorded) m a rest.length memory w).2).filterMap
                (line? p o.settings m) := by
      rw [handling, List.filterMap_cons]
      cases line? p o.settings m (a, p.readingsAt w.clock rest.length) <;> rfl
    rw [hsplit, List.foldl_append, ← hfirst]
    exact hrest

/-- Without a way to the log store nothing is sent and no line waits. -/
theorem traffic_handleAll_none (p : Policy) (m : Member) (alerts : List Alert)
    (memory : Memory) (w : World (σ × List Sent)) :
    let handled := handleAll p none m alerts memory w
    traffic handled.1.2 handled.2 = traffic memory w := by
  induction alerts generalizing memory w with
  | nil => rfl
  | cons a rest ih =>
    refine (ih (handle p none m a rest.length memory w).1.2
      (handle p none m a rest.length memory w).2).trans ?_
    simp only [handle, StateColor.read]
    cases StateColor.read? a.value <;> rfl

/-! ## The inquiry -/

/-- The alerts of an instance that matter. -/
def inquiry (s : MonitoredSystem σ) (p : Policy) (outlet : Option (Outlet σ)) :
    Inquiry σ (List Alert) where
  catalog := catalog
  purpose := "recordAlerts"
  matters _ := true
  ask d m := do
    match ← (s.service.alerts d m.endpoint : Work σ _) with
    | .error e =>
      (Work.warn ("GetAlerts: " ++ e.message) : Work σ Unit)
      return none
    | .ok tree => return some (relevant p tree.alerts)
  digest := report p outlet
  samples := samples p
  digests m alerts memory w := by rw [report_run]

theorem visit_eq (s : MonitoredSystem σ) (p : Policy) (outlet : Option (Outlet σ)) :
    (inquiry s p outlet).visit = visit s p outlet := by
  funext d m memory w
  simp only [Inquiry.visit, inquiry, visit, Watch.bind_run, Watch.lift_run]
  cases (s.service.alerts d m.endpoint w).1 <;> rfl

theorem collect_eq (s : MonitoredSystem σ) (p : Policy) (outlet : Option (Outlet σ)) :
    (collector s p outlet).collect = (inquiry s p outlet).run s := by
  funext d
  rw [Inquiry.run, visit_eq]
  rfl

/-! ## Runs -/

/-- The alerts of the member of a stop, each with the readings of the clock with which it is
worked off; none, if it does not answer. -/
def workedAt (s : MonitoredSystem σ) (p : Policy) (outlet : Option (Outlet σ)) (d : Deadline)
    (st : Stop σ) : List (Alert × Readings) :=
  let answer := (inquiry s p outlet).ask d st.member st.memory st.world
  answer.1.1.elim [] fun alerts => handling p outlet st.member alerts answer.1.2 answer.2

/-- The members that a run comes to, with the alerts that are worked off there. -/
def worked (s : MonitoredSystem σ) (p : Policy) (outlet : Option (Outlet σ)) (d : Deadline)
    (memory : Memory) (w : World σ) : List (Member × List (Alert × Readings)) :=
  ((inquiry s p outlet).tour s d memory w).map fun st => (st.member, workedAt s p outlet d st)

/-- The lines of alerts that are worked off for a member. -/
def linesOf (p : Policy) (c : ClientSettings) (x : Member × List (Alert × Readings)) :
    List LogLine :=
  x.2.filterMap (line? p c x.1)

/-- What has been sent and the lines that wait, after a member was asked for its alerts and
their lines were handed over. -/
def tell (p : Policy) (o : Outlet σ) (before : List Sent × Pending)
    (x : Member × List (Alert × Readings)) : List Sent × Pending :=
  (linesOf p o.settings x).foldl (hand o) (before.1 ++ [.call .alerts x.1.endpoint], before.2)

/-- The alerts that are worked off are those of the answers. -/
theorem alerts_worked (s : MonitoredSystem σ) (p : Policy) (outlet : Option (Outlet σ))
    (d : Deadline) (memory : Memory) (w : World σ) :
    (worked s p outlet d memory w).map (fun x => (x.1, x.2.map Prod.fst)) =
      ((inquiry s p outlet).answers s d memory w).map fun x => (x.1, x.2.getD []) := by
  rw [worked, Inquiry.answers, List.map_map, List.map_map]
  refine List.map_congr_left fun st _ => Prod.ext rfl ?_
  simp only [Function.comp_apply, workedAt, Stop.outcome]
  cases ((inquiry s p outlet).ask d st.member st.memory st.world).1.1 with
  | none => rfl
  | some alerts => exact alerts_handling p outlet st.member alerts _ _

/-- A visit asks a member for its alerts and hands their lines over. -/
theorem traffic_visit (s : MonitoredSystem σ) (p : Policy) (o : Outlet σ) (d : Deadline)
    (m : Member) (memory : Memory) (w : World (σ × List Sent)) :
    let visited := (inquiry s.recorded p (some o.recorded)).visit d m memory w
    traffic visited.1.2 visited.2 =
      tell p o (traffic memory w)
        (m, workedAt s.recorded p (some o.recorded) d ⟨m, memory, w⟩) := by
  have hcall : (s.recorded.service.alerts d m.endpoint w).2.sent =
      w.sent ++ [.call .alerts m.endpoint] := rfl
  simp only [Inquiry.visit, inquiry, workedAt, Watch.bind_run, Watch.lift_run]
  cases h : s.recorded.service.alerts d m.endpoint w with
  | mk outcome w' =>
    rw [h] at hcall
    cases outcome with
    | error e => exact Prod.ext hcall rfl
    | ok tree =>
      have hstart : traffic memory w' = (w.sent ++ [.call .alerts m.endpoint], memory.pending) :=
        Prod.ext hcall rfl
      simp only [Watch.pure_run, report_run, Option.elim_some]
      rw [traffic_handleAll, hstart]
      rfl

/-- A run asks the members one after the other, and hands the lines of each over before it comes
to the next. -/
theorem traffic_collect {s : MonitoredSystem σ} {p : Policy} {o : Outlet σ} {d : Deadline}
    {memory memory' : Memory} {w w' : World (σ × List Sent)} {directory : Directory}
    (h : s.recorded.directory d memory w = ((.ok directory, memory'), w')) :
    let run := (collector s.recorded p (some o.recorded)).collect d memory w
    traffic run.1.2 run.2 =
      (worked s.recorded p (some o.recorded) d memory w).foldl (tell p o)
        (traffic memory' w') := by
  simp only
  rw [collect_eq, Inquiry.run, survey_of_directory h, worked, Inquiry.tour_of_directory h,
    List.foldl_map]
  exact view_visitAll traffic
    (fun st x => tell p o x (st.member, workedAt s.recorded p (some o.recorded) d st))
    (fun _ _ _ => rfl) (traffic_visit s p o d) _ _ _ _

end SapMonitor.Scrape.Alerts
