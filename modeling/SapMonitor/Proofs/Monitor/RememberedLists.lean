import SapMonitor.Program
import SapMonitor.Proofs.Monitor.CachedReads
import SapMonitor.Proofs.Scrape.Inquiries

/-!
# Process lists that are remembered

A process list gets into the memory in one way only: the service lists processes, and each of them
is watched.  Nothing else that a running program does makes up a list or changes one.  So every list
that anybody reads, at any time, is one of watched processes.

Main results:

- `Memory.Genuine.answer`: whoever reads a process list reads watched processes.
- `Scrape.keeps_collect`: every collector keeps the lists genuine.
- `Program.Running.Reached.genuine`: so does everything that a program does.
-/

namespace SapMonitor

open Cache (Entry ExpiringCache)
open Landscape (Directory Member WatchedProcess watched)
open Remote (Outcome)
open Series (Buffer Sample)
open Time (Moment)

variable {σ α β : Type}

/-! ## What work keeps -/

/-- A property of the memory that a watch does not destroy. -/
def Watch.Keeps (P : Memory → Prop) (x : Watch σ α) : Prop :=
  ∀ m w, P m → P (x m w).1.2

namespace Watch.Keeps

variable {P : Memory → Prop}

theorem pure (a : α) : Keeps P (Pure.pure a : Watch σ α) :=
  fun _ _ h => h

/-- Work alone does not reach the memory. -/
theorem lift (x : Work σ α) : Keeps P (liftM x : Watch σ α) :=
  fun _ _ h => h

theorem get : Keeps P (MonadState.get : Watch σ Memory) :=
  fun _ _ h => h

theorem bind {x : Watch σ α} {k : α → Watch σ β} (hx : Keeps P x) (hk : ∀ a, Keeps P (k a)) :
    Keeps P (x >>= k) :=
  fun m w h => hk _ _ _ (hx m w h)

/-- Work whose result is made into another one. -/
theorem lift_pure (x : Work σ α) (f : α → β) :
    Keeps P ((liftM x : Watch σ α) >>= fun a => Pure.pure (f a)) :=
  (lift x).bind fun a => .pure (f a)

theorem ite {c : Prop} [Decidable c] {x y : Watch σ α} (hx : Keeps P x) (hy : Keeps P y) :
    Keeps P (if c then x else y) := by
  split
  · exact hx
  · exact hy

end Watch.Keeps

/-! ## Genuine lists -/

/-- Every process list that is remembered was listed, process by process. -/
def Memory.Genuine (m : Memory) : Prop :=
  ∀ key entry ps, m.processes.find? key = some entry → entry.value = some ps →
    ∃ listed, ps = watched listed

namespace Memory

theorem genuine_ofSystemId (id : String) : (Memory.ofSystemId id).Genuine :=
  fun _ _ _ hfind _ => nomatch hfind

variable {m m' : Memory}

theorem Genuine.of_find? (hm : m.Genuine)
    (h : ∀ key, m'.processes.find? key = m.processes.find? key) : m'.Genuine :=
  fun key entry ps hfind hvalue => hm key entry ps (h key ▸ hfind) hvalue

/-- What is live is remembered. -/
theorem Genuine.live (hm : m.Genuine) {key : String} {now : Nat} {ps : List WatchedProcess}
    (h : m.processes.live? key now = some (some ps)) : ∃ listed, ps = watched listed := by
  rw [ExpiringCache.live?, Option.map_eq_some_iff] at h
  obtain ⟨entry, hentry, hvalue⟩ := h
  exact hm key entry ps (Option.mem_filter_iff.1 hentry).1 hvalue

/-- A sweep only takes lists away. -/
theorem Genuine.purge (hm : m.Genuine) (now : Nat) : (m.purge now).2.Genuine := by
  intro key entry ps hfind hvalue
  have hkept : (m.processes.purge now).2.find? key = some entry := hfind
  rw [ExpiringCache.find?_purge] at hkept
  exact hm key entry ps (Option.mem_filter_iff.1 hkept).1 hvalue

variable {s : MonitoredSystem σ}

/-- What the service lists is watched, process by process. -/
theorem exists_listed {d : Deadline} {endpoint : String} {w : World σ} {ps : List WatchedProcess}
    (h : ((s.processRead d endpoint).ask m w).1.1 = some (.ok ps)) :
    ∃ listed, ps = watched listed := by
  rw [s.outcome_processRead] at h
  cases hlisted : (s.service.processes d endpoint w).1 with
  | error e =>
    rw [hlisted] at h
    cases h
  | ok listed =>
    rw [hlisted] at h
    cases h
    exact ⟨listed, rfl⟩

/-- Only a list is remembered as a list. -/
theorem eq_ok_of_remember {p : Landscape.Policy} {o : Outcome α} {a : α}
    (h : (p.remember o).1 = some a) : o = .ok a := by
  cases o with
  | ok b =>
    cases h
    rfl
  | error e => cases h

/-- Whoever reads a process list reads watched processes. -/
theorem Genuine.answer (hm : m.Genuine) {d : Deadline} {endpoint : String} {w : World σ}
    {ps : List WatchedProcess} (h : (s.processes d endpoint m w).1.1 = .ok ps) :
    ∃ listed, ps = watched listed := by
  have hreply : ∀ v, (s.processRead d endpoint).reply v = .ok ps → v = some ps := by
    intro v hv
    cases v <;> cases hv
    rfl
  have hread : ((s.processRead d endpoint).read s.policy m w).1.1 = some (.ok ps) :=
    CachedRead.read_of_outcome h nofun
  cases hlive : (processShelf.get m).live? (s.processRead d endpoint).key w.clock with
  | some v =>
    rw [CachedRead.read_of_live hlive] at hread
    rw [hreply v (Option.some.inj hread)] at hlive
    exact hm.live hlive
  | none =>
    obtain ⟨o, hasked, ho⟩ := (CachedRead.asks_of_dead s.policy hlive).exists_kept hread
    rw [eq_ok_of_remember (hreply _ ho.symm)] at hasked
    exact exists_listed hasked

end Memory

namespace MonitoredSystem

variable (s : MonitoredSystem σ) (d : Deadline)

/-- Reading the directory does not touch the lists. -/
theorem keeps_directory : Watch.Keeps Memory.Genuine (s.directory d) := by
  intro m w hm
  refine hm.of_find? fun key => ?_
  rw [processes_directory]

/-- Reading a list leaves it, or what the service lists in its place. -/
theorem keeps_processes (endpoint : String) :
    Watch.Keeps Memory.Genuine (s.processes d endpoint) := by
  intro m w hm
  change ((s.processRead d endpoint).read s.policy m w).1.2.Genuine
  cases hlive : (Memory.processShelf.get m).live? (s.processRead d endpoint).key w.clock with
  | some v =>
    rw [CachedRead.read_of_live hlive]
    exact hm.of_find? fun key => ExpiringCache.find?_of_entries rfl key
  | none =>
    obtain ⟨w', -, -, hread⟩ := CachedRead.read_of_dead s.policy hlive
    rw [hread]
    intro key entry ps hfind hvalue
    change (CachedRead.refill _ _ _ _ _ _).find? key = some entry at hfind
    have hclaim (c : ExpiringCache (Option (List WatchedProcess))) :
        (c.claim (s.processRead d endpoint).key w.clock).2.find? key = c.find? key :=
      ExpiringCache.find?_of_entries (ExpiringCache.entries_claim _ _ _) key
    cases hkept : s.policy.kept ((s.processRead d endpoint).upstream m w).1.1 w'.clock with
    | none =>
      rw [hkept, CachedRead.refill, hclaim] at hfind
      exact hm key entry ps hfind hvalue
    | some o =>
      rw [hkept, CachedRead.refill] at hfind
      by_cases hkey : key = (s.processRead d endpoint).key
      · rw [hkey, ExpiringCache.find?_store_self] at hfind
        cases hfind
        have hasked := (Landscape.Policy.kept_eq_some.1 hkept).1
        rw [Memory.eq_ok_of_remember hvalue] at hasked
        exact Memory.exists_listed hasked
      · rw [ExpiringCache.find?_store_of_ne _ hkey, hclaim] at hfind
        exact hm key entry ps hfind hvalue

end MonitoredSystem

/-! ## Collectors -/

namespace Scrape

open Watch (Keeps)

variable {s : MonitoredSystem σ}

theorem keeps_visitAll {P : Memory → Prop} {visit : Member → Watch σ (List Sample)}
    (hvisit : ∀ m, Keeps P (visit m)) (b : Buffer) (members : List Member) :
    Keeps P (visitAll visit b members) := by
  induction members generalizing b with
  | nil => exact .pure b
  | cons m rest ih => exact (hvisit m).bind fun _ => (Keeps.lift _).bind ih

/-- A survey keeps the lists genuine if its visits do. -/
theorem keeps_survey {catalog : Series.Catalog} {purpose : String} {matters : Member → Bool}
    {visit : Deadline → Member → Watch σ (List Sample)}
    (hvisit : ∀ d m, Keeps Memory.Genuine (visit d m)) (d : Deadline) :
    Keeps Memory.Genuine (survey s catalog purpose matters visit d) := by
  refine (s.keeps_directory d).bind fun outcome => ?_
  cases outcome with
  | error e => exact .pure _
  | ok directory => exact (keeps_visitAll (hvisit d) _ _).bind fun _ => .pure _

theorem Locks.keeps_visit {P : Memory → Prop} (d : Deadline) (m : Member) :
    Keeps P (Locks.visit s d m) := by
  refine (Keeps.lift _).bind fun outcome => ?_
  cases outcome with
  | error e => exact .lift_pure _ _
  | ok statistic => exact .lift_pure _ _

theorem WorkProcesses.keeps_visit {P : Memory → Prop} (d : Deadline) (m : Member) :
    Keeps P (WorkProcesses.visit s d m) := by
  refine (Keeps.lift _).bind fun outcome => ?_
  cases outcome with
  | error e => exact .lift_pure _ _
  | ok table => exact .pure _

theorem Queues.keeps_visit (d : Deadline) (m : Member) :
    Keeps Memory.Genuine (Queues.visit s d m) := by
  refine (s.keeps_processes d m.endpoint).bind fun outcome => ?_
  cases outcome with
  | error e => exact .lift_pure _ _
  | ok ps =>
    refine .ite ((Keeps.lift _).bind fun answer => ?_) (.pure _)
    cases answer with
    | error e => exact .lift_pure _ _
    | ok queues => exact .pure _

/-- Lines that wait are not process lists. -/
theorem keeps_onPending (f : LogStore.Pending → α × LogStore.Pending) :
    Keeps Memory.Genuine (modifyGet (Memory.onPending f) : Watch σ α) :=
  fun _ _ hm => hm.of_find? fun _ => rfl

theorem Alerts.keeps_forward (p : Alerts.Policy) (o : Alerts.Outlet σ) (m : Member)
    (a : Remote.Alert) (left : Nat) : Keeps Memory.Genuine (Alerts.forward p o m a left) := by
  refine (Keeps.lift _).bind fun now => (Keeps.lift _).bind fun _ => .ite (.pure _) ?_
  refine Keeps.bind (Keeps.bind (keeps_onPending _) fun batch => ?_) fun sent => ?_
  · cases batch with
    | none => exact .pure _
    | some batch => exact .lift _
  · cases sent with
    | ok _ => exact .pure _
    | error e => exact .lift _

theorem Alerts.keeps_report (p : Alerts.Policy) (outlet : Option (Alerts.Outlet σ)) (m : Member)
    (alerts : List Remote.Alert) : Keeps Memory.Genuine (Alerts.report p outlet m alerts) := by
  induction alerts with
  | nil => exact .pure _
  | cons a rest ih =>
    rw [Alerts.report]
    cases Remote.StateColor.read a.value with
    | error e => exact (Keeps.lift _).bind fun _ => ih
    | ok c =>
      cases outlet with
      | none => exact ih.bind fun _ => .pure _
      | some o => exact (keeps_forward p o m a _).bind fun _ => ih.bind fun _ => .pure _

theorem Alerts.keeps_visit (p : Alerts.Policy) (outlet : Option (Alerts.Outlet σ)) (d : Deadline)
    (m : Member) : Keeps Memory.Genuine (Alerts.visit s p outlet d m) := by
  refine (Keeps.lift _).bind fun outcome => ?_
  cases outcome with
  | error e => exact .lift_pure _ _
  | ok tree => exact keeps_report p outlet m _

theorem Instances.keeps_visit (d : Deadline) (m : Member) :
    Keeps Memory.Genuine ((Instances.inquiry s).visit d m) := by
  refine Keeps.bind ((s.keeps_processes d m.endpoint).bind fun outcome => ?_) fun answer => ?_
  · cases outcome with
    | error e => exact .lift_pure _ _
    | ok ps => exact .pure _
  · cases answer <;> exact .pure _

theorem Instances.keeps_collect (d : Deadline) :
    Keeps Memory.Genuine ((Instances.collector s).collect d) := by
  refine (keeps_survey (fun _ _ => .pure _) d).bind fun instances => ?_
  refine Keeps.bind ?_ fun processes => .lift_pure _ _
  rw [← Instances.collectProcesses_eq]
  exact keeps_survey Instances.keeps_visit d

/-- Every collector keeps the lists genuine. -/
theorem keeps_collect {settings : Settings} {outlet : Option (Alerts.Outlet σ)}
    {readingsAt : Nat → Nat → Alerts.Readings} {c : Collector σ}
    (hc : c ∈ collectors settings s outlet readingsAt)
    (d : Deadline) : Keeps Memory.Genuine (c.collect d) := by
  simp only [collectors, List.mem_append, List.mem_cons, List.not_mem_nil, or_false,
    List.mem_ite_nil_right] at hc
  rcases hc with ((((rfl | rfl) | ⟨-, rfl⟩) | ⟨-, rfl⟩) | ⟨-, rfl⟩) | ⟨-, rfl⟩
  · exact Instances.keeps_collect d
  · exact Keeps.get.bind fun _ => .lift_pure _ _
  · exact keeps_survey Locks.keeps_visit d
  · exact keeps_survey Queues.keeps_visit d
  · exact keeps_survey WorkProcesses.keeps_visit d
  · exact keeps_survey (Alerts.keeps_visit _ outlet) d

theorem keeps_runAll {P : Memory → Prop} {d : Deadline} {cs : List (Collector σ)}
    (hcs : ∀ c ∈ cs, Keeps P (c.collect d)) : Keeps P (runAll d cs) := by
  induction cs with
  | nil => exact .pure _
  | cons c rest ih =>
    refine (hcs c List.mem_cons_self).bind fun result => ?_
    exact (ih fun c hc => hcs c (List.mem_cons_of_mem _ hc)).bind fun _ => .pure _

end Scrape

/-! ## Programs -/

namespace Program.Running

open Watch (Keeps)

/-- The memories that a program comes to when it has started: it asks for the directory, answers
requests, does what has become due, and pushes what waits before the end. -/
inductive Reached (r : Running σ) : Memory → Prop
  | start (id : String) : Reached r (.ofSystemId id)
  | warmUp {m : Memory} (h : Reached r m) (w : World σ) : Reached r (r.warmUp m w).1.2
  | respond {m : Memory} (h : Reached r m) (method address : String) (w : World σ) :
      Reached r (r.site.respond method address m w).1.2
  | tend {m : Memory} (h : Reached r m) (since : Nat) (w : World σ) :
      Reached r (r.tend since m w).1.2
  | shutDown {m : Memory} (h : Reached r m) (w : World σ) : Reached r (r.shutDown m w).1.2

variable {r : Running σ}

theorem keeps_warmUp : Keeps Memory.Genuine r.warmUp := by
  refine (Keeps.lift _).bind fun now => (r.system.keeps_directory _).bind fun outcome => ?_
  have hrest : Keeps Memory.Genuine (do
      if (← get).systemId.text?.isNone then
        (Work.warn "SAP SID is not known yet" : Work σ Unit) : Watch σ Unit) :=
    Keeps.get.bind fun m => .ite (.lift _) (.pure _)
  cases outcome with
  | error e => exact (Keeps.lift _).bind fun _ => hrest
  | ok directory => exact hrest

theorem keeps_flush (n : Http.Network σ) (c : LogStore.ClientSettings) :
    Keeps Memory.Genuine
      (LogStore.flush (fun f => modifyGet (Memory.onPending f)) n c : Watch σ _) := by
  refine (Scrape.keeps_onPending _).bind fun batches => .ite (.pure _) ?_
  refine (Keeps.lift _).bind fun outcome => ?_
  cases outcome <;> exact .pure _

theorem keeps_sweep : Keeps Memory.Genuine (Memory.sweep : Watch σ Nat) :=
  (Keeps.lift _).bind fun now _ _ hm => hm.purge now

theorem keeps_flushOnce (o : Scrape.Alerts.Outlet σ) : Keeps Memory.Genuine o.flushOnce := by
  refine (keeps_flush _ _).bind fun outcome => ?_
  cases outcome with
  | ok _ => exact .pure _
  | error e => exact .lift _

theorem keeps_tend (since : Nat) : Keeps Memory.Genuine (r.tend since) := by
  refine (Keeps.lift _).bind fun now => ?_
  have hsweep : Keeps Memory.Genuine (do
      if isDue r.sweepInterval since now then
        let _ ← Memory.sweep : Watch σ Unit) :=
    .ite (keeps_sweep.bind fun _ => .pure _) (.pure _)
  cases r.outlet with
  | none => exact hsweep
  | some o => exact .ite ((keeps_flushOnce o).bind fun _ => hsweep) hsweep

theorem keeps_shutDown : Keeps Memory.Genuine r.shutDown := by
  rw [shutDown]
  cases r.outlet with
  | none => exact .pure _
  | some o =>
    refine (keeps_flush _ _).bind fun outcome => ?_
    cases outcome with
    | ok _ => exact .pure _
    | error e => exact .lift _

theorem keeps_respond {site : Site σ}
    (hcollectors : ∀ c ∈ site.collectors, ∀ d, Keeps Memory.Genuine (c.collect d))
    (method address : String) : Keeps Memory.Genuine (site.respond method address) := by
  refine .ite ?_ (.pure _)
  split
  · exact .pure _
  · refine Keeps.bind ?_ fun families => .lift _
    refine (Keeps.lift _).bind fun now => (Keeps.lift _).bind fun own => ?_
    refine (Scrape.keeps_runAll fun c hc => hcollectors c hc _).bind fun results => ?_
    exact .lift_pure _ _
  · exact Keeps.get.bind fun _ => .pure _
  · exact .pure _

/-- Whatever a program does, the lists that it remembers are genuine. -/
theorem Reached.genuine {settings : Settings} {service : Remote.ControlService σ}
    {network : Http.Network σ} {readingsAt : Nat → Nat → Scrape.Alerts.Readings} {m : Memory}
    (h : Reached (assemble settings service network readingsAt).1 m) : m.Genuine := by
  induction h with
  | start id => exact Memory.genuine_ofSystemId id
  | warmUp _ w ih => exact keeps_warmUp _ w ih
  | respond _ method address w ih =>
    exact keeps_respond (fun c hc d => Scrape.keeps_collect hc d) method address _ w ih
  | tend _ since w ih => exact keeps_tend since _ w ih
  | shutDown _ w ih => exact keeps_shutDown _ w ih

end Program.Running

end SapMonitor
