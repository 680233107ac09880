import SapMonitor.Proofs.Scrape.Questions
import SapMonitor.Proofs.Series.Names
import SapMonitor.Proofs.Series.Separation

/-!
# Failures stay with their members

A member whose calls fail takes only its own series away: the others, the families and the
lines of the log store are those of a directory in which it is missing.  The family of
instances shows it all the same.  Only a directory that cannot be read makes a collector
fail, and then nobody is asked.

Main results:

- `Inquiry.isolates`: an inquiry whose members fail is one without these members.
- `Alerts.handed_of_removed`: nor do failures change the lines that are handed over.
- `Instances.collectInstances_of_directory`: the family of instances has every member.
- `failures_isolated`: all collectors together.
-/

namespace SapMonitor.Scrape

open Series (Buffer Catalog Family Sample)
open Landscape (Directory Member)
open LogStore (ClientSettings LogLine)
open Remote (Alert Operation Outcome RemoteError)
open Time (Moment)

variable {σ α : Type}

/-! ## Inquiries -/

/-- An inquiry does not let the failure of a member disturb the others. -/
structure Inquiry.Isolates (q : Inquiry σ α) (s : MonitoredSystem σ) : Prop where
  /-- If the directory cannot be read it fails, and does nothing else, unless the read itself is
  lost. -/
  unread : ∀ d memory w e memory' w', s.directory d memory w = ((.error e, memory'), w') →
    e ≠ CachedRead.lostRead →
    q.run s d memory w = ((.error (.within q.purpose e), memory'), w')
  /-- With a directory it asks the members that matter, in order, and its families are made of
  what it hears. -/
  read : ∀ d memory w directory memory' w',
    s.directory d memory w = ((.ok directory, memory'), w') →
    (q.answers s d memory w).map Prod.fst = directory.members.filter q.matters ∧
      (q.run s d memory w).1.1 = .ok (q.families (Inquiry.heard (q.answers s d memory w)))
  /-- Members that do not answer can be missing from the directory: if all others answer the
  same, the families are the same. -/
  removed : ∀ (keeps : Member → Bool) d memory w directory d' memory' w' directory',
    (s.directory d memory w).1.1 = .ok directory →
    (s.directory d' memory' w').1.1 = .ok directory' →
    directory'.members = directory.members.filter keeps →
    (∀ x ∈ q.answers s d memory w, keeps x.1 = false → x.2 = none) →
    q.answers s d' memory' w' = (q.answers s d memory w).filter (fun x => keeps x.1) →
    ∃ families, (q.run s d memory w).1.1 = .ok families ∧
      (q.run s d' memory' w').1.1 = .ok families
  /-- So it is if every member, whenever it is asked, answers the same in both runs. -/
  steady : ∀ (respond : Member → Option α) (keeps : Member → Bool) d memory w directory d' memory'
      w' directory', (∀ m, keeps m = false → respond m = none) →
    (s.directory d memory w).1.1 = .ok directory →
    (s.directory d' memory' w').1.1 = .ok directory' →
    directory'.members = directory.members.filter keeps →
    (∀ x ∈ q.answers s d memory w, x.2 = respond x.1) →
    (∀ x ∈ q.answers s d' memory' w', x.2 = respond x.1) →
    ∃ families, (q.run s d memory w).1.1 = .ok families ∧
      (q.run s d' memory' w').1.1 = .ok families

/-- Members that answer the same in two runs give the same answers, but for those that are missing
in one of them. -/
theorem Inquiry.answers_of_steady {q : Inquiry σ α} {s : MonitoredSystem σ}
    {respond : Member → Option α} {keeps : Member → Bool} {d d' : Deadline}
    {memory memory' : Memory} {w w' : World σ} {directory directory' : Directory}
    (h : (s.directory d memory w).1.1 = .ok directory)
    (h' : (s.directory d' memory' w').1.1 = .ok directory')
    (hmembers : directory'.members = directory.members.filter keeps)
    (hanswers : ∀ x ∈ q.answers s d memory w, x.2 = respond x.1)
    (hanswers' : ∀ x ∈ q.answers s d' memory' w', x.2 = respond x.1) :
    q.answers s d' memory' w' = (q.answers s d memory w).filter fun x => keeps x.1 := by
  have hmap : ∀ xs : List (Member × Option α), (∀ x ∈ xs, x.2 = respond x.1) →
      xs = (xs.map Prod.fst).map fun m => (m, respond m) := by
    intro xs hxs
    rw [List.map_map]
    exact (List.map_id xs).symm.trans (List.map_congr_left fun x hx => Prod.ext rfl (hxs x hx))
  have hasked := members_answers (q := q) h
  have hasked' := members_answers (q := q) h'
  rw [hmap _ hanswers', hmap _ hanswers, hasked', hasked, hmembers, List.filter_map,
    List.filter_filter, List.filter_filter]
  refine congrArg _ (List.filter_congr fun m _ => ?_)
  exact Bool.and_comm _ _

/-- Where members that do not answer are missing, and the others answer the same, the families are
the same. -/
theorem Inquiry.run_of_removed {q : Inquiry σ α} {s : MonitoredSystem σ} {keeps : Member → Bool}
    {d d' : Deadline} {memory memory' : Memory} {w w' : World σ} {directory directory' : Directory}
    (h : (s.directory d memory w).1.1 = .ok directory)
    (h' : (s.directory d' memory' w').1.1 = .ok directory')
    (hfails : ∀ x ∈ q.answers s d memory w, keeps x.1 = false → x.2 = none)
    (hanswers : q.answers s d' memory' w' = (q.answers s d memory w).filter fun x => keeps x.1) :
    ∃ families, (q.run s d memory w).1.1 = .ok families ∧
      (q.run s d' memory' w').1.1 = .ok families := by
  refine ⟨_, run_of_directory h, ?_⟩
  rw [← heard_filter hfails, ← hanswers]
  exact run_of_directory h'

theorem Inquiry.isolates (q : Inquiry σ α) (s : MonitoredSystem σ) : q.Isolates s where
  unread _ _ _ _ _ _ h _ := run_of_error h
  read _ _ _ _ _ _ h :=
    have hread := congrArg (fun r => r.1.1) h
    ⟨members_answers hread, run_of_directory hread⟩
  removed _ _ _ _ _ _ _ _ _ h h' _ hfails hanswers := run_of_removed h h' hfails hanswers
  steady respond keeps d memory w directory d' memory' w' directory' hfails h h' hmembers hanswers
      hanswers' := by
    refine run_of_removed h h' ?_ (answers_of_steady h h' hmembers hanswers hanswers')
    intro x hx hkeeps
    rw [hanswers x hx]
    exact hfails x.1 hkeeps

/-! ## Lines of alerts -/

/-- What yields nothing can be left out. -/
theorem flatMap_filter_of_nil {β γ : Type} {p : β → Bool} {f : β → List γ} {xs : List β}
    (h : ∀ x ∈ xs, p x = false → f x = []) : (xs.filter p).flatMap f = xs.flatMap f := by
  induction xs with
  | nil => rfl
  | cons x xs ih =>
    have hrest := ih fun y hy => h y (List.mem_cons_of_mem _ hy)
    cases hx : p x with
    | true => rw [List.filter_cons_of_pos hx, List.flatMap_cons, List.flatMap_cons, hrest]
    | false =>
      rw [List.filter_cons_of_neg (by simp [hx]), List.flatMap_cons, h x List.mem_cons_self hx,
        List.nil_append, hrest]

namespace Alerts

/-- The lines that a run hands to the log store. -/
def handed (s : MonitoredSystem σ) (p : Policy) (o : Outlet σ) (d : Deadline) (memory : Memory)
    (w : World σ) : List LogLine :=
  (worked s p (some o) d memory w).flatMap (linesOf p o.settings)

/-- Members that do not answer have no lines. -/
theorem handed_of_removed {s : MonitoredSystem σ} {p : Policy} {o : Outlet σ} {d d' : Deadline}
    {memory memory' : Memory} {w w' : World σ} {keeps : Member → Bool}
    (hfails : ∀ x ∈ (inquiry s p (some o)).answers s d memory w, keeps x.1 = false → x.2 = none)
    (hworked : worked s p (some o) d' memory' w' =
      (worked s p (some o) d memory w).filter fun x => keeps x.1) :
    handed s p o d' memory' w' = handed s p o d memory w := by
  have hnone : ∀ x ∈ worked s p (some o) d memory w, keeps x.1 = false → x.2 = [] := by
    intro x hx hkeeps
    have hmem : (x.1, x.2.map Prod.fst) ∈ ((inquiry s p (some o)).answers s d memory w).map
        fun x => (x.1, x.2.getD []) := by
      rw [← alerts_worked]
      exact List.mem_map_of_mem hx
    obtain ⟨y, hy, hxy⟩ := List.mem_map.1 hmem
    obtain ⟨hmember, halerts⟩ := Prod.mk.inj hxy
    rw [hfails y hy (hmember ▸ hkeeps)] at halerts
    exact List.map_eq_nil_iff.1 halerts.symm
  rw [handed, handed, hworked]
  refine flatMap_filter_of_nil fun x hx hkeeps => ?_
  rw [linesOf, hnone x hx hkeeps]
  rfl

/-- If the clock shows the same for all alerts, every alert is worked off with that. -/
theorem handling_of_fixed {p : Policy} {now : Readings} (h : ∀ n left, p.readingsAt n left = now)
    (outlet : Option (Outlet σ)) (m : Member) (alerts : List Alert) (memory : Memory)
    (w : World σ) : handling p outlet m alerts memory w = alerts.map fun a => (a, now) := by
  induction alerts generalizing memory w with
  | nil => rfl
  | cons a rest ih => rw [handling, ih, h, List.map_cons]

theorem worked_of_fixed {p : Policy} {now : Readings} (h : ∀ n left, p.readingsAt n left = now)
    (s : MonitoredSystem σ) (outlet : Option (Outlet σ)) (d : Deadline) (memory : Memory)
    (w : World σ) :
    worked s p outlet d memory w = ((inquiry s p outlet).answers s d memory w).map fun x =>
      (x.1, (x.2.getD []).map fun a => (a, now)) := by
  rw [worked, Inquiry.answers, List.map_map]
  refine List.map_congr_left fun st _ => Prod.ext rfl ?_
  simp only [Function.comp_apply, workedAt, Stop.outcome]
  cases ((inquiry s p outlet).ask d st.member st.memory st.world).1.1 with
  | none => rfl
  | some alerts => exact handling_of_fixed h outlet st.member alerts _ _

/-- Then the answers alone decide which lines are handed over. -/
theorem worked_of_answers {p : Policy} {now : Readings} (h : ∀ n left, p.readingsAt n left = now)
    {s : MonitoredSystem σ} {outlet : Option (Outlet σ)} {d d' : Deadline}
    {memory memory' : Memory} {w w' : World σ} {keeps : Member → Bool}
    (hanswers : (inquiry s p outlet).answers s d' memory' w' =
      ((inquiry s p outlet).answers s d memory w).filter fun x => keeps x.1) :
    worked s p outlet d' memory' w' =
      (worked s p outlet d memory w).filter fun x => keeps x.1 := by
  rw [worked_of_fixed h, worked_of_fixed h, hanswers, List.filter_map]
  rfl

end Alerts

/-! ## Instances -/

namespace Instances

/-- The families that members of a directory are made into. -/
def memberFamilies (members : List Member) : List Family :=
  (Buffer.filled catalog (members.map instanceSample)).families

/-- What is described of members. -/
def memberDescriptor : Series.Descriptor :=
  ⟨"The SAP instances in the context of the whole SAP system", memberLabels⟩

theorem described_instances : catalog.described? "instances" = some memberDescriptor := by
  rfl

theorem accepts_instanceSample (m : Member) : catalog.accepts (instanceSample m) = true := by
  have hmetric : (instanceSample m).metric = "instances" := rfl
  rw [Catalog.accepts, hmetric, described_instances]
  rfl

/-- With a directory the families show its members, whatever their calls come to. -/
theorem collectInstances_of_directory {s : MonitoredSystem σ} {d : Deadline} {memory : Memory}
    {w : World σ} {directory : Directory} (h : (s.directory d memory w).1.1 = .ok directory) :
    (collectInstances s d memory w).1.1 = .ok (memberFamilies directory.members) := by
  have hstops : ∀ b memory (w : World σ),
      (stops (fun m => (return [instanceSample m] : Watch σ _)) b
        (directory.members.filter fun _ => true) memory w).flatMap
          (fun st => st.outcome (return [instanceSample st.member])) =
        directory.members.map instanceSample := by
    intro b memory w
    have hmembers := members_stops (fun m => (return [instanceSample m] : Watch σ _)) b
      (directory.members.filter fun _ => true) memory w
    rw [List.filter_true] at hmembers ⊢
    refine Eq.trans ?_ (congrArg (List.map instanceSample) hmembers)
    rw [List.map_map, List.map_eq_flatMap]
    rfl
  rw [collectInstances, survey_of_directory (ending_eq h)]
  simp only
  rw [filled_visitAll, hstops]
  rfl

/-- Both parts are collected, one after the other. -/
theorem collect_run (s : MonitoredSystem σ) (d : Deadline) (memory : Memory) (w : World σ) :
    (collector s).collect d memory w =
      let instances := collectInstances s d memory w
      let processes := collectProcesses s d instances.1.2 instances.2
      ((combine instances.1.1 processes.1.1, processes.1.2),
        { processes.2 with journal :=
            (failureNotes [instances.1.1, processes.1.1]).reverse ++ processes.2.journal }) := by
  simp only [collector, Watch.bind_run, Watch.lift_run, noteAll_run]
  rfl

/-- Families with different names, all of one name, are one family. -/
theorem eq_singleton_of_name {families : List Family} {f : Family} {name : String}
    (hf : f ∈ families) (hall : ∀ g ∈ families, g.name = name)
    (hnodup : (families.map Family.name).Nodup) : families = [f] := by
  match families, hf, hall, hnodup with
  | [g], hf, _, _ => rw [List.mem_singleton.1 hf]
  | g :: g' :: rest, _, hall, hnodup =>
    have hname : g.name = g'.name := (hall g List.mem_cons_self).trans
      (hall g' (List.mem_cons_of_mem _ List.mem_cons_self)).symm
    exact absurd hname ((List.pairwise_cons.1 (List.pairwise_map.1 hnodup)).1 g' List.mem_cons_self)

/-- The members of a directory are shown in one family.  It has a series for each of them, with
its labels and its status, exactly if their labels share no key. -/
theorem memberFamilies_eq {members : List Member} (hne : members ≠ []) :
    ∃ f, memberFamilies members = [f] ∧ f.name = "sap_start_service_instances" ∧
      (Series.KeepsApart memberDescriptor (members.map instanceSample) f.points ↔
        Series.Apart (members.map instanceSample)) := by
  have haccepts : ∀ s ∈ members.map instanceSample, catalog.accepts s = true := by
    intro s hs
    obtain ⟨m, -, rfl⟩ := List.mem_map.1 hs
    exact accepts_instanceSample m
  have hsamples : ∀ s ∈ members.map instanceSample, s.kind = .gauge ∧ s.metric = "instances" := by
    intro s hs
    obtain ⟨m, -, rfl⟩ := List.mem_map.1 hs
    exact ⟨rfl, rfl⟩
  obtain ⟨m, hm⟩ := List.exists_mem_of_ne_nil _ hne
  have hsample : instanceSample m ∈ members.map instanceSample := List.mem_map_of_mem hm
  have halike : Buffer.alike (instanceSample m) (members.map instanceSample) =
      members.map instanceSample := by
    refine List.filter_eq_self.2 fun s hs => ?_
    simp only [hsamples s hs, hsamples _ hsample, decide_true, Bool.and_self]
  have hf : Buffer.family catalog .gauge
      ⟨"instances", memberDescriptor, Series.series (members.map instanceSample)⟩ ∈
        memberFamilies members := by
    refine (Buffer.mem_families_filled_iff haccepts).2
      ⟨_, hsample, memberDescriptor, described_instances, ?_⟩
    rw [halike]
    rfl
  have hall : ∀ g ∈ memberFamilies members, g.name = "sap_start_service_instances" := by
    intro g hg
    obtain ⟨s, hs, hname, -⟩ := Buffer.name_of_mem_families hg
    rw [hname, (hsamples s hs).2]
    rfl
  have hnodup : ((memberFamilies members).map Family.name).Nodup :=
    Buffer.nodup_names_filled (fun _ => .gauge) fun s hs => (hsamples s hs).1
  refine ⟨_, ?_, hall _ hf, Series.keepsApart_iff _ _ _ _ _⟩
  exact eq_singleton_of_name hf hall hnodup

/-- Two members of one host whose names and numbers run into one text. -/
def lookalikes : Member × Member :=
  let listed : Remote.Instance :=
    { hostname := "sap", features := "ABAP", startPriority := "3"
      dispstatus := "SAPControl-GREEN" }
  ({ listed := { listed with number := 1 }, name := "D1", status := 2 },
    { listed := { listed with number := 11 }, name := "D", status := 2 })

/-- Such members share one series, which has the labels of the first. -/
theorem lookalikes_merged :
    (instanceSample lookalikes.1).labels ≠ (instanceSample lookalikes.2).labels ∧
      ∀ f ∈ memberFamilies [lookalikes.1, lookalikes.2],
        f.points = [Buffer.point memberDescriptor
          ⟨["ABAP", "3", "D1", "1", "", "sap", "SAPControl-GREEN"], 2⟩] ∧
        ¬ Series.KeepsApart memberDescriptor
          ([lookalikes.1, lookalikes.2].map instanceSample) f.points := by
  have hlabels : (instanceSample lookalikes.1).labels ≠ (instanceSample lookalikes.2).labels := by
    decide
  have hkept : (instanceSample lookalikes.2).kept = 2 := rfl
  obtain ⟨d, hd, hmerged⟩ := Buffer.merged_of_key_eq (accepts_instanceSample lookalikes.1)
    (accepts_instanceSample lookalikes.2) rfl rfl (by decide) hlabels
  have hmetric : (instanceSample lookalikes.1).metric = "instances" := rfl
  rw [hmetric, described_instances, Option.some.injEq] at hd
  rw [hkept, ← hd] at hmerged
  exact ⟨hlabels, hmerged⟩

end Instances

/-! ## All collectors -/

/-- What the failure of a directory, and the failures of members, do to a collector that surveys
by an inquiry. -/
structure Surveys (collect : Deadline → Watch σ (Outcome (List Family))) (q : Inquiry σ α)
    (s : MonitoredSystem σ) : Prop where
  run : collect = q.run s
  isolates : q.Isolates s

/-- No collector lets the failure of a member disturb the others. -/
structure FailuresIsolated (s : MonitoredSystem σ) (p : Alerts.Policy)
    (outlet : Option (Alerts.Outlet σ)) : Prop where
  locks : Surveys (Locks.collector s).collect (Locks.inquiry s) s
  workProcesses : Surveys (WorkProcesses.collector s).collect (WorkProcesses.inquiry s) s
  queues : Surveys (Queues.collector s).collect (Queues.inquiry s) s
  alerts : Surveys (Alerts.collector s p outlet).collect (Alerts.inquiry s p outlet) s
  processes : Surveys (Instances.collectProcesses s) (Instances.inquiry s) s
  /-- The collector of instances and processes hands out both kinds of families if it gets the
  directory twice. -/
  startService : ∀ d memory w directory directory', (s.directory d memory w).1.1 = .ok directory →
    let next := Instances.collectInstances s d memory w
    (s.directory d next.1.2 next.2).1.1 = .ok directory' →
    ((Instances.collector s).collect d memory w).1.1 =
      .ok (Instances.memberFamilies directory.members ++
        (Instances.inquiry s).families (Inquiry.heard
          ((Instances.inquiry s).answers s d next.1.2 next.2)))
  /-- It fails if it gets none, and does nothing but reading it twice and leaving notes, unless
  one of the reads is lost. -/
  startServiceUnread : ∀ d memory w e memory' w' e' memory'' w'',
    s.directory d memory w = ((.error e, memory'), w') →
    s.directory d memory' w' = ((.error e', memory''), w'') →
    e ≠ CachedRead.lostRead → e' ≠ CachedRead.lostRead →
    ∃ journal, (Instances.collector s).collect d memory w =
      ((.error (.within "recordInstances collector error" e), memory''),
        { w'' with journal := journal })
  /-- The family of instances has a series for every member, with its own labels and status,
  exactly if the labels share no key. -/
  members : ∀ members, members ≠ [] → ∃ f, Instances.memberFamilies members = [f] ∧
    f.name = "sap_start_service_instances" ∧
    (Series.KeepsApart Instances.memberDescriptor (members.map Instances.instanceSample) f.points ↔
      Series.Apart (members.map Instances.instanceSample))
  /-- Every line of the alerts that are worked off is handed to the log store, and nothing else
  is. -/
  handed : ∀ o, outlet = some o → ∀ d memory w directory memory' w',
    s.recorded.directory d memory w = ((.ok directory, memory'), w') →
    let run := (Alerts.collector s.recorded p (some o.recorded)).collect d memory w
    Alerts.traffic run.1.2 run.2 =
      (Alerts.worked s.recorded p (some o.recorded) d memory w).foldl (Alerts.tell p o)
        (Alerts.traffic memory' w')
  /-- Members that do not answer can be missing from the directory: if the alerts of all others
  are the same, and are worked off at the same moments, so are the lines. -/
  lines : ∀ o, outlet = some o → ∀ (keeps : Member → Bool) d memory w d' memory' w',
    (∀ x ∈ (Alerts.inquiry s p outlet).answers s d memory w, keeps x.1 = false → x.2 = none) →
    Alerts.worked s p outlet d' memory' w' =
      (Alerts.worked s p outlet d memory w).filter (fun x => keeps x.1) →
    Alerts.handed s p o d' memory' w' = Alerts.handed s p o d memory w
  /-- If the clock shows the same for all alerts, the same answers will do. -/
  linesAtOnce : ∀ o, outlet = some o → ∀ (keeps : Member → Bool) now d memory w d' memory' w',
    (∀ n left, p.readingsAt n left = now) →
    (∀ x ∈ (Alerts.inquiry s p outlet).answers s d memory w, keeps x.1 = false → x.2 = none) →
    (Alerts.inquiry s p outlet).answers s d' memory' w' =
      ((Alerts.inquiry s p outlet).answers s d memory w).filter (fun x => keeps x.1) →
    Alerts.handed s p o d' memory' w' = Alerts.handed s p o d memory w
  /-- Only members with the lock server are asked about it. -/
  locksAsked : AsksEach s (Locks.collector s.recorded).collect .lockStatistic
    fun m => m.provides "ENQUE"
  /-- Only members that run programs are asked for work processes. -/
  workProcessesAsked : AsksEach s (WorkProcesses.collector s.recorded).collect .workProcesses
    fun m => m.provides "ABAP"
  alertsAsked : AsksEach s
    (Alerts.collector s.recorded p (outlet.map Alerts.Outlet.recorded)).collect .alerts
    fun _ => true
  /-- Only members whose process lists show a dispatcher are asked for queues. -/
  queuesAsked : ∀ d memory w directory memory' w' operation,
    s.recorded.directory d memory w = ((.ok directory, memory'), w') → .processes ≠ operation →
    asked operation ((Queues.collector s.recorded).collect d memory w).2.sent =
      asked operation w'.sent ++
        if .queues = operation then
          (((Queues.inquiry s.recorded).tour s.recorded d memory w).filter
            (Queues.showsDispatcher s.recorded d)).map fun st => st.member.endpoint
        else []
  /-- A directory that cannot be read asks no member, unless the read itself is lost. -/
  unasked : ∀ d memory w e memory' w',
    s.recorded.directory d memory w = ((.error e, memory'), w') → e ≠ CachedRead.lostRead →
    w'.sent = w.sent

theorem failures_isolated (s : MonitoredSystem σ) (p : Alerts.Policy)
    (outlet : Option (Alerts.Outlet σ)) : FailuresIsolated s p outlet where
  locks := ⟨Locks.collect_eq s, (Locks.inquiry s).isolates s⟩
  workProcesses := ⟨WorkProcesses.collect_eq s, (WorkProcesses.inquiry s).isolates s⟩
  queues := ⟨Queues.collect_eq s, (Queues.inquiry s).isolates s⟩
  alerts := ⟨Alerts.collect_eq s p outlet, (Alerts.inquiry s p outlet).isolates s⟩
  processes := ⟨(Instances.collectProcesses_eq s).symm, (Instances.inquiry s).isolates s⟩
  startService d memory w directory directory' h := by
    intro next h'
    have hprocesses := Inquiry.run_of_directory (q := Instances.inquiry s) h'
    rw [Instances.collectProcesses_eq] at hprocesses
    rw [Instances.collect_run]
    simp only
    rw [hprocesses, Instances.collectInstances_of_directory h]
    rfl
  startServiceUnread d memory w e memory' w' e' memory'' w'' h h' _ _ := by
    have hinstances : Instances.collectInstances s d memory w = _ := survey_of_error h
    have hprocesses : Instances.collectProcesses s d memory' w' = _ := survey_of_error h'
    have hrun := Instances.collect_run s d memory w
    simp only [hinstances, hprocesses] at hrun
    exact ⟨_, hrun⟩
  members _ h := Instances.memberFamilies_eq h
  handed o _ d memory w directory memory' w' h := Alerts.traffic_collect h
  lines o ho keeps d memory w d' memory' w' hfails hworked := by
    subst ho
    exact Alerts.handed_of_removed hfails hworked
  linesAtOnce o ho keeps now d memory w d' memory' w' hnow hfails hanswers := by
    subst ho
    exact Alerts.handed_of_removed hfails (Alerts.worked_of_answers hnow hanswers)
  locksAsked := Locks.asksEach s
  workProcessesAsked := WorkProcesses.asksEach s
  alertsAsked := Alerts.asksEach s p outlet
  queuesAsked d memory w directory memory' w' operation h hoperation :=
    Queues.asked_collect h hoperation
  unasked d memory w e memory' w' h hne := MonitoredSystem.sent_directory_of_error h hne

end SapMonitor.Scrape
