import SapMonitor.Proofs.Scrape.AlertLines
import SapMonitor.Proofs.Time.Ages
import SapMonitor.Url.Latin

/-!
# Which alerts leave the monitor

Four filters decide about an alert: repetitions, its state, its age and where alerts are wanted.
Repetitions are removed for metrics, and only alerts whose state is a colour count.  As a sample
an alert has no age; as a line it has one, counted from the second reading of the clock.  An
alert whose time cannot be read is of the first reading, so it is as young as can be if the
clock stands still in between.

Main results:

- `line?_eq_some_iff`: the lines that alerts become.
- `line?_of_unreadable`: what becomes of alerts whose time cannot be read.
- `considered_worked`: the alerts that are worked off are those of the answers.
- `alerts_reported`: what a run of the collector records, and what it hands to the log store.
- `unreadable_dropped`: an alert whose time cannot be read, and which is too old all the same.
-/

namespace SapMonitor.Scrape.Alerts

open LogStore (ClientSettings LabelSet LogLine Pending)
open Series (Buffer Descriptor Family Sample)
open Time (Moment Span)
open Landscape (Directory Member)
open Remote (Alert AlertTree Outcome StateColor)

variable {σ : Type}

/-! ## Samples -/

/-- Alerts become samples for metrics only, and then all whose states are colours do. -/
theorem samples_eq (p : Policy) (m : Member) (alerts : List Alert) : samples p m alerts =
    if p.toMetrics then
      alerts.filterMap fun a => (StateColor.read? a.value).map (sample m a)
    else [] := by
  induction alerts with
  | nil => simp [samples]
  | cons a rest ih =>
    rw [samples, ih, List.filterMap_cons]
    cases StateColor.read? a.value <;> cases p.toMetrics <;> rfl

/-- What is described of alerts. -/
def alertDescriptor : Descriptor :=
  ⟨"SAP System open Alerts", labels⟩

theorem described_alert : catalog.described? "Alert" = some alertDescriptor := by
  rfl

/-- Samples of alerts are accepted. -/
theorem accepts_sample (m : Member) (a : Alert) (c : StateColor) :
    catalog.accepts (sample m a c) = true := by
  have hmetric : (sample m a c).metric = "Alert" := rfl
  rw [Series.Catalog.accepts, hmetric, described_alert]
  rfl

theorem accepts_of_mem_samples {p : Policy} {m : Member} {alerts : List Alert} {s : Sample}
    (h : s ∈ samples p m alerts) : catalog.accepts s = true := by
  rw [samples_eq] at h
  split at h
  · obtain ⟨a, -, hs⟩ := List.mem_filterMap.1 h
    obtain ⟨c, -, rfl⟩ := Option.map_eq_some_iff.1 hs
    exact accepts_sample m a c
  · cases h

/-! ## Lines -/

/-- The level of the line of an alert. -/
def lineLevel (a : Alert) : String :=
  (StateColor.read? a.value).elim StateColor.fallbackLevel StateColor.level

/-- The labels of the line of any alert, in their order. -/
theorem pairs_lineLabels_any (m : Member) (a : Alert) : (lineLabels m a).pairs =
    [("Attribute", a.attributeName), ("Object", a.object), ("SID", m.systemId),
      ("State", a.value), ("instance_hostname", m.listed.hostname), ("instance_name", m.name),
      ("instance_number", m.numberLabel), ("level", lineLevel a)] := by
  have hlabels : lineLabels m a = .ofList ([("Object", a.object), ("Attribute", a.attributeName),
      ("State", a.value)] ++ Landscape.sharedLabelNames.zip m.sharedLabels ++
        [("level", lineLevel a)]) := by
    unfold lineLabels lineLevel
    cases StateColor.read? a.value <;> rfl
  rw [hlabels]
  simp only [LabelSet.ofList, LabelSet.empty, LabelSet.insert, LogStore.putLabel,
    Landscape.sharedLabelNames, Member.sharedLabels, List.zip_cons_cons, List.zip_nil_right,
    List.cons_append, List.nil_append, List.foldl_cons, List.foldl_nil, String.reduceLT,
    String.reduceEq, if_true, if_false]

/-- The labels of the line of an alert, in their order. -/
theorem pairs_lineLabels (m : Member) {a : Alert} {c : StateColor}
    (h : StateColor.read? a.value = some c) : (lineLabels m a).pairs =
      [("Attribute", a.attributeName), ("Object", a.object), ("SID", m.systemId),
        ("State", a.value), ("instance_hostname", m.listed.hostname), ("instance_name", m.name),
        ("instance_number", m.numberLabel), ("level", c.level)] := by
  rw [pairs_lineLabels_any, lineLevel, h]
  rfl

/-- The moment of an alert is the fallback if its time cannot be read. -/
theorem alertTime_fst (raw : String) (offset : Int) (fallback : Moment) :
    (alertTime raw offset fallback).1 = (Time.alertMoment? raw offset).getD fallback := by
  rw [alertTime]
  cases Time.alertMoment? raw offset <;> rfl

/-- An alert that is worked off with readings of the clock leaves as a line: its state is a
colour, which decides about the level, and it is not older than allowed. -/
structure LeavesAs (p : Policy) (c : ClientSettings) (m : Member) (a : Alert) (now : Readings)
    (l : LogLine) : Prop where
  labelled : ∃ color, StateColor.read? a.value = some color ∧ l.labels.pairs =
    [("Attribute", a.attributeName), ("Object", a.object), ("SID", m.systemId),
      ("State", a.value), ("instance_hostname", m.listed.hostname), ("instance_name", m.name),
      ("instance_number", m.numberLabel), ("level", color.level)]
  moment : l.moment = (Time.alertMoment? a.time c.offset).getD now.fallback
  text : l.text = a.description
  young : ∀ limit, p.maxAge = some limit → now.present.age l.moment ≤ limit.nanos

/-- The lines that alerts become. -/
theorem line?_eq_some_iff {p : Policy} {c : ClientSettings} {m : Member} {a : Alert}
    {now : Readings} {l : LogLine} :
    line? p c m (a, now) = some l ↔ LeavesAs p c m a now l := by
  unfold line?
  simp only [alertTime_fst]
  cases hcolor : StateColor.read? a.value with
  | none =>
    simp only [Option.bind_none, reduceCtorEq, false_iff]
    rintro ⟨⟨color, h, -⟩, -⟩
    rw [hcolor] at h
    cases h
  | some color =>
    have hlabels := pairs_lineLabels m hcolor
    simp only [Option.bind_some]
    constructor
    · intro h
      split at h
      · cases h
      · rename_i hage
        cases h
        rw [Bool.not_eq_true] at hage
        exact ⟨⟨color, hcolor, hlabels⟩, rfl, rfl, Moment.isOutdated_eq_false_iff.1 hage⟩
    · rintro ⟨⟨color', hcolor', hpairs⟩, hmoment, htext, hyoung⟩
      rw [hcolor] at hcolor'
      cases hcolor'
      obtain ⟨⟨pairs, ascending⟩, moment, text⟩ := l
      obtain rfl := hmoment
      obtain rfl := htext
      obtain rfl : pairs = (lineLabels m a).pairs := hpairs.trans hlabels.symm
      rw [Moment.isOutdated_eq_false_iff.2 hyoung]
      rfl

/-- An alert whose time cannot be read is of the first reading of the clock: it has a line unless
more than the limit has passed at the second. -/
theorem line?_of_unreadable {p : Policy} {c : ClientSettings} {m : Member} {a : Alert}
    {now : Readings} (hcolor : (StateColor.read? a.value).isSome = true)
    (htime : Time.alertMoment? a.time c.offset = none) :
    line? p c m (a, now) =
      if now.fallback.isOutdated now.present p.maxAge then none
      else some (line m a now.fallback) := by
  obtain ⟨color, hcolor⟩ := Option.isSome_iff_exists.1 hcolor
  simp only [line?, alertTime_fst, hcolor, htime, Option.bind_some, Option.getD_none]

/-- If the clock stands still in between, it has a line, whatever the limit. -/
theorem line?_of_unreadable_still {p : Policy} {c : ClientSettings} {m : Member} {a : Alert}
    {now : Readings} (hcolor : (StateColor.read? a.value).isSome = true)
    (htime : Time.alertMoment? a.time c.offset = none) (hstill : now.fallback = now.present) :
    line? p c m (a, now) = some (line m a now.fallback) := by
  rw [line?_of_unreadable hcolor htime, hstill, Moment.isOutdated_self]
  rfl

/-- An alert of the future is not too old, whatever the limit. -/
theorem line?_of_ahead {p : Policy} {c : ClientSettings} {m : Member} {a : Alert}
    {now : Readings} {t : Moment} (hcolor : (StateColor.read? a.value).isSome = true)
    (htime : Time.alertMoment? a.time c.offset = some t)
    (hpresent : now.present.inLeapSecond = false) (hahead : t.Ahead now.present) :
    line? p c m (a, now) = some (line m a t) := by
  obtain ⟨color, hcolor⟩ := Option.isSome_iff_exists.1 hcolor
  simp only [line?, alertTime_fst, hcolor, htime, Option.bind_some, Option.getD_some,
    Moment.isOutdated_of_ahead hpresent hahead, Bool.false_eq_true, if_false]

/-- The level of a line is that of its colour, never that of a state that is none. -/
theorem LeavesAs.level_ne {p : Policy} {c : ClientSettings} {m : Member} {a : Alert}
    {now : Readings} {l : LogLine} (h : LeavesAs p c m a now l) :
    l.labels.find? "level" ≠ some StateColor.fallbackLevel := by
  obtain ⟨color, -, hpairs⟩ := h.labelled
  have hlevel : l.labels.find? "level" = some color.level := by
    rw [LabelSet.find?, hpairs]
    rfl
  rw [hlevel]
  cases color <;> decide

/-! ## Answers of members -/

/-- The members that a run comes to, each with its answer. -/
def replies (s : MonitoredSystem σ) (p : Policy) (outlet : Option (Outlet σ)) (d : Deadline)
    (memory : Memory) (w : World σ) : List (Member × Outcome AlertTree) :=
  ((inquiry s p outlet).tour s d memory w).map fun st =>
    (st.member, (s.service.alerts d st.member.endpoint st.world).1)

/-- The alerts of an answer that are considered: for metrics, each once. -/
def considered (p : Policy) : Outcome AlertTree → List Alert
  | .ok tree => if p.toMetrics then dedup tree.alerts else tree.alerts
  | .error _ => []

section Runs

variable {s : MonitoredSystem σ} {p : Policy} {outlet : Option (Outlet σ)} {d : Deadline}
  {memory memory' : Memory} {w w' : World σ} {directory : Directory}

/-- A run comes to all members of the directory, in their order. -/
theorem members_replies (h : s.directory d memory w = ((.ok directory, memory'), w')) :
    (replies s p outlet d memory w).map Prod.fst = directory.members := by
  rw [replies, List.map_map, Inquiry.tour_of_directory h]
  refine (members_stops _ _ _ _ _).trans ?_
  exact List.filter_eq_self.2 fun _ _ => rfl

/-- What an inquiry works off is what is considered of the answer. -/
theorem getD_ask (st : Stop σ) : (st.outcome ((inquiry s p outlet).ask d st.member)).getD [] =
    considered p (s.service.alerts d st.member.endpoint st.world).1 := by
  simp only [Stop.outcome, inquiry, Watch.bind_run, Watch.lift_run]
  cases (s.service.alerts d st.member.endpoint st.world).1 <;> rfl

/-- The alerts that are worked off are those that are considered of the answers. -/
theorem considered_worked (s : MonitoredSystem σ) (p : Policy) (outlet : Option (Outlet σ))
    (d : Deadline) (memory : Memory) (w : World σ) :
    (worked s p outlet d memory w).map (fun x => (x.1, x.2.map Prod.fst)) =
      (replies s p outlet d memory w).map fun x => (x.1, considered p x.2) := by
  rw [alerts_worked, Inquiry.answers, replies, List.map_map, List.map_map]
  exact List.map_congr_left fun st _ => Prod.ext rfl (getD_ask st)

/-- An alert is worked off with readings of the clock. -/
theorem readings_of_mem_handling {m : Member} {alerts : List Alert} {y : Alert × Readings}
    (h : y ∈ handling p outlet m alerts memory w) : ∃ n left, y.2 = p.readingsAt n left := by
  induction alerts generalizing memory w with
  | nil => cases h
  | cons a rest ih =>
    rcases List.mem_cons.1 h with rfl | hrest
    · exact ⟨_, _, rfl⟩
    · exact ih hrest

theorem readings_of_mem_worked {x : Member × List (Alert × Readings)}
    (hx : x ∈ worked s p outlet d memory w) {y : Alert × Readings} (hy : y ∈ x.2) :
    ∃ n left, y.2 = p.readingsAt n left := by
  obtain ⟨st, -, rfl⟩ := List.mem_map.1 hx
  simp only [workedAt] at hy
  cases hanswer : ((inquiry s p outlet).ask d st.member st.memory st.world).1.1 with
  | none =>
    rw [hanswer] at hy
    cases hy
  | some alerts =>
    rw [hanswer] at hy
    exact readings_of_mem_handling hy

/-! ## Recorded samples -/

/-- The samples of alerts that are worked off. -/
def samplesOf (p : Policy) (worked : List (Member × List (Alert × Readings))) : List Sample :=
  worked.flatMap fun x => samples p x.1 (x.2.map Prod.fst)

/-- The families are made of the samples of the alerts that are worked off. -/
theorem families_collect (h : s.directory d memory w = ((.ok directory, memory'), w')) :
    ((collector s p outlet).collect d memory w).1.1 =
      .ok (Buffer.filled catalog (samplesOf p (worked s p outlet d memory w))).families := by
  have hread : (s.directory d memory w).1.1 = .ok directory := congrArg (fun x => x.1.1) h
  have hsamples : samplesOf p (worked s p outlet d memory w) =
      (Inquiry.heard ((inquiry s p outlet).answers s d memory w)).flatMap fun x =>
        samples p x.1 x.2 := by
    have halerts := congrArg (List.flatMap fun x : Member × List Alert => samples p x.1 x.2)
      (alerts_worked s p outlet d memory w)
    rw [List.flatMap_map, List.flatMap_map] at halerts
    refine halerts.trans ?_
    refine Eq.trans ?_ (Inquiry.flatMap_heard (q := inquiry s p outlet) _).symm
    refine congrArg (fun f => List.flatMap f _) (funext fun x => ?_)
    cases x.2 <;> rfl
  rw [collect_eq, Inquiry.run_of_directory hread, hsamples]
  rfl

/-- No sample of an alert is rejected. -/
theorem rejections_samplesOf (p : Policy) (worked : List (Member × List (Alert × Readings))) :
    ((Buffer.empty catalog).recordAll (samplesOf p worked)).2 = [] := by
  refine (Buffer.sound_empty catalog).rejections fun sample hsample => ?_
  obtain ⟨x, -, hx⟩ := List.mem_flatMap.1 hsample
  exact accepts_of_mem_samples hx

/-- The samples of alerts that are worked off, written out: for metrics the alerts whose states
are colours, each with the number of its colour, however old it is. -/
def gauges (p : Policy) (worked : List (Member × List (Alert × Readings))) : List Sample :=
  if p.toMetrics then
    worked.flatMap fun x => x.2.filterMap fun y => (StateColor.read? y.1.value).map fun color =>
      ⟨.gauge, "Alert", Float.ofNat color.code, [y.1.object, y.1.attributeName, y.1.description,
        y.1.time, y.1.value, x.1.name, x.1.numberLabel, x.1.systemId, x.1.listed.hostname]⟩
  else []

theorem samplesOf_eq (p : Policy) (worked : List (Member × List (Alert × Readings))) :
    samplesOf p worked = gauges p worked := by
  simp only [samplesOf, gauges, samples_eq, List.filterMap_map]
  cases p.toMetrics
  · simp
  · rfl

/-! ## Without a log store -/

/-- A visit asks a member for its alerts, and without a log store nothing else goes out. -/
theorem traffic_visit_none (s : MonitoredSystem σ) (p : Policy) (d : Deadline) (m : Member)
    (memory : Memory) (w : World (σ × List Sent)) :
    let visited := (inquiry s.recorded p none).visit d m memory w
    traffic visited.1.2 visited.2 = (w.sent ++ [.call .alerts m.endpoint], memory.pending) := by
  have hcall : (s.recorded.service.alerts d m.endpoint w).2.sent =
      w.sent ++ [.call .alerts m.endpoint] := rfl
  simp only [Inquiry.visit, inquiry, Watch.bind_run, Watch.lift_run]
  cases h : s.recorded.service.alerts d m.endpoint w with
  | mk outcome w' =>
    rw [h] at hcall
    cases outcome with
    | error e => exact Prod.ext hcall rfl
    | ok tree =>
      simp only [Watch.pure_run, report_run]
      rw [traffic_handleAll_none]
      exact Prod.ext hcall rfl

/-- Calls that go out one after the other, while no line comes to wait. -/
theorem foldl_call (endpoint : Stop (σ × List Sent) → String) (l : List (Stop (σ × List Sent)))
    (x : List Sent × Pending) :
    l.foldl (fun x st => (x.1 ++ [.call .alerts (endpoint st)], x.2)) x =
      (x.1 ++ l.map fun st => .call .alerts (endpoint st), x.2) := by
  induction l generalizing x with
  | nil => simp
  | cons st l ih => rw [List.foldl_cons, ih, List.map_cons, List.append_assoc, List.singleton_append]

/-- Without a log store a run asks the members one after the other and sends nothing else. -/
theorem traffic_collect_none {s : MonitoredSystem σ} {w w' : World (σ × List Sent)}
    (h : s.recorded.directory d memory w = ((.ok directory, memory'), w')) :
    let run := (collector s.recorded p none).collect d memory w
    traffic run.1.2 run.2 =
      (w'.sent ++ directory.members.map fun m => .call .alerts m.endpoint, memory'.pending) := by
  simp only
  rw [collect_eq, Inquiry.run, survey_of_directory h]
  refine (view_visitAll traffic
    (fun st x => (x.1 ++ [.call .alerts st.member.endpoint], x.2)) (fun _ _ _ => rfl)
    (traffic_visit_none s p d) _ _ _ _).trans ?_
  rw [foldl_call fun st => st.member.endpoint]
  refine Prod.ext (congrArg (w'.sent ++ ·) ?_) rfl
  have hmembers := members_stops ((inquiry s.recorded p none).visit d) (.empty catalog)
    directory.members memory' w'
  have hall : directory.members.filter (inquiry s.recorded p none).matters = directory.members :=
    List.filter_eq_self.2 fun _ _ => rfl
  rw [hall]
  conv_rhs => rw [← hmembers, List.map_map]
  rfl

end Runs

/-! ## Runs -/

/-- What a run records and hands to the log store: `replies` are the members with their answers,
`worked` are the members with the alerts that are worked off, each with the readings of the clock
at that time, and `before` is what had been sent and the lines that waited when the directory was
read. -/
structure Reported (p : Policy) (outlet : Option (Outlet σ)) (members : List Member)
    (before : List Sent × Pending) (replies : List (Member × Outcome AlertTree))
    (worked : List (Member × List (Alert × Readings)))
    (run : (Outcome (List Family) × Memory) × World (σ × List Sent)) : Prop where
  /-- All members are asked, in the order of the directory. -/
  asked : replies.map Prod.fst = members
  /-- The alerts of every answer are worked off in their order, for metrics each once. -/
  listed : worked.map (fun x => (x.1, x.2.map Prod.fst)) =
    replies.map fun x => (x.1, considered p x.2)
  readings : ∀ x ∈ worked, ∀ y ∈ x.2, ∃ n left, y.2 = p.readingsAt n left
  /-- For metrics every alert whose state is a colour is recorded with the number of the colour,
  however old it is, and otherwise none is. -/
  recorded : run.1.1 = .ok (Buffer.filled catalog (gauges p worked)).families
  unrejected : ((Buffer.empty catalog).recordAll (gauges p worked)).2 = []
  /-- The lines of the alerts of a member are handed to the log store in their order, and nothing
  else is, whatever the pushes are answered. -/
  handed : ∀ o, outlet = some o → traffic run.1.2 run.2 =
    worked.foldl (fun sent x => (x.2.filterMap (line? p o.settings x.1)).foldl (hand o)
      (sent.1 ++ [.call .alerts x.1.endpoint], sent.2)) before
  /-- An alert has a line exactly if its state is a colour and it is not too old. -/
  lines : ∀ c m a now l, line? p c m (a, now) = some l ↔ LeavesAs p c m a now l
  /-- An alert whose time cannot be read is of the first reading of the clock: it has a line unless
  more than the limit has passed at the second. -/
  unreadable : ∀ c m a now, (StateColor.read? a.value).isSome = true →
    Time.alertMoment? a.time c.offset = none → line? p c m (a, now) =
      if now.fallback.isOutdated now.present p.maxAge then none else some (line m a now.fallback)
  /-- So it always has one if the clock stands still in between. -/
  unreadableStill : ∀ c m a now, (StateColor.read? a.value).isSome = true →
    Time.alertMoment? a.time c.offset = none → now.fallback = now.present →
    line? p c m (a, now) = some (line m a now.fallback)
  /-- An alert of the future is never too old. -/
  future : ∀ c m a now t, (StateColor.read? a.value).isSome = true →
    Time.alertMoment? a.time c.offset = some t → now.present.inLeapSecond = false →
    t.Ahead now.present →
    line? p c m (a, now) = some (line m a t)
  /-- The level of a state that is no colour is never sent. -/
  level : ∀ c m a now l, line? p c m (a, now) = some l →
    l.labels.find? "level" ≠ some StateColor.fallbackLevel
  /-- Without a log store the members are asked, and nothing else goes out. -/
  silent : outlet = none → traffic run.1.2 run.2 =
    (before.1 ++ members.map fun m => .call .alerts m.endpoint, before.2)

/-- Exactly the right alerts leave the monitor, for every directory, every answer of its members
and every answer of the log store. -/
theorem alerts_reported (s : MonitoredSystem σ) (p : Policy) (outlet : Option (Outlet σ))
    {d : Deadline} {memory memory' : Memory} {w w' : World (σ × List Sent)}
    {directory : Directory}
    (h : s.recorded.directory d memory w = ((.ok directory, memory'), w')) :
    Reported p outlet directory.members (traffic memory' w')
      (replies s.recorded p (outlet.map Outlet.recorded) d memory w)
      (worked s.recorded p (outlet.map Outlet.recorded) d memory w)
      ((collector s.recorded p (outlet.map Outlet.recorded)).collect d memory w) where
  asked := members_replies h
  listed := considered_worked ..
  readings _ hx _ hy := readings_of_mem_worked hx hy
  recorded := by
    rw [families_collect h, samplesOf_eq]
  unrejected := by
    rw [← samplesOf_eq]
    exact rejections_samplesOf ..
  handed := by
    rintro o rfl
    exact traffic_collect h
  lines _ _ _ _ _ := line?_eq_some_iff
  unreadable _ _ _ _ hcolor htime := line?_of_unreadable hcolor htime
  unreadableStill _ _ _ _ hcolor htime hstill := line?_of_unreadable_still hcolor htime hstill
  future _ _ _ _ _ hcolor htime hnow hahead := line?_of_ahead hcolor htime hnow hahead
  level _ _ _ _ _ hline := (line?_eq_some_iff.1 hline).level_ne
  silent := by
    rintro rfl
    exact traffic_collect_none h

/-! ### An example -/

/-- The instance of a small system. -/
def onlyMember : Member :=
  { listed := { hostname := "sap", number := 1 }, name := "D01", endpoint := "http://sap:50113" }

/-- A directory that is remembered without end. -/
def smallDirectory : Directory :=
  { members := [onlyMember], lifetime := .zero }

/-- The memory with the directory. -/
def smallMemory : Memory where
  directories :=
    { name := "instances"
      entries := [(MonitoredSystem.directoryKey,
        .ofPopulation (some smallDirectory) .zero 0)] }

/-- An alert in the worst state whose time cannot be read. -/
def fullAlert : Alert :=
  { value := "SAPControl-RED", description := "full", time := "soon" }

/-- A system whose instance has three alerts: one that is too old, one in a state that is no
colour, and one whose time cannot be read. -/
def smallSystem : MonitoredSystem Unit where
  service :=
    { systemInstances := fun _ => return .ok []
      properties := fun _ _ => return none
      processes := fun _ _ => return .ok []
      queues := fun _ _ => return .ok []
      alerts := fun _ _ => return .ok { alerts := [
        { value := "SAPControl-GREEN", time := "1971 01 01 00:00:00" },
        { value := "SAPControl-BLUE", time := "1973 01 01 00:00:00" }, fullAlert] }
      workProcesses := fun _ _ => return .ok []
      lockStatistic := fun _ _ => return .ok {} }
  policy := { useTls := false, domain := "", lifetime := .zero, errorLifetime := .zero,
              fanoutLimit := 0 }

/-- The clock two years after the beginning of 1970; its second reading is a nanosecond later. -/
def earlyReadings (n : Nat) : Readings :=
  ⟨⟨63072000, n⟩, ⟨63072000, n + 1⟩⟩

/-- Alerts become metrics and lines of the last hour. -/
def hourly : Policy :=
  { toMetrics := true, maxAge := some ⟨3600000000000⟩, readingsAt := fun n _ => earlyReadings n }

/-- A log store that refuses every push of a line. -/
def refusing : Outlet Unit where
  network := { idna := .latin, exchange := fun _ _ => return .answered .internalServerError "" }
  settings := { address := "http://loki:3100/", name := "mon", tenant := "", wait := ⟨1⟩,
                batch := 1, timeout := ⟨1⟩, offset := 0 }

/-- The world before the run. -/
def smallWorld : World (Unit × List Sent) :=
  { clock := 0, journal := [], peer := ((), []) }

theorem alerts_reported_small :
    let read := smallSystem.recorded.directory ⟨1⟩ smallMemory smallWorld
    let run := (collector smallSystem.recorded hourly (some refusing.recorded)).collect ⟨1⟩
      smallMemory smallWorld
    let worked := worked smallSystem.recorded hourly (some refusing.recorded) ⟨1⟩ smallMemory
      smallWorld
    read = ((.ok smallDirectory, read.1.2), read.2) ∧
      Reported hourly (some refusing) [onlyMember] (traffic read.1.2 read.2)
        (replies smallSystem.recorded hourly (some refusing.recorded) ⟨1⟩ smallMemory smallWorld)
        worked run ∧
      worked.map (linesOf hourly refusing.settings) =
        [[line onlyMember fullAlert ⟨63072000, 0⟩]] := by
  intro read run worked
  have hread : read = ((.ok smallDirectory, read.1.2), read.2) := ending_eq rfl
  exact ⟨hread, alerts_reported smallSystem hourly (some refusing) hread, by rfl⟩

/-- Alerts become metrics and lines, but have no time to grow old. -/
def instant : Policy :=
  { hourly with maxAge := some .zero }

/-- An alert whose time cannot be read, and which is too old all the same: the clock has gone on
when its age is checked, so nothing is handed to the log store. -/
theorem unreadable_dropped :
    let worked := worked smallSystem.recorded instant (some refusing.recorded) ⟨1⟩ smallMemory
      smallWorld
    let run := (collector smallSystem.recorded instant (some refusing.recorded)).collect ⟨1⟩
      smallMemory smallWorld
    (∃ x ∈ worked, (fullAlert, earlyReadings 0) ∈ x.2) ∧
      (StateColor.read? fullAlert.value).isSome = true ∧
      Time.alertMoment? fullAlert.time refusing.settings.offset = none ∧
      line? instant refusing.settings onlyMember (fullAlert, earlyReadings 0) = none ∧
      traffic run.1.2 run.2 = ([.call .alerts onlyMember.endpoint], smallMemory.pending) := by
  intro worked run
  have hworked : worked = [(onlyMember, [
      ({ value := "SAPControl-GREEN", time := "1971 01 01 00:00:00" }, earlyReadings 0),
      ({ value := "SAPControl-BLUE", time := "1973 01 01 00:00:00" }, earlyReadings 0),
      (fullAlert, earlyReadings 0)])] := by
    rfl
  exact ⟨by simp [hworked], by decide, by decide, by rfl, by rfl⟩

end SapMonitor.Scrape.Alerts
