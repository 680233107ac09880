import SapMonitor.Monitor
import SapMonitor.Proofs.Landscape.Population

/-!
# The system id over populations

The monitor keeps one system id.  It is the one of the settings, or the first one that a
population brings: in the order of the populations, and within one of them in the order of
the list, whatever instance answers first.  Members that are resolved show the id that they
report; the others borrow the one of the monitor, also if it was reported further down the
list.

Main results:

- `text?_idAfter`: the id after any populations, in closed form.
- `systemId_askAll`: populations that follow each other in the monitor lead to that id.
- `written_once`: what holds for every run of populations.
-/

namespace SapMonitor.Landscape

open Remote (RemoteError Instance Property ControlService Outcome)

/-! ## Reported ids -/

/-- The system id that an outcome reports: the first one among the properties, unless that is
empty. -/
def reportedId? : Option (Outcome (List Property)) → Option String
  | some (.ok properties) =>
    (Remote.property? properties "SAPSYSTEMNAME").filter fun text => !text.isEmpty
  | _ => none

/-- The system id that a member offers. -/
def Member.offer? (m : Member) : Option String :=
  if m.resolved && !m.systemId.isEmpty then some m.systemId else none

/-- A member offers what its outcome reports. -/
theorem offer?_settle (p : Policy) (i : Instance) (o : Option (Outcome (List Property))) :
    ((Member.ofListed p i).settle (o.getD (.error lostTask))).offer? = reportedId? o := by
  rcases o with _ | (cause | properties)
  · rfl
  · rfl
  · cases h : Remote.property? properties "SAPSYSTEMNAME" with
    | none => simp [Member.settle, Member.ofListed, Member.offer?, reportedId?, h]
    | some text =>
      by_cases htext : text.isEmpty <;>
        simp [Member.settle, Member.offer?, reportedId?, Option.filter_some, h, htext]

/-- An id that is known stays; another one is what was offered first. -/
theorem text?_offerIds (id : SystemId) (members : List Member) :
    (offerIds id members).text? = id.text?.or (members.findSome? Member.offer?) := by
  induction members generalizing id with
  | nil => simp [offerIds]
  | cons m members ih =>
    have hcons : offerIds id (m :: members) =
        offerIds (if m.resolved then (id.fill m.systemId).2 else id) members := rfl
    have hfirst : (if m.resolved then (id.fill m.systemId).2 else id).text? =
        id.text?.or m.offer? := by
      rcases id with ⟨_ | text⟩
      · cases hr : m.resolved <;> cases ht : m.systemId.isEmpty <;>
          simp [Member.offer?, SystemId.fill, hr, ht]
      · cases m.resolved <;> simp
    rw [hcons, ih, hfirst, Option.or_assoc, List.findSome?_cons]
    cases m.offer? <;> simp

/-! ## Censuses -/

/-- What a population gets to know: the listed instances, and a course of the tasks that ask
for their properties. -/
structure Census where
  listed : List Instance
  course : List (Move (Outcome (List Property)))

namespace Census

/-- What the task of the instance at a position brought. -/
def result? (c : Census) (position : Nat) : Option (Outcome (List Property)) :=
  FanOut.resultAt (FanOut.landings c.course) position

/-- The system id that the instance at a position reports. -/
def idAt? (c : Census) (position : Nat) : Option String :=
  reportedId? (c.result? position)

/-- Whether no listed instance reports an id. -/
def IsSilent (c : Census) : Prop :=
  ∀ k < c.listed.length, c.idAt? k = none

/-- The first id in the order of the list. -/
def firstId? (c : Census) : Option String :=
  (List.range c.listed.length).findSome? c.idAt?

/-- The directory and the system id that a census leads to. -/
def conclude (c : Census) (p : Policy) (id : SystemId) : Directory × SystemId :=
  Landscape.conclude p id c.listed c.course

/-- A silent census brings no id. -/
theorem firstId?_of_silent {c : Census} (h : c.IsSilent) : c.firstId? = none := by
  rw [firstId?, List.findSome?_eq_none_iff]
  intro k hk
  exact h k (List.mem_range.1 hk)

/-- A census brings the id of the first instance that reports one. -/
theorem firstId?_of_first {c : Census} {k : Nat} {text : String} (hk : k < c.listed.length)
    (htext : c.idAt? k = some text) (hbefore : ∀ j < k, c.idAt? j = none) :
    c.firstId? = some text := by
  obtain ⟨n, hn⟩ := Nat.exists_eq_add_of_lt hk
  have hrange : List.range c.listed.length =
      List.range k ++ k :: (List.range n).map fun j => k + (j + 1) := by
    rw [hn, Nat.add_assoc, List.range_add, List.range_succ_eq_map, List.map_cons, List.map_map]
    rfl
  rw [firstId?, hrange, List.findSome?_eq_some_iff]
  refine ⟨_, _, _, rfl, htext, ?_⟩
  intro j hj
  exact hbefore j (List.mem_range.1 hj)

/-- A census fills an id that is not known with the first one in the list. -/
theorem text?_conclude (c : Census) (p : Policy) (id : SystemId) :
    (c.conclude p id).2.text? = id.text?.or c.firstId? := by
  have hoffers : (settled p c.listed (outcomes c.listed c.course)).findSome? Member.offer? =
      c.firstId? := by
    have hpairs : ∀ x : Instance × Option (Outcome (List Property)),
        ((Member.ofListed p x.1).settle (x.2.getD (.error lostTask))).offer? =
          reportedId? x.2 := fun x => offer?_settle p x.1 x.2
    have hsnd : (c.listed.zip (outcomes c.listed c.course)).map Prod.snd =
        outcomes c.listed c.course := by
      refine List.map_snd_zip (Nat.le_of_eq ?_)
      rw [outcomes, FanOut.gather_length]
    calc (settled p c.listed (outcomes c.listed c.course)).findSome? Member.offer?
        = (c.listed.zip (outcomes c.listed c.course)).findSome? fun x => reportedId? x.2 := by
          rw [settled, List.findSome?_map]
          congr 1
          funext x
          exact hpairs x
      _ = ((c.listed.zip (outcomes c.listed c.course)).map Prod.snd).findSome? reportedId? := by
          rw [List.findSome?_map]
          rfl
      _ = c.firstId? := by
          rw [hsnd, outcomes, FanOut.gather, List.findSome?_map]
          rfl
  rw [conclude, Landscape.conclude, assemble]
  exact (text?_offerIds _ _).trans (congrArg _ hoffers)

/-- The member at a position shows the id of its own outcome, or that of the monitor. -/
theorem member_conclude (c : Census) (p : Policy) (id : SystemId) {k : Nat} {i : Instance}
    (hi : c.listed[k]? = some i) :
    (c.conclude p id).1.members[k]? =
      some (Member.reported p (c.conclude p id).2.label i (c.result? k)) :=
  members_assemble p id c.result? hi

end Census

/-! ## Runs of populations -/

/-- The system id after populations, of which some get no list. -/
def idAfter (p : Policy) (id : SystemId) (run : List (Option Census)) : SystemId :=
  run.foldl (fun id c => c.elim id fun c => (c.conclude p id).2) id

/-- The system id after any populations: the one that was known, or the first one brought. -/
theorem text?_idAfter (p : Policy) (id : SystemId) (run : List (Option Census)) :
    (idAfter p id run).text? =
      id.text?.or (run.findSome? fun c => c.bind Census.firstId?) := by
  induction run generalizing id with
  | nil => simp [idAfter]
  | cons c run ih =>
    have hcons : idAfter p id (c :: run) =
        idAfter p (c.elim id fun c => (c.conclude p id).2) run := rfl
    rw [hcons, ih, List.findSome?_cons]
    cases c with
    | none => rfl
    | some c =>
      rw [Option.elim_some, Option.bind_some, c.text?_conclude, Option.or_assoc]
      cases c.firstId? <;> simp

/-- An id that is known after some populations stays. -/
theorem text?_idAfter_append (p : Policy) (id : SystemId) {before : List (Option Census)}
    {text : String} (h : (idAfter p id before).text? = some text) (after : List (Option Census)) :
    (idAfter p id (before ++ after)).text? = some text := by
  have happend : idAfter p id (before ++ after) = idAfter p (idAfter p id before) after :=
    List.foldl_append
  rw [happend, text?_idAfter, h, Option.some_or]

/-- Silent populations leave an id that is not known. -/
theorem text?_idAfter_of_silent (p : Policy) {run : List (Option Census)}
    (h : ∀ c, some c ∈ run → c.IsSilent) : (idAfter p {} run).text? = none := by
  rw [text?_idAfter, Option.none_or, List.findSome?_eq_none_iff]
  intro c hc
  cases c with
  | none => rfl
  | some c => exact Census.firstId?_of_silent (h c hc)

/-! ## The monitor -/

variable {σ : Type}

/-- What a population of a service gets to know, if it gets the list and the permits. -/
def census? (service : ControlService σ) (p : Policy) (d : Deadline) (w : World σ) :
    Option Census :=
  match service.systemInstances d w with
  | (.ok listed, w') =>
    if maxPermits < p.fanoutLimit then none
    else some ⟨listed, (resolve service p d listed w').1⟩
  | (.error _, _) => none

/-- A population concludes its census, under a limit for which there are permits. -/
theorem populate_of_census {service : ControlService σ} {p : Policy} {d : Deadline} {w : World σ}
    {c : Census} (h : census? service p d w = some c) (id : SystemId) :
    p.fanoutLimit ≤ maxPermits ∧ IsCourse p.fanoutLimit c.listed.length c.course ∧
      (populate service p d id w).1 = some (.ok (c.conclude p id)) := by
  rw [census?] at h
  split at h
  · rename_i listed w' hlist
    split at h
    · cases h
    · rename_i hlimit
      have hp := Nat.not_lt.1 hlimit
      cases h
      refine ⟨hp, ?_, (populate_of_listed hp hlist).1⟩
      obtain ⟨w₁, -, hcourse, -⟩ := resolve_run service p d listed w'
      rw [hcourse]
      exact FanOut.run_isCourse ..
  · cases h

/-- A population without a census has no directory. -/
theorem populate_of_no_census {service : ControlService σ} {p : Policy} {d : Deadline}
    {w : World σ} (h : census? service p d w = none) (id : SystemId) :
    (populate service p d id w).1 = none ∨
      ∃ e, (populate service p d id w).1 = some (.error e) := by
  rw [census?] at h
  split at h
  · rename_i listed w' hlist
    split at h
    · rename_i hp
      exact .inl (congrArg Prod.fst (populate_of_crowded hp hlist))
    · cases h
  · rename_i e w' hlist
    exact .inr ⟨_, congrArg Prod.fst (populate_of_error hlist)⟩

end SapMonitor.Landscape

namespace SapMonitor.MonitoredSystem

open Landscape (Census SystemId IsCourse Member census? idAfter maxPermits)

variable {σ : Type}

/-- What the monitor gets to know when it asks for the directory. -/
def census? (s : MonitoredSystem σ) (d : Deadline) (w : World σ) : Option Census :=
  Landscape.census? s.service s.policy d w

/-- Asking for the directory concludes the census, and keeps the id. -/
theorem askDirectory_of_census {s : MonitoredSystem σ} {d : Deadline} {w : World σ} {c : Census}
    (h : s.census? d w = some c) (m : Memory) :
    (s.askDirectory d m w).1 =
      (some (.ok (c.conclude s.policy m.systemId).1),
        { m with systemId := (c.conclude s.policy m.systemId).2 }) := by
  have hpopulate := (Landscape.populate_of_census h m.systemId).2.2
  exact congrArg Prod.fst (askDirectory_of_ok (Prod.ext hpopulate rfl))

/-- Without a census there is no directory, and the memory stays. -/
theorem askDirectory_of_no_census {s : MonitoredSystem σ} {d : Deadline} {w : World σ}
    (h : s.census? d w = none) (m : Memory) :
    (s.askDirectory d m w).1 = (none, m) ∨
      ∃ e, (s.askDirectory d m w).1 = (some (.error e), m) := by
  rcases Landscape.populate_of_no_census h m.systemId with hlost | ⟨e, hfailed⟩
  · exact .inl (congrArg Prod.fst (askDirectory_of_lost (Prod.ext hlost rfl)))
  · exact .inr ⟨e, congrArg Prod.fst (askDirectory_of_error (Prod.ext hfailed rfl))⟩

/-- The memory after the directory was asked for again and again, in whatever worlds. -/
def askAll (s : MonitoredSystem σ) (m : Memory) (times : List (Deadline × World σ)) : Memory :=
  times.foldl (fun m t => (s.askDirectory t.1 m t.2).1.2) m

/-- Populations that follow each other lead to the id after their censuses. -/
theorem systemId_askAll (s : MonitoredSystem σ) (m : Memory)
    (times : List (Deadline × World σ)) :
    (s.askAll m times).systemId =
      idAfter s.policy m.systemId (times.map fun t => s.census? t.1 t.2) := by
  induction times generalizing m with
  | nil => rfl
  | cons t times ih =>
    have hfirst : (s.askDirectory t.1 m t.2).1.2.systemId =
        (s.census? t.1 t.2).elim m.systemId fun c => (c.conclude s.policy m.systemId).2 := by
      cases h : s.census? t.1 t.2 with
      | none =>
        rcases askDirectory_of_no_census h m with hask | ⟨e, hask⟩ <;>
          · rw [hask]
            rfl
      | some c =>
        rw [askDirectory_of_census h]
        rfl
    have hrest := ih (s.askDirectory t.1 m t.2).1.2
    rw [hfirst] at hrest
    exact hrest

/-- What holds for the system id and for the ids that members show, over every run of
populations.  The censuses of a run can have any lists and any courses. -/
structure WritesOnce (s : MonitoredSystem σ) (configured : String) : Prop where
  /-- What populations make of the id, their censuses do. -/
  asked : ∀ times : List (Deadline × World σ),
    (s.askAll (.ofSystemId configured) times).systemId =
      idAfter s.policy (.ofSetting configured) (times.map fun t => s.census? t.1 t.2)
  /-- A population that gets a list goes through a course of the property tasks, under a limit
  for which there are permits, returns the directory of its census and keeps the id. -/
  counted : ∀ d m w c, s.census? d w = some c →
    s.policy.fanoutLimit ≤ maxPermits ∧
      IsCourse s.policy.fanoutLimit c.listed.length c.course ∧
      (s.askDirectory d m w).1 =
        (some (.ok (c.conclude s.policy m.systemId).1),
          { m with systemId := (c.conclude s.policy m.systemId).2 })
  /-- One that gets no list, or no permits, returns no directory and leaves the id. -/
  uncounted : ∀ d m w, s.census? d w = none →
    (s.askDirectory d m w).1 = (none, m) ∨ ∃ e, (s.askDirectory d m w).1 = (some (.error e), m)
  /-- The id of the settings stays. -/
  known : configured ≠ "" → ∀ run,
    (idAfter s.policy (.ofSetting configured) run).text? = some configured
  /-- Without one there is none as long as no instance reports any. -/
  unknown : configured = "" → ∀ run, (∀ c, some c ∈ run → c.IsSilent) →
    (idAfter s.policy (.ofSetting configured) run).text? = none
  /-- Then it is the one of the first instance in the list that reports one, at the first
  population with such an instance, and stays. -/
  first : configured = "" → ∀ before c after k text, (∀ c', some c' ∈ before → c'.IsSilent) →
    k < c.listed.length → c.idAt? k = some text → (∀ j < k, c.idAt? j = none) →
    (idAfter s.policy (.ofSetting configured) before).text? = none ∧
      (idAfter s.policy (.ofSetting configured) (before ++ some c :: after)).text? = some text
  /-- An id that is known is never written again. -/
  stays : ∀ before after text,
    (idAfter s.policy (.ofSetting configured) before).text? = some text →
    (idAfter s.policy (.ofSetting configured) (before ++ after)).text? = some text
  /-- A member that is resolved shows the id that it reports, or an empty one. -/
  own : ∀ (before : List (Option Census)) (c : Census),
    let id := idAfter s.policy (.ofSetting configured) before
    ∀ k i properties, c.listed[k]? = some i → c.result? k = some (.ok properties) →
    ∃ m, (c.conclude s.policy id).1.members[k]? = some m ∧ m.listed = i ∧ m.resolved = true ∧
      m.systemId = (Remote.property? properties "SAPSYSTEMNAME").getD ""
  /-- Any other member shows the id after the population, or an empty one. -/
  lent : ∀ (before : List (Option Census)) (c : Census),
    let id := idAfter s.policy (.ofSetting configured) before
    ∀ k i, c.listed[k]? = some i → (∀ properties, c.result? k ≠ some (.ok properties)) →
    ∃ m, (c.conclude s.policy id).1.members[k]? = some m ∧ m.listed = i ∧ m.resolved = false ∧
      m.systemId =
        (idAfter s.policy (.ofSetting configured) (before ++ [some c])).text?.getD ""

/-- The system id is written once, in the order of the lists. -/
theorem written_once (s : MonitoredSystem σ) (configured : String) :
    s.WritesOnce configured where
  asked times := s.systemId_askAll (.ofSystemId configured) times
  counted d m w c h := by
    obtain ⟨hp, hcourse, -⟩ := Landscape.populate_of_census h m.systemId
    exact ⟨hp, hcourse, askDirectory_of_census h m⟩
  uncounted d m w h := askDirectory_of_no_census h m
  known hne run := by
    have hsetting : (SystemId.ofSetting configured).text? = some configured := by
      simp [SystemId.ofSetting, hne]
    rw [Landscape.text?_idAfter, hsetting, Option.some_or]
  unknown hempty run hrun := by
    subst hempty
    exact Landscape.text?_idAfter_of_silent s.policy hrun
  first hempty before c after k text hbefore hk htext hsilent := by
    subst hempty
    have hnone : (idAfter s.policy (.ofSetting "") before).text? = none :=
      Landscape.text?_idAfter_of_silent s.policy hbefore
    have hupto : (idAfter s.policy (.ofSetting "") (before ++ [some c])).text? = some text := by
      have hlast : idAfter s.policy (.ofSetting "") (before ++ [some c]) =
          (c.conclude s.policy (idAfter s.policy (.ofSetting "") before)).2 := by
        rw [idAfter, List.foldl_append]
        rfl
      rw [hlast, c.text?_conclude, hnone, Option.none_or, c.firstId?_of_first hk htext hsilent]
    refine ⟨hnone, ?_⟩
    -- what is known after this census is not written again
    have hsplit : before ++ some c :: after = (before ++ [some c]) ++ after := by
      rw [List.append_assoc, List.singleton_append]
    rw [hsplit]
    exact Landscape.text?_idAfter_append s.policy _ hupto after
  stays before after text h := Landscape.text?_idAfter_append s.policy _ h after
  own := by
    intro before c id k i properties hi hresult
    refine ⟨_, c.member_conclude s.policy id hi, ?_⟩
    rw [hresult]
    exact ⟨rfl, rfl, rfl⟩
  lent := by
    intro before c id k i hi hresult
    have hlast : idAfter s.policy (.ofSetting configured) (before ++ [some c]) =
        (c.conclude s.policy id).2 := by
      rw [idAfter, List.foldl_append]
      rfl
    refine ⟨_, c.member_conclude s.policy id hi, ?_⟩
    rw [hlast]
    rcases h : c.result? k with _ | (cause | properties)
    · exact ⟨rfl, rfl, rfl⟩
    · exact ⟨rfl, rfl, rfl⟩
    · exact absurd h (hresult properties)

/-! ### An example -/

/-- A census in which the last instance of the list answers first, and the task of the first
one is lost. -/
def lateCensus : Census where
  listed := [{ hostname := "a" }, { hostname := "b" }, { hostname := "c" }]
  course := [.takeOff 0, .takeOff 1, .takeOff 2,
    .land ⟨2, 1, some (.ok [{ name := "SAPSYSTEMNAME", value := "QAS" }])⟩,
    .land ⟨1, 2, some (.ok [{ name := "SAPSYSTEMNAME", value := "PRD" }])⟩,
    .land ⟨0, 3, none⟩]

/-- The list decides, and the lost instance borrows the id that was found behind it. -/
example (p : Landscape.Policy) :
    let directory := lateCensus.conclude p {}
    directory.2.text? = some "PRD" ∧
      directory.1.members.map Member.systemId = ["PRD", "PRD", "QAS"] := by
  intro directory
  exact ⟨rfl, rfl⟩

end SapMonitor.MonitoredSystem
