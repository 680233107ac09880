import SapMonitor.Proofs.Remote.Records

/-!
# Statistics of the lock server

The statistics of the lock server have one field for every number and every state, each under its
own name.  Some releases send them in one further element.  That element is looked into if it shows
the current number of owners, and then it makes no difference.  Otherwise it is passed over, and
whatever it holds is lost.

Main results:

- `lockStatistic_eq_ok_iff`: a statistic that is decoded shows its fields.
- `lockStatistic_congr`: a statistic is decoded from the texts of its fields alone.
- `lockStatistic_wrapped`: when a further element makes no difference, and what is read otherwise.
- `lockStatistic_peak_lost`: without the current number of owners their peak is lost.
-/

namespace SapMonitor.Remote

open Markup (Element)

/-! ## Fields -/

namespace LockStatistic

/-- The fields with how full the lock table is. -/
def levelFields (s : LockStatistic) : List (String × Int) :=
  [("owner-now", s.owner.now), ("owner-high", s.owner.high), ("owner-max", s.owner.max),
    ("arguments-now", s.arguments.now), ("arguments-high", s.arguments.high),
    ("arguments-max", s.arguments.max), ("locks-now", s.locks.now), ("locks-high", s.locks.high),
    ("locks-max", s.locks.max)]

/-- The fields with how the lock server is doing. -/
def stateFields (s : LockStatistic) : List (String × String) :=
  [("owner-state", s.owner.state), ("arguments-state", s.arguments.state),
    ("locks-state", s.locks.state), ("replication-state", s.replicationState)]

/-- The fields with what the lock server has counted. -/
def countFields (s : LockStatistic) : List (String × Int) :=
  [("enqueue-requests", s.counts.enqueueRequests), ("enqueue-rejects", s.counts.enqueueRejects),
    ("enqueue-errors", s.counts.enqueueErrors), ("dequeue-requests", s.counts.dequeueRequests),
    ("dequeue-errors", s.counts.dequeueErrors),
    ("dequeue-all-requests", s.counts.dequeueAllRequests),
    ("cleanup-requests", s.counts.cleanupRequests), ("backup-requests", s.counts.backupRequests),
    ("reporting-requests", s.counts.reportingRequests),
    ("compress-requests", s.counts.compressRequests),
    ("verify-requests", s.counts.verifyRequests)]

/-- The fields with the times that the lock server has taken. -/
def timeFields (s : LockStatistic) : List (String × Float) :=
  [("lock-time", s.lockTime), ("lock-wait-time", s.lockWaitTime), ("server-time", s.serverTime)]

/-- The names of the fields with levels. -/
def levelNames : List String :=
  ["owner-now", "owner-high", "owner-max", "arguments-now", "arguments-high", "arguments-max",
    "locks-now", "locks-high", "locks-max"]

/-- The names of the fields with states. -/
def stateNames : List String :=
  ["owner-state", "arguments-state", "locks-state", "replication-state"]

/-- The names of the fields with counts. -/
def countNames : List String :=
  ["enqueue-requests", "enqueue-rejects", "enqueue-errors", "dequeue-requests", "dequeue-errors",
    "dequeue-all-requests", "cleanup-requests", "backup-requests", "reporting-requests",
    "compress-requests", "verify-requests"]

/-- The names of the fields with times. -/
def timeNames : List String :=
  ["lock-time", "lock-wait-time", "server-time"]

/-- The names of all fields. -/
def fieldNames : List String :=
  levelNames ++ stateNames ++ countNames ++ timeNames

theorem map_fst_levelFields (s : LockStatistic) : s.levelFields.map Prod.fst = levelNames :=
  rfl

theorem map_fst_stateFields (s : LockStatistic) : s.stateFields.map Prod.fst = stateNames :=
  rfl

theorem map_fst_countFields (s : LockStatistic) : s.countFields.map Prod.fst = countNames :=
  rfl

theorem map_fst_timeFields (s : LockStatistic) : s.timeFields.map Prod.fst = timeNames :=
  rfl

end LockStatistic

/-- An element shows the fields of a statistic. -/
structure ShowsStatistic (e : Element) (s : LockStatistic) : Prop where
  levels : ∀ f ∈ s.levelFields, int32 e f.1 = .ok f.2
  states : ∀ f ∈ s.stateFields, e.textAt f.1 = f.2
  counts : ∀ f ∈ s.countFields, int64 e f.1 = .ok f.2
  times : ∀ f ∈ s.timeFields, float e f.1 = .ok f.2

theorem LockLevel.ofElement_eq_ok_iff {e : Element} {part : String} {l : LockLevel} :
    LockLevel.ofElement e part = .ok l ↔
      int32 e (part ++ "-now") = .ok l.now ∧ int32 e (part ++ "-high") = .ok l.high ∧
        int32 e (part ++ "-max") = .ok l.max ∧ e.textAt (part ++ "-state") = l.state := by
  obtain ⟨now, high, max, state⟩ := l
  simp only [ofElement, bind_eq_ok_iff, pure_eq_ok_iff, mk.injEq]
  constructor
  · rintro ⟨_, hnow, _, hhigh, _, hmax, rfl, rfl, rfl, hstate⟩
    exact ⟨hnow, hhigh, hmax, hstate⟩
  · rintro ⟨hnow, hhigh, hmax, hstate⟩
    exact ⟨now, hnow, high, hhigh, max, hmax, rfl, rfl, rfl, hstate⟩

theorem LockCounts.ofElement_eq_ok_iff {e : Element} {s : LockStatistic} :
    LockCounts.ofElement e = .ok s.counts ↔ ∀ f ∈ s.countFields, int64 e f.1 = .ok f.2 := by
  obtain ⟨-, -, -, ⟨a, b, c, d, e', f, g, h, i, j, k⟩, -, -, -, -⟩ := s
  simp only [ofElement, bind_eq_ok_iff, pure_eq_ok_iff, mk.injEq, LockStatistic.countFields,
    List.forall_mem_cons, List.not_mem_nil, false_implies, implies_true, and_true]
  constructor
  · rintro ⟨_, ha, _, hb, _, hc, _, hd, _, he, _, hf, _, hg, _, hh, _, hi, _, hj, _, hk,
      rfl, rfl, rfl, rfl, rfl, rfl, rfl, rfl, rfl, rfl, rfl⟩
    exact ⟨ha, hb, hc, hd, he, hf, hg, hh, hi, hj, hk⟩
  · rintro ⟨ha, hb, hc, hd, he, hf, hg, hh, hi, hj, hk⟩
    exact ⟨a, ha, b, hb, c, hc, d, hd, e', he, f, hf, g, hg, h, hh, i, hi, j, hj, k, hk,
      rfl, rfl, rfl, rfl, rfl, rfl, rfl, rfl, rfl, rfl, rfl⟩

/-- A statistic that is decoded shows its fields. -/
theorem lockStatistic_eq_ok_iff {response : Element} {s : LockStatistic} :
    lockStatistic response = .ok s ↔ ShowsStatistic (statisticElement response) s := by
  have hparts : lockStatistic response = .ok s ↔
      let e := statisticElement response
      LockLevel.ofElement e "owner" = .ok s.owner ∧
        LockLevel.ofElement e "arguments" = .ok s.arguments ∧
        LockLevel.ofElement e "locks" = .ok s.locks ∧ LockCounts.ofElement e = .ok s.counts ∧
        float e "lock-time" = .ok s.lockTime ∧ float e "lock-wait-time" = .ok s.lockWaitTime ∧
        float e "server-time" = .ok s.serverTime ∧
        e.textAt "replication-state" = s.replicationState := by
    obtain ⟨owner, arguments, locks, counts, lockTime, waitTime, serverTime, replication⟩ := s
    simp only [lockStatistic, bind_eq_ok_iff, pure_eq_ok_iff, LockStatistic.mk.injEq]
    constructor
    · rintro ⟨_, ho, _, ha, _, hl, _, hc, _, ht, _, hw, _, hs, rfl, rfl, rfl, rfl, rfl, rfl, rfl,
        hr⟩
      exact ⟨ho, ha, hl, hc, ht, hw, hs, hr⟩
    · rintro ⟨ho, ha, hl, hc, ht, hw, hs, hr⟩
      exact ⟨owner, ho, arguments, ha, locks, hl, counts, hc, lockTime, ht, waitTime, hw,
        serverTime, hs, rfl, rfl, rfl, rfl, rfl, rfl, rfl, hr⟩
  rw [hparts]
  simp only [LockLevel.ofElement_eq_ok_iff, LockCounts.ofElement_eq_ok_iff]
  constructor
  · rintro ⟨⟨hon, hoh, hom, hos⟩, ⟨han, hah, ham, has⟩, ⟨hln, hlh, hlm, hls⟩, hc, ht, hw, hs, hr⟩
    refine ⟨?_, ?_, hc, ?_⟩
    · simp only [LockStatistic.levelFields, List.forall_mem_cons]
      exact ⟨hon, hoh, hom, han, hah, ham, hln, hlh, hlm, List.forall_mem_nil _⟩
    · simp only [LockStatistic.stateFields, List.forall_mem_cons]
      exact ⟨hos, has, hls, hr, List.forall_mem_nil _⟩
    · simp only [LockStatistic.timeFields, List.forall_mem_cons]
      exact ⟨ht, hw, hs, List.forall_mem_nil _⟩
  · rintro ⟨hlevels, hstates, hc, htimes⟩
    simp only [LockStatistic.levelFields, LockStatistic.stateFields, LockStatistic.timeFields,
      List.forall_mem_cons] at hlevels hstates htimes
    obtain ⟨hon, hoh, hom, han, hah, ham, hln, hlh, hlm, -⟩ := hlevels
    obtain ⟨hos, has, hls, hr, -⟩ := hstates
    obtain ⟨ht, hw, hs, -⟩ := htimes
    exact ⟨⟨hon, hoh, hom, hos⟩, ⟨han, hah, ham, has⟩, ⟨hln, hlh, hlm, hls⟩, hc, ht, hw, hs, hr⟩

/-! ## The element of the statistic -/

/-- A statistic is decoded from the texts of its fields alone. -/
theorem lockStatistic_congr {a b : Element}
    (h : ∀ name, (statisticElement a).textAt name = (statisticElement b).textAt name) :
    lockStatistic a = lockStatistic b := by
  have hnumber {α : Type} (zero : α) (read? : List Char → Option α) :
      number zero read? (statisticElement a) = number zero read? (statisticElement b) := by
    funext field
    unfold number numberText
    rw [h]
  unfold lockStatistic LockLevel.ofElement LockCounts.ofElement int32 int64 float
  simp only [hnumber, h]

/-- Elements without children of their own. -/
def Flat (es : List Element) : Prop :=
  ∀ e ∈ es, e.children = []

/-- A response whose fields are its children holds the statistic itself. -/
theorem statisticElement_of_flat {e : Element} (h : Flat e.children) : statisticElement e = e := by
  have hnone : (e.children.find? fun c => (c.child? "owner-now").isSome) = none := by
    rw [List.find?_eq_none]
    intro c hc
    simp [Element.child?, h c hc]
  rw [statisticElement, hnone]
  rfl

/-- The further element is looked into if it shows the current number of owners. -/
theorem statisticElement_wrapped (name text : String) (wrapper : Element) :
    statisticElement (.mk name text [wrapper]) =
      if (wrapper.child? "owner-now").isSome then wrapper else .mk name text [wrapper] := by
  unfold statisticElement
  rw [Element.children_mk, List.find?_singleton]
  split <;> rfl

/-! ## A further element -/

/-- An element without texts under the names of fields shows zeros and empty texts. -/
theorem showsStatistic_empty {e : Element}
    (h : ∀ name ∈ LockStatistic.fieldNames, e.textAt name = "") : ShowsStatistic e {} := by
  have hnumber {α : Type} {zero : α} {read? : List Char → Option α} {f : String × α}
      (hf : f.1 ∈ LockStatistic.fieldNames ∧ f.2 = zero) : number zero read? e f.1 = .ok f.2 := by
    have hblank : (numberText e f.1).isEmpty = true := by
      rw [numberText, h f.1 hf.1]
      rfl
    rw [number_of_blank hblank, hf.2]
  have hlevels : ∀ f ∈ ({} : LockStatistic).levelFields,
      f.1 ∈ LockStatistic.fieldNames ∧ f.2 = 0 := by decide
  have hstates : ∀ f ∈ ({} : LockStatistic).stateFields,
      f.1 ∈ LockStatistic.fieldNames ∧ f.2 = "" := by decide
  have hcounts : ∀ f ∈ ({} : LockStatistic).countFields,
      f.1 ∈ LockStatistic.fieldNames ∧ f.2 = 0 := by decide
  have htimes : ∀ f ∈ ({} : LockStatistic).timeFields,
      f.1 ∈ LockStatistic.fieldNames ∧ f.2 = 0 := by decide
  constructor
  · exact fun f hf => hnumber (hlevels f hf)
  · exact fun f hf => (h f.1 (hstates f hf).1).trans (hstates f hf).2.symm
  · exact fun f hf => hnumber (hcounts f hf)
  · exact fun f hf => hnumber (htimes f hf)

theorem textAt_singleton (name text : String) (c : Element) (field : String) :
    (Element.mk name text [c]).textAt field = if c.name = field then c.text else "" := by
  by_cases h : c.name = field <;> simp [Element.textAt, Element.child?, h]

/-- Whether one of the elements is the current number of owners. -/
def ShowsOwners (fields : List Element) : Prop :=
  ∃ f ∈ fields, f.name = "owner-now"

theorem child?_owners_isSome_iff (name text : String) (fields : List Element) :
    ((Element.mk name text fields).child? "owner-now").isSome = true ↔ ShowsOwners fields := by
  simp [Element.child?, ShowsOwners, List.find?_isSome]

section Wrapped

variable {fields : List Element} (name text wrapper own : String)

theorem statisticElement_of_owners (h : ShowsOwners fields) :
    statisticElement (.mk name text [.mk wrapper own fields]) = .mk wrapper own fields := by
  rw [statisticElement_wrapped, if_pos ((child?_owners_isSome_iff wrapper own fields).2 h)]

theorem statisticElement_of_no_owners (h : ¬ShowsOwners fields) :
    statisticElement (.mk name text [.mk wrapper own fields]) =
      .mk name text [.mk wrapper own fields] := by
  rw [statisticElement_wrapped, if_neg (mt (child?_owners_isSome_iff wrapper own fields).1 h)]

/-- Fields in a further element that is passed over are not looked at. -/
theorem lockStatistic_of_no_owners (h : ¬ShowsOwners fields) :
    lockStatistic (.mk name text [.mk wrapper own fields]) =
      lockStatistic (.mk name text [.mk wrapper own []]) := by
  have hnone : ¬ShowsOwners [] := by simp [ShowsOwners]
  apply lockStatistic_congr
  intro field
  rw [statisticElement_of_no_owners name text wrapper own h,
    statisticElement_of_no_owners name text wrapper own hnone, textAt_singleton, textAt_singleton]
  rfl

/-- If its own name is not the one of a field either, nothing is read. -/
theorem lockStatistic_of_unnamed (h : ¬ShowsOwners fields)
    (hname : wrapper ∉ LockStatistic.fieldNames) :
    lockStatistic (.mk name text [.mk wrapper own fields]) = .ok {} := by
  rw [lockStatistic_eq_ok_iff, statisticElement_of_no_owners name text wrapper own h]
  apply showsStatistic_empty
  intro field hfield
  rw [textAt_singleton, if_neg]
  exact (ne_of_mem_of_not_mem hfield hname).symm

/-- A further element around the fields makes no difference if they show the current number of
owners.  Otherwise the fields are not looked at: the response is read as if the further element
were empty, so that it makes no difference only for fields that show nothing. -/
theorem lockStatistic_wrapped (hflat : Flat fields) :
    let direct := Element.mk name text fields
    let wrapped := Element.mk name text [.mk wrapper own fields]
    (ShowsOwners fields → lockStatistic wrapped = lockStatistic direct) ∧
      (¬ShowsOwners fields →
        lockStatistic wrapped = lockStatistic (.mk name text [.mk wrapper own []])) ∧
      (wrapper ∉ LockStatistic.fieldNames →
        (lockStatistic wrapped = lockStatistic direct ↔
          ShowsOwners fields ∨ ShowsStatistic direct {})) := by
  intro direct wrapped
  have hdirect : statisticElement direct = direct := statisticElement_of_flat hflat
  have hseen (h : ShowsOwners fields) : lockStatistic wrapped = lockStatistic direct := by
    apply lockStatistic_congr
    intro field
    rw [statisticElement_of_owners name text wrapper own h, hdirect]
    rfl
  refine ⟨hseen, lockStatistic_of_no_owners name text wrapper own, fun hname => ?_⟩
  by_cases howners : ShowsOwners fields
  · exact iff_of_true (hseen howners) (.inl howners)
  · have hempty : lockStatistic wrapped = .ok {} :=
      lockStatistic_of_unnamed name text wrapper own howners hname
    rw [hempty, eq_comm, lockStatistic_eq_ok_iff, hdirect]
    exact (or_iff_right howners).symm

end Wrapped

/-- Fields of a statistic with the current number of owners. -/
def usualFields : List Element :=
  [.mk "locks-state" "SAPControl-GREEN" [], .mk "owner-high" "9" [], .mk "owner-now" "3" []]

theorem lockStatistic_wrapped_usual :
    Flat usualFields ∧ ShowsOwners usualFields ∧ "statistic" ∉ LockStatistic.fieldNames ∧
      let direct := Element.mk "EnqGetStatisticResponse" "" usualFields
      let wrapped := Element.mk "EnqGetStatisticResponse" "" [.mk "statistic" "" usualFields]
      lockStatistic wrapped = lockStatistic direct ∧
        lockStatistic wrapped =
          .ok { owner := { now := 3, high := 9 }, locks := { state := "SAPControl-GREEN" } } := by
  have hflat : Flat usualFields := by simp [Flat, usualFields]
  have howners : ShowsOwners usualFields := ⟨.mk "owner-now" "3" [], by simp [usualFields], rfl⟩
  have hname : "statistic" ∉ LockStatistic.fieldNames := by decide
  obtain ⟨hseen, -, -⟩ :=
    lockStatistic_wrapped "EnqGetStatisticResponse" "" "statistic" "" hflat
  exact ⟨hflat, howners, hname, hseen howners, by rfl⟩

/-- A field of a statistic without the current number of owners. -/
def peakOnly : List Element :=
  [.mk "owner-high" "9" []]

/-- The further element makes a difference to it: the peak is lost, and no error is reported. -/
theorem lockStatistic_peak_lost :
    lockStatistic (.mk "EnqGetStatisticResponse" "" peakOnly) = .ok { owner := { high := 9 } } ∧
      lockStatistic (.mk "EnqGetStatisticResponse" "" [.mk "statistic" "" peakOnly]) = .ok {} ∧
      lockStatistic (.mk "EnqGetStatisticResponse" "" [.mk "statistic" "" peakOnly]) ≠
        lockStatistic (.mk "EnqGetStatisticResponse" "" peakOnly) := by
  have hdirect : lockStatistic (.mk "EnqGetStatisticResponse" "" peakOnly) =
      .ok { owner := { high := 9 } } := by rfl
  have hwrapped : lockStatistic (.mk "EnqGetStatisticResponse" "" [.mk "statistic" "" peakOnly]) =
      .ok {} := by rfl
  refine ⟨hdirect, hwrapped, ?_⟩
  rw [hdirect, hwrapped]
  intro heq
  have hpeak : (0 : Int) = 9 := congrArg (fun s => s.owner.high) (Except.ok.inj heq)
  exact absurd hpeak (by decide)

end SapMonitor.Remote
