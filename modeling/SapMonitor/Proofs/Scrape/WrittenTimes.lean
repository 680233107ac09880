import SapMonitor.Proofs.LogStore.Filing
import SapMonitor.Proofs.Remote.Decimals
import SapMonitor.Proofs.Scrape.AlertReports

/-!
# The times that are written for alerts

The age of an alert is checked on the calendar, but what is written for it is a number of 64
bits.  The calendar is the wider of the two: an alert of the far future is never too old, and
its number does not fit.

Main results:

- `hand_files`: a line that is handed over is pushed, or waits for the next push.
- `forward_written`: what is written for an alert that is not too old.
- `forward_far_future`: an alert of the far future is written as one of 1970.
-/

namespace SapMonitor.Scrape.Alerts

open LogStore (ClientSettings LabelSet LogLine Pending Stream)
open Time (Moment Span)
open Landscape (Member)
open Remote (Alert)

variable {σ : Type}

/-! ## Lines that are handed over -/

/-- A request has the body of its post. -/
theorem body_of_request {post : Http.Post} {idna : Url.Idna} {r : Http.Request}
    (h : post.request idna = .ok r) :
    r.body = post.body := by
  unfold Http.Post.request at h
  split at h
  · cases h
  · split at h
    · cases h
    · dsimp only at h
      split at h
      · cases h
      · cases h
        rfl

/-- A push has the text of its batches as its body. -/
theorem body_of_mem_pushRequests {o : Outlet σ} {batches : List Stream} {r : Http.Request}
    (h : r ∈ pushRequests o batches) : r.body = LogStore.pushBody batches := by
  unfold pushRequests Http.Post.requests at h
  split at h
  · rename_i hrequest
    obtain rfl := List.mem_singleton.1 h
    exact body_of_request hrequest
  · cases h

/-- A value goes out at the end of its stream, at once or with the next push of all that
waits. -/
inductive Files (o : Outlet σ) (value : Int × String) (before after : List Sent × Pending) :
    Prop
  | pushed {labels : LabelSet} {values : List (Int × String)}
      (hsent : after.1 =
        before.1 ++ (pushRequests o [⟨labels, values ++ [value]⟩]).map .request)
  | waits {labels : LabelSet} {values : List (Int × String)} (hsent : after.1 = before.1)
      (hwaits : ⟨labels, values ++ [value]⟩ ∈ after.2.takeAll.1)

/-- A line that is handed over is pushed, or waits for the next push. -/
theorem hand_files (o : Outlet σ) (x : List Sent × Pending) (l : LogLine) :
    Files o (l.moment.epochNanos, l.text) x (hand o x l) := by
  obtain ⟨front, s, rest, -, -, heq⟩ := LogStore.appendLine_cases o.settings.batch
    (l.named o.settings.name).labels.text (l.named o.settings.name).labels
    (l.moment.epochNanos, l.text) x.2.streams
  have hfiled : LogStore.enqueue o.settings l x.2 =
      let filed := LogStore.appendLine o.settings.batch (l.named o.settings.name).labels.text
        (l.named o.settings.name).labels (l.moment.epochNanos, l.text) x.2.streams
      (filed.1, ⟨filed.2⟩) := rfl
  rw [heq] at hfiled
  by_cases hfull : o.settings.batch ≤ s.values.length + 1
  · rw [if_pos hfull] at hfiled
    have hsent : (hand o x l).1 = x.1 ++ (pushRequests o
        [⟨s.labels, s.values ++ [(l.moment.epochNanos, l.text)]⟩]).map .request := by
      simp only [hand, hfiled, Option.toList_some, List.flatMap_singleton]
    exact .pushed hsent
  · rw [if_neg hfull] at hfiled
    have hwaits : ⟨s.labels, s.values ++ [(l.moment.epochNanos, l.text)]⟩ ∈
        (hand o x l).2.takeAll.1 := by
      simp [hand, hfiled, Pending.takeAll]
    exact .waits (by simp [hand, hfiled]) hwaits

/-! ## The number of an alert -/

/-- What is written for a moment that is not too old: its number if that fits 64 bits, and zero
if it does not. -/
structure WrittenFor (limit : Option Span) (present t : Moment) (n : Int) : Prop where
  fits : t.Fits → n = t.sinceEpoch
  unfit : ¬t.Fits → n = 0
  /-- The digits in a push are read back as the number. -/
  digits : Decimal.readInt? (toString n).toList = some n
  /-- A number that fits lies no further back than the limit, as seen from the present. -/
  young : ∀ l, limit = some l → t.Fits → present.inLeapSecond = false →
    present.sinceEpoch - l.nanos ≤ n

theorem writtenFor_epochNanos {limit : Option Span} {present t : Moment}
    (hkept : t.isOutdated present limit = false) :
    WrittenFor limit present t t.epochNanos where
  fits := Moment.epochNanos_of_fits
  unfit := Moment.epochNanos_of_not_fits
  digits := Decimal.readInt?_toString _
  young := by
    intro l hl hfits hpresent
    have hage := Moment.isOutdated_eq_false_iff.1 hkept l hl
    have hnumber := Moment.sub_sinceEpoch_le_age hpresent t
    rw [Moment.epochNanos_of_fits hfits]
    omega

/-- The line of an alert that is not too old is handed over. -/
theorem traffic_forward {p : Policy} {o : Outlet σ} {a : Alert} {left : Nat}
    {w : World (σ × List Sent)}
    (hkept : ((Time.alertMoment? a.time o.settings.offset).getD
      (p.readingsAt w.clock left).fallback).isOutdated
        (p.readingsAt w.clock left).present p.maxAge = false) (m : Member) (memory : Memory) :
    let done := forward p o.recorded m a left memory w
    traffic done.1.2 done.2 = hand o (traffic memory w)
      (line m a ((Time.alertMoment? a.time o.settings.offset).getD
        (p.readingsAt w.clock left).fallback)) := by
  obtain ⟨journal, hrun⟩ := forward_run p o.recorded m a left memory w
  have hsettings : o.recorded.settings = o.settings := rfl
  simp only [alertTime_fst, hsettings, hkept, Bool.false_eq_true, if_false] at hrun
  simp only [hrun]
  exact traffic_send o _ memory _

/-- What is written for an alert that is not too old. -/
theorem forward_written (p : Policy) (o : Outlet σ) (m : Member) (a : Alert) (left : Nat)
    (memory : Memory) (w : World (σ × List Sent))
    (hkept : ((Time.alertMoment? a.time o.settings.offset).getD
      (p.readingsAt w.clock left).fallback).isOutdated
        (p.readingsAt w.clock left).present p.maxAge = false) :
    let done := forward p o.recorded m a left memory w
    ∃ n, WrittenFor p.maxAge (p.readingsAt w.clock left).present
        ((Time.alertMoment? a.time o.settings.offset).getD (p.readingsAt w.clock left).fallback) n ∧
      Files o (n, a.description) (traffic memory w) (traffic done.1.2 done.2) := by
  intro done
  have hhanded : traffic done.1.2 done.2 = _ := traffic_forward hkept m memory
  rw [hhanded]
  exact ⟨_, writtenFor_epochNanos hkept, hand_files o (traffic memory w)
    (line m a ((Time.alertMoment? a.time o.settings.offset).getD
      (p.readingsAt w.clock left).fallback))⟩

/-! ### Examples -/

/-- Alerts become lines of the last day, in November 2023. -/
def daily : Policy where
  toMetrics := false
  maxAge := some ⟨86400000000000⟩
  readingsAt n _ := ⟨⟨1700000000, n⟩, ⟨1700000000, n + 1⟩⟩

/-- A log store of a system that is three hours ahead of universal time. -/
def easternStore : Outlet Unit where
  network := { idna := .latin, exchange := fun _ _ => return .answered ⟨204⟩ "" }
  settings := { address := "http://loki:3100/", name := "mon", tenant := "", wait := ⟨1⟩,
                batch := 1, timeout := ⟨1⟩, offset := 10800 }

/-- An alert of the same day. -/
def todaysAlert : Alert :=
  { value := "SAPControl-RED", description := "full", time := "2023 11 14 12:00:00" }

/-- An alert of the far future. -/
def farAlert : Alert :=
  { value := "SAPControl-RED", description := "full", time := "2300 01 01 00:00:00" }

theorem forward_written_today :
    ((Time.alertMoment? todaysAlert.time 10800).getD (daily.readingsAt 0 0).fallback).isOutdated
        (daily.readingsAt 0 0).present daily.maxAge = false ∧
      ∃ n, WrittenFor daily.maxAge (daily.readingsAt 0 0).present
          ((Time.alertMoment? todaysAlert.time 10800).getD (daily.readingsAt 0 0).fallback) n ∧
        Files easternStore (n, "full") (traffic {} smallWorld)
          (traffic (forward daily easternStore.recorded onlyMember todaysAlert 0 {} smallWorld).1.2
            (forward daily easternStore.recorded onlyMember todaysAlert 0 {} smallWorld).2) :=
  have hkept : ((Time.alertMoment? todaysAlert.time 10800).getD
      (daily.readingsAt 0 0).fallback).isOutdated
        (daily.readingsAt 0 0).present daily.maxAge = false := by
    decide
  ⟨hkept, forward_written daily easternStore onlyMember todaysAlert 0 {} smallWorld hkept⟩

/-- The log store can be sent requests. -/
theorem pushRequests_easternStore (batches : List Stream) :
    ∃ r, pushRequests easternStore batches = [r] := by
  have hurl : Url.read easternStore.network.idna "http://loki:3100/" =
      .ok { scheme := "http", host := some (.domain "loki"), port := some 3100, path := "/" } := rfl
  have haddress : (pushPost easternStore.settings batches).address = "http://loki:3100/" := rfl
  have hheaders : (pushPost easternStore.settings batches).headers.all
      (fun h => Http.isHeaderValue h.2) = true := rfl
  unfold pushRequests Http.Post.requests Http.Post.request
  rw [haddress, hurl, hheaders]
  exact ⟨_, rfl⟩

/-- The batch of the alert of the far future. -/
def farBatch : Stream :=
  { labels := (lineLabels onlyMember farAlert).insert "job" "mon", values := [(0, "full")] }

/-- An alert of the far future is written as one of 1970. -/
theorem forward_far_future :
    Time.alertMoment? farAlert.time 10800 = some ⟨10413781200, 0⟩ ∧
    Moment.sinceEpoch ⟨10413781200, 0⟩ = 10413781200000000000 ∧
    Moment.isOutdated ⟨10413781200, 0⟩ (daily.readingsAt 0 0).present daily.maxAge = false ∧
    ∃ r, (forward daily easternStore.recorded onlyMember farAlert 0 {} smallWorld).2.sent =
        [.request r] ∧
      r.body = LogStore.pushBody [farBatch] := by
  have hmoment : Time.alertMoment? farAlert.time easternStore.settings.offset =
      some ⟨10413781200, 0⟩ := by
    decide
  have hkept : Moment.isOutdated ⟨10413781200, 0⟩ (daily.readingsAt 0 0).present daily.maxAge =
      false := by
    decide
  have hhanded := traffic_forward (p := daily) (o := easternStore) (a := farAlert)
    (w := smallWorld) (by rw [hmoment]; exact hkept) onlyMember {}
  rw [hmoment] at hhanded
  have hsent : (hand easternStore (traffic {} smallWorld)
      (line onlyMember farAlert ⟨10413781200, 0⟩)).1 =
        (pushRequests easternStore [farBatch]).map .request := by
    rfl
  obtain ⟨r, hr⟩ := pushRequests_easternStore [farBatch]
  refine ⟨hmoment, by decide, hkept, r, ?_, ?_⟩
  · rw [hr] at hsent
    exact (congrArg Prod.fst hhanded).trans hsent
  · exact body_of_mem_pushRequests (hr ▸ List.mem_singleton_self r)

end SapMonitor.Scrape.Alerts
