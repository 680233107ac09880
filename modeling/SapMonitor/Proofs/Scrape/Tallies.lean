import Mathlib.Algebra.GroupWithZero.Nat
import Mathlib.Data.List.Induction
import Mathlib.Data.Prod.Lex
import Mathlib.Data.String.Basic
import SapMonitor.Scrape.Instances
import SapMonitor.Scrape.WorkProcesses

/-!
# Tallies

Processes are counted by their states, and work processes by kind and status.  No process is lost
or counted twice: the counts of the states sum to the processes whose state is known, and the counts
of kinds and statuses to the length of the table.

Main results:

- `sum_countP_eq`: the counts of different keys sum to the count of all of them.
- `Instances.countsProcesses`: the samples of a process list.
- `WorkProcesses.tallies_counts`: the counts of a table.
- `WorkProcesses.countsWork`: the samples of a table.
-/

namespace SapMonitor.Scrape

open Series (Sample)
open Landscape (Member WatchedProcess watched)
open Remote (OsProcess StateColor WorkProcess)

/-! ## Counts of different keys -/

theorem countP_mem_cons {α κ : Type} [DecidableEq κ] (f : α → κ) {key : κ} {keys : List κ}
    (hkey : key ∉ keys) (l : List α) :
    l.countP (fun a => f a ∈ key :: keys) =
      l.countP (fun a => f a = key) + l.countP (fun a => f a ∈ keys) := by
  induction l with
  | nil => rfl
  | cons a l ih =>
    rw [List.countP_cons, List.countP_cons, List.countP_cons, ih]
    by_cases ha : f a = key
    · have hrest : f a ∉ keys := ha ▸ hkey
      simp [ha, hkey, Nat.add_right_comm]
    · simp [ha, Nat.add_assoc]

/-- The counts of different keys sum to the count of all of them. -/
theorem sum_countP_eq {α κ : Type} [DecidableEq κ] (f : α → κ) {keys : List κ}
    (hkeys : keys.Nodup) (l : List α) :
    (keys.map fun key => l.countP fun a => f a = key).sum = l.countP fun a => f a ∈ keys := by
  induction keys with
  | nil => simp
  | cons key keys ih =>
    rw [List.nodup_cons] at hkeys
    rw [List.map_cons, List.sum_cons, ih hkeys.2, countP_mem_cons f hkeys.1]

/-! ## Samples by metric -/

theorem filter_metric_eq_self {xs : List Sample} {metric : String}
    (h : ∀ x ∈ xs, x.metric = metric) : xs.filter (fun x => x.metric = metric) = xs := by
  rw [List.filter_eq_self]
  intro x hx
  exact decide_eq_true (h x hx)

theorem filter_metric_eq_nil {xs : List Sample} {metric : String}
    (h : ∀ x ∈ xs, x.metric ≠ metric) : xs.filter (fun x => x.metric = metric) = [] := by
  rw [List.filter_eq_nil_iff]
  intro x hx
  simpa using h x hx

/-! ## Processes by state -/

namespace Instances

/-- The number of listed processes in a state. -/
def inState (c : StateColor) (listed : List OsProcess) : Nat :=
  listed.countP fun p => p.dispstatus = c.name

/-- Samples that count the processes that are listed for a member. -/
structure CountsProcesses (m : Member) (listed : List OsProcess) (xs : List Sample) : Prop where
  /-- Every process has one sample, in the order of the list. -/
  each : xs.filter (fun x => x.metric = "processes") =
    (watched listed).map (processSample m)
  /-- There are four more samples. -/
  four : (xs.filter fun x => x.metric ≠ "processes").length = 4
  /-- Each of the four colours has one of them, with the number of processes in that state, which
  may be zero, under the labels of the member. -/
  counted : ∀ c, xs.filter (fun x => x.metric = countMetric c) =
    [.gauge (countMetric c) (Float.ofNat (inState c listed)) m.sharedLabels]
  /-- As many samples of processes have the number of the colour for their value. -/
  valued : ∀ c, (xs.countP fun x => x.metric = "processes" ∧ x.value = Float.ofNat c.code) =
    inState c listed
  /-- The counts sum to the number of processes whose state is a colour. -/
  sum : (StateColor.all.map fun c => inState c listed).sum =
    listed.countP fun p => p.dispstatus ∈ StateColor.all.map StateColor.name

/-- The value of a colour tells it apart. -/
theorem value_injective {a b : StateColor} (h : a.value = b.value) : a = b := by
  revert h
  cases a <;> cases b <;> decide

/-- The value of a state is the one of a colour only if it is that colour. -/
theorem stateValue_eq_iff {state : String} {c : StateColor} :
    Remote.stateValue state = c.value ↔ state = c.name := by
  rw [← StateColor.read?_eq_some_iff, Remote.stateValue]
  cases StateColor.read? state with
  | none =>
    have hzero : (0 : Float) ≠ c.value := by cases c <;> decide
    simp [hzero]
  | some color =>
    rw [Option.some_inj]
    exact ⟨value_injective, congrArg StateColor.value⟩

/-- Processes are counted by what is listed. -/
theorem colorCount_watched (c : StateColor) (listed : List OsProcess) :
    colorCount c (watched listed) = inState c listed := by
  rw [colorCount, watched, List.countP_map]
  refine List.countP_congr fun p _ => ?_
  simp only [Function.comp_apply, WatchedProcess.ofListed, beq_iff_eq, decide_eq_true_eq,
    StateColor.read?_eq_some_iff]

theorem metric_processSample (m : Member) (p : WatchedProcess) :
    (processSample m p).metric = "processes" :=
  rfl

/-- The counts have metrics of their own. -/
theorem countMetric_ne (c : StateColor) : countMetric c ≠ "processes" := by
  cases c <;> decide

theorem metric_of_mem_colorSamples {m : Member} {ps : List WatchedProcess} {x : Sample}
    (hx : x ∈ colorSamples m ps) : x.metric ≠ "processes" := by
  obtain ⟨c, -, rfl⟩ := List.mem_map.1 hx
  exact countMetric_ne c

theorem filter_colorSamples (m : Member) (ps : List WatchedProcess) (c : StateColor) :
    (colorSamples m ps).filter (fun x => x.metric = countMetric c) =
      [.gauge (countMetric c) (Float.ofNat (colorCount c ps)) m.sharedLabels] := by
  have hcolor : StateColor.all.filter (fun color => countMetric color = countMetric c) = [c] := by
    cases c <;> decide
  have hmetric : (fun color => decide (countMetric color = countMetric c)) =
      (fun x : Sample => decide (x.metric = countMetric c)) ∘ fun color =>
        .gauge (countMetric color) (Float.ofNat (colorCount color ps)) m.sharedLabels := rfl
  rw [colorSamples, List.filter_map, ← hmetric, hcolor]
  rfl

/-- The samples of the processes are told from the counts by their metric. -/
theorem filter_each (m : Member) (ps : List WatchedProcess) :
    (processSamples m ps).filter (fun x => x.metric = "processes") = ps.map (processSample m) := by
  have hcounts : (colorSamples m ps).filter (fun x => x.metric = "processes") = [] :=
    filter_metric_eq_nil fun x hx => metric_of_mem_colorSamples hx
  rw [processSamples, List.filter_append, hcounts, List.append_nil]
  apply filter_metric_eq_self
  intro x hx
  obtain ⟨p, -, rfl⟩ := List.mem_map.1 hx
  rfl

/-- Whatever no process shows is among the counts. -/
theorem filter_counts {m : Member} {q : Sample → Bool} (hq : ∀ p, q (processSample m p) = false)
    (ps : List WatchedProcess) :
    (processSamples m ps).filter q = (colorSamples m ps).filter q := by
  have hnone : (ps.map (processSample m)).filter q = [] := by
    rw [List.filter_eq_nil_iff]
    intro x hx
    obtain ⟨p, -, rfl⟩ := List.mem_map.1 hx
    simp [hq]
  rw [processSamples, List.filter_append, hnone, List.nil_append]

/-- The samples of a process list count it. -/
theorem countsProcesses (m : Member) (listed : List OsProcess) :
    CountsProcesses m listed (processSamples m (watched listed)) where
  each := filter_each m (watched listed)
  four := by
    rw [filter_counts fun p => by simp [metric_processSample], List.filter_eq_self.2,
      colorSamples_length]
    intro x hx
    simpa using metric_of_mem_colorSamples hx
  counted c := by
    rw [filter_counts fun p => by simp [metric_processSample, (countMetric_ne c).symm],
      filter_colorSamples, colorCount_watched]
  valued c := by
    have hvalued : ∀ p : OsProcess,
        (processSample m (.ofListed p)).value = Float.ofNat c.code ↔ p.dispstatus = c.name :=
      fun p => stateValue_eq_iff
    simp only [Bool.decide_and, Bool.and_comm (decide (_ = "processes")), ← List.countP_filter]
    rw [filter_each, watched, List.map_map, List.countP_map]
    refine List.countP_congr fun p _ => ?_
    simp only [Function.comp_apply, decide_eq_true_eq, hvalued]
  sum := by
    have hnames : (StateColor.all.map StateColor.name).Nodup := by decide
    rw [← sum_countP_eq OsProcess.dispstatus hnames, List.map_map]
    rfl

end Instances

/-! ## Work processes by kind and status -/

namespace WorkProcesses

/-- Counts that tell how often each pair occurs in a table. -/
structure Tallies (table : List WorkProcess) (counts : List ((String × String) × Nat)) : Prop where
  /-- No pair is counted twice. -/
  distinct : (counts.map Prod.fst).Nodup
  /-- The pairs of the table are counted, and no others. -/
  entry : ∀ pair n, (pair, n) ∈ counts ↔
    0 < n ∧ n = table.countP fun w => (w.type, w.status) = pair
  /-- No work process is lost. -/
  sum : total counts = table.length

/-- The sample with the status of a work process. -/
def statusSample (m : Member) (w : WorkProcess) : Sample :=
  .gauge "dispatcher_work_processes_status" (statusValue w.status)
    (withCommon [w.type, w.status, w.pid, "WP-" ++ w.number, w.reason, w.client, w.user]
      m.sharedLabels)

/-- Samples that count the work processes of a member. -/
structure CountsWork (m : Member) (table : List WorkProcess) (xs : List Sample) : Prop where
  /-- Every work process has one sample with its status, in the order of the table. -/
  each : xs.filter (fun x => x.metric = "dispatcher_work_processes_status") =
    table.map (statusSample m)
  /-- Every pair of the table has one sample with its count. -/
  counted : ∃ counts, Tallies table counts ∧
    xs.filter (fun x => x.metric = "dispatcher_work_processes") = counts.map (countSample m)

/-! ### Ascending counts -/

theorem pairBefore_iff {a b : String × String} : pairBefore a b = true ↔ toLex a < toLex b := by
  rw [Prod.Lex.lt_iff, pairBefore]
  simp

/-- The pairs are in ascending order. -/
def Ascending (counts : List ((String × String) × Nat)) : Prop :=
  counts.Pairwise fun a b => toLex a.1 < toLex b.1

theorem Ascending.nodup {counts : List ((String × String) × Nat)} (h : Ascending counts) :
    (counts.map Prod.fst).Nodup := by
  rw [List.Nodup, List.pairwise_map]
  exact h.imp fun hlt heq => hlt.ne (congrArg toLex heq)

theorem mem_tally {pair : String × String} {counts : List ((String × String) × Nat)}
    {c : (String × String) × Nat} (hc : c ∈ tally pair counts) :
    c.1 = pair ∨ c.1 ∈ counts.map Prod.fst := by
  induction counts with
  | nil =>
    obtain rfl := List.mem_singleton.1 hc
    exact .inl rfl
  | cons entry rest ih =>
    obtain ⟨p, n⟩ := entry
    unfold tally at hc
    split at hc
    next heq =>
      rcases List.mem_cons.1 hc with rfl | hrest
      · exact .inl heq.symm
      · exact .inr (List.mem_cons_of_mem p (List.mem_map_of_mem hrest))
    next =>
      split at hc
      · rcases List.mem_cons.1 hc with rfl | hrest
        · exact .inl rfl
        · exact .inr (List.mem_map_of_mem hrest)
      · rcases List.mem_cons.1 hc with rfl | hrest
        · exact .inr List.mem_cons_self
        · exact (ih hrest).imp_right (List.mem_cons_of_mem p)

/-- Counting keeps the order. -/
theorem Ascending.tally {counts : List ((String × String) × Nat)} (h : Ascending counts)
    (pair : String × String) : Ascending (tally pair counts) := by
  induction counts with
  | nil => exact List.pairwise_singleton _ _
  | cons entry rest ih =>
    obtain ⟨p, n⟩ := entry
    rw [Ascending, List.pairwise_cons] at h
    unfold WorkProcesses.tally
    split
    next => exact List.pairwise_cons.2 h
    next hne =>
      split
      next hbefore =>
        rw [pairBefore_iff] at hbefore
        refine List.pairwise_cons.2 ⟨fun c hc => ?_, List.pairwise_cons.2 h⟩
        rcases List.mem_cons.1 hc with rfl | hrest
        · exact hbefore
        · exact hbefore.trans (h.1 c hrest)
      next hafter =>
        -- a pair that differs and does not come before comes after
        rw [pairBefore_iff, not_lt] at hafter
        have hlt : toLex p < toLex pair := lt_of_le_of_ne hafter fun heq =>
          hne (toLex.injective heq).symm
        refine List.pairwise_cons.2 ⟨fun c hc => ?_, ih h.2⟩
        rcases mem_tally hc with heq | hold
        · rw [heq]
          exact hlt
        · obtain ⟨old, hold, heq⟩ := List.mem_map.1 hold
          rw [← heq]
          exact h.1 old hold

/-! ### Amounts -/

/-- The sum of the counts of a pair. -/
def amount (pair : String × String) (counts : List ((String × String) × Nat)) : Nat :=
  total (counts.filter fun c => c.1 = pair)

/-- Counting adds one to the amount of the pair that is counted. -/
theorem amount_tally (pair other : String × String) (counts : List ((String × String) × Nat)) :
    amount other (tally pair counts) = amount other counts + if pair = other then 1 else 0 := by
  induction counts with
  | nil =>
    unfold tally amount
    by_cases h : pair = other <;> simp [h, total]
  | cons entry rest ih =>
    obtain ⟨p, n⟩ := entry
    unfold amount at ih
    unfold tally
    split
    next heq =>
      subst heq
      by_cases h : pair = other <;> simp [amount, h, total, Nat.add_right_comm]
    next =>
      split
      · by_cases h : pair = other <;> simp [amount, h, total, Nat.add_comm]
      · by_cases h : p = other <;> simp [amount, h, total, ih, Nat.add_assoc]

/-- Among distinct pairs, the amount of a pair is its count. -/
theorem amount_of_mem {counts : List ((String × String) × Nat)}
    (hdistinct : (counts.map Prod.fst).Nodup) {pair : String × String} {n : Nat}
    (h : (pair, n) ∈ counts) : amount pair counts = n := by
  induction counts with
  | nil => cases h
  | cons entry rest ih =>
    rw [List.map_cons, List.nodup_cons] at hdistinct
    rcases List.mem_cons.1 h with rfl | hrest
    · have hnone : rest.filter (fun c => c.1 = pair) = [] := by
        rw [List.filter_eq_nil_iff]
        intro c hc heq
        exact hdistinct.1 (List.mem_map.2 ⟨c, hc, of_decide_eq_true heq⟩)
      simp [amount, hnone, total]
    · have hne : entry.1 ≠ pair := fun heq => hdistinct.1 (heq ▸ List.mem_map_of_mem hrest)
      simp [amount, hne, ← ih hdistinct.2 hrest]

/-- A pair with an amount is counted. -/
theorem exists_of_amount_pos {pair : String × String} {counts : List ((String × String) × Nat)}
    (h : 0 < amount pair counts) : ∃ n, (pair, n) ∈ counts := by
  have hsome : counts.filter (fun c => c.1 = pair) ≠ [] := by
    intro hnone
    rw [amount, hnone] at h
    exact Nat.lt_irrefl 0 h
  obtain ⟨c, hc⟩ := List.exists_mem_of_ne_nil _ hsome
  obtain ⟨hmem, rfl⟩ := List.mem_filter.1 hc |>.imp_right of_decide_eq_true
  exact ⟨c.2, hmem⟩

/-! ### The counts of a table -/

/-- One more work process is counted. -/
theorem counts_concat (table : List WorkProcess) (w : WorkProcess) :
    counts (table ++ [w]) = tally (w.type, w.status) (counts table) :=
  List.foldl_concat ..

theorem ascending_counts (table : List WorkProcess) : Ascending (counts table) := by
  induction table using List.reverseRecOn with
  | nil => exact List.Pairwise.nil
  | append_singleton table w ih =>
    rw [counts_concat]
    exact ih.tally _

theorem amount_counts (pair : String × String) (table : List WorkProcess) :
    amount pair (counts table) = table.countP fun w => (w.type, w.status) = pair := by
  induction table using List.reverseRecOn with
  | nil => rfl
  | append_singleton table w ih =>
    rw [counts_concat, amount_tally, ih, List.countP_append, List.countP_singleton]
    simp only [decide_eq_true_eq]

theorem total_counts (table : List WorkProcess) : total (counts table) = table.length := by
  induction table using List.reverseRecOn with
  | nil => rfl
  | append_singleton table w ih =>
    rw [counts_concat, total_tally, ih, List.length_append, List.length_singleton]

/-- Only pairs of the table are counted. -/
theorem mem_of_mem_counts {table : List WorkProcess} {c : (String × String) × Nat}
    (hc : c ∈ counts table) : ∃ w ∈ table, (w.type, w.status) = c.1 := by
  induction table using List.reverseRecOn generalizing c with
  | nil => cases hc
  | append_singleton table w ih =>
    rw [counts_concat] at hc
    rcases mem_tally hc with heq | hold
    · exact ⟨w, List.mem_append_right table List.mem_cons_self, heq.symm⟩
    · obtain ⟨old, hold, heq⟩ := List.mem_map.1 hold
      obtain ⟨v, hv, hpair⟩ := ih hold
      exact ⟨v, List.mem_append_left _ hv, hpair.trans heq⟩

/-- The counts of a table tell how often each pair occurs in it. -/
theorem tallies_counts (table : List WorkProcess) : Tallies table (counts table) where
  distinct := (ascending_counts table).nodup
  entry pair n := by
    have hdistinct := (ascending_counts table).nodup
    constructor
    · intro h
      have hn := amount_of_mem hdistinct h
      rw [amount_counts] at hn
      obtain ⟨w, hw, hpair⟩ := mem_of_mem_counts h
      have hpos : 0 < table.countP fun w => (w.type, w.status) = pair :=
        List.countP_pos_iff.2 ⟨w, hw, decide_eq_true hpair⟩
      exact ⟨hn ▸ hpos, hn.symm⟩
    · rintro ⟨hpos, hn⟩
      rw [← amount_counts] at hn
      obtain ⟨k, hk⟩ := exists_of_amount_pos (hn ▸ hpos)
      rwa [hn, amount_of_mem hdistinct hk]
  sum := total_counts table

/-! ### The samples of a table -/

theorem filter_processSamples (m : Member) (w : WorkProcess) :
    (processSamples m w).filter (fun x => x.metric = "dispatcher_work_processes_status") =
      [statusSample m w] := by
  unfold processSamples
  cases columnValue? w.cpu <;> cases columnValue? w.time <;> rfl

theorem metric_of_mem_processSamples {m : Member} {w : WorkProcess} {x : Sample}
    (hx : x ∈ processSamples m w) : x.metric ≠ "dispatcher_work_processes" := by
  simp only [processSamples, List.mem_cons, List.mem_append, List.mem_map] at hx
  rcases hx with (rfl | ⟨_, -, rfl⟩) | ⟨_, -, rfl⟩ <;> exact of_decide_eq_true rfl

/-- The samples of a table count it. -/
theorem countsWork (m : Member) (table : List WorkProcess) :
    CountsWork m table (samples m table) where
  each := by
    have hcounts : ((counts table).map (countSample m)).filter
        (fun x => x.metric = "dispatcher_work_processes_status") = [] := by
      apply filter_metric_eq_nil
      intro x hx
      obtain ⟨c, -, rfl⟩ := List.mem_map.1 hx
      exact of_decide_eq_true rfl
    rw [samples, List.filter_append, hcounts, List.append_nil, List.filter_flatMap,
      List.map_eq_flatMap]
    simp only [filter_processSamples]
  counted := by
    refine ⟨counts table, tallies_counts table, ?_⟩
    have hrows : (table.flatMap (processSamples m)).filter
        (fun x => x.metric = "dispatcher_work_processes") = [] := by
      apply filter_metric_eq_nil
      intro x hx
      obtain ⟨w, -, hw⟩ := List.mem_flatMap.1 hx
      exact metric_of_mem_processSamples hw
    rw [samples, List.filter_append, hrows, List.nil_append]
    apply filter_metric_eq_self
    intro x hx
    obtain ⟨c, -, rfl⟩ := List.mem_map.1 hx
    rfl

end WorkProcesses

end SapMonitor.Scrape
