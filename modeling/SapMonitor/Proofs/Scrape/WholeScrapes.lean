import SapMonitor.Program
import SapMonitor.Proofs.Scrape.Headings
import SapMonitor.Url.Latin

/-!
# Whole scrapes

What a scrape shows depends on what the collectors end with, and on nothing else: not on the
order in which their tasks end, nor on who fails beside them.  Every name is shown once, in
ascending order and with samples, so that the page of metrics can always be written.

Main results:

- `ended_runAll`: collectors that run one after the other end like tasks of their own.
- `inOrder_of_ended`: the families of a scrape, whatever its collectors end with.
- `Site.scrapes_in_order`: what a site scrapes and shows.
-/

namespace SapMonitor

open Series (Family)
open Scrape (CanEnd Collector Ended Headed Result families gather join ownHeading)
open Remote (Outcome)
open Time (Moment Span)

variable {σ : Type}

namespace Scrape

/-! ## Collectors one after the other -/

/-- Each collector comes to its end in the surroundings that those before it leave. -/
theorem runAll_ends (d : Deadline) (cs : List (Collector σ)) (memory : Memory) (w : World σ) :
    List.Forall₂ (fun c r => ∃ memory w, r.2 = (c.collect d memory w).1.1) cs
      (runAll d cs memory w).1.1 := by
  induction cs generalizing memory w with
  | nil => exact List.Forall₂.nil
  | cons c cs ih => exact List.Forall₂.cons ⟨memory, w, rfl⟩ (ih _ _)

theorem ended_runAll (s : Settings) (system : MonitoredSystem σ)
    (outlet : Option (Alerts.Outlet σ)) (readingsAt : Nat → Nat → Scrape.Alerts.Readings)
    (d : Deadline)
    (memory : Memory) (w : World σ) :
    Ended s (((runAll d (collectors s system outlet readingsAt) memory w).1.1).map
      fun r => some r.2) := by
  rw [Ended, ← map_name_collectors s system outlet readingsAt, List.forall₂_map_left_iff,
    List.forall₂_map_right_iff]
  refine List.forall₂_iff_zip.2 ⟨(runAll_ends d _ memory w).length_eq, fun {c r} hmem => ?_⟩
  -- what the collectors before it did is in the memory and the world that it begins with
  obtain ⟨memory', w', hr⟩ := List.forall₂_zip (runAll_ends d _ memory w) hmem
  exact .inr ⟨σ, system, outlet, readingsAt, c, (List.of_mem_zip hmem).1, rfl, d, memory', w',
    congrArg some hr⟩

theorem gather_run (timeout : Span) (own : Work σ (List Family)) (cs : List (Collector σ))
    (memory : Memory) (w : World σ) :
    (gather timeout own cs memory w).1.1 =
      join (own w).1 (((runAll (.after w.clock timeout) cs memory (own w).2).1.1).map
        fun r => some r.2) :=
  rfl

/-! ## Scrapes in order -/

/-- What a scrape makes of results. -/
structure InOrder (own : List Family) (results : List Result) : Prop where
  /-- The names are in strictly ascending order: none occurs twice. -/
  ascending : (join own results).Pairwise fun f g => f.name < g.name
  /-- The families are those that are handed out and have samples. -/
  complete : ∀ f, f ∈ join own results ↔
    (f ∈ own ∨ ∃ r ∈ results, f ∈ families r) ∧ f.points ≠ []
  named : ∀ f ∈ join own results, f.name ≠ ""
  /-- The order in which the tasks end does not matter. -/
  anyOrder : ∀ ended, ended.Perm results → join own ended = join own results
  /-- A collector that fails, or whose task is lost, takes its own families away, and nothing
  else. -/
  failure : ∀ before r after lost ended, results = before ++ r :: after →
    (lost = none ∨ ∃ e, lost = some (.error e)) → ended.Perm (before ++ lost :: after) →
    join own ended = (join own results).filter fun f => f.name ∉ (families r).map Family.name

theorem inOrder_of_ended {s : Settings} {own : List Family} {results : List Result}
    (hown : Headed ownHeading own) (h : Ended s results) : InOrder own results where
  ascending := ascending_merge (distinct_of_ended hown h)
  complete f := by
    rw [join, mem_merge]
    simp only [List.mem_cons, exists_eq_or_imp]
    rfl
  named f hf := by
    obtain ⟨⟨r, hr, hfr⟩, -⟩ := mem_merge.1 hf
    exact name_ne_of_ended hown h (List.mem_flatMap.2 ⟨r, hr, hfr⟩)
  anyOrder ended hperm := merge_perm (distinct_of_ended hown h) (hperm.cons _)
  failure before r after lost ended hresults hlost hperm := by
    subst hresults
    have hnone : families lost = [] := by
      rcases hlost with rfl | ⟨e, rfl⟩ <;> rfl
    have hdistinct : Distinct (some (.ok own) :: before ++ r :: after) := distinct_of_ended hown h
    exact (merge_perm (hdistinct.failure hnone) (hperm.cons _)).trans
      (merge_failure (some (.ok own) :: before) after hdistinct hnone)

end Scrape

/-! ## Sites -/

/-- A site that shows what the collectors of settings find, besides what the process says of
itself, and that can write all families with names and samples. -/
structure Site.Serves (site : Site σ) (s : Settings) : Prop where
  collectors : ∃ system outlet readingsAt,
    site.collectors = Scrape.collectors s system outlet readingsAt
  own : ∀ w, Headed ownHeading (site.own w).1
  writes : ∀ fs reason, site.refusal? fs = some reason → ∃ f ∈ fs, f.points = [] ∨ f.name = ""

/-- What a site scrapes is in order, and it can always be shown. -/
structure Site.ScrapesInOrder (site : Site σ) (s : Settings) : Prop where
  /-- This is what becomes of the results of the collectors, whatever they are. -/
  ended : ∀ own results, Headed ownHeading own → Ended s results → Scrape.InOrder own results
  shown : ∀ own results, Headed ownHeading own → Ended s results →
    ∀ w, site.present (join own results) w = (.metrics (join own results), w)
  /-- A scrape has such results. -/
  gathered : ∀ memory w, ∃ results, Ended s results ∧
    (gather site.timeout site.own site.collectors memory w).1.1 = join (site.own w).1 results
  /-- The metrics are always answered with families. -/
  answered : ∀ address memory w, pathOf address = "/metrics" → ∃ results, Ended s results ∧
    (site.respond "GET" address memory w).1.1 = .metrics (join (site.own w).1 results)
  /-- No request fails on the serving side. -/
  served : ∀ method address memory w,
    (site.respond method address memory w).1.1.status ≠ .internalServerError

/-- Only a page that cannot be written fails on the serving side. -/
theorem Content.status_ne {c : Content} (h : ∀ reason, c ≠ .failed reason) :
    c.status ≠ .internalServerError := by
  have hok : Http.Status.ok ≠ .internalServerError := by decide
  cases c with
  | failed reason => exact absurd rfl (h reason)
  | landing => exact hok
  | metrics families => exact hok
  | caches reports => exact hok
  | nothing => decide

namespace Site

variable {site : Site σ} {s : Settings} {memory : Memory} {w : World σ} {fs : List Family}

theorem Serves.gathered (h : site.Serves s) (memory : Memory) (w : World σ) :
    ∃ results, Ended s results ∧
      (gather site.timeout site.own site.collectors memory w).1.1 =
        join (site.own w).1 results := by
  obtain ⟨system, outlet, readingsAt, hcollectors⟩ := h.collectors
  rw [Scrape.gather_run, hcollectors]
  exact ⟨_, Scrape.ended_runAll s system outlet readingsAt _ _ _, rfl⟩

/-- The text of a scrape in order can be written. -/
theorem Serves.shown (h : site.Serves s) {own : List Family} {results : List Result}
    (horder : Scrape.InOrder own results) (w : World σ) :
    site.present (join own results) w = (.metrics (join own results), w) := by
  cases hrefusal : site.refusal? (join own results) with
  | none =>
    rw [present, hrefusal]
    rfl
  | some reason =>
    obtain ⟨f, hf, hpoints | hname⟩ := h.writes _ _ hrefusal
    · exact absurd hpoints ((horder.complete f).1 hf).2
    · exact absurd hname (horder.named f hf)

theorem respond_metrics {address : String} (haddress : pathOf address = "/metrics")
    (hgathered : (gather site.timeout site.own site.collectors memory w).1.1 = fs)
    (hshown : ∀ w, site.present fs w = (.metrics fs, w)) :
    (site.respond "GET" address memory w).1.1 = .metrics fs := by
  rw [respond, if_pos rfl, haddress]
  simp only [Watch.bind_run, Watch.lift_run]
  rw [hgathered, hshown]

/-- Families that can be shown leave nothing to fail. -/
theorem ne_failed_respond (method address : String)
    (hgathered : (gather site.timeout site.own site.collectors memory w).1.1 = fs)
    (hshown : ∀ w, site.present fs w = (.metrics fs, w)) (reason : String) :
    (site.respond method address memory w).1.1 ≠ .failed reason := by
  by_cases hmethod : method = "GET"
  · subst hmethod
    by_cases hmetrics : pathOf address = "/metrics"
    · rw [respond_metrics hmetrics hgathered hshown]
      exact Content.noConfusion
    · rw [respond, if_pos rfl]
      by_cases hlanding : pathOf address = "/"
      · rw [hlanding]
        exact Content.noConfusion
      · by_cases hcaches : pathOf address = "/cache/stats"
        · rw [hcaches]
          exact Content.noConfusion
        · simp only
          exact Content.noConfusion
  · rw [respond, if_neg hmethod]
    exact Content.noConfusion

/-- Whatever happens, a site scrapes in order and shows what it has scraped. -/
theorem scrapes_in_order (h : site.Serves s) : site.ScrapesInOrder s where
  ended own results hown hended := Scrape.inOrder_of_ended hown hended
  shown own results hown hended := h.shown (Scrape.inOrder_of_ended hown hended)
  gathered := h.gathered
  answered address memory w haddress := by
    obtain ⟨results, hended, hgathered⟩ := h.gathered memory w
    have horder := Scrape.inOrder_of_ended (h.own w) hended
    exact ⟨results, hended, respond_metrics haddress hgathered (h.shown horder)⟩
  served method address memory w := by
    obtain ⟨results, hended, hgathered⟩ := h.gathered memory w
    have horder := Scrape.inOrder_of_ended (h.own w) hended
    exact Content.status_ne (ne_failed_respond method address hgathered (h.shown horder))

end Site

/-! ## The site of a program -/

/-- The site that a program assembles serves its settings. -/
theorem Program.serves_assemble (s : Settings) (service : Remote.ControlService σ)
    (network : Http.Network σ) (readingsAt : Nat → Nat → Scrape.Alerts.Readings) :
    (assemble s service network readingsAt).1.site.Serves s where
  collectors := ⟨_, _, _, rfl⟩
  own _ := Headed.nil _
  writes fs reason hreason := by
    have hnone : ¬ ∀ f ∈ fs, f.points ≠ [] ∧ f.name ≠ "" := fun hall => by
      rw [← Series.refusal?_eq_none_iff] at hall
      exact Option.some_ne_none reason (hreason.symm.trans hall)
    push Not at hnone
    obtain ⟨f, hf, hblank⟩ := hnone
    exact ⟨f, hf, or_iff_not_imp_left.2 hblank⟩

/-- A program with the usual settings that also shows its own use of the processor. -/
def usualSite : Site Unit :=
  let network := Http.Network.isolated Unit .latin
  let service := (Remote.Access.ofSettings {}).service network
  { (Program.assemble {} service network fun n _ => ⟨⟨n, 0⟩, ⟨n, 0⟩⟩).1.site with
    own := pure [⟨"process_cpu_seconds_total", "Total user and system CPU time spent in seconds.",
      .counter, [⟨[], 1⟩]⟩] }

theorem usualSite_in_order : usualSite.Serves {} ∧ usualSite.ScrapesInOrder {} := by
  have hserves : usualSite.Serves {} :=
    { Program.serves_assemble {} _ (Http.Network.isolated Unit .latin)
        (fun n _ => ⟨⟨n, 0⟩, ⟨n, 0⟩⟩) with
      own := fun _ => ⟨List.forall_mem_singleton.2 (by decide), List.nodup_singleton _⟩ }
  exact ⟨hserves, Site.scrapes_in_order hserves⟩

end SapMonitor
