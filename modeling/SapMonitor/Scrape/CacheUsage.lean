import SapMonitor.Scrape.Survey

/-!
# Use of the caches

How often the caches were hit and missed, and how much they hold.
-/

namespace SapMonitor.Scrape.CacheUsage

open Series (Catalog Sample)

/-- The metrics of the caches. -/
def catalog : Catalog :=
  (((((((Catalog.empty "cache").insert "hits_total" "Cache reads answered from a live entry"
    ["cache"]).insert "misses_total" "Cache reads that ran a population"
    ["cache"]).insert "sets_total" "Populations that inserted a new key"
    ["cache"]).insert "updates_total" "Populations that replaced an expired entry"
    ["cache"]).insert "deletes_total" "Entries removed explicitly or by the cleanup sweep"
    ["cache"]).insert "expired_total" "Expired entries found on read"
    ["cache"]).insert "entries" "Entries currently held, expired ones included" ["cache"]

/-- The samples of a cache. -/
def reportSamples (r : CacheSummary) : List Sample :=
  let c := r.counters
  [.counter "hits_total" (Float.ofNat c.hits) [r.cache],
    .counter "misses_total" (Float.ofNat c.misses) [r.cache],
    .counter "sets_total" (Float.ofNat c.sets) [r.cache],
    .counter "updates_total" (Float.ofNat c.updates) [r.cache],
    .counter "deletes_total" (Float.ofNat c.deletes) [r.cache],
    .counter "expired_total" (Float.ofNat c.expired) [r.cache],
    .gauge "entries" (Float.ofNat r.entries) [r.cache]]

/-- The collector of the caches. -/
def collector (σ : Type) : Collector σ :=
  { name := catalog.subsystem
    collect := fun _ => do
      let samples := (← get).reports.flatMap reportSamples
      let b ← (record (.empty catalog) samples : Work σ Series.Buffer)
      return .ok b.families }

end SapMonitor.Scrape.CacheUsage
