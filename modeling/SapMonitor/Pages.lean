import SapMonitor.Scrape.Gather
import SapMonitor.Text.Json

/-!
# Pages

The monitor answers three addresses: a landing page, the metrics of a fresh
scrape, and the use of its caches.  Everything else is not found.
-/

namespace SapMonitor

open Series (Family)
open Text (Json)
open Time (Span)

/-! ## Contents -/

/-- What a page shows. -/
inductive Content where
  | landing
  | metrics (families : List Family)
  | caches (reports : List CacheSummary)
  /-- The text of the page cannot be written. -/
  | failed (reason : String)
  | nothing

/-- The text of the landing page. -/
def landingText : String :=
  "<html>\n<head><title>SAP System Exporter</title></head>\n<body>\n" ++
  "<h1>SAP System Exporter</h1>\n<p><a href=\"/metrics\">Metrics</a></p>\n" ++
  "<p><a href=\"/cache/stats\">Cache statistics</a></p>\n</body>\n</html>\n"

/-- The counters of a cache as JSON. -/
def countersJson (c : Cache.Counters) : Json :=
  .obj [("hits", .nat c.hits), ("misses", .nat c.misses), ("sets", .nat c.sets),
    ("updates", .nat c.updates), ("deletes", .nat c.deletes), ("expired", .nat c.expired)]

/-- The report on a cache as JSON. -/
def CacheSummary.json (r : CacheSummary) : Json :=
  .obj [("cache", .str r.cache), ("entries", .nat r.entries), ("stats", countersJson r.counters)]

/-- The lines of the page of metrics. -/
def metricsLines (families : List Family) : List String :=
  Series.textLines families

namespace Content

/-- The status of a page. -/
def status : Content → Http.Status
  | failed _ => .internalServerError
  | nothing => ⟨404⟩
  | _ => .ok

/-- The type of a page. -/
def type? : Content → Option String
  | landing => some "text/html; charset=utf-8"
  | metrics _ => some "text/plain; version=0.0.4"
  | caches _ => some "application/json"
  | failed _ => none
  | nothing => none

/-- The text of a page. -/
def text : Content → String
  | landing => landingText
  | metrics families => String.join ((metricsLines families).map (· ++ "\n"))
  | caches reports => (Json.arr (reports.map CacheSummary.json)).render
  | failed reason => reason
  | nothing => ""

end Content

/-! ## Answering -/

/-- A monitor as it is asked for pages. -/
structure Site (σ : Type) where
  collectors : List (Scrape.Collector σ)
  timeout : Span
  /-- Reads the families that the process keeps of itself. -/
  own : Work σ (List Family) := pure []
  /-- Why families have no text, if so. -/
  refusal? : List Family → Option String := Series.refusal?

/-- The path of an address without its query. -/
def pathOf (address : String) : String :=
  String.ofList (address.toList.takeWhile (· ≠ '?'))

namespace Site

variable {σ : Type}

/-- Shows families, or complains that they have no text. -/
def present (site : Site σ) (families : List Family) : Work σ Content :=
  match site.refusal? families with
  | none => return .metrics families
  | some reason => do
    Work.complain ("Failed to encode Prometheus metrics: " ++ reason)
    return .failed reason

/-- Answers a request. -/
def respond (site : Site σ) (method address : String) : Watch σ Content := do
  if method = "GET" then
    match pathOf address with
    | "/" => return .landing
    | "/metrics" =>
      let families ← Scrape.gather site.timeout site.own site.collectors
      (site.present families : Work σ Content)
    | "/cache/stats" => return .caches (← get).reports
    | _ => return .nothing
  else return .nothing

end Site

end SapMonitor
