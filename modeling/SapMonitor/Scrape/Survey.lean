import SapMonitor.Monitor
import SapMonitor.Series.Buffer

/-!
# Surveys

A collector turns what the monitor reads into metric families.  Most collectors
survey the directory: they visit its members in order, record the samples that
each visit yields, and hand out the families at the end.  A visit that fails
yields no samples and does not disturb the others.
-/

namespace SapMonitor.Scrape

open Series (Buffer Catalog Family Sample)
open Landscape (Member)
open Remote (Outcome RemoteError)

/-- A source of metric families. -/
structure Collector (σ : Type) where
  name : String
  collect : Deadline → Watch σ (Outcome (List Family))

/-- Label values with those that all metrics of an instance share behind
them. -/
def withCommon (own common : List String) : List String :=
  own ++ common

variable {σ : Type}

/-- The warnings about rejected samples. -/
def rejectionNotes (subsystem : String) (rs : List Series.Rejection) : List Note :=
  rs.map fun r => ⟨.warning, r.message subsystem⟩

/-- Records samples and warns of those that are rejected. -/
def record (b : Buffer) (samples : List Sample) : Work σ Buffer := do
  let (filled, rejections) := b.recordAll samples
  Work.noteAll (rejectionNotes b.catalog.subsystem rejections)
  return filled

/-- Visits members in order and records what the visits yield. -/
def visitAll (visit : Member → Watch σ (List Sample)) (b : Buffer) : List Member → Watch σ Buffer
  | [] => return b
  | m :: rest => do
    let samples ← visit m
    let b ← (record b samples : Work σ Buffer)
    visitAll visit b rest

/-- Surveys the members of the directory that matter. -/
def survey (s : MonitoredSystem σ) (catalog : Catalog) (purpose : String) (matters : Member → Bool)
    (visit : Deadline → Member → Watch σ (List Sample)) (d : Deadline) :
    Watch σ (Outcome (List Family)) := do
  match ← s.directory d with
  | .error e => return .error (.within purpose e)
  | .ok directory =>
    let b ← visitAll (visit d) (.empty catalog) (directory.members.filter matters)
    return .ok b.families

/-- Warns and yields nothing. -/
def skip (text : String) : Watch σ (List Sample) := do
  (Work.warn text : Work σ Unit)
  return []

end SapMonitor.Scrape
