import SapMonitor.Time.Span

/-!
# Caches whose entries end

A cache holds the latest population of each key.  The population says how long
it lives; an entry is live until the moment at which it ends, and an entry
without an end lives forever.  Dead entries stay until they are replaced,
removed or swept out.

A read first looks the key up.  If no live entry is there it claims the key:
the entry may have come in the meantime, otherwise the caller populates the key
and stores what it got.  A population that would live beyond the end of the clock
cannot be stored, and its caller is lost.  Six counters go along.

Main results:

- `Entry.isLive_of_zero` and `Entry.isLive_of_span` say how long a population
  lives.
- `live?_store_self`: a population is found until it ends.
- `live?_purge`: a sweep changes nothing that is live.
- `size_purge`: a sweep returns the number of entries that it removes.
-/

namespace SapMonitor.Cache

open Time (Span)

/-! ## Entries -/

/-- A value and the moment at which it ends, if it does. -/
structure Entry (ν : Type) where
  value : ν
  ending : Option Nat

namespace Entry

variable {ν : Type}

/-- Whether the entry is live: the moment of its end is no longer part of its
life. -/
def isLive (e : Entry ν) (now : Nat) : Bool :=
  match e.ending with
  | none => true
  | some t => now < t

/-- The entry of a population that is complete now; a lifetime of zero never
ends. -/
def ofPopulation (value : ν) (lifetime : Span) (now : Nat) : Entry ν :=
  { value := value
    ending := if lifetime.isZero then none else some (now + lifetime.nanos) }

@[simp] theorem value_ofPopulation (value : ν) (lifetime : Span) (now : Nat) :
    (ofPopulation value lifetime now).value = value :=
  rfl

/-- A lifetime of zero never ends. -/
theorem isLive_of_zero (value : ν) (start now : Nat) :
    (ofPopulation value .zero start).isLive now = true :=
  rfl

/-- What is live was live before. -/
theorem isLive_of_le {e : Entry ν} {earlier now : Nat} (h : earlier ≤ now)
    (hl : e.isLive now = true) : e.isLive earlier = true := by
  unfold isLive at *
  split at hl
  · rfl
  · simp only [decide_eq_true_eq] at *
    omega

/-- Any other lifetime ends after its nanoseconds. -/
theorem isLive_of_span (value : ν) {lifetime : Span} (h : lifetime.isZero = false)
    (start now : Nat) :
    (ofPopulation value lifetime start).isLive now = decide (now < start + lifetime.nanos) := by
  simp [ofPopulation, isLive, h]

end Entry

/-! ## Counters -/

/-- What has happened to a cache. -/
structure Counters where
  hits : Nat := 0
  misses : Nat := 0
  sets : Nat := 0
  updates : Nat := 0
  deletes : Nat := 0
  expired : Nat := 0
  deriving DecidableEq

/-! ## Caches -/

/-- A cache: its entries by key, in order of their first population.  No key
has two entries. -/
structure ExpiringCache (ν : Type) where
  name : String
  entries : List (String × Entry ν) := []
  counters : Counters := {}
  distinct : (entries.map Prod.fst).Nodup := by simp

/-- What a caller finds when it claims a key: a live value, nothing, or a dead
entry. -/
inductive Claim (ν : Type) where
  | held (value : ν)
  | vacant
  | stale

/-- The entries with one of them set. -/
def putEntry {ν : Type} (key : String) (e : Entry ν) :
    List (String × Entry ν) → List (String × Entry ν)
  | [] => [(key, e)]
  | (k, old) :: rest => if key == k then (k, e) :: rest else (k, old) :: putEntry key e rest

@[simp] theorem lookup_putEntry_self {ν : Type} (key : String) (e : Entry ν)
    (entries : List (String × Entry ν)) : (putEntry key e entries).lookup key = some e := by
  induction entries with
  | nil => simp [putEntry]
  | cons entry rest ih =>
    obtain ⟨k, old⟩ := entry
    by_cases h : key = k
    · simp [putEntry, h]
    · have hb : (key == k) = false := beq_false_of_ne h
      simp [putEntry, List.lookup_cons, hb, ih]

theorem lookup_putEntry_of_ne {ν : Type} {key other : String} (h : other ≠ key) (e : Entry ν)
    (entries : List (String × Entry ν)) :
    (putEntry key e entries).lookup other = entries.lookup other := by
  have ho : (other == key) = false := beq_false_of_ne h
  induction entries with
  | nil => simp [putEntry, List.lookup_cons, ho]
  | cons entry rest ih =>
    obtain ⟨k, old⟩ := entry
    by_cases hk : key = k
    · subst hk
      simp [putEntry, List.lookup_cons, ho]
    · have hb : (key == k) = false := beq_false_of_ne hk
      simp [putEntry, hb, List.lookup_cons, ih]

theorem mem_keys_putEntry {ν : Type} {key other : String} {e : Entry ν}
    {entries : List (String × Entry ν)} :
    other ∈ (putEntry key e entries).map Prod.fst ↔ other = key ∨ other ∈ entries.map Prod.fst := by
  induction entries with
  | nil => simp [putEntry]
  | cons entry rest ih =>
    obtain ⟨k, old⟩ := entry
    by_cases hk : key = k
    · simp [putEntry, hk]
    · have hb : (key == k) = false := beq_false_of_ne hk
      simp only [putEntry, hb, Bool.false_eq_true, ↓reduceIte, List.map_cons, List.mem_cons, ih]
      exact or_left_comm

/-- Setting an entry keeps the keys apart. -/
theorem nodup_putEntry {ν : Type} (key : String) (e : Entry ν) {entries : List (String × Entry ν)}
    (h : (entries.map Prod.fst).Nodup) : ((putEntry key e entries).map Prod.fst).Nodup := by
  induction entries with
  | nil => simp [putEntry]
  | cons entry rest ih =>
    obtain ⟨k, old⟩ := entry
    simp only [List.map_cons, List.nodup_cons] at h
    by_cases hk : key = k
    · simpa [putEntry, hk] using h
    · have hb : (key == k) = false := beq_false_of_ne hk
      have hmem : k ∉ (putEntry key e rest).map Prod.fst := by
        rw [mem_keys_putEntry]
        rintro (he | he)
        · exact hk he.symm
        · exact h.1 he
      simp only [putEntry, hb, Bool.false_eq_true, ↓reduceIte, List.map_cons, List.nodup_cons]
      exact ⟨hmem, ih h.2⟩

/-- Among distinct keys, every entry is found. -/
theorem lookup_of_mem {ν : Type} {entries : List (String × Entry ν)}
    (h : (entries.map Prod.fst).Nodup) {key : String} {e : Entry ν} (he : (key, e) ∈ entries) :
    entries.lookup key = some e := by
  induction entries with
  | nil => cases he
  | cons entry rest ih =>
    obtain ⟨k, old⟩ := entry
    simp only [List.map_cons, List.nodup_cons] at h
    rcases List.mem_cons.1 he with hhead | hrest
    · cases hhead
      exact List.lookup_cons_self
    · have hk : (key == k) = false := by
        refine beq_false_of_ne fun hkey => h.1 ?_
        rw [← hkey]
        exact List.mem_map_of_mem hrest
      rw [List.lookup_cons, hk]
      exact ih h.2 hrest

/-- Filtering keeps the keys apart. -/
theorem nodup_filter {ν : Type} (p : String × Entry ν → Bool) {entries : List (String × Entry ν)}
    (h : (entries.map Prod.fst).Nodup) : ((entries.filter p).map Prod.fst).Nodup :=
  h.sublist (List.filter_sublist.map Prod.fst)

/-- Among distinct keys, an entry that a filter drops is gone. -/
theorem lookup_filter {ν : Type} (p : String × Entry ν → Bool) {entries : List (String × Entry ν)}
    (h : (entries.map Prod.fst).Nodup) (key : String) :
    (entries.filter p).lookup key = (entries.lookup key).filter fun e => p (key, e) := by
  induction entries with
  | nil => simp
  | cons entry rest ih =>
    obtain ⟨k, e⟩ := entry
    simp only [List.map_cons, List.nodup_cons] at h
    by_cases hk : key = k
    · subst hk
      have hrest : rest.lookup key = none := by
        rw [List.lookup_eq_none_iff]
        intro q hq
        have hne : key ≠ q.1 := fun he => h.1 (he ▸ List.mem_map_of_mem hq)
        simpa using hne
      by_cases hp : p (key, e) = true
      · simp [hp, Option.filter]
      · simp [hp, ih h.2, hrest, Option.filter]
    · have hb : (key == k) = false := beq_false_of_ne hk
      by_cases hp : p (k, e) = true
      · simp [hp, List.lookup_cons, hb, ih h.2]
      · simp [hp, List.lookup_cons, hb, ih h.2]

namespace ExpiringCache

variable {ν : Type}

/-- A cache without entries. -/
def empty (name : String) : ExpiringCache ν :=
  { name := name }

/-- The number of entries, dead ones included. -/
def size (c : ExpiringCache ν) : Nat :=
  c.entries.length

/-- The entry of a key. -/
def find? (c : ExpiringCache ν) (key : String) : Option (Entry ν) :=
  c.entries.lookup key

/-- The live value of a key. -/
def live? (c : ExpiringCache ν) (key : String) (now : Nat) : Option ν :=
  ((c.find? key).filter fun e => e.isLive now).map Entry.value

/-- Counts a hit. -/
def countHit (c : ExpiringCache ν) : ExpiringCache ν :=
  { c with counters := { c.counters with hits := c.counters.hits + 1 } }

/-- Counts a dead entry that was claimed. -/
def countExpired (c : ExpiringCache ν) : ExpiringCache ν :=
  { c with counters := { c.counters with expired := c.counters.expired + 1 } }

/-- Looks a key up and counts a hit. -/
def look (key : String) (now : Nat) (c : ExpiringCache ν) : Option ν × ExpiringCache ν :=
  match c.live? key now with
  | some v => (some v, c.countHit)
  | none => (none, c)

/-- Claims a key after a lookup has failed. -/
def claim (key : String) (now : Nat) (c : ExpiringCache ν) : Claim ν × ExpiringCache ν :=
  match c.find? key with
  | none => (.vacant, c)
  | some e => if e.isLive now then (.held e.value, c.countHit) else (.stale, c.countExpired)

/-- Stores what a claimed key was populated with. -/
def store (key : String) (value : ν) (lifetime : Span) (now : Nat) (stale : Bool)
    (c : ExpiringCache ν) : ExpiringCache ν :=
  { c with
    entries := putEntry key (.ofPopulation value lifetime now) c.entries
    counters := { c.counters with
      sets := if stale then c.counters.sets else c.counters.sets + 1
      updates := if stale then c.counters.updates + 1 else c.counters.updates
      misses := c.counters.misses + 1 }
    distinct := nodup_putEntry _ _ c.distinct }

/-- Stores what a claimed key was populated with, and returns it.  Without a population, or
if the clock cannot tell when that ends, nothing is stored and the caller is lost. -/
def fill (key : String) (population : Option (ν × Span)) (now : Nat) (stale : Bool)
    (c : ExpiringCache ν) : Option ν × ExpiringCache ν :=
  match population.filter fun p => p.2.fits now with
  | some (v, lifetime) => (some v, c.store key v lifetime now stale)
  | none => (none, c)

/-- Keeps the entries that pass a test. -/
def keep (p : String × Entry ν → Bool) (c : ExpiringCache ν) : ExpiringCache ν :=
  { c with entries := c.entries.filter p, distinct := nodup_filter p c.distinct }

/-- Counts entries that were removed or swept out. -/
def countDeletes (n : Nat) (c : ExpiringCache ν) : ExpiringCache ν :=
  { c with counters := { c.counters with deletes := c.counters.deletes + n } }

/-- Drops the entry of a key, which is not counted yet, and tells whether there
was one. -/
def drop (key : String) (c : ExpiringCache ν) : Bool × ExpiringCache ν :=
  ((c.find? key).isSome, c.keep fun e => e.1 != key)

/-- Counts an entry that was dropped. -/
def countDrop (held : Bool) (c : ExpiringCache ν) : ExpiringCache ν :=
  if held then c.countDeletes 1 else c

/-- Removes a key and tells whether it was held. -/
def remove (key : String) (c : ExpiringCache ν) : Bool × ExpiringCache ν :=
  ((c.drop key).1, (c.drop key).2.countDrop (c.drop key).1)

/-- Sweeps the dead entries out and tells how many there were. -/
def purge (now : Nat) (c : ExpiringCache ν) : Nat × ExpiringCache ν :=
  let kept := c.keep fun e => e.2.isLive now
  let removed := c.size - kept.size
  (removed, kept.countDeletes removed)

/-! ### What the operations do to the entries -/

@[simp] theorem entries_countHit (c : ExpiringCache ν) : c.countHit.entries = c.entries :=
  rfl

@[simp] theorem entries_countExpired (c : ExpiringCache ν) : c.countExpired.entries = c.entries :=
  rfl

@[simp] theorem entries_countDeletes (n : Nat) (c : ExpiringCache ν) :
    (c.countDeletes n).entries = c.entries :=
  rfl

@[simp] theorem entries_countDrop (held : Bool) (c : ExpiringCache ν) :
    (c.countDrop held).entries = c.entries := by
  cases held <;> rfl

@[simp] theorem entries_purge (now : Nat) (c : ExpiringCache ν) :
    (c.purge now).2.entries = c.entries.filter fun e => e.2.isLive now :=
  rfl

theorem find?_of_entries {c d : ExpiringCache ν} (h : c.entries = d.entries) (key : String) :
    c.find? key = d.find? key :=
  congrArg (List.lookup key) h

/-- An entry is found by its key. -/
theorem find?_of_mem {c : ExpiringCache ν} {key : String} {e : Entry ν}
    (h : (key, e) ∈ c.entries) : c.find? key = some e :=
  lookup_of_mem c.distinct h

/-- What is live depends on the entry of the key only. -/
theorem live?_of_find? {c d : ExpiringCache ν} {key : String} (h : c.find? key = d.find? key)
    (now : Nat) : c.live? key now = d.live? key now := by
  rw [live?, h, live?]

/-- What is live depends on the entries only. -/
theorem live?_of_entries {c d : ExpiringCache ν} (h : c.entries = d.entries) (key : String)
    (now : Nat) : c.live? key now = d.live? key now :=
  live?_of_find? (find?_of_entries h key) now

/-- What will be live is live, too. -/
theorem live?_of_le {c : ExpiringCache ν} {key : String} {earlier now : Nat} {v : ν}
    (h : earlier ≤ now) (hl : c.live? key now = some v) : c.live? key earlier = some v := by
  simp only [live?, Option.map_eq_some_iff, Option.filter_eq_some_iff] at hl ⊢
  obtain ⟨e, ⟨hf, hlive⟩, rfl⟩ := hl
  exact ⟨e, ⟨hf, Entry.isLive_of_le h hlive⟩, rfl⟩

/-- Where nothing is live, nothing will be. -/
theorem live?_none_of_le {c : ExpiringCache ν} {key : String} {earlier now : Nat}
    (h : earlier ≤ now) (hd : c.live? key earlier = none) : c.live? key now = none := by
  cases hl : c.live? key now with
  | none => rfl
  | some v =>
    rw [live?_of_le h hl] at hd
    cases hd

theorem find?_keep (p : String × Entry ν → Bool) (c : ExpiringCache ν) (key : String) :
    (c.keep p).find? key = (c.find? key).filter fun e => p (key, e) :=
  lookup_filter p c.distinct key

theorem find?_store_self (c : ExpiringCache ν) (key : String) (value : ν) (lifetime : Span)
    (start : Nat) (stale : Bool) :
    (c.store key value lifetime start stale).find? key =
      some (.ofPopulation value lifetime start) :=
  lookup_putEntry_self key _ c.entries

theorem find?_store_of_ne (c : ExpiringCache ν) {key other : String} (h : other ≠ key) (value : ν)
    (lifetime : Span) (start : Nat) (stale : Bool) :
    (c.store key value lifetime start stale).find? other = c.find? other :=
  lookup_putEntry_of_ne h _ c.entries

/-- A population is found until it ends, and nothing is found from then on. -/
theorem live?_store_self (c : ExpiringCache ν) (key : String) (value : ν) (lifetime : Span)
    (start now : Nat) (stale : Bool) :
    (c.store key value lifetime start stale).live? key now =
      if (Entry.ofPopulation value lifetime start).isLive now then some value else none := by
  rw [live?, find?_store_self]
  cases hl : (Entry.ofPopulation value lifetime start).isLive now <;>
    simp [Option.filter, hl]

/-- A population changes no other key. -/
theorem live?_store_of_ne (c : ExpiringCache ν) {key other : String} (h : other ≠ key) (value : ν)
    (lifetime : Span) (start now : Nat) (stale : Bool) :
    (c.store key value lifetime start stale).live? other now = c.live? other now := by
  rw [live?, find?_store_of_ne c h, ← live?]

/-- A key is gone after its removal. -/
@[simp] theorem find?_drop_self (c : ExpiringCache ν) (key : String) :
    (c.drop key).2.find? key = none := by
  simp [drop, find?_keep]

/-- A removal changes no other key. -/
theorem find?_drop_of_ne (c : ExpiringCache ν) {key other : String} (h : other ≠ key) :
    (c.drop key).2.find? other = c.find? other := by
  have hb : (other != key) = true := bne_iff_ne.2 h
  simp only [drop, find?_keep, hb]
  cases c.find? other <;> rfl

/-- A removed key has no entry. -/
theorem find?_remove_self (c : ExpiringCache ν) (key : String) :
    (c.remove key).2.find? key = none :=
  (find?_of_entries (entries_countDrop _ _) key).trans (c.find?_drop_self key)

/-- The removal of another key changes nothing. -/
theorem find?_remove_of_ne (c : ExpiringCache ν) {key other : String} (h : other ≠ key) :
    (c.remove key).2.find? other = c.find? other :=
  (find?_of_entries (entries_countDrop _ _) other).trans (c.find?_drop_of_ne h)

theorem live?_remove_self (c : ExpiringCache ν) (key : String) (now : Nat) :
    (c.remove key).2.live? key now = none := by
  rw [live?, find?_remove_self]
  rfl

theorem live?_remove_of_ne (c : ExpiringCache ν) {key other : String} (h : other ≠ key)
    (now : Nat) : (c.remove key).2.live? other now = c.live? other now :=
  live?_of_find? (c.find?_remove_of_ne h) now

/-- A sweep keeps the entries that are live when it happens. -/
theorem find?_purge (c : ExpiringCache ν) (key : String) (since : Nat) :
    (c.purge since).2.find? key = (c.find? key).filter fun e => e.isLive since :=
  find?_keep (fun e => e.2.isLive since) c key

/-- A sweep changes nothing that is live when it happens, or later. -/
theorem live?_purge (c : ExpiringCache ν) (key : String) {since now : Nat} (h : since ≤ now) :
    (c.purge since).2.live? key now = c.live? key now := by
  simp only [live?, find?_purge, Option.filter_filter]
  congr 1
  refine congrArg (fun p => Option.filter p (c.find? key)) (funext fun e => ?_)
  cases hl : e.isLive now with
  | false => simp
  | true => simp [Entry.isLive_of_le h hl]

/-- A sweep returns the number of entries that it removes. -/
theorem size_purge (c : ExpiringCache ν) (now : Nat) :
    (c.purge now).2.size + (c.purge now).1 = c.size := by
  have := List.length_filter_le (fun e : String × Entry ν => e.2.isLive now) c.entries
  simp only [purge, size, keep, entries_countDeletes]
  omega

/-! ### Lookups and claims -/

/-- A key with a live entry is hit. -/
theorem look_of_live {c : ExpiringCache ν} {key : String} {now : Nat} {v : ν}
    (h : c.live? key now = some v) : c.look key now = (some v, c.countHit) := by
  simp [look, h]

/-- A key without a live entry is not. -/
theorem look_of_dead {c : ExpiringCache ν} {key : String} {now : Nat}
    (h : c.live? key now = none) : c.look key now = (none, c) := by
  simp [look, h]

/-- A claim finds a live entry that has come in the meantime. -/
theorem claim_of_live {c : ExpiringCache ν} {key : String} {now : Nat} {v : ν}
    (h : c.live? key now = some v) : c.claim key now = (.held v, c.countHit) := by
  simp only [live?, Option.map_eq_some_iff, Option.filter_eq_some_iff] at h
  obtain ⟨e, ⟨hf, hl⟩, rfl⟩ := h
  simp [claim, hf, hl]

/-- A claim of a key without a live entry finds nothing, or a dead entry. -/
theorem claim_of_dead {c : ExpiringCache ν} {key : String} {now : Nat}
    (h : c.live? key now = none) :
    c.claim key now =
      if (c.find? key).isSome then (.stale, c.countExpired) else (.vacant, c) := by
  cases hf : c.find? key with
  | none => simp [claim, hf]
  | some e =>
    have hl : e.isLive now = false := by
      simpa [live?, hf, Option.filter_eq_none_iff] using h
    simp [claim, hf, hl]

/-- A claim changes no entry. -/
@[simp] theorem entries_claim (c : ExpiringCache ν) (key : String) (now : Nat) :
    (c.claim key now).2.entries = c.entries := by
  unfold claim
  split
  · rfl
  · split <;> rfl

/-! ### Reads -/

/-- A population is stored if the clock can tell when it ends. -/
theorem fill_of_fits {lifetime : Span} {now : Nat} (h : lifetime.fits now = true)
    (c : ExpiringCache ν) (key : String) (v : ν) (stale : Bool) :
    c.fill key (some (v, lifetime)) now stale = (some v, c.store key v lifetime now stale) := by
  rw [fill, Option.filter_some, if_pos h]

/-- Nothing is stored if it cannot. -/
theorem fill_of_not_fits {lifetime : Span} {now : Nat} (h : lifetime.fits now = false)
    (c : ExpiringCache ν) (key : String) (v : ν) (stale : Bool) :
    c.fill key (some (v, lifetime)) now stale = (none, c) := by
  rw [fill, Option.filter_some, h]
  rfl

/-- A read of the cache at a place of a larger state: what is live is returned,
anything else is populated.  The clock is read again after the population. -/
def fetch {m : Type → Type} [Monad m]
    (cache : {α : Type} → (ExpiringCache ν → α × ExpiringCache ν) → m α) (clock : m Nat)
    (key : String) (populate : m (Option (ν × Span))) : m (Option ν) := do
  match ← cache (look key (← clock)) with
  | some v => return some v
  | none =>
    let populateAndFill (stale : Bool) : m (Option ν) := do
      let population ← populate
      let now ← clock
      cache (fill key population now stale)
    match ← cache (claim key (← clock)) with
    | .held v => return some v
    | .vacant => populateAndFill false
    | .stale => populateAndFill true

end ExpiringCache

end SapMonitor.Cache
