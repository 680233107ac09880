import SapMonitor.Settings.Document

/-!
# The settings of a document

A document names settings and gives them values.  Each of them is read in its own way, put in its
own place, and named at most once; so after a whole document a setting has the value of its
entry, or the one that it had before.

Main results:

- `Key.set?_name`: an entry with the name of a setting puts its value in place.
- `get_of_ofEntries`: the settings after the entries of a document.
- `ofText?_eq`: the settings of a text are those of its entries.
-/

namespace SapMonitor.Settings

open Time (Span)
open Yaml (Node)

/-! ## Keys -/

/-- A setting that a document can name. -/
inductive Key where
  | address
  | port
  | logLevel
  | sapControlUrl
  | accessPoint
  | hostDomain
  | user
  | password
  | tlsSkipVerify
  | sid
  | cacheTtl
  | cacheErrorTtl
  | cacheCleanupInterval
  | scrapeTimeout
  | fanoutLimit
  | collectEnqueueserver
  | collectDispatcher
  | collectWorkprocess
  | collectAlerts
  | sendAlertsToProm
  | alertMaxAge
  | lokiUrl
  | lokiName
  | lokiTenant
  | lokiBatchWait
  | lokiBatchEntries
  | lokiTimeout
  | lokiTimeOffset
  deriving DecidableEq

namespace Key

/-- The name of a setting in a document. -/
def name : Key → String
  | address => "address"
  | port => "port"
  | logLevel => "log_level"
  | sapControlUrl => "sap_control_url"
  | accessPoint => "sap_control_access_point"
  | hostDomain => "host_domain"
  | user => "sap_control_user"
  | password => "sap_control_password"
  | tlsSkipVerify => "tls_skip_verify"
  | sid => "sap_sid"
  | cacheTtl => "cache_ttl"
  | cacheErrorTtl => "cache_error_ttl"
  | cacheCleanupInterval => "cache_cleanup_interval"
  | scrapeTimeout => "scrape_timeout"
  | fanoutLimit => "fanout_limit"
  | collectEnqueueserver => "collect_enqueueserver"
  | collectDispatcher => "collect_dispatcher"
  | collectWorkprocess => "collect_workprocess"
  | collectAlerts => "collect_alerts"
  | sendAlertsToProm => "send_alerts_to_prom"
  | alertMaxAge => "alert_samples_max_age"
  | lokiUrl => "loki_url"
  | lokiName => "loki_name"
  | lokiTenant => "loki_tenant_id"
  | lokiBatchWait => "loki_batch_wait"
  | lokiBatchEntries => "loki_batch_entries_number"
  | lokiTimeout => "loki_http_timeout"
  | lokiTimeOffset => "loki_time_offset"

/-- The values of a setting. -/
def Value : Key → Type
  | port | fanoutLimit | lokiBatchEntries => Nat
  | tlsSkipVerify | collectEnqueueserver | collectDispatcher | collectWorkprocess
  | collectAlerts | sendAlertsToProm => Bool
  | cacheTtl | cacheErrorTtl | cacheCleanupInterval | scrapeTimeout | lokiBatchWait
  | lokiTimeout => Span
  | alertMaxAge => Option Span
  | address | logLevel | sapControlUrl | accessPoint | hostDomain | user | password | sid
  | lokiUrl | lokiName | lokiTenant | lokiTimeOffset => String

/-- The value of a setting. -/
def get (s : Settings) : (k : Key) → k.Value
  | address => s.address
  | port => s.port
  | logLevel => s.logLevel
  | sapControlUrl => s.sapControlUrl
  | accessPoint => s.accessPoint
  | hostDomain => s.hostDomain
  | user => s.user
  | password => s.password
  | tlsSkipVerify => s.tlsSkipVerify
  | sid => s.sid
  | cacheTtl => s.cacheTtl
  | cacheErrorTtl => s.cacheErrorTtl
  | cacheCleanupInterval => s.cacheCleanupInterval
  | scrapeTimeout => s.scrapeTimeout
  | fanoutLimit => s.fanoutLimit
  | collectEnqueueserver => s.collectEnqueueserver
  | collectDispatcher => s.collectDispatcher
  | collectWorkprocess => s.collectWorkprocess
  | collectAlerts => s.collectAlerts
  | sendAlertsToProm => s.sendAlertsToProm
  | alertMaxAge => s.alertMaxAge
  | lokiUrl => s.lokiUrl
  | lokiName => s.lokiName
  | lokiTenant => s.lokiTenant
  | lokiBatchWait => s.lokiBatchWait
  | lokiBatchEntries => s.lokiBatchEntries
  | lokiTimeout => s.lokiTimeout
  | lokiTimeOffset => s.lokiTimeOffset

/-- The settings with the value of one of them in place. -/
def put (s : Settings) : (k : Key) → k.Value → Settings
  | address, v => { s with address := v }
  | port, v => { s with port := v }
  | logLevel, v => { s with logLevel := v }
  | sapControlUrl, v => { s with sapControlUrl := v }
  | accessPoint, v => { s with accessPoint := v }
  | hostDomain, v => { s with hostDomain := v }
  | user, v => { s with user := v }
  | password, v => { s with password := v }
  | tlsSkipVerify, v => { s with tlsSkipVerify := v }
  | sid, v => { s with sid := v }
  | cacheTtl, v => { s with cacheTtl := v }
  | cacheErrorTtl, v => { s with cacheErrorTtl := v }
  | cacheCleanupInterval, v => { s with cacheCleanupInterval := v }
  | scrapeTimeout, v => { s with scrapeTimeout := v }
  | fanoutLimit, v => { s with fanoutLimit := v }
  | collectEnqueueserver, v => { s with collectEnqueueserver := v }
  | collectDispatcher, v => { s with collectDispatcher := v }
  | collectWorkprocess, v => { s with collectWorkprocess := v }
  | collectAlerts, v => { s with collectAlerts := v }
  | sendAlertsToProm, v => { s with sendAlertsToProm := v }
  | alertMaxAge, v => { s with alertMaxAge := v }
  | lokiUrl, v => { s with lokiUrl := v }
  | lokiName, v => { s with lokiName := v }
  | lokiTenant, v => { s with lokiTenant := v }
  | lokiBatchWait, v => { s with lokiBatchWait := v }
  | lokiBatchEntries, v => { s with lokiBatchEntries := v }
  | lokiTimeout, v => { s with lokiTimeout := v }
  | lokiTimeOffset, v => { s with lokiTimeOffset := v }

/-- The value that a node of a document stands for. -/
def read? (n : Node) : (k : Key) → Option k.Value
  | port => portOf? n
  | fanoutLimit | lokiBatchEntries => sizeOf? n
  | tlsSkipVerify | collectEnqueueserver | collectDispatcher | collectWorkprocess
  | collectAlerts | sendAlertsToProm => boolOf? n
  | cacheTtl | cacheErrorTtl | cacheCleanupInterval | scrapeTimeout | lokiBatchWait
  | lokiTimeout => spanOf? n
  | alertMaxAge => maxAgeOf? n
  | address | logLevel | sapControlUrl | accessPoint | hostDomain | user | password | sid
  | lokiUrl | lokiName | lokiTenant | lokiTimeOffset => textOf? n

/-- All settings in the order of their names. -/
def all : List Key :=
  [address, port, logLevel, sapControlUrl, accessPoint, hostDomain, user, password, tlsSkipVerify,
    sid, cacheTtl, cacheErrorTtl, cacheCleanupInterval, scrapeTimeout, fanoutLimit,
    collectEnqueueserver, collectDispatcher, collectWorkprocess, collectAlerts, sendAlertsToProm,
    alertMaxAge, lokiUrl, lokiName, lokiTenant, lokiBatchWait, lokiBatchEntries, lokiTimeout,
    lokiTimeOffset]

theorem mem_all (k : Key) : k ∈ all := by
  cases k <;> decide

theorem names_all : all.map name = optionNames :=
  rfl

theorem name_mem (k : Key) : k.name ∈ optionNames := by
  rw [← names_all]
  exact List.mem_map_of_mem k.mem_all

theorem exists_of_mem {name : String} (h : name ∈ optionNames) : ∃ k : Key, k.name = name := by
  rw [← names_all, List.mem_map] at h
  obtain ⟨k, -, hk⟩ := h
  exact ⟨k, hk⟩

@[simp] theorem get_put (s : Settings) (k : Key) (v : k.Value) : k.get (k.put s v) = v := by
  cases k <;> rfl

theorem get_put_of_ne {j k : Key} (h : j ≠ k) (s : Settings) (v : k.Value) :
    j.get (k.put s v) = j.get s := by
  cases k <;> cases j <;> first | rfl | exact absurd rfl h

/-- An entry with the name of a setting puts its value in place. -/
theorem set?_name (s : Settings) (k : Key) (n : Node) :
    s.set? k.name n = (k.read? n).map (k.put s) := by
  cases k <;> rfl

end Key

/-- An entry whose name is none of a setting changes nothing. -/
theorem set?_of_not_mem {name : String} (h : name ∉ optionNames) (s : Settings) (n : Node) :
    s.set? name n = some s := by
  unfold set?
  split <;> first | rfl | exact absurd (by decide) h

/-! ## Entries -/

/-- The node that a document gives a name. -/
def nodeAt? (entries : List (Node × Node)) (name : String) : Option Node :=
  (entries.find? fun e => textOf? e.1 == some name).map Prod.snd

section Entries

variable {s s' : Settings} {seen : List String} {key value : Node} {rest : List (Node × Node)}
  {entries : List (Node × Node)} {name : String} {k : Key}

theorem nodeAt?_cons_self (h : textOf? key = some name) (value : Node)
    (rest : List (Node × Node)) : nodeAt? ((key, value) :: rest) name = some value := by
  simp [nodeAt?, h]

theorem nodeAt?_cons_of_ne (h : textOf? key ≠ some name) (value : Node)
    (rest : List (Node × Node)) : nodeAt? ((key, value) :: rest) name = nodeAt? rest name := by
  simp [nodeAt?, h]

/-- What an entry does: its name sets a setting, which no entry before it has set. -/
theorem ofEntries_cons (h : ofEntries? seen s ((key, value) :: rest) = some s') :
    ∃ name t, textOf? key = some name ∧ (name ∈ optionNames → name ∉ seen) ∧
      s.set? name value = some t ∧ ofEntries? (name :: seen) t rest = some s' := by
  rw [ofEntries?] at h
  cases hname : textOf? key with
  | none => simp [hname] at h
  | some name =>
    simp only [hname] at h
    split at h
    · cases h
    · rename_i hseen
      cases hset : s.set? name value with
      | none => simp [hset] at h
      | some t =>
        rw [hset] at h
        refine ⟨name, t, rfl, ?_, hset, h⟩
        simpa using hseen

/-- A setting that was set before is not named again. -/
theorem nodeAt?_eq_none_of_seen (h : ofEntries? seen s entries = some s') (hk : k.name ∈ seen) :
    nodeAt? entries k.name = none := by
  induction entries generalizing seen s with
  | nil => rfl
  | cons e rest ih =>
    obtain ⟨key, value⟩ := e
    obtain ⟨name, t, hname, hseen, -, hrest⟩ := ofEntries_cons h
    have hne : textOf? key ≠ some k.name := by
      rw [hname]
      intro heq
      obtain rfl := Option.some.inj heq
      exact hseen k.name_mem hk
    rw [nodeAt?_cons_of_ne hne]
    exact ih hrest (List.mem_cons_of_mem _ hk)

/-- After the entries of a document a setting has the value of its entry; without one it is as
it was. -/
theorem get_of_ofEntries (h : ofEntries? seen s entries = some s') (k : Key) :
    (nodeAt? entries k.name).elim (some (k.get s)) k.read? = some (k.get s') := by
  induction entries generalizing seen s with
  | nil =>
    cases h
    rfl
  | cons e rest ih =>
    obtain ⟨key, value⟩ := e
    obtain ⟨name, t, hname, -, hset, hrest⟩ := ofEntries_cons h
    have hlater := ih hrest
    by_cases hk : k.name = name
    · subst hk
      -- No later entry can take the value back.
      rw [nodeAt?_eq_none_of_seen hrest List.mem_cons_self] at hlater
      rw [k.set?_name, Option.map_eq_some_iff] at hset
      obtain ⟨v, hv, rfl⟩ := hset
      rw [Option.elim_none, k.get_put] at hlater
      rw [nodeAt?_cons_self hname, Option.elim_some, hv, hlater]
    · have hne : textOf? key ≠ some k.name := by
        rw [hname]
        exact fun heq => hk (Option.some.inj heq).symm
      rw [nodeAt?_cons_of_ne hne]
      have hsame : k.get t = k.get s := by
        by_cases hmem : name ∈ optionNames
        · obtain ⟨j, rfl⟩ := Key.exists_of_mem hmem
          rw [j.set?_name, Option.map_eq_some_iff] at hset
          obtain ⟨v, -, rfl⟩ := hset
          exact Key.get_put_of_ne (fun hkj => hk (congrArg Key.name hkj)) s v
        · rw [set?_of_not_mem hmem] at hset
          cases hset
          rfl
      rw [← hsame]
      exact hlater

end Entries

/-! ## Documents -/

/-- The entries of a document; white space and a missing document have none. -/
def documentEntries? (raw : String) : Option (List (Node × Node)) :=
  if raw.toList.all Text.isBlank then some []
  else
    match Yaml.readDocument raw.toList with
    | some none => some []
    | some (some (.scalar "" true)) => some []
    | some (some (.mapping entries)) => some entries
    | _ => none

theorem ofText?_eq (raw : String) :
    ofText? raw = (documentEntries? raw).bind (ofEntries? [] {}) := by
  unfold ofText? documentEntries?
  split
  · rfl
  · split
    · rename_i hread
      rw [hread]
      rfl
    · rename_i hread
      rw [hread]
      rfl
    · rename_i hread
      rw [hread]
      rfl
    · rename_i n hfull hread
      rw [hread]
      cases n with
      | mapping entries => rfl
      | sequence items => rfl
      | scalar text plain =>
        split
        · rename_i heq
          cases heq
        · rename_i heq
          exact (hfull (Option.some.inj (Option.some.inj heq))).elim
        · rename_i heq
          cases heq
        · rfl

end SapMonitor.Settings
