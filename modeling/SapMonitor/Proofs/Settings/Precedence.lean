import SapMonitor.Proofs.CommandLine.Given
import SapMonitor.Proofs.Settings.Keys
import SapMonitor.Proofs.Settings.Validation
import SapMonitor.Settings.Load

/-!
# Where settings come from

A setting with a flag comes from the command line, or else from the environment, or else from the
file, or else it has its default; a setting without a flag comes from the file or has its default.
Validation then touches only the address of the service with what is derived from it, and the
lifetimes.

Main results:

- `get_of_apply_text`, `get_of_apply_none`: what options do to a setting.
- `eq_of_validate`: what validation leaves as it is.
- `load_by_precedence`: where the settings that are loaded come from.
-/

namespace SapMonitor.Settings

open CommandLine (Flag given)
open Yaml (Node)

/-! ## Sources -/

/-- Where the value of a setting comes from. -/
inductive Source where
  /-- The text of a flag or a variable. -/
  | text (text : String)
  /-- A node of the file. -/
  | node (n : Node)
  | default

namespace Key

/-- The flag of a setting. -/
def flag? : Key → Option Flag
  | port => some .port
  | address => some .address
  | logLevel => some .logLevel
  | sapControlUrl => some .sapControlUrl
  | hostDomain => some .hostDomain
  | user => some .user
  | password => some .password
  | tlsSkipVerify => some .tlsSkipVerify
  | alertMaxAge => some .alertMaxAge
  | _ => none

/-- The value that the text of a flag stands for. -/
def readText? (text : String) : (k : Key) → Option k.Value
  | port => (Flag.readPort text).toOption
  | address | logLevel | sapControlUrl | hostDomain | user | password => some text
  | tlsSkipVerify => (Flag.readBool text).toOption
  | alertMaxAge => (readMaxAge text).toOption
  | _ => none

/-- The source of a setting: its flag on the command line, its variable, its entry in the file,
or its default. -/
def source (args : List String) (environment : String → Option String)
    (entries : List (Node × Node)) (k : Key) : Source :=
  match k.flag?.bind (Flag.text? args environment) with
  | some text => .text text
  | none =>
    match nodeAt? entries k.name with
    | some n => .node n
    | none => .default

/-- The value of a setting with a source. -/
def valueFrom? (k : Key) : Source → Option k.Value
  | .text text => k.readText? text
  | .node n => k.read? n
  | .default => some (k.get {})

end Key

/-! ## Options -/

section Apply

variable {s c : Settings} {a : Arguments} {k : Key} {f : Flag}

/-- The text of an age has to be one; the other options are in place as they are. -/
theorem apply_eq_ok (h : s.apply a = .ok c) :
    ∃ age, a.alertMaxAge.elim (.ok s.alertMaxAge) readMaxAge = .ok age ∧
      c = { s with
        port := a.port.getD s.port
        address := a.address.getD s.address
        logLevel := a.logLevel.getD s.logLevel
        sapControlUrl := a.sapControlUrl.getD s.sapControlUrl
        hostDomain := a.hostDomain.getD s.hostDomain
        user := a.user.getD s.user
        password := a.password.getD s.password
        tlsSkipVerify := a.tlsSkipVerify.getD s.tlsSkipVerify
        alertMaxAge := age } := by
  unfold apply at h
  cases hage : a.alertMaxAge with
  | none =>
    rw [hage] at h
    cases h
    exact ⟨s.alertMaxAge, rfl, rfl⟩
  | some raw =>
    rw [hage] at h
    obtain ⟨age, hread, hc⟩ := bind_eq_ok_iff.1 h
    cases hc
    exact ⟨age, hread, rfl⟩

/-- The text of a flag that is given becomes the value of its setting. -/
theorem get_of_apply_text (h : s.apply a = .ok c) (hf : k.flag? = some f) {text : String}
    {v : f.Value} (hread : f.read text = .ok v) (hget : f.get a = some v) :
    k.readText? text = some (k.get c) := by
  obtain ⟨age, hage, hc⟩ := apply_eq_ok h
  cases k with
  | address | logLevel | sapControlUrl | hostDomain | user | password =>
    cases hf
    cases hread
    simp only [Flag.get] at hget
    rw [hc]
    simp only [Key.get, hget]
    rfl
  | port =>
    cases hf
    change Flag.readPort text = .ok v at hread
    change a.port = some v at hget
    change (Flag.readPort text).toOption = some c.port
    simp only [hc, hget, hread]
    rfl
  | tlsSkipVerify =>
    cases hf
    change Flag.readBool text = .ok v at hread
    change a.tlsSkipVerify = some v at hget
    change (Flag.readBool text).toOption = some c.tlsSkipVerify
    simp only [hc, hget, hread]
    rfl
  | alertMaxAge =>
    cases hf
    cases hread
    change a.alertMaxAge = some text at hget
    change (readMaxAge text).toOption = some c.alertMaxAge
    rw [hget, Option.elim_some] at hage
    simp only [hc, hage]
    rfl
  | _ => cases hf

/-- A setting without a flag that is given stays as it is. -/
theorem get_of_apply_none (h : s.apply a = .ok c) (hnone : ∀ f, k.flag? = some f → f.get a = none) :
    k.get c = k.get s := by
  obtain ⟨age, hage, hc⟩ := apply_eq_ok h
  cases k with
  | address | logLevel | sapControlUrl | hostDomain | user | password | port | tlsSkipVerify =>
    have hget := hnone _ rfl
    simp only [Flag.get] at hget
    rw [hc]
    simp only [Key.get, hget]
    rfl
  | alertMaxAge =>
    have hget := hnone _ rfl
    simp only [Flag.get] at hget
    rw [hget] at hage
    cases hage
    rw [hc]
    rfl
  | _ =>
    rw [hc]
    rfl

end Apply

/-! ## The file -/

/-- The entries of the settings file; none if there is no file, and `none` if it cannot be read. -/
def fileEntries? (files : FileSource) (a : Arguments) : Option (List (Node × Node)) :=
  match a.file.or (searchPaths.find? files.isFile) with
  | none => some []
  | some path => (files.read path).toOption.bind documentEntries?

theorem base_eq_ok {files : FileSource} {a : Arguments} {s : Settings}
    (h : (base files a).1 = .ok s) :
    ∃ entries, fileEntries? files a = some entries ∧ ofEntries? [] {} entries = some s := by
  rw [base] at h
  rw [fileEntries?]
  cases hpath : a.file.or (searchPaths.find? files.isFile) with
  | none =>
    simp only [hpath] at h
    cases h
    exact ⟨[], rfl, rfl⟩
  | some path =>
    simp only [hpath, ofFile] at h
    cases hread : files.read path with
    | error e =>
      rw [hread] at h
      cases h
    | ok raw =>
      rw [hread] at h
      cases htext : ofText? raw with
      | none =>
        simp only [htext] at h
        cases h
      | some t =>
        simp only [htext] at h
        cases h
        rw [ofText?_eq, Option.bind_eq_some_iff] at htext
        simpa only [hread, Except.toOption, Option.bind_some] using htext

/-! ## Validation -/

/-- The settings with the address of the service, what is derived from it and the lifetimes of
other ones. -/
def withPlacement (s v : Settings) : Settings :=
  { s with
    sapControlUrl := v.sapControlUrl
    hostDomain := v.hostDomain
    cacheTtl := v.cacheTtl
    cacheErrorTtl := v.cacheErrorTtl
    sapHost := v.sapHost
    sapPort := v.sapPort
    useTls := v.useTls }

/-- Validation touches only the address of the service with what is derived from it, and the
lifetimes. -/
theorem eq_of_validate {idna : Url.Idna} {s v : Settings} {notes : List Note}
    (h : s.validate idna = .ok (v, notes)) :
    v = s.withPlacement v := by
  obtain ⟨u, port, host, p, -, -, -, -, rfl⟩ := validate_eq_ok_iff.1 ⟨notes, h⟩
  rfl

/-! ## Loading -/

section Load

variable {args : List String} {environment : String → Option String} {files : FileSource}
  {idna : Url.Idna} {a : Arguments} {s c : Settings} {entries : List (Node × Node)}
  {notes : List Note}

/-- With the entries of a file and with options in place, a setting has the value of its source. -/
theorem valueFrom?_source (hread : CommandLine.read args environment = .ok a)
    (hentries : ofEntries? [] {} entries = some s) (happly : s.apply a = .ok c) (k : Key) :
    k.valueFrom? (k.source args environment entries) = some (k.get c) := by
  -- Without a text both kinds of settings fall back to the file in the same way.
  have hfile : k.valueFrom? (match nodeAt? entries k.name with
      | some n => .node n
      | none => .default) = some (k.get s) := by
    rw [← get_of_ofEntries hentries k]
    cases nodeAt? entries k.name <;> rfl
  rw [Key.source]
  cases hf : k.flag? with
  | none =>
    have hsame : k.get c = k.get s := by
      refine get_of_apply_none happly fun f hsome => ?_
      rw [hf] at hsome
      cases hsome
    rw [hsame]
    exact hfile
  | some f =>
    have hvalue := CommandLine.get_of_read hread f
    rw [Option.bind_some]
    cases htext : f.text? args environment with
    | some text =>
      rw [htext, Option.mapM_some] at hvalue
      obtain ⟨v, hv, hget⟩ := map_eq_ok_iff.1 hvalue
      exact get_of_apply_text happly hf hv hget.symm
    | none =>
      rw [htext] at hvalue
      have hsame : k.get c = k.get s := by
        refine get_of_apply_none happly fun g hsome => ?_
        obtain rfl := Option.some.inj (hf.symm.trans hsome)
        exact (Except.ok.inj hvalue).symm
      rw [hsame]
      exact hfile

theorem load_eq_ok (h : load idna files a = (.ok s, notes)) :
    ∃ read chosen more, (base files a).1 = .ok read ∧ read.apply a = .ok chosen ∧
      chosen.validate idna = .ok (s, more) := by
  rw [load] at h
  cases hbase : (base files a).1 with
  | error e =>
    simp only [hbase, Except.bind] at h
    cases h
  | ok read =>
    cases happly : read.apply a with
    | error e =>
      simp only [hbase, Except.bind, happly] at h
      cases h
    | ok chosen =>
      cases hvalidate : chosen.validate idna with
      | error e =>
        simp only [hbase, Except.bind, happly, hvalidate] at h
        cases h
      | ok validated =>
        simp only [hbase, Except.bind, happly, hvalidate] at h
        cases h
        exact ⟨read, chosen, validated.2, rfl, happly, hvalidate⟩

/-- An age that is given but cannot be read lets nothing be loaded, whatever the file says. -/
theorem load_of_bad_age {raw : String} {e : SettingsError} (h : a.alertMaxAge = some raw)
    (hraw : readMaxAge raw = .error e) :
    (load idna files a).1 = (base files a).1.bind fun _ => .error e := by
  have happly : ∀ read : Settings, read.apply a = .error e := by
    intro read
    rw [apply, h]
    simp only [hraw]
    rfl
  rw [load]
  cases hbase : (base files a).1 with
  | error fault => simp only [hbase, Except.bind]
  | ok read => simp only [hbase, Except.bind, happly]

end Load

/-- Where the settings that are loaded come from: each of them has the value of its source, until
validation touches its part of them.  Nothing is loaded if the value of a source cannot be read,
and no value of the file stands in for an age on the command line that cannot be. -/
theorem load_by_precedence {args : List String} {environment : String → Option String}
    {a : Arguments} (h : CommandLine.read args environment = .ok a) (idna : Url.Idna)
    (files : FileSource) :
    (∀ s notes, load idna files a = (.ok s, notes) →
      ∃ entries chosen more, fileEntries? files a = some entries ∧
        (∀ k : Key, k.valueFrom? (k.source args environment entries) = some (k.get chosen)) ∧
        chosen.validate idna = .ok (s, more) ∧ s = chosen.withPlacement s) ∧
      (∀ entries (k : Key), fileEntries? files a = some entries →
        k.valueFrom? (k.source args environment entries) = none →
        ∃ fault, (load idna files a).1 = .error fault) ∧
      ∀ raw e, (given args).lookup .alertMaxAge = some raw → readMaxAge raw = .error e →
        (load idna files a).1 = (base files a).1.bind fun _ => .error e := by
  have hloaded : ∀ s notes, load idna files a = (.ok s, notes) →
      ∃ entries chosen more, fileEntries? files a = some entries ∧
        (∀ k : Key, k.valueFrom? (k.source args environment entries) = some (k.get chosen)) ∧
        chosen.validate idna = .ok (s, more) ∧ s = chosen.withPlacement s := by
    intro s notes hload
    obtain ⟨read, chosen, more, hbase, happly, hvalidate⟩ := load_eq_ok hload
    obtain ⟨entries, hfile, hentries⟩ := base_eq_ok hbase
    exact ⟨entries, chosen, more, hfile, valueFrom?_source h hentries happly, hvalidate,
      eq_of_validate hvalidate⟩
  refine ⟨hloaded, ?_, ?_⟩
  · intro entries k hfile hnone
    cases hload : load idna files a with
    | mk outcome notes =>
      cases outcome with
      | error fault => exact ⟨fault, rfl⟩
      | ok s =>
        obtain ⟨entries', chosen, -, hfile', hvalues, -⟩ := hloaded s notes hload
        obtain rfl := Option.some.inj (hfile.symm.trans hfile')
        rw [hvalues] at hnone
        cases hnone
  · intro raw e hraw hbad
    have htext : Flag.alertMaxAge.text? args environment = some raw := by
      rw [Flag.text?, hraw, Option.some_or]
    have hvalue := CommandLine.get_of_read h .alertMaxAge
    rw [htext] at hvalue
    have hage : a.alertMaxAge = some raw := (Except.ok.inj hvalue).symm
    exact load_of_bad_age hage hbad

/-- A file that sets the port, the level of the journal, the identifier and the age. -/
def ageFile : FileSource where
  isFile path := path == "./sap_system_exporter.yaml"
  read _ := .ok "port: 7000\nlog_level: warn\nsap_sid: PRD\nalert_samples_max_age: 1h"

/-- Variables that set the port and the level. -/
def portVariables (name : String) : Option String :=
  [("PORT", "9000"), ("LOG_LEVEL", "debug")].lookup name

/-- The port comes from the command line, the level from its variable, and the identifier and the
age from the file; but an age on the command line that cannot be read stops everything. -/
theorem load_by_precedence_ageFile :
    (∃ a s notes, CommandLine.read ["--port", "8000"] portVariables = .ok a ∧
      load .latin ageFile a = (.ok s, notes) ∧
      (s.port, s.logLevel, s.sid, s.alertMaxAge) = (8000, "debug", "PRD", some (.ofSeconds 3600)) ∧
      ∃ entries chosen more, fileEntries? ageFile a = some entries ∧
        (∀ k : Key, k.valueFrom? (k.source ["--port", "8000"] portVariables entries) =
          some (k.get chosen)) ∧
        chosen.validate .latin = .ok (s, more) ∧ s = chosen.withPlacement s) ∧
      ∃ a, CommandLine.read ["--alert-samples-max-age=soon"] portVariables = .ok a ∧
        (∃ read, (base ageFile a).1 = .ok read) ∧
        (load .latin ageFile a).1 = .error (.span "alert_samples_max_age" "expected number at 0") := by
  constructor
  · have hread : CommandLine.read ["--port", "8000"] portVariables =
        .ok { port := some 8000, logLevel := some "debug" } := by rfl
    have hvalues : ((load .latin ageFile { port := some 8000, logLevel := some "debug" }).1.toOption.map
        fun s => (s.port, s.logLevel, s.sid, s.alertMaxAge)) =
          some (8000, "debug", "PRD", some (.ofSeconds 3600)) := by decide +kernel
    cases hload : load .latin ageFile { port := some 8000, logLevel := some "debug" } with
    | mk outcome notes =>
      rw [hload] at hvalues
      cases outcome with
      | error e => cases hvalues
      | ok s =>
        exact ⟨_, s, notes, hread, hload, Option.some.inj hvalues,
          (load_by_precedence hread .latin ageFile).1 s notes hload⟩
  · have hread : CommandLine.read ["--alert-samples-max-age=soon"] portVariables =
        .ok { port := some 9000, logLevel := some "debug", alertMaxAge := some "soon" } := by rfl
    have hbad : readMaxAge "soon" =
        .error (.span "alert_samples_max_age" "expected number at 0") := by rfl
    have hfile : (base ageFile { port := some 9000, logLevel := some "debug",
                                 alertMaxAge := some "soon" }).1.toOption.isSome = true := by
      decide +kernel
    have hload := (load_by_precedence hread .latin ageFile).2.2 _ _ (by rfl) hbad
    cases hbase : (base ageFile
        { port := some 9000, logLevel := some "debug", alertMaxAge := some "soon" }).1 with
    | error e =>
      rw [hbase] at hfile
      cases hfile
    | ok read =>
      rw [hbase] at hload
      exact ⟨_, hread, ⟨read, hbase⟩, hload⟩

end SapMonitor.Settings
