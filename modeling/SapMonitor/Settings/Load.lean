import SapMonitor.Files.Tree
import SapMonitor.Settings.Arguments
import SapMonitor.Settings.Document
import SapMonitor.Settings.Validate

/-!
# Loading settings

Settings come from a file, from options and from defaults.  The file is the one
that an option names, or the first that is found in a few places; then the
options are applied and the settings are validated.
-/

namespace SapMonitor.Settings

open Files (Tree)

/-- The places where a settings file is looked for. -/
def searchPaths : List String :=
  ["./sap_system_exporter.yaml", "./config/sap_system_exporter.yaml",
    "./conf/sap_system_exporter.yaml", "/etc/sap_system_exporter.yaml"]

/-- How files are found and read. -/
structure FileSource where
  isFile : String → Bool
  read : String → Except Files.FileError String

/-- The files of a tree. -/
def FileSource.ofTree (t : Tree) : FileSource :=
  ⟨t.isFile, t.read⟩

/-- The settings of a file. -/
def ofFile (files : FileSource) (path : String) : Except SettingsError Settings :=
  match files.read path with
  | .error e => .error (.file path e.message)
  | .ok text =>
    match ofText? text with
    | none => .error (.document path)
    | some s => .ok s

/-- The settings before options, and a note if there is no file. -/
def base (files : FileSource) (a : Arguments) : Except SettingsError Settings × List Note :=
  match a.file.or (searchPaths.find? files.isFile) with
  | some path => (ofFile files path, [])
  | none =>
    (.ok {}, [⟨.warning, "No config file found, using defaults and environment variables"⟩])

/-- The validated settings, and the notes on the way. -/
def load (idna : Url.Idna) (files : FileSource) (a : Arguments) :
    Except SettingsError Settings × List Note :=
  let (s, notes) := base files a
  match s.bind fun s => s.apply a with
  | .error e => (.error e, notes)
  | .ok s =>
    match s.validate idna with
    | .error e => (.error e, notes)
    | .ok (s, more) => (.ok s, notes ++ more)

end SapMonitor.Settings
