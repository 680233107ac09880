import SapMonitor.Program
import SapMonitor.Url.Latin
import Std.Time.DateTime.Timestamp

/-!
# The command line program

The program takes its options from the command line and the environment and
then answers requests.  A request is a line of standard input, a method and an
address; its page goes to standard output, notes go to standard error.  At the
end of the input the program shuts down.
-/

namespace SapMonitor.Main

open Files (FileError)
open Program (Running)

/-! ## The surroundings -/

/-- Why a file could not be read. -/
def fileError : IO.Error → FileError
  | .inappropriateType _ code _ => if code = 20 then .notDirectory else .directory
  | _ => .missing

/-- The text of a file. -/
def readText (path : String) : IO (Except FileError String) := do
  try
    let bytes ← IO.FS.readBinFile path
    match String.fromUTF8? bytes with
    | some text => return .ok text
    | none => return .error .notText
  catch e => return .error (fileError e)

/-- The files that settings can come from. -/
def files (paths : List String) : IO Settings.FileSource := do
  let found ← paths.mapM fun path => do return (path, ← readText path)
  let read (path : String) : Except FileError String :=
    (found.lookup path).getD (.error .missing)
  let isFile (path : String) : Bool :=
    match read path with
    | .ok _ => true
    | .error e => e = .notText
  return { isFile := isFile, read := read }

/-- The environment as far as flags look at it. -/
def environment : IO (String → Option String) := do
  let names := CommandLine.Flag.all.filterMap CommandLine.Flag.envName?
  let found ← names.mapM fun name => do return (name, ← IO.getEnv name)
  return fun name => (found.lookup name).bind id

/-- The moments of readings of the clock. -/
def momentAt : IO (Nat → Time.Moment) := do
  let wall ← Std.Time.Timestamp.now
  let clock ← IO.monoNanosNow
  let start := wall.toNanosecondsSinceUnixEpoch.val - clock
  return fun n =>
    let nanos := start + (n : Int)
    ⟨nanos / Time.Moment.perSecond, (nanos % Time.Moment.perSecond).toNat⟩

/-! ## The running program -/

/-- What the program knows between requests. -/
structure State where
  memory : Memory
  world : World Unit
  /-- When chores were last done. -/
  tended : Nat

/-- Shows the notes of a world and takes them away. -/
def showNotes (level : Level) (w : World Unit) : IO (World Unit) := do
  for n in w.journal.reverse do
    if level.shows n.severity then IO.eprintln (n.severity.name ++ " " ++ n.text)
  return { w with journal := [] }

/-- Does some work at the present time. -/
def perform {α : Type} (level : Level) (work : Watch Unit α) (s : State) : IO (α × State) := do
  let ((a, memory), w) := work s.memory { s.world with clock := ← IO.monoNanosNow }
  return (a, { s with memory := memory, world := ← showNotes level w })

/-- Answers one line of input. -/
def answer (level : Level) (r : Running Unit) (line : String) (s : State) : IO State := do
  let (_, s) ← perform level (r.tend s.tended) s
  let s := { s with tended := s.world.clock }
  let method := line.toList.takeWhile (· ≠ ' ')
  let address := Text.strip Text.isBlank (line.toList.drop method.length)
  let (page, s) ← perform level
    (r.site.respond (String.ofList method) (String.ofList address)) s
  IO.println page.status.text
  IO.print page.text
  return s

/-- Answers lines until the input ends. -/
partial def serve (level : Level) (r : Running Unit) (input : IO.FS.Stream) (s : State) :
    IO State := do
  let line ← input.getLine
  if line.isEmpty then return s
  else serve level r input (← answer level r line s)

/-- Serves with settings until the input ends. -/
def run (settings : Settings) (notes : List Note) : IO Unit := do
  let level := (Level.configured settings.logLevel none).getD .trace
  let network := Http.Network.isolated Unit .latin
  let service := (Remote.Access.ofSettings settings).service network
  let momentAt ← momentAt
  -- the second reading of the clock is taken a little later than the first
  let readingsAt n _ : Scrape.Alerts.Readings := ⟨momentAt n, momentAt (n + 1)⟩
  let (r, more) := Program.assemble settings service network readingsAt
  let start ← IO.monoNanosNow
  let w ← showNotes level { clock := start, journal := (notes ++ more).reverse, peer := () }
  let s : State := { memory := .ofSystemId settings.sid, world := w, tended := start }
  let (_, s) ← perform level r.warmUp s
  let s ← serve level r (← IO.getStdin) s
  let _ ← perform level r.shutDown s

end SapMonitor.Main

/-- Runs the program with its arguments. -/
def main (args : List String) : IO UInt32 := do
  let environment ← SapMonitor.Main.environment
  let named := match SapMonitor.CommandLine.read args environment with
    | .ok a => a.file.toList
    | .error _ => []
  let files ← SapMonitor.Main.files (named ++ SapMonitor.Settings.searchPaths)
  let (beginning, notes) := SapMonitor.Program.begin .latin args environment files
  match beginning with
  | .stopped .help => IO.print SapMonitor.Program.helpText
  | .stopped .version => IO.print SapMonitor.Program.versionText
  | .stopped _ => IO.eprintln "error: the arguments cannot be used; see --help"
  | .refused fault => IO.eprintln (SapMonitor.Program.refusalLine fault)
  | .ready settings => SapMonitor.Main.run settings notes
  return beginning.exitCode.toUInt32
