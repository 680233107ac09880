import SapMonitor.CommandLine.Flag

/-!
# Reading the command line

Arguments are read from left to right.  A flag waits for its value in the next
argument; it takes effect, and its faults show, when the next known flag comes
or the arguments end, so an unknown argument in between is reported first.
Variables of the environment set the flags that are not given.

Main results:

- `read_nil`: without arguments and variables nothing is given.
-/

namespace SapMonitor.CommandLine

open Settings (Arguments)

/-! ## Single arguments -/

/-- What an argument is at first sight. -/
inductive Token where
  /-- Two hyphens alone, which end the flags. -/
  | separator
  /-- A name after two hyphens, and the value after a sign of equality. -/
  | long (name : String) (value : Option String)
  /-- Letters after one hyphen. -/
  | short (letters : List Char)
  | plain

/-- What an argument is. -/
def tokenOf (arg : String) : Token :=
  match arg.toList with
  | ['-', '-'] => .separator
  | '-' :: '-' :: cs =>
    match cs.dropWhile (· ≠ '=') with
    | [] => .long (String.ofList cs) none
    | _ :: value => .long (String.ofList (cs.takeWhile (· ≠ '='))) (some (String.ofList value))
  | '-' :: c :: cs => .short (c :: cs)
  | _ => .plain

/-! ## The state of reading -/

/-- What has been read: the flags that took effect, and the latest one, which
waits for its value or has it. -/
structure State where
  arguments : Arguments := {}
  latest : Option (Flag × Option String) := none

namespace State

/-- Lets a flag take effect. -/
def effect (a : Arguments) (f : Flag) (value : Option String) : Except Stop Arguments :=
  match value with
  | none => .error .invalidValue
  | some v => if f.isGiven a then .error .conflict else f.set a v

/-- Lets the latest flag take effect. -/
def settle (s : State) : Except Stop State :=
  match s.latest with
  | none => .ok s
  | some (f, value) => (effect s.arguments f value).map fun a => { arguments := a }

/-- Whether the latest flag waits for its value. -/
def waiting? (s : State) : Option Flag :=
  match s.latest with
  | some (f, none) => some f
  | _ => none

/-- A flag, with its value or waiting for it. -/
def flag (s : State) (f : Flag) (value : Option String) : Except Stop State := do
  let s ← s.settle
  match value with
  | some v => return { arguments := ← effect s.arguments f (some v) }
  | none => return { s with latest := some (f, none) }

/-- A flag without value, which stops everything. -/
def stop (s : State) (reason : Stop) : Except Stop State := do
  let _ ← s.settle
  throw reason

/-- An argument after two hyphens. -/
def long (s : State) (name : String) (value : Option String) : Except Stop State :=
  match Flag.ofLong? name with
  | some f => s.flag f value
  | none =>
    if name = "help" || name = "version" then
      if value.isSome then .error .tooManyValues
      else s.stop (if name = "help" then .help else .version)
    else .error .unknownArgument

/-- Arguments after one hyphen: what follows the letter of a flag is its value,
a sign of equality in between being dropped. -/
def short (s : State) : List Char → Except Stop State
  | 'h' :: _ => s.stop .help
  | 'V' :: _ => s.stop .version
  | 'c' :: [] => s.flag .file none
  | 'c' :: '=' :: value => s.flag .file (some (String.ofList value))
  | 'c' :: value => s.flag .file (some (String.ofList value))
  | _ => .error .unknownArgument

/-- An argument that is no flag. -/
def plain (s : State) (arg : String) : Except Stop State :=
  match s.waiting? with
  | some f => .ok { s with latest := some (f, some arg) }
  | none => .error .unknownArgument

end State

/-- Reads arguments from left to right. -/
def readFrom (s : State) : List String → Except Stop State
  | [] => s.settle
  | arg :: rest =>
    if (s.waiting?.map Flag.takesHyphens).getD false then do
      readFrom (← s.plain arg) rest
    else
      match tokenOf arg with
      | .separator => if rest.isEmpty then s.settle else .error .unknownArgument
      | .long name value => do readFrom (← s.long name value) rest
      | .short letters => do readFrom (← s.short letters) rest
      | .plain => do readFrom (← s.plain arg) rest

/-- Sets the flags that are not given from the environment. -/
def fillFrom (environment : String → Option String) (a : Arguments) :
    List Flag → Except Stop Arguments
  | [] => .ok a
  | f :: rest =>
    match f.envName?.bind environment with
    | some value =>
      if f.isGiven a then fillFrom environment a rest
      else
        match f.set a value with
        | .error e => .error e
        | .ok a => fillFrom environment a rest
    | none => fillFrom environment a rest

/-- The arguments of a command line in an environment. -/
def read (args : List String) (environment : String → Option String) :
    Except Stop Arguments := do
  let s ← readFrom {} args
  fillFrom environment s.arguments Flag.all

/-- Without arguments and variables nothing is given. -/
@[simp] theorem read_nil : read [] (fun _ => none) = .ok {} := by
  rfl

end SapMonitor.CommandLine
