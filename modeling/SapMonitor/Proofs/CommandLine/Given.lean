import SapMonitor.CommandLine.Reader
import SapMonitor.Proofs.Fallible

/-!
# What a command line gives

A command line that is accepted is a list of flags with their values, each flag at most once.
The arguments hold what these texts stand for; a flag that is not among them has the value of its
variable, if that is set.

Main results:

- `Flag.get_of_set`, `Flag.get_of_set_ne`: setting a flag sets its value and no other one.
- `setAll_of_readFrom`: reading a command line sets the flags that it gives.
- `get_of_read`: the value of every flag, by the command line and the environment.
-/

namespace SapMonitor.CommandLine

open Settings (Arguments)

/-! ## The values of flags -/

namespace Flag

/-- The values of a flag. -/
def Value : Flag → Type
  | port => Nat
  | tlsSkipVerify => Bool
  | _ => String

/-- The value of a flag, if it is given. -/
def get (a : Arguments) : (f : Flag) → Option f.Value
  | port => a.port
  | address => a.address
  | logLevel => a.logLevel
  | sapControlUrl => a.sapControlUrl
  | hostDomain => a.hostDomain
  | user => a.user
  | password => a.password
  | tlsSkipVerify => a.tlsSkipVerify
  | alertMaxAge => a.alertMaxAge
  | file => a.file

/-- The arguments with the value of a flag in place. -/
def put (a : Arguments) : (f : Flag) → f.Value → Arguments
  | port, v => { a with port := some v }
  | address, v => { a with address := some v }
  | logLevel, v => { a with logLevel := some v }
  | sapControlUrl, v => { a with sapControlUrl := some v }
  | hostDomain, v => { a with hostDomain := some v }
  | user, v => { a with user := some v }
  | password, v => { a with password := some v }
  | tlsSkipVerify, v => { a with tlsSkipVerify := some v }
  | alertMaxAge, v => { a with alertMaxAge := some v }
  | file, v => { a with file := some v }

/-- The value that a text stands for. -/
def read (text : String) : (f : Flag) → Except Stop f.Value
  | port => readPort text
  | address => .ok text
  | logLevel => .ok text
  | sapControlUrl => .ok text
  | hostDomain => .ok text
  | user => .ok text
  | password => .ok text
  | tlsSkipVerify => readBool text
  | alertMaxAge => .ok text
  | file => readPath text

theorem isGiven_eq (a : Arguments) (f : Flag) : f.isGiven a = (f.get a).isSome := by
  cases f <;> rfl

/-- No flag is given at first. -/
theorem get_empty (f : Flag) : f.get {} = none := by
  cases f <;> rfl

/-- Every flag is among all flags. -/
theorem mem_all (f : Flag) : f ∈ all := by
  cases f <;> decide

theorem set_eq (a : Arguments) (text : String) (f : Flag) :
    f.set a text = (f.read text).map (f.put a) := by
  cases f <;> rfl

@[simp] theorem get_put (a : Arguments) (f : Flag) (v : f.Value) : f.get (f.put a v) = some v := by
  cases f <;> rfl

theorem get_put_of_ne {f g : Flag} (h : g ≠ f) (a : Arguments) (v : f.Value) :
    g.get (f.put a v) = g.get a := by
  cases f <;> cases g <;> first | rfl | exact absurd rfl h

variable {a a' : Arguments} {text : String} {f g : Flag}

/-- A flag that is set has the value that its text stands for. -/
theorem get_of_set (h : f.set a text = .ok a') :
    ∃ v, f.read text = .ok v ∧ f.get a' = some v := by
  rw [set_eq, map_eq_ok_iff] at h
  obtain ⟨v, hv, rfl⟩ := h
  exact ⟨v, hv, get_put a f v⟩

/-- Setting a flag leaves all others as they are. -/
theorem get_of_set_ne (h : f.set a text = .ok a') (hne : g ≠ f) : g.get a' = g.get a := by
  rw [set_eq, map_eq_ok_iff] at h
  obtain ⟨v, -, rfl⟩ := h
  exact get_put_of_ne hne a v

/-- Setting a flag that is not given leaves those that are given as they are. -/
theorem get_of_set_new (h : f.set a text = .ok a') (hnew : f.get a = none) {v : g.Value}
    (hv : g.get a = some v) : g.get a' = some v := by
  have hne : g ≠ f := by
    rintro rfl
    rw [hv] at hnew
    cases hnew
  rw [get_of_set_ne h hne, hv]

end Flag

/-! ## Flags that are set one after the other -/

/-- Lets flags with values take effect, each of them once. -/
def setAll (a : Arguments) : List (Flag × String) → Except Stop Arguments
  | [] => .ok a
  | (f, text) :: rest => State.effect a f (some text) >>= fun a => setAll a rest

theorem setAll_append (a : Arguments) (xs ys : List (Flag × String)) :
    setAll a (xs ++ ys) = setAll a xs >>= fun a => setAll a ys := by
  induction xs generalizing a with
  | nil => rfl
  | cons x xs ih =>
    obtain ⟨f, text⟩ := x
    simp only [List.cons_append, setAll, ih]
    cases State.effect a f (some text) <;> rfl

section SetAll

variable {a a' : Arguments} {text : String} {pairs : List (Flag × String)} {f : Flag}

/-- A flag takes effect only if it was not given before. -/
theorem effect_eq_ok_iff :
    State.effect a f (some text) = .ok a' ↔ f.get a = none ∧ f.set a text = .ok a' := by
  rw [State.effect, Flag.isGiven_eq]
  cases f.get a <;> simp

/-- A flag that is given stays as it is. -/
theorem get_of_setAll_given {v : f.Value} (h : setAll a pairs = .ok a') (hv : f.get a = some v) :
    f.get a' = some v := by
  induction pairs generalizing a with
  | nil =>
    cases h
    exact hv
  | cons pair rest ih =>
    obtain ⟨g, text⟩ := pair
    obtain ⟨b, hb, hrest⟩ := bind_eq_ok_iff.1 h
    obtain ⟨hnew, hset⟩ := effect_eq_ok_iff.1 hb
    exact ih hrest (Flag.get_of_set_new hset hnew hv)

/-- A flag that is not given gets what its text stands for, if it has one. -/
theorem get_of_setAll (h : setAll a pairs = .ok a') (hnone : f.get a = none) :
    (pairs.lookup f).mapM f.read = .ok (f.get a') := by
  induction pairs generalizing a with
  | nil =>
    cases h
    rw [hnone]
    rfl
  | cons pair rest ih =>
    obtain ⟨g, text⟩ := pair
    obtain ⟨b, hb, hrest⟩ := bind_eq_ok_iff.1 h
    obtain ⟨-, hset⟩ := effect_eq_ok_iff.1 hb
    by_cases hfg : f = g
    · subst hfg
      obtain ⟨v, hv, hget⟩ := Flag.get_of_set hset
      rw [List.lookup_cons_self, Option.mapM_some, hv, get_of_setAll_given hrest hget]
      rfl
    · have hskip : List.lookup f ((g, text) :: rest) = rest.lookup f := by
        rw [List.lookup_cons, beq_false_of_ne hfg]
      rw [hskip]
      refine ih hrest ?_
      rw [Flag.get_of_set_ne hset hfg, hnone]

end SetAll

/-! ## Flags of a command line -/

/-- The flag in the letters after one hyphen, and the value among them. -/
def lettersFlag? : List Char → Option (Flag × Option String)
  | ['c'] => some (.file, none)
  | 'c' :: '=' :: value => some (.file, some (String.ofList value))
  | 'c' :: value => some (.file, some (String.ofList value))
  | _ => none

/-- The flag in an argument, and the value in it. -/
def argumentFlag? (arg : String) : Option (Flag × Option String) :=
  match tokenOf arg with
  | .long name value => (Flag.ofLong? name).map (·, value)
  | .short letters => lettersFlag? letters
  | _ => none

/-- The flags of a command line with their values: a value is in the argument of its flag, or it
is the next argument. -/
def given : List String → List (Flag × String)
  | [] => []
  | arg :: rest =>
    match argumentFlag? arg, rest with
    | some (f, some value), rest => (f, value) :: given rest
    | some (f, none), value :: rest => (f, value) :: given rest
    | _, _ => []

section Given

variable {arg value : String} {f : Flag}

theorem given_of_value (h : argumentFlag? arg = some (f, some value)) (rest : List String) :
    given (arg :: rest) = (f, value) :: given rest := by
  rw [given.eq_def]
  simp only [h]

theorem given_of_next (h : argumentFlag? arg = some (f, none)) (value : String)
    (rest : List String) : given (arg :: value :: rest) = (f, value) :: given rest := by
  rw [given.eq_def]
  simp only [h]

theorem given_of_last (h : argumentFlag? arg = some (f, none)) : given [arg] = [] := by
  rw [given.eq_def]
  simp only [h]

theorem given_of_none (h : argumentFlag? arg = none) (rest : List String) :
    given (arg :: rest) = [] := by
  rw [given.eq_def]
  simp only [h]

end Given

namespace State

variable {s s' : State} {f : Flag} {arg : String} {value : Option String}

/-- The latest flag, if it has its value. -/
def held (s : State) : List (Flag × String) :=
  match s.latest with
  | some (f, some value) => [(f, value)]
  | _ => []

/-- The flags that are still to take effect, if these arguments follow. -/
def due (s : State) (args : List String) : List (Flag × String) :=
  match s.waiting?, args with
  | some f, value :: rest => (f, value) :: given rest
  | some _, [] => []
  | none, args => s.held ++ given args

theorem due_of_waiting (h : s.waiting? = some f) (value : String) (rest : List String) :
    s.due (value :: rest) = (f, value) :: given rest := by
  simp only [due, h]

theorem due_of_not_waiting (h : s.waiting? = none) (args : List String) :
    s.due args = s.held ++ given args := by
  simp only [due, h]

/-- The latest flag takes effect once it has its value. -/
theorem settle_eq_ok (h : s.settle = .ok s') :
    s.waiting? = none ∧ ∃ a, setAll s.arguments s.held = .ok a ∧ s' = { arguments := a } := by
  obtain ⟨a, latest⟩ := s
  match latest with
  | none =>
    cases h
    exact ⟨rfl, a, rfl, rfl⟩
  | some (f, none) => cases h
  | some (f, some value) =>
    obtain ⟨b, hb, rfl⟩ := map_eq_ok_iff.1 h
    refine ⟨rfl, b, ?_, rfl⟩
    simp only [held, setAll, hb]
    rfl

/-- A plain argument is the value of the flag that waits for it. -/
theorem due_plain (h : s.plain arg = .ok s') (rest : List String) :
    setAll s.arguments (s.due (arg :: rest)) = setAll s'.arguments (s'.due rest) := by
  rw [plain] at h
  cases hwait : s.waiting? with
  | none =>
    rw [hwait] at h
    cases h
  | some f =>
    rw [hwait] at h
    cases h
    rw [due_of_waiting hwait]
    rfl

/-- A flag takes effect after the latest one, with its value or the next argument. -/
theorem due_flag (h : s.flag f value = .ok s') (harg : argumentFlag? arg = some (f, value))
    (rest : List String) :
    setAll s.arguments (s.due (arg :: rest)) = setAll s'.arguments (s'.due rest) := by
  obtain ⟨settled, hsettle, h⟩ := bind_eq_ok_iff.1 h
  obtain ⟨hwait, a, ha, rfl⟩ := settle_eq_ok hsettle
  rw [due_of_not_waiting hwait, setAll_append, ha]
  change setAll a (given (arg :: rest)) = _
  cases value with
  | some text =>
    obtain ⟨b, hb, hs'⟩ := bind_eq_ok_iff.1 h
    cases hs'
    rw [given_of_value harg, setAll, hb]
    rfl
  | none =>
    cases h
    cases rest with
    | nil =>
      rw [given_of_last harg]
      rfl
    | cons text rest =>
      rw [given_of_next harg]
      rfl

/-- A flag without value accepts nothing. -/
theorem stop_ne_ok (reason : Stop) : s.stop reason ≠ .ok s' := by
  intro h
  obtain ⟨_, -, h⟩ := bind_eq_ok_iff.1 h
  cases h

/-- A name after two hyphens that is accepted is one of a flag. -/
theorem long_eq_ok {name : String} (h : s.long name value = .ok s') :
    ∃ f, Flag.ofLong? name = some f ∧ s.flag f value = .ok s' := by
  rw [long] at h
  cases hf : Flag.ofLong? name with
  | some f =>
    rw [hf] at h
    exact ⟨f, rfl, h⟩
  | none =>
    simp only [hf] at h
    split at h
    · split at h
      · cases h
      · exact absurd h (stop_ne_ok _)
    · cases h

/-- Letters after one hyphen that are accepted are those of a flag. -/
theorem short_eq_ok {letters : List Char} (h : s.short letters = .ok s') :
    ∃ f value, lettersFlag? letters = some (f, value) ∧ s.flag f value = .ok s' := by
  unfold short at h
  split at h
  · exact absurd h (stop_ne_ok _)
  · exact absurd h (stop_ne_ok _)
  · exact ⟨.file, none, rfl, h⟩
  · exact ⟨.file, some _, rfl, h⟩
  · rename_i value hnil heq
    refine ⟨.file, some (String.ofList value), ?_, h⟩
    rw [lettersFlag?]
    · exact hnil
    · exact heq
  · cases h

end State

/-- Reading a command line sets the flags that it gives, in their order. -/
theorem setAll_of_readFrom {s s' : State} {args : List String} (h : readFrom s args = .ok s') :
    setAll s.arguments (s.due args) = .ok s'.arguments := by
  -- Each argument keeps the outcome of what is due: it takes effect, or becomes due.
  induction args generalizing s with
  | nil =>
    obtain ⟨hwait, a, ha, rfl⟩ := State.settle_eq_ok h
    rw [State.due_of_not_waiting hwait, given, List.append_nil, ha]
  | cons arg rest ih =>
    rw [readFrom] at h
    split at h
    · obtain ⟨next, hnext, h⟩ := bind_eq_ok_iff.1 h
      rw [State.due_plain hnext, ih h]
    · cases htoken : tokenOf arg with
      | separator =>
        simp only [htoken] at h
        have harg : argumentFlag? arg = none := by
          rw [argumentFlag?, htoken]
        split at h
        · obtain ⟨hwait, a, ha, rfl⟩ := State.settle_eq_ok h
          rw [State.due_of_not_waiting hwait, given_of_none harg, List.append_nil, ha]
        · cases h
      | long name value =>
        simp only [htoken] at h
        obtain ⟨next, hnext, h⟩ := bind_eq_ok_iff.1 h
        obtain ⟨f, hf, hflag⟩ := State.long_eq_ok hnext
        have harg : argumentFlag? arg = some (f, value) := by
          rw [argumentFlag?, htoken]
          simp only [hf, Option.map_some]
        rw [State.due_flag hflag harg, ih h]
      | short letters =>
        simp only [htoken] at h
        obtain ⟨next, hnext, h⟩ := bind_eq_ok_iff.1 h
        obtain ⟨f, value, hf, hflag⟩ := State.short_eq_ok hnext
        have harg : argumentFlag? arg = some (f, value) := by
          rw [argumentFlag?, htoken]
          exact hf
        rw [State.due_flag hflag harg, ih h]
      | plain =>
        simp only [htoken] at h
        obtain ⟨next, hnext, h⟩ := bind_eq_ok_iff.1 h
        rw [State.due_plain hnext, ih h]

example : given ["--port", "80", "-cfile", "--address=", "--alert-samples-max-age", "--port"] =
    [(.port, "80"), (.file, "file"), (.address, ""), (.alertMaxAge, "--port")] := by
  rfl

/-! ## Variables of the environment -/

section Environment

variable {environment : String → Option String} {a a' : Arguments} {f g : Flag}
  {flags : List Flag}

/-- What the environment does about one flag: it sets a flag with a variable that is not given. -/
theorem fillFrom_cons (h : fillFrom environment a (g :: flags) = .ok a') :
    ∃ b, fillFrom environment b flags = .ok a' ∧
      (b = a ∧ (g.get a ≠ none ∨ g.envName?.bind environment = none) ∨
        ∃ text, g.envName?.bind environment = some text ∧ g.get a = none ∧
          g.set a text = .ok b) := by
  rw [fillFrom] at h
  cases hvariable : g.envName?.bind environment with
  | none =>
    simp only [hvariable] at h
    exact ⟨a, h, .inl ⟨rfl, .inr rfl⟩⟩
  | some text =>
    simp only [hvariable, Flag.isGiven_eq] at h
    cases hget : g.get a with
    | some v =>
      simp only [hget, Option.isSome_some, if_true] at h
      exact ⟨a, h, .inl ⟨rfl, .inl (Option.some_ne_none v)⟩⟩
    | none =>
      simp only [hget, Option.isSome_none, Bool.false_eq_true, if_false] at h
      cases hset : g.set a text with
      | error e =>
        rw [hset] at h
        cases h
      | ok b =>
        rw [hset] at h
        exact ⟨b, h, .inr ⟨text, rfl, rfl, hset⟩⟩

/-- The environment leaves a flag that is given as it is. -/
theorem get_of_fillFrom_given {v : f.Value} (h : fillFrom environment a flags = .ok a')
    (hv : f.get a = some v) : f.get a' = some v := by
  induction flags generalizing a with
  | nil =>
    cases h
    exact hv
  | cons g rest ih =>
    obtain ⟨b, hrest, ⟨rfl, -⟩ | ⟨text, -, hnew, hset⟩⟩ := fillFrom_cons h
    · exact ih hrest hv
    · exact ih hrest (Flag.get_of_set_new hset hnew hv)

/-- A flag that is not given gets what its variable stands for, if that is set. -/
theorem get_of_fillFrom (h : fillFrom environment a flags = .ok a') (hnone : f.get a = none) :
    (if f ∈ flags then f.envName?.bind environment else none).mapM f.read = .ok (f.get a') := by
  induction flags generalizing a with
  | nil =>
    cases h
    rw [hnone]
    rfl
  | cons g rest ih =>
    obtain ⟨b, hrest, hstep⟩ := fillFrom_cons h
    by_cases hfg : f = g
    · subst hfg
      rw [if_pos List.mem_cons_self]
      rcases hstep with ⟨rfl, hgiven | hvariable⟩ | ⟨text, hvariable, -, hset⟩
      · exact absurd hnone hgiven
      · -- A flag without variable has none when it comes up again either.
        have hlater := ih hrest hnone
        rwa [hvariable, ite_self, ← hvariable] at hlater
      · obtain ⟨v, hv, hget⟩ := Flag.get_of_set hset
        rw [hvariable, Option.mapM_some, hv, get_of_fillFrom_given hrest hget]
        rfl
    · have hmem : f ∈ g :: rest ↔ f ∈ rest := by
        rw [List.mem_cons, or_iff_right hfg]
      simp only [hmem]
      refine ih hrest ?_
      rcases hstep with ⟨rfl, -⟩ | ⟨_, -, -, hset⟩
      · exact hnone
      · rw [Flag.get_of_set_ne hset hfg, hnone]

end Environment

/-- The text of a flag: the one that the command line gives, or else its variable. -/
def Flag.text? (args : List String) (environment : String → Option String) (f : Flag) :
    Option String :=
  ((given args).lookup f).or (f.envName?.bind environment)

/-- Every flag has the value that its text stands for, and no value without a text. -/
theorem get_of_read {args : List String} {environment : String → Option String} {a : Arguments}
    (h : read args environment = .ok a) (f : Flag) :
    (f.text? args environment).mapM f.read = .ok (f.get a) := by
  obtain ⟨s, hs, hfill⟩ := bind_eq_ok_iff.1 h
  have hset := get_of_setAll (setAll_of_readFrom hs) f.get_empty
  change ((given args).lookup f).mapM f.read = .ok (f.get s.arguments) at hset
  rw [Flag.text?]
  cases hgiven : (given args).lookup f with
  | some text =>
    rw [hgiven, Option.mapM_some] at hset
    obtain ⟨v, hv, hget⟩ := map_eq_ok_iff.1 hset
    rw [Option.some_or, Option.mapM_some, hv, get_of_fillFrom_given hfill hget.symm]
    rfl
  | none =>
    rw [hgiven] at hset
    have hnone : f.get s.arguments = none := (Except.ok.inj hset).symm
    have hfilled := get_of_fillFrom hfill hnone
    rwa [if_pos f.mem_all] at hfilled

end SapMonitor.CommandLine
