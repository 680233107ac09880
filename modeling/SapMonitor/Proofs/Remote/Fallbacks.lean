import Mathlib.Data.List.Nodup
import SapMonitor.Proofs.Monitor.Outgoing
import SapMonitor.Remote.Soap

/-!
# The list of instances at several access points

The list of instances is asked for at one access point after the other, until one of them names
an instance.  Those that name none leave a reason each, and if all do, the search fails with these
reasons.  An attempt that fails when the deadline has passed is the last one.

Main results:

- `exists_search`: what the attempts of a run can be, one step at a time.
- `Search.sought`: what follows for the result of the run.
- `Makes.sent`: what attempts send over a network.
- `instances_sought`: how the service searches for instances, and what it sends.
-/

namespace SapMonitor.Remote.Access

open Http (Network)

variable {σ : Type}

/-! ## Attempts -/

/-- An attempt to get the list of instances from a URL, and the world that it leaves. -/
structure Attempt (σ : Type) where
  url : String
  outcome : Outcome (List Instance)
  after : World σ

namespace Attempt

/-- The attempt names an instance. -/
def Names (x : Attempt σ) : Prop :=
  ∃ i is, x.outcome = .ok (i :: is)

/-- The attempt failed, and the deadline had passed by then. -/
def Late (d : Deadline) (x : Attempt σ) : Prop :=
  (∃ e, x.outcome = .error e) ∧ d.hasPassed x.after.clock = true

/-- Why an attempt names no instance. -/
def reason (x : Attempt σ) : String :=
  match x.outcome with
  | .ok _ => "no instances found at " ++ x.url
  | .error e => e.message

end Attempt

/-- Attempts that are made one after the other, from a world to another. -/
inductive Makes (ask : String → Work σ (Outcome (List Instance))) :
    World σ → List (Attempt σ) → World σ → Prop
  | nil (w : World σ) : Makes ask w [] w
  | cons {x : Attempt σ} {rest : List (Attempt σ)} {w w' : World σ}
      (h : ask x.url w = (x.outcome, x.after)) (hrest : Makes ask x.after rest w') :
      Makes ask w (x :: rest) w'

/-- The attempts of a search over URLs, and its result, given the reasons of earlier ones: what
the search can do at each URL. -/
inductive Search (d : Deadline) : List String → List String → List (Attempt σ) →
    Outcome (List Instance) → Prop
  | ended (reasons : List String) : Search d reasons [] [] (.error (exhausted reasons))
  | named {reasons rest : List String} {x : Attempt σ} {i : Instance} {is : List Instance}
      (h : x.outcome = .ok (i :: is)) : Search d reasons (x.url :: rest) [x] (.ok (i :: is))
  | late {reasons rest : List String} {x : Attempt σ} (h : x.Late d) :
      Search d reasons (x.url :: rest) [x] (.error (exhausted (reasons ++ [x.reason])))
  | next {reasons rest : List String} {x : Attempt σ} {xs : List (Attempt σ)}
      {result : Outcome (List Instance)} (hname : ¬x.Names) (hlate : ¬x.Late d)
      (hrest : Search d (reasons ++ [x.reason]) rest xs result) :
      Search d reasons (x.url :: rest) (x :: xs) result

section Steps

variable {ask : String → Work σ (Outcome (List Instance))} {d : Deadline} {x : Attempt σ}
  {w : World σ}

/-- A search ends with an attempt that names an instance. -/
theorem tryEach_of_names (hask : ask x.url w = (x.outcome, x.after)) {i : Instance}
    {is : List Instance} (hx : x.outcome = .ok (i :: is)) (reasons rest : List String) :
    tryEach ask d reasons (x.url :: rest) w = (.ok (i :: is), x.after) := by
  rw [hx] at hask
  simp only [tryEach, Work.bind_run, hask]
  rfl

/-- A search ends with an attempt that fails when the deadline has passed. -/
theorem tryEach_of_late (hask : ask x.url w = (x.outcome, x.after)) (hx : x.Late d)
    (reasons rest : List String) : tryEach ask d reasons (x.url :: rest) w =
      (.error (exhausted (reasons ++ [x.reason])), x.after) := by
  obtain ⟨⟨e, he⟩, hpassed⟩ := hx
  rw [he] at hask
  simp only [tryEach, Work.bind_run, hask, Work.now_run, hpassed, if_true, Attempt.reason, he]
  rfl

/-- A search goes on after any other attempt, with a reason more. -/
theorem tryEach_of_next (hask : ask x.url w = (x.outcome, x.after)) (hname : ¬x.Names)
    (hlate : ¬x.Late d) (reasons rest : List String) :
    tryEach ask d reasons (x.url :: rest) w =
      tryEach ask d (reasons ++ [x.reason]) rest x.after := by
  cases hx : x.outcome with
  | error e =>
    have hpassed : ¬d.hasPassed x.after.clock = true := fun h => hlate ⟨⟨e, hx⟩, h⟩
    rw [hx] at hask
    simp only [tryEach, Work.bind_run, hask, Work.now_run, hpassed, Attempt.reason, hx]
    rfl
  | ok instances =>
    cases instances with
    | nil =>
      rw [hx] at hask
      simp only [tryEach, Work.bind_run, hask, Attempt.reason, hx]
    | cons i is => exact absurd ⟨i, is, hx⟩ hname

end Steps

/-- Every run is a search: it makes attempts, and its result is theirs. -/
theorem exists_search (ask : String → Work σ (Outcome (List Instance))) (d : Deadline)
    (reasons urls : List String) (w : World σ) :
    ∃ attempts, Makes ask w attempts (tryEach ask d reasons urls w).2 ∧
      Search d reasons urls attempts (tryEach ask d reasons urls w).1 := by
  induction urls generalizing reasons w with
  | nil => exact ⟨[], .nil w, .ended reasons⟩
  | cons url rest ih =>
    -- The attempt at the first URL decides whether the search ends with it.
    let x : Attempt σ := ⟨url, (ask url w).1, (ask url w).2⟩
    have hask : ask x.url w = (x.outcome, x.after) := rfl
    by_cases hname : x.Names
    · obtain ⟨i, is, hx⟩ := hname
      rw [tryEach_of_names hask hx]
      exact ⟨[x], .cons hask (.nil x.after), .named hx⟩
    · by_cases hlate : x.Late d
      · rw [tryEach_of_late hask hlate]
        exact ⟨[x], .cons hask (.nil x.after), .late hlate⟩
      · rw [tryEach_of_next hask hname hlate]
        obtain ⟨attempts, hmakes, hsearch⟩ := ih (reasons ++ [x.reason]) x.after
        exact ⟨x :: attempts, .cons hask hmakes, .next hname hlate hsearch⟩

/-! ## Searches -/

/-- What a search over URLs finds, with the attempts that it makes. -/
structure Sought (d : Deadline) (urls : List String) (attempts : List (Attempt σ))
    (result : Outcome (List Instance)) : Prop where
  /-- The first URL is asked in any case. -/
  begun : (attempts.map Attempt.url).head? = urls.head?
  /-- The URLs are asked in their order, and none is passed over. -/
  inOrder : attempts.map Attempt.url <+: urls
  /-- A list is found exactly if an attempt names an instance. -/
  found_iff : (∃ found, result = .ok found) ↔ ∃ x ∈ attempts, x.Names
  /-- It is the answer of the first attempt that names an instance, and no attempt follows. -/
  first : ∀ found, result = .ok found → found ≠ [] ∧ ∃ before last,
    attempts = before ++ [last] ∧ last.outcome = .ok found ∧ ∀ x ∈ before, ¬x.Names
  /-- Without a list a URL is left out only after an attempt that failed past the deadline. -/
  left : (∀ x ∈ attempts, ¬x.Names) → attempts.map Attempt.url ≠ urls → ∃ x ∈ attempts, x.Late d
  /-- No attempt follows one that failed past the deadline. -/
  stopped : ∀ before x after, attempts = before ++ x :: after → x.Late d → after = []
  /-- Without a list there is a reason for each attempt, in their order. -/
  reasons : (∀ found, result ≠ .ok found) →
    result = .error (exhausted (attempts.map Attempt.reason))

namespace Search

variable {d : Deadline} {reasons urls : List String} {attempts : List (Attempt σ)}
  {result : Outcome (List Instance)}

/-- The first URL is asked in any case. -/
theorem begun (h : Search d reasons urls attempts result) :
    (attempts.map Attempt.url).head? = urls.head? := by
  cases h <;> rfl

theorem inOrder (h : Search d reasons urls attempts result) :
    attempts.map Attempt.url <+: urls := by
  induction h with
  | ended => exact List.nil_prefix
  | named => exact ⟨_, rfl⟩
  | late => exact ⟨_, rfl⟩
  | next _ _ _ ih =>
    rw [List.map_cons, List.cons_prefix_cons]
    exact ⟨rfl, ih⟩

/-- A list that is found is the answer of the first attempt that names an instance. -/
theorem first (h : Search d reasons urls attempts result) {found : List Instance}
    (hfound : result = .ok found) : found ≠ [] ∧ ∃ before last,
      attempts = before ++ [last] ∧ last.outcome = .ok found ∧ ∀ x ∈ before, ¬x.Names := by
  induction h with
  | ended => cases hfound
  | late => cases hfound
  | @named _ _ x i is hx =>
    cases hfound
    exact ⟨List.cons_ne_nil i is, [], x, rfl, hx, fun _ hy => nomatch hy⟩
  | @next _ _ x _ _ hname _ _ ih =>
    obtain ⟨hne, before, last, rfl, hlast, hbefore⟩ := ih hfound
    refine ⟨hne, x :: before, last, rfl, hlast, ?_⟩
    intro y hy
    rcases List.mem_cons.1 hy with rfl | hy
    · exact hname
    · exact hbefore y hy

/-- A list is found if an attempt names an instance. -/
theorem found_of_names (h : Search d reasons urls attempts result) {x : Attempt σ}
    (hx : x ∈ attempts) (hnames : x.Names) : ∃ found, result = .ok found := by
  induction h with
  | ended => cases hx
  | named => exact ⟨_, rfl⟩
  | late hlate =>
    obtain rfl := List.mem_singleton.1 hx
    obtain ⟨⟨e, he⟩, -⟩ := hlate
    obtain ⟨i, is, his⟩ := hnames
    rw [he] at his
    cases his
  | next hname _ _ ih =>
    rcases List.mem_cons.1 hx with rfl | hx
    · exact absurd hnames hname
    · exact ih hx

/-- A search without a list has failed, for the reasons of its attempts. -/
theorem reasons_of_not_found (h : Search d reasons urls attempts result)
    (hnone : ∀ x ∈ attempts, ¬x.Names) :
    result = .error (exhausted (reasons ++ attempts.map Attempt.reason)) := by
  induction h with
  | ended => rw [List.map_nil, List.append_nil]
  | @named _ _ x i is hx => exact absurd ⟨i, is, hx⟩ (hnone x List.mem_cons_self)
  | late => rfl
  | next _ _ _ ih =>
    rw [ih fun y hy => hnone y (List.mem_cons_of_mem _ hy), List.append_assoc, List.map_cons,
      List.singleton_append]

/-- A URL is left out only after an attempt that failed past the deadline. -/
theorem left (h : Search d reasons urls attempts result) (hnone : ∀ x ∈ attempts, ¬x.Names)
    (hne : attempts.map Attempt.url ≠ urls) : ∃ x ∈ attempts, x.Late d := by
  induction h with
  | ended => exact absurd rfl hne
  | @named _ _ x i is hx => exact absurd ⟨i, is, hx⟩ (hnone x List.mem_cons_self)
  | @late _ _ x hx => exact ⟨x, List.mem_cons_self, hx⟩
  | next _ _ _ ih =>
    have hrest := ih fun y hy => hnone y (List.mem_cons_of_mem _ hy)
    obtain ⟨y, hy, hlate⟩ := hrest fun heq => hne (by rw [List.map_cons, heq])
    exact ⟨y, List.mem_cons_of_mem _ hy, hlate⟩

/-- No attempt follows one that failed past the deadline. -/
theorem stopped (h : Search d reasons urls attempts result) {before after : List (Attempt σ)}
    {x : Attempt σ} (hsplit : attempts = before ++ x :: after) (hx : x.Late d) : after = [] := by
  induction h generalizing before with
  | ended => simp at hsplit
  | named =>
    cases before with
    | nil => exact (List.cons.inj hsplit).2.symm
    | cons y before => simp at hsplit
  | late =>
    cases before with
    | nil => exact (List.cons.inj hsplit).2.symm
    | cons y before => simp at hsplit
  | next _ hlate _ ih =>
    cases before with
    | nil =>
      obtain rfl := (List.cons.inj hsplit).1
      exact absurd hx hlate
    | cons y before => exact ih (List.cons.inj hsplit).2

/-- What a search finds that has no reasons at first. -/
theorem sought (h : Search d [] urls attempts result) : Sought d urls attempts result where
  begun := h.begun
  inOrder := h.inOrder
  found_iff := by
    constructor
    · rintro ⟨found, hfound⟩
      obtain ⟨hne, before, last, rfl, hlast, -⟩ := h.first hfound
      obtain ⟨i, is, rfl⟩ := List.exists_cons_of_ne_nil hne
      exact ⟨last, List.mem_append_right _ List.mem_cons_self, i, is, hlast⟩
    · rintro ⟨x, hx, hnames⟩
      exact h.found_of_names hx hnames
  first _ hfound := h.first hfound
  left := h.left
  stopped _ _ _ hsplit hx := h.stopped hsplit hx
  reasons := by
    intro hnone
    refine h.reasons_of_not_found fun x hx hnames => ?_
    obtain ⟨found, hfound⟩ := h.found_of_names hx hnames
    exact hnone found hfound

end Search

/-! ## Requests -/

/-- A call is over when its post is. -/
theorem world_call {α : Type} (a : Access) (n : Network σ) (d : Deadline) (url : String)
    (o : Operation) (params : List (String × String)) (read : Markup.Element → Outcome α)
    (w : World σ) :
    (a.call n d url o params read w).2 =
      (n.post (a.post url o params (d.remaining w.clock)) w).2 := by
  rw [call, Work.bind_run, Work.now_run, Work.bind_run]
  cases (n.post (a.post url o params (d.remaining w.clock)) w).1 with
  | error reason => rfl
  | ok answer =>
    simp only
    cases answer.body <;> rfl

/-- Asks for the list of instances at a URL. -/
def askInstances (a : Access) (n : Network σ) (d : Deadline) (url : String) :
    Work σ (Outcome (List Instance)) :=
  a.call n d url .systemInstances [("timeout", "0")] Remote.instances

/-- The requests for the list of instances at a URL. -/
def instanceRequests (a : Access) (idna : Url.Idna) (url : String) : List Http.Request :=
  (a.post url .systemInstances [("timeout", "0")] .zero).requests idna

/-- Attempts to get the list of instances send its requests to their URLs, and nothing else. -/
theorem Makes.sent {a : Access} {n : Network σ} {d : Deadline}
    {attempts : List (Attempt (σ × List Sent))} {w w' : World (σ × List Sent)}
    (h : Makes (a.askInstances n.recorded d) w attempts w') :
    w'.sent = w.sent ++ (attempts.flatMap fun x => a.instanceRequests n.idna x.url).map .request := by
  induction h with
  | nil => exact (List.append_nil _).symm
  | @cons x rest w w' hask _ ih =>
    have hx : x.after.sent = w.sent ++ (a.instanceRequests n.idna x.url).map .request := by
      have hafter : (a.askInstances n.recorded d x.url w).2 = x.after := congrArg Prod.snd hask
      rw [← hafter, askInstances, world_call, Network.sent_post]
      rfl
    rw [ih, hx, List.flatMap_cons, List.map_append, List.append_assoc]

/-! ## The service -/

/-- The URLs at which the list of instances can be asked for. -/
def instanceUrls (a : Access) : List String :=
  a.accessPoints.map (a.base ++ ·)

/-- No URL is asked twice. -/
theorem nodup_instanceUrls (a : Access) : a.instanceUrls.Nodup := by
  have hwellKnown : wellKnown.Nodup := by decide
  have hpoints : a.accessPoints.Nodup := by
    refine List.nodup_cons.2 ⟨?_, hwellKnown.filter _⟩
    intro h
    simpa using (List.mem_filter.1 h).2
  exact hpoints.map fun _ _ h => (String.append_right_inj a.base).1 h

/-- The service asks for the list of instances at the access point of the settings, and then at
the well-known ones beside it, each once and until one of them names an instance. -/
theorem instances_sought (a : Access) (n : Network σ) (d : Deadline) :
    a.instanceUrls = (a.base ++ a.accessPoint) ::
        (wellKnown.filter (· ≠ a.accessPoint)).map (a.base ++ ·) ∧
      a.instanceUrls.Nodup ∧
      (∀ w, ∃ attempts,
        Makes (a.askInstances n d) w attempts ((a.service n).systemInstances d w).2 ∧
          Sought d a.instanceUrls attempts ((a.service n).systemInstances d w).1) ∧
      ∀ w, ∃ attempts,
        Makes (a.askInstances n.recorded d) w attempts
            ((a.service n.recorded).systemInstances d w).2 ∧
          Sought d a.instanceUrls attempts ((a.service n.recorded).systemInstances d w).1 ∧
          ((a.service n.recorded).systemInstances d w).2.sent =
            w.sent ++ (attempts.flatMap fun x => a.instanceRequests n.idna x.url).map .request := by
  refine ⟨rfl, a.nodup_instanceUrls, ?_, ?_⟩
  · intro w
    obtain ⟨attempts, hmakes, hsearch⟩ := exists_search (a.askInstances n d) d [] a.instanceUrls w
    exact ⟨attempts, hmakes, hsearch.sought⟩
  · intro w
    obtain ⟨attempts, hmakes, hsearch⟩ :=
      exists_search (a.askInstances n.recorded d) d [] a.instanceUrls w
    exact ⟨attempts, hmakes, hsearch.sought, hmakes.sent⟩

end SapMonitor.Remote.Access
