import SapMonitor.LogStore.Traffic

/-!
# What can happen in the traffic of a client

The acts are listed here once, with all that has to be true for them and all that they
change; every invariant of the traffic is proved by cases on them.

Main results:

- `Traffic.happens_of_step?`: whatever happens is one of the cases.
- `Traffic.run?_invariant`: what every act keeps, every run keeps.
-/

namespace SapMonitor.LogStore

namespace Traffic

variable {s : ClientSettings} {t t' : Traffic}

/-- What an act does, with all that has to be true for it. -/
inductive Happens (s : ClientSettings) (t : Traffic) : Act → Traffic → Prop
  | send (line : LogLine) :
      Happens s t (.send line) { t with calls := t.calls ++ [.sending line] }
  | flush : Happens s t .flush { t with calls := t.calls ++ [.collecting []] }
  /-- A line does not fill its stream. -/
  | keep {i : Nat} {line : LogLine} {pending : Pending}
      (hc : t.calls[i]? = some (.sending line))
      (he : enqueue s line t.pending = (none, pending)) :
      Happens s t (.file i)
        ({ t with pending := pending, filed := t.filed ++ [line] }.put i (.sent (.ok ())))
  /-- A line fills its stream. -/
  | fill {i : Nat} {line : LogLine} {batch : Stream} {pending : Pending}
      (hc : t.calls[i]? = some (.sending line))
      (he : enqueue s line t.pending = (some batch, pending)) :
      Happens s t (.file i)
        ({ t with
          pending := pending
          filed := t.filed ++ [line]
          taken := t.taken ++ [batch] }.put i (.holding batch))
  | collect {i : Nat} {key : String} {batches : List Stream} {batch : Stream}
      {streams : List (String × Stream)} (hc : t.calls[i]? = some (.collecting batches))
      (ht : takeLines key t.pending.streams = some (batch, streams)) :
      Happens s t (.collect i key)
        ({ t with pending := { streams := streams }, taken := t.taken ++ [batch] }.put i
          (.collecting (batches ++ [batch])))
  | turn {i : Nat} {batches : List Stream} (hc : t.calls[i]? = some (.collecting batches)) :
      Happens s t (.turn i) (t.put i (.pruning batches))
  | prune {i : Nat} {batches : List Stream} (key : String)
      (hc : t.calls[i]? = some (.pruning batches)) :
      Happens s t (.prune i key)
        { t with pending := { streams := dropEmpty key t.pending.streams } }
  | push {i : Nat} {batch : Stream} (hc : t.calls[i]? = some (.holding batch)) :
      Happens s t (.push i)
        ({ t with pushes := t.pushes ++ [(i, [batch])] }.put i (.pushing batch))
  | pushNothing {i : Nat} {batches : List Stream} (hc : t.calls[i]? = some (.pruning batches))
      (hn : batchLines batches = 0) : Happens s t (.push i) (t.put i (.flushed (.ok 0)))
  | pushAll {i : Nat} {batches : List Stream} (hc : t.calls[i]? = some (.pruning batches))
      (hn : batchLines batches ≠ 0) :
      Happens s t (.push i)
        ({ t with pushes := t.pushes ++ [(i, batches)] }.put i (.pushingAll batches))
  | answer {i : Nat} {batch : Stream} (outcome : Except PushError Unit)
      (hc : t.calls[i]? = some (.pushing batch)) :
      Happens s t (.answer i outcome) (t.put i (.sent outcome))
  | answerAll {i : Nat} {batches : List Stream} (outcome : Except PushError Unit)
      (hc : t.calls[i]? = some (.pushingAll batches)) :
      Happens s t (.answer i outcome)
        (t.put i (.flushed (outcome.map fun () => batchLines batches)))

theorem happens_of_file? {i : Nat} (h : t.file? s i = some t') : Happens s t (.file i) t' := by
  unfold file? at h
  split at h
  · rename_i line hc
    split at h
    · rename_i pending he
      cases h
      exact .keep hc he
    · rename_i batch pending he
      cases h
      exact .fill hc he
  · cases h

theorem happens_of_collect? {i : Nat} {key : String} (h : t.collect? i key = some t') :
    Happens s t (.collect i key) t' := by
  unfold collect? at h
  split at h
  · rename_i batches hc
    split at h
    · cases h
    · rename_i batch streams ht
      cases h
      exact .collect hc ht
  · cases h

theorem happens_of_turn? {i : Nat} (h : t.turn? i = some t') : Happens s t (.turn i) t' := by
  unfold turn? at h
  split at h
  · rename_i batches hc
    cases h
    exact .turn hc
  · cases h

theorem happens_of_prune? {i : Nat} {key : String} (h : t.prune? i key = some t') :
    Happens s t (.prune i key) t' := by
  unfold prune? at h
  split at h
  · rename_i batches hc
    cases h
    exact .prune key hc
  · cases h

theorem happens_of_push? {i : Nat} (h : t.push? i = some t') : Happens s t (.push i) t' := by
  unfold push? at h
  split at h
  · rename_i batch hc
    cases h
    exact .push hc
  · rename_i batches hc
    split at h
    · rename_i hn
      cases h
      exact .pushNothing hc hn
    · rename_i hn
      cases h
      exact .pushAll hc hn
  · cases h

theorem happens_of_answer? {i : Nat} {outcome : Except PushError Unit}
    (h : t.answer? i outcome = some t') : Happens s t (.answer i outcome) t' := by
  unfold answer? at h
  split at h
  · rename_i batch hc
    cases h
    exact .answer outcome hc
  · rename_i batches hc
    cases h
    exact .answerAll outcome hc
  · cases h

/-- Whatever happens is one of the cases. -/
theorem happens_of_step? {a : Act} (h : t.step? s a = some t') : Happens s t a t' := by
  cases a with
  | send line =>
    cases h
    exact .send line
  | flush =>
    cases h
    exact .flush
  | file i => exact happens_of_file? h
  | collect i key => exact happens_of_collect? h
  | turn i => exact happens_of_turn? h
  | prune i key => exact happens_of_prune? h
  | push i => exact happens_of_push? h
  | answer i outcome => exact happens_of_answer? h

/-- What every act keeps that is allowed, every run keeps. -/
theorem run?_invariant {allowed : Act → Prop} (Keeps : Traffic → Prop)
    (hstep : ∀ {t a t'}, allowed a → Happens s t a t' → Keeps t → Keeps t') {acts : List Act}
    (hacts : ∀ a ∈ acts, allowed a) (hrun : t.run? s acts = some t') (h : Keeps t) : Keeps t' := by
  induction acts generalizing t with
  | nil =>
    cases hrun
    exact h
  | cons a acts ih =>
    rw [List.forall_mem_cons] at hacts
    rw [run?, Option.bind_eq_some_iff] at hrun
    obtain ⟨u, hu, hrest⟩ := hrun
    exact ih hacts.2 hrest (hstep hacts.1 (happens_of_step? hu) h)

end Traffic

end SapMonitor.LogStore
