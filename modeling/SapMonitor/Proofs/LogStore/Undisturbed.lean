import SapMonitor.LogStore.Traffic

/-!
# A flush that nothing comes between

A flush takes the streams with lines one after the other, and then removes those without
lines.  If no other call comes between its operations, it takes all that waits and leaves no
stream, as if it did so at once.

Main results:

- `Traffic.run?_collect`: what is taken if the flush comes to all streams with lines.
- `Traffic.run?_prune`: what is left if it then comes to all keys.
- `Traffic.run?_flush_alone`: together they take everything that waits.
-/

namespace SapMonitor.LogStore

/-! ## Taking all streams -/

/-- The streams that have lines. -/
def filled (streams : List (String × Stream)) : List (String × Stream) :=
  streams.filter fun q => !q.2.values.isEmpty

/-- The streams without their lines. -/
def drained (streams : List (String × Stream)) : List (String × Stream) :=
  streams.map fun q => (q.1, { q.2 with values := [] })

/-- Taking everything takes the streams that have lines. -/
theorem takeAll_fst (p : Pending) : p.takeAll.1 = (filled p.streams).map Prod.snd := by
  rw [Pending.takeAll, filled, List.filter_map]
  rfl

/-- A stream with lines is taken whatever stands before it under other keys. -/
theorem takeLines_append {key : String} {front : List (String × Stream)}
    (hfront : key ∉ front.map Prod.fst) {batch : Stream} (hbatch : batch.values ≠ [])
    (rest : List (String × Stream)) :
    takeLines key (front ++ (key, batch) :: rest) =
      some (batch, front ++ (key, { batch with values := [] }) :: rest) := by
  induction front with
  | nil => simp [takeLines, hbatch]
  | cons q front ih =>
    rw [List.map_cons, List.mem_cons, not_or] at hfront
    rw [List.cons_append, takeLines, if_neg (Ne.symm hfront.1), ih hfront.2]
    rfl

/-! ## Removing all streams -/

/-- The streams that are left when all of some keys were come to. -/
def dropAllEmpty (keys : List String) (streams : List (String × Stream)) :
    List (String × Stream) :=
  keys.foldl (fun streams key => dropEmpty key streams) streams

/-- A stream is left if it has lines or a key that was not come to. -/
theorem mem_dropAllEmpty {keys : List String} {streams : List (String × Stream)}
    {q : String × Stream} :
    q ∈ dropAllEmpty keys streams ↔ q ∈ streams ∧ (q.1 ∈ keys → q.2.values ≠ []) := by
  induction keys generalizing streams with
  | nil => simp [dropAllEmpty]
  | cons key keys ih =>
    have hcons : dropAllEmpty (key :: keys) streams = dropAllEmpty keys (dropEmpty key streams) :=
      rfl
    rw [hcons, ih, dropEmpty, List.mem_filter, List.mem_cons]
    by_cases hkey : q.1 = key
    · by_cases hvalues : q.2.values = [] <;> simp [hkey, hvalues]
    · simp [hkey]

/-- No stream without lines is left when all keys were come to. -/
theorem dropAllEmpty_drained (streams : List (String × Stream)) :
    dropAllEmpty (streams.map Prod.fst) (drained streams) = [] := by
  rw [List.eq_nil_iff_forall_not_mem]
  intro q hq
  obtain ⟨hmem, hlines⟩ := mem_dropAllEmpty.1 hq
  obtain ⟨p, hp, rfl⟩ := List.mem_map.1 hmem
  exact hlines (List.mem_map.2 ⟨p, hp, rfl⟩) rfl

/-! ## The flush -/

namespace Traffic

variable {s : ClientSettings} {t : Traffic} {i : Nat} {batches : List Stream}

/-- A call that was replaced is there. -/
theorem getElem?_put (hi : i < t.calls.length) (c : Call) : (t.put i c).calls[i]? = some c :=
  List.getElem?_set_self hi

/-- A flush that comes to all streams with lines takes them in their order.  Those before the
rest have been come to. -/
theorem run?_collect {front rest : List (String × Stream)}
    (ht : t.pending.streams = front ++ rest) (hc : t.calls[i]? = some (.collecting batches))
    (hkeys : ((front ++ rest).map Prod.fst).Nodup) :
    t.run? s ((filled rest).map fun q => .collect i q.1) =
      some ({ t with
        pending := ⟨front ++ drained rest⟩
        taken := t.taken ++ (filled rest).map Prod.snd }.put i
          (.collecting (batches ++ (filled rest).map Prod.snd))) := by
  induction rest generalizing t front batches with
  | nil =>
    obtain ⟨hi, hget⟩ := List.getElem?_eq_some_iff.1 hc
    have hcalls : t.calls.set i (.collecting batches) = t.calls := by
      rw [← hget]
      exact List.set_getElem_self hi
    rw [List.append_nil] at ht
    simp [filled, drained, put, hcalls, ← ht]
  | cons q rest ih =>
    obtain ⟨key, batch⟩ := q
    by_cases hbatch : batch.values = []
    · have hskip : filled ((key, batch) :: rest) = filled rest := by simp [filled, hbatch]
      have hdrained : front ++ drained ((key, batch) :: rest) =
          (front ++ [(key, batch)]) ++ drained rest := by
        simp [drained, ← hbatch]
      rw [hskip, hdrained]
      apply ih
      · rw [ht, List.append_assoc, List.singleton_append]
      · exact hc
      · rw [List.append_assoc, List.singleton_append]
        exact hkeys
    · have hnew : key ∉ front.map Prod.fst := by
        rw [List.map_append, List.map_cons, List.nodup_append] at hkeys
        intro hmem
        exact hkeys.2.2 key hmem key (by simp) rfl
      have hstep : t.step? s (.collect i key) =
          some ({ t with
            pending := ⟨front ++ (key, { batch with values := [] }) :: rest⟩
            taken := t.taken ++ [batch] }.put i (.collecting (batches ++ [batch]))) := by
        simp only [step?, collect?, hc, ht, takeLines_append hnew hbatch]
      have htake : filled ((key, batch) :: rest) = (key, batch) :: filled rest := by
        simp [filled, hbatch]
      have hi : i < t.calls.length := (List.getElem?_eq_some_iff.1 hc).1
      have hrest : ((front ++ [(key, { batch with values := [] })] ++ rest).map
          Prod.fst).Nodup := by
        simpa using hkeys
      rw [htake, List.map_cons, run?, hstep, Option.bind_some]
      refine Eq.trans (ih ?_ (getElem?_put hi _) hrest) ?_
      · simp [put]
      · simp [put, drained]

/-- A flush that comes to some keys in its second pass removes their streams if these have no
lines. -/
theorem run?_prune (hc : t.calls[i]? = some (.pruning batches)) (keys : List String) :
    t.run? s (keys.map fun key => .prune i key) =
      some { t with pending := ⟨dropAllEmpty keys t.pending.streams⟩ } := by
  induction keys generalizing t with
  | nil => rfl
  | cons key keys ih =>
    have hstep : t.step? s (.prune i key) =
        some { t with pending := ⟨dropEmpty key t.pending.streams⟩ } := by
      simp [step?, prune?, hc]
    rw [List.map_cons, run?, hstep, Option.bind_some]
    exact ih hc

/-- A flush that begins its second pass and comes to some keys. -/
theorem run?_turn (hc : t.calls[i]? = some (.collecting batches)) (keys : List String) :
    t.run? s (.turn i :: keys.map fun key => .prune i key) =
      some ({ t with pending := ⟨dropAllEmpty keys t.pending.streams⟩ }.put i
        (.pruning batches)) := by
  have hi : i < t.calls.length := (List.getElem?_eq_some_iff.1 hc).1
  have hstep : t.step? s (.turn i) = some (t.put i (.pruning batches)) := by
    simp only [step?, turn?, hc]
  rw [run?, hstep, Option.bind_some]
  exact run?_prune (getElem?_put hi _) keys

/-- A flush between whose operations nothing happens takes everything that waits. -/
theorem run?_flush_alone (hc : t.calls[i]? = some (.collecting []))
    (hkeys : (t.pending.streams.map Prod.fst).Nodup) :
    t.run? s (((filled t.pending.streams).map fun q => .collect i q.1) ++
        .turn i :: (t.pending.streams.map Prod.fst).map fun key => .prune i key) =
      some ({ t with
        pending := t.pending.takeAll.2
        taken := t.taken ++ t.pending.takeAll.1 }.put i (.pruning t.pending.takeAll.1)) := by
  have hi : i < t.calls.length := (List.getElem?_eq_some_iff.1 hc).1
  have hnone : t.pending.streams = [] ++ t.pending.streams := (List.nil_append _).symm
  have hcollect := run?_collect (s := s) hnone hc hkeys
  rw [List.nil_append, List.nil_append, ← takeAll_fst] at hcollect
  rw [run?_append, hcollect, Option.bind_some, run?_turn (getElem?_put (by exact hi) _)]
  simp [put, dropAllEmpty_drained, Pending.takeAll]

end Traffic

end SapMonitor.LogStore
