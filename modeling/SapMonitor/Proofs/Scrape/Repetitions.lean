import SapMonitor.Proofs.Scrape.AlertReports

/-!
# Alerts that are repeated

Alerts are told apart by all that they say but their ids.  Of the alerts that are alike the first
one stays, in its place among the others, and the later ones are dropped.  The labels of a sample
hold all that tells alerts apart, so the samples of an instance never share their labels.

Main results:

- `dedup_concat`: an alert at the end stays unless one before it is like it.
- `filter_dedup`: of the alerts that are alike, the first one stays.
- `exists_places_dedup`: where the alerts that stay stood.
- `repetitions_dropped`: dropping repetitions, once and again, and the labels of what stays.
-/

namespace SapMonitor.Scrape.Alerts

open Series (Sample)
open Landscape (Member)
open Remote (Alert StateColor)

/-! ## Alerts that are alike -/

/-- Two alerts are alike: they agree in everything but their ids. -/
structure Alike (a b : Alert) : Prop where
  object : a.object = b.object
  attributeName : a.attributeName = b.attributeName
  value : a.value = b.value
  description : a.description = b.description
  time : a.time = b.time

theorem alike_iff {a b : Alert} : Alike a b ↔ identity a = identity b := by
  constructor
  · intro h
    simp only [identity, h.object, h.attributeName, h.value, h.description, h.time]
  · intro h
    simp only [identity, Prod.mk.injEq] at h
    obtain ⟨hobject, hattribute, hvalue, hdescription, htime⟩ := h
    exact ⟨hobject, hattribute, hvalue, hdescription, htime⟩

instance (a b : Alert) : Decidable (Alike a b) :=
  decidable_of_iff (identity a = identity b) alike_iff.symm

theorem Alike.symm {a b : Alert} (h : Alike a b) : Alike b a :=
  alike_iff.2 (alike_iff.1 h).symm

theorem Alike.trans {a b c : Alert} (h : Alike a b) (h' : Alike b c) : Alike a c :=
  alike_iff.2 ((alike_iff.1 h).trans (alike_iff.1 h'))

/-! ## One more alert -/

/-- An alert at the end stays unless its like was seen, or comes before it. -/
theorem dedupFrom_concat (seen : List (String × String × String × String × String))
    (alerts : List Alert) (a : Alert) :
    dedupFrom seen (alerts ++ [a]) = dedupFrom seen alerts ++
      if identity a ∈ seen ∨ ∃ b ∈ alerts, Alike b a then [] else [a] := by
  induction alerts generalizing seen with
  | nil => by_cases ha : identity a ∈ seen <;> simp [dedupFrom, ha]
  | cons b rest ih =>
    by_cases hb : identity b ∈ seen
    · -- an alert whose like was seen adds nothing to what is seen
      have hdrop (l : List Alert) : dedupFrom seen (b :: l) = dedupFrom seen l := by
        simp [dedupFrom, hb]
      have hiff : (identity a ∈ seen ∨ ∃ c ∈ b :: rest, Alike c a) ↔
          (identity a ∈ seen ∨ ∃ c ∈ rest, Alike c a) := by
        simp only [List.mem_cons, exists_eq_or_imp]
        constructor
        · rintro (h | h | h)
          · exact .inl h
          · exact .inl (alike_iff.1 h ▸ hb)
          · exact .inr h
        · rintro (h | h)
          · exact .inl h
          · exact .inr (.inr h)
      rw [List.cons_append, hdrop, hdrop, ih]
      simp only [hiff]
    · have hkeep (l : List Alert) :
          dedupFrom seen (b :: l) = b :: dedupFrom (identity b :: seen) l := by
        simp [dedupFrom, hb]
      have hiff : (identity a ∈ seen ∨ ∃ c ∈ b :: rest, Alike c a) ↔
          (identity a ∈ identity b :: seen ∨ ∃ c ∈ rest, Alike c a) := by
        simp only [List.mem_cons, exists_eq_or_imp, alike_iff]
        rw [eq_comm (a := identity b), or_left_comm, or_assoc]
      rw [List.cons_append, hkeep, hkeep, ih, List.cons_append]
      simp only [hiff]

/-- An alert at the end stays unless one before it is like it. -/
theorem dedup_concat (alerts : List Alert) (a : Alert) :
    dedup (alerts ++ [a]) =
      dedup alerts ++ if ∃ b ∈ alerts, Alike b a then [] else [a] := by
  simp [dedup, dedupFrom_concat]

/-! ## Which alerts stay -/

theorem dedup_sublist (alerts : List Alert) : (dedup alerts).Sublist alerts := by
  induction alerts using List.reverseRecOn with
  | nil => exact List.Sublist.refl []
  | append_singleton alerts a ih =>
    rw [dedup_concat]
    apply ih.append
    split
    · exact List.nil_sublist [a]
    · exact List.Sublist.refl [a]

/-- No two of the alerts that stay are alike. -/
theorem pairwise_dedup (alerts : List Alert) :
    (dedup alerts).Pairwise fun a b => ¬Alike a b := by
  induction alerts using List.reverseRecOn with
  | nil => exact List.Pairwise.nil
  | append_singleton alerts a ih =>
    rw [dedup_concat]
    split
    · rw [List.append_nil]
      exact ih
    · rename_i hnew
      refine List.pairwise_append.2 ⟨ih, List.pairwise_singleton _ _, ?_⟩
      intro b hb c hc hbc
      rw [List.mem_singleton] at hc
      subst hc
      exact hnew ⟨b, (dedup_sublist alerts).subset hb, hbc⟩

/-- Of the alerts that are like one, the first one stays and no other. -/
theorem filter_dedup (alerts : List Alert) (a : Alert) :
    (dedup alerts).filter (Alike a ·) = (alerts.find? (Alike a ·)).toList := by
  induction alerts using List.reverseRecOn with
  | nil => rfl
  | append_singleton alerts b ih =>
    rw [dedup_concat, List.filter_append, ih, List.find?_append]
    by_cases hab : Alike a b
    · by_cases hold : ∃ c ∈ alerts, Alike c b
      · have hsome : (alerts.find? (Alike a ·)).isSome = true := by
          rw [List.find?_isSome]
          obtain ⟨c, hc, hcb⟩ := hold
          exact ⟨c, hc, by simpa using hab.trans hcb.symm⟩
        obtain ⟨first, hfirst⟩ := Option.isSome_iff_exists.1 hsome
        simp [hold, hfirst]
      · have hnone : alerts.find? (Alike a ·) = none := by
          rw [List.find?_eq_none]
          intro c hc hac
          exact hold ⟨c, hc, (of_decide_eq_true hac).symm.trans hab⟩
        simp [hold, hnone, hab]
    · by_cases hold : ∃ c ∈ alerts, Alike c b <;> simp [hold, hab]

/-- No alert before a place is like the one at it. -/
def FirstAt (alerts : List Alert) (i : Nat) : Prop :=
  ∃ a, alerts[i]? = some a ∧ ∀ b ∈ alerts.take i, ¬Alike b a

theorem FirstAt.lt {alerts : List Alert} {i : Nat} (h : FirstAt alerts i) : i < alerts.length := by
  obtain ⟨a, ha, -⟩ := h
  exact (List.getElem?_eq_some_iff.1 ha).1

/-- One more alert adds a place at the end, unless one before it is like it. -/
theorem firstAt_concat (alerts : List Alert) (a : Alert) (i : Nat) :
    FirstAt (alerts ++ [a]) i ↔
      FirstAt alerts i ∨ (i = alerts.length ∧ ¬∃ b ∈ alerts, Alike b a) := by
  by_cases hi : i < alerts.length
  · have hne : i ≠ alerts.length := Nat.ne_of_lt hi
    rw [FirstAt, FirstAt, List.getElem?_append_left hi,
      List.take_append_of_le_length (Nat.le_of_lt hi)]
    simp [hne]
  · have hnot : ¬FirstAt alerts i := fun h => hi h.lt
    rw [or_iff_right hnot]
    by_cases hlast : i = alerts.length
    · rw [FirstAt, hlast, List.getElem?_concat_length, List.take_left]
      simp
    · constructor
      · intro h
        have hlt := h.lt
        rw [List.length_append, List.length_singleton] at hlt
        omega
      · intro h
        exact absurd h.1 hlast

/-- The alerts that stay stand at the places where no alert before is like them, in the order of
these places. -/
theorem exists_places_dedup (alerts : List Alert) : ∃ places : List Nat,
    places.Pairwise (· < ·) ∧ (∀ i, i ∈ places ↔ FirstAt alerts i) ∧
      places.map (alerts[·]?) = (dedup alerts).map some := by
  induction alerts using List.reverseRecOn with
  | nil =>
    refine ⟨[], List.Pairwise.nil, ?_, rfl⟩
    intro i
    simp [FirstAt]
  | append_singleton alerts a ih =>
    obtain ⟨places, hascending, hplaces, hmap⟩ := ih
    have hlt : ∀ i ∈ places, i < alerts.length := fun i hi => ((hplaces i).1 hi).lt
    have hsame : places.map ((alerts ++ [a])[·]?) = (dedup alerts).map some := by
      rw [← hmap]
      apply List.map_congr_left
      intro i hi
      exact List.getElem?_append_left (hlt i hi)
    rw [dedup_concat]
    by_cases hold : ∃ b ∈ alerts, Alike b a
    · refine ⟨places, hascending, ?_, ?_⟩
      · intro i
        rw [firstAt_concat, hplaces]
        simp [hold]
      · rw [if_pos hold, List.append_nil, hsame]
    · refine ⟨places ++ [alerts.length], ?_, ?_, ?_⟩
      · refine List.pairwise_append.2 ⟨hascending, List.pairwise_singleton _ _, ?_⟩
        intro i hi j hj
        rw [List.mem_singleton] at hj
        exact hj ▸ hlt i hi
      · intro i
        rw [firstAt_concat, List.mem_append, List.mem_singleton, hplaces]
        simp [hold]
      · rw [if_neg hold, List.map_append, List.map_append, hsame]
        simp

/-! ## Dropping repetitions again -/

/-- Where no alerts are alike, all of them stay. -/
theorem dedup_of_pairwise {alerts : List Alert} (h : alerts.Pairwise fun a b => ¬Alike a b) :
    dedup alerts = alerts := by
  induction alerts using List.reverseRecOn with
  | nil => rfl
  | append_singleton alerts a ih =>
    obtain ⟨hrest, -, hlast⟩ := List.pairwise_append.1 h
    rw [dedup_concat, ih hrest, if_neg]
    rintro ⟨b, hb, hba⟩
    exact hlast b hb a List.mem_cons_self hba

/-- Alerts that occurred before are dropped. -/
theorem dedup_append_of_mem {alerts more : List Alert} (h : ∀ a ∈ more, a ∈ alerts) :
    dedup (alerts ++ more) = dedup alerts := by
  induction more using List.reverseRecOn with
  | nil => rw [List.append_nil]
  | append_singleton more a ih =>
    have ha : a ∈ alerts ++ more := by
      apply List.mem_append_left
      exact h a (List.mem_append_right _ List.mem_cons_self)
    rw [← List.append_assoc, dedup_concat, if_pos ⟨a, ha, alike_iff.2 rfl⟩, List.append_nil]
    apply ih
    intro b hb
    exact h b (List.mem_append_left _ hb)

/-! ## Labels of samples -/

/-- The labels of samples tell their alerts apart. -/
theorem alike_of_labels {m : Member} {a b : Alert} {c c' : StateColor}
    (h : (sample m a c).labels = (sample m b c').labels) : Alike a b := by
  simp only [sample, Sample.gauge, withCommon, List.cons_append, List.nil_append, List.cons.injEq]
    at h
  obtain ⟨hobject, hattribute, hdescription, htime, hvalue, -⟩ := h
  exact ⟨hobject, hattribute, hvalue, hdescription, htime⟩

/-- The samples of alerts of which no two are alike have different labels. -/
theorem nodup_labels_samples {p : Policy} (m : Member) {alerts : List Alert}
    (h : p.toMetrics = true → alerts.Pairwise fun a b => ¬Alike a b) :
    ((samples p m alerts).map Sample.labels).Nodup := by
  rw [samples_eq]
  split
  · rename_i hp
    refine List.pairwise_map.2 (List.pairwise_filterMap.2 ((h hp).imp ?_))
    intro a b hab s hs t ht hlabels
    obtain ⟨c, -, rfl⟩ := Option.map_eq_some_iff.1 hs
    obtain ⟨c', -, rfl⟩ := Option.map_eq_some_iff.1 ht
    exact hab (alike_of_labels hlabels)
  · exact List.nodup_nil

/-! ## Repetitions -/

/-- Of alerts the first ones stay: a subsequence in which no two are alike, with the first of the
alerts that are like one, and no other.  They are the alerts at the places where no alert before
is like them. -/
structure FirstOnes (alerts kept : List Alert) : Prop where
  sublist : kept.Sublist alerts
  distinct : kept.Pairwise fun a b => ¬Alike a b
  first : ∀ a ∈ alerts, ∃ first, alerts.find? (Alike a ·) = some first ∧
    kept.filter (Alike a ·) = [first]
  places : ∃ places : List Nat, places.Pairwise (· < ·) ∧
    (∀ i, i ∈ places ↔ FirstAt alerts i) ∧ places.map (alerts[·]?) = kept.map some

theorem firstOnes_dedup (alerts : List Alert) : FirstOnes alerts (dedup alerts) where
  sublist := dedup_sublist alerts
  distinct := pairwise_dedup alerts
  first := by
    intro a ha
    have hsome : (alerts.find? (Alike a ·)).isSome = true := by
      rw [List.find?_isSome]
      exact ⟨a, ha, decide_eq_true (alike_iff.2 rfl)⟩
    obtain ⟨first, hfirst⟩ := Option.isSome_iff_exists.1 hsome
    refine ⟨first, hfirst, ?_⟩
    rw [filter_dedup, hfirst]
    rfl
  places := exists_places_dedup alerts

/-- Repetitions are dropped: the first ones stay, and alerts that occurred before change nothing.
The labels that the alerts of an instance get are different for those that stay, and so are the
labels of all samples that working through the alerts of an instance yields. -/
theorem repetitions_dropped (alerts : List Alert) :
    FirstOnes alerts (dedup alerts) ∧ dedup (dedup alerts) = dedup alerts ∧
      (∀ more, (∀ a ∈ more, a ∈ alerts) → dedup (alerts ++ more) = dedup alerts) ∧
      ∀ m : Member,
        (∀ color, ((dedup alerts).map fun a => (sample m a color).labels).Nodup) ∧
        ∀ (σ : Type) (p : Policy) (outlet : Option (Outlet σ)) (memory : Memory) (w : World σ),
          ((report p outlet m (relevant p alerts) memory w).1.1.map Sample.labels).Nodup := by
  refine ⟨firstOnes_dedup alerts, dedup_of_pairwise (pairwise_dedup alerts), ?_, ?_⟩
  · intro more hmore
    exact dedup_append_of_mem hmore
  · intro m
    constructor
    · intro color
      refine List.pairwise_map.2 ((pairwise_dedup alerts).imp ?_)
      intro a b hab hlabels
      exact hab (alike_of_labels hlabels)
    · intro σ p outlet memory w
      rw [report_run]
      apply nodup_labels_samples
      intro hp
      rw [relevant, if_pos hp]
      exact pairwise_dedup alerts

end SapMonitor.Scrape.Alerts
