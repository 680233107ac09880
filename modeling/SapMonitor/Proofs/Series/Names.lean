import SapMonitor.Proofs.Series.Recording

/-!
# Names of families

A buffer hands out a family for each metric and kind that it has samples of.  No two of them
have one name, as long as no metric is sampled both as a gauge and as a counter.

Main results:

- `Buffer.Sound.nodup_names`: no name occurs twice.
- `Buffer.nodup_names_filled`: the same for the buffer that samples fill.
- `Buffer.name_of_mem_families`: every name is that of a metric.
-/

namespace SapMonitor.Series

namespace Buffer

/-- A family with samples has the name of a metric that is described without fault, and its
metric has cells. -/
theorem Sound.name_of_mem {b : Buffer} (h : b.Sound) {f : Family} (hf : f ∈ b.families) :
    ∃ metric d, b.catalog.described? metric = some d ∧ f.name = b.catalog.seriesName metric ∧
      b.cells f.kind metric ≠ [] := by
  obtain ⟨k, metric, d, hd, hcells, rfl⟩ := h.mem_families_iff.1 hf
  exact ⟨metric, d, hd, rfl, hcells⟩

/-- The families of vectors in order have different names. -/
theorem nodup_names_arranged {c : Catalog} {vs : List Vector} (h : Arranged c vs) (k : Kind) :
    (vs.map (family c k)).Pairwise fun f g => f.name ≠ g.name := by
  refine List.pairwise_map.2 (h.ascending.imp_of_mem fun {v w} hv hw hlt hname => ?_)
  have hmetric : v.metric = w.metric := Catalog.seriesName_injective
    (Catalog.ne_empty_of_described (h.described v hv))
    (Catalog.ne_empty_of_described (h.described w hw)) hname
  exact String.lt_irrefl _ (hmetric ▸ hlt)

/-- No two families of a buffer have one name, if no metric has both gauges and counters. -/
theorem Sound.nodup_names {b : Buffer} (h : b.Sound)
    (hkinds : ∀ metric, b.cells .gauge metric = [] ∨ b.cells .counter metric = []) :
    (b.families.map Family.name).Nodup := by
  refine List.pairwise_map.2 ?_
  have hmem : ∀ f ∈ b.families, _ := fun f hf => h.name_of_mem hf
  rw [families, List.filter_append] at hmem ⊢
  refine List.pairwise_append.2 ⟨(nodup_names_arranged (h .gauge) .gauge).filter _,
    (nodup_names_arranged (h .counter) .counter).filter _, ?_⟩
  intro f hf g hg hname
  obtain ⟨metric, d, hd, hfname, hfcells⟩ := hmem f (List.mem_append_left _ hf)
  obtain ⟨metric', d', hd', hgname, hgcells⟩ := hmem g (List.mem_append_right _ hg)
  obtain ⟨v, -, rfl⟩ := List.mem_map.1 (List.mem_filter.1 hf).1
  obtain ⟨w, -, rfl⟩ := List.mem_map.1 (List.mem_filter.1 hg).1
  have hmetric : metric = metric' := Catalog.seriesName_injective
    (Catalog.ne_empty_of_described hd) (Catalog.ne_empty_of_described hd')
    (hfname.symm.trans (hname.trans hgname))
  subst hmetric
  rcases hkinds metric with hnone | hnone
  · exact hfcells hnone
  · exact hgcells hnone

/-- Samples whose metrics say their kinds leave no metric with both. -/
theorem kinds_filled {c : Catalog} {samples : List Sample} (kind : String → Kind)
    (h : ∀ s ∈ samples, s.kind = kind s.metric) (metric : String) :
    (filled c samples).cells .gauge metric = [] ∨
      (filled c samples).cells .counter metric = [] := by
  have hnone : ∀ k, kind metric ≠ k → (filled c samples).cells k metric = [] := by
    intro k hk
    have hfilter : samples.filter (takes c k metric) = [] := by
      refine List.filter_eq_nil_iff.2 fun s hs htakes => hk ?_
      simp only [takes, Bool.and_eq_true, decide_eq_true_eq] at htakes
      rw [← htakes.2, ← h s hs]
      exact htakes.1.2
    rw [cells_filled, hfilter]
    rfl
  cases hkind : kind metric with
  | gauge => exact .inr (hnone .counter (by simp [hkind]))
  | counter => exact .inl (hnone .gauge (by simp [hkind]))

/-- Samples whose metrics say their kinds make families with different names. -/
theorem nodup_names_filled {c : Catalog} {samples : List Sample} (kind : String → Kind)
    (h : ∀ s ∈ samples, s.kind = kind s.metric) :
    ((filled c samples).families.map Family.name).Nodup :=
  (sound_filled c samples).nodup_names (kinds_filled kind h)

/-- The families of samples have the names of their metrics. -/
theorem name_of_mem_families {c : Catalog} {samples : List Sample} {f : Family}
    (hf : f ∈ (filled c samples).families) :
    ∃ s ∈ samples, f.name = c.seriesName s.metric ∧ s.metric ≠ "" := by
  obtain ⟨metric, d, hd, hname, hcells⟩ := (sound_filled c samples).name_of_mem hf
  rw [catalog_filled] at hd hname
  rw [cells_filled] at hcells
  obtain ⟨cell, hcell⟩ := List.exists_mem_of_ne_nil _ hcells
  obtain ⟨s, hs, -⟩ := (sampled_of_mem hcell).1
  obtain ⟨hs', htakes⟩ := List.mem_filter.1 hs
  simp only [takes, Bool.and_eq_true, decide_eq_true_eq] at htakes
  refine ⟨s, hs', htakes.2 ▸ hname, ?_⟩
  rw [htakes.2]
  exact Catalog.ne_empty_of_described hd

end Buffer

end SapMonitor.Series
