import SapMonitor.Proofs.Markup.Structure

/-!
# Truncated documents

An answer that is cut off is read as the whole answer, or not at all.  What the reader has
reported before the cut it reports of the whole document as well, apart from a text at the cut,
which is longer there.  An end tag that is cut off counts as one, but then the whole document has
the same end tag.

Main results:

- `Reader.suffix_of_endTag`: an end tag that has begun is an end tag, or a fault.
- `Reader.settled`: the events before a cut.
- `readDocument_of_prefix`: a document that is cut off is read as one of the elements at the top
  of the whole document.
- `document_of_truncated`: with one such element it is read as the whole document.
-/

namespace SapMonitor.Markup

/-! ## Events before a cut -/

namespace Reader

theorem suffix_finish (r : Reader) : r.emitted <:+ r.finish.emitted :=
  (reports_finish r).suffix

/-- What is reported before a cut is reported of the whole document. -/
theorem suffix_whole (r : Reader) (cs : List Char) : r.emitted <:+ (r.run cs).finish.emitted :=
  (suffix_run r cs).trans (suffix_finish _)

theorem fault?_fail (r : Reader) (cause : MarkupError) : (r.fail cause).fault? = some cause := rfl

theorem mode_fail (r : Reader) (cause : MarkupError) : (r.fail cause).mode = .failed cause := rfl

theorem emitted_emit (r : Reader) (e : Event) : (r.emit e).emitted = e :: r.emitted := rfl

/-- An end tag that has begun is an end tag, or a fault. -/
theorem suffix_of_endTag {r : Reader} {seen cs : List Char} (hmode : r.mode = .endTag seen)
    (h : (r.run cs).finish.fault? = none) : .stop :: r.emitted <:+ (r.run cs).finish.emitted := by
  induction cs generalizing r seen with
  | nil =>
    have hfinish : r.finish = r.closeEndTag seen := by simp only [finish, hmode]
    rw [run_nil, hfinish] at h ⊢
    rcases closeEndTag_cases r seen with ⟨cause, hfail⟩ | ⟨name, rest, -, hstop⟩
    · rw [hfail, fault?_fail] at h
      cases h
    · rw [hstop]
      exact List.suffix_rfl
  | cons c cs ih =>
    rw [run_cons] at h ⊢
    by_cases hc : c = '>'
    · have hstep : r.step c = r.closeEndTag seen := by simp only [step, hmode, hc, if_true]
      rw [hstep] at h ⊢
      rcases closeEndTag_cases r seen with ⟨cause, hfail⟩ | ⟨name, rest, -, hstop⟩
      · rw [hfail, run_failed (mode_fail r cause), fault?_finish_of_failed (mode_fail r cause)] at h
        cases h
      · rw [hstop]
        exact suffix_whole ({ r with openNames := rest }.emit .stop) cs
    · -- one character more of the end tag
      have hstep : r.step c = { r with mode := .endTag (c :: seen) } := by
        simp only [step, hmode, hc, if_false]
      rw [hstep] at h ⊢
      exact ih rfl h

/-- The events before a cut stay, apart from a text at the cut. -/
theorem settled {r : Reader} {cs : List Char} (hcut : r.finish.fault? = none)
    (hwhole : (r.run cs).finish.fault? = none) :
    ∃ es, es <:+ (r.run cs).finish.emitted ∧
      (r.finish.emitted = es ∨ ∃ raw, r.finish.emitted = .text raw :: es) := by
  -- without an event at the cut, the events before it are the settled ones
  have hsilent (hsame : r.finish.emitted = r.emitted) :
      ∃ es, es <:+ (r.run cs).finish.emitted ∧
        (r.finish.emitted = es ∨ ∃ raw, r.finish.emitted = .text raw :: es) :=
    ⟨r.emitted, suffix_whole r cs, .inl hsame⟩
  cases hmode : r.mode with
  | content seen =>
    have hfinish : r.finish = r.closeText seen := by simp only [finish, hmode]
    rw [hfinish] at hsilent ⊢
    unfold closeText at hsilent ⊢
    split at hsilent
    · exact hsilent rfl
    · exact ⟨r.emitted, suffix_whole r cs, .inr ⟨_, rfl⟩⟩
  | opened => exact hsilent (by simp only [finish, hmode, skip])
  | instruction seen =>
    have hfinish : r.finish = r.closeInstruction seen := by simp only [finish, hmode]
    refine hsilent ?_
    rw [hfinish]
    unfold closeInstruction
    split <;> rfl
  | endTag seen =>
    have hfinish : r.finish = r.closeEndTag seen := by simp only [finish, hmode]
    rcases closeEndTag_cases r seen with ⟨cause, hfail⟩ | ⟨name, rest, -, hstop⟩
    · rw [hfinish, hfail, fault?_fail] at hcut
      cases hcut
    · refine ⟨.stop :: r.emitted, suffix_of_endTag hmode hwhole, .inl ?_⟩
      rw [hfinish, hstop, emitted_emit]
  | startTag quote seen => simp [finish, hmode, fault?_fail] at hcut
  | bang => simp [finish, hmode, fault?_fail] at hcut
  | verbatim seen => simp [finish, hmode, fault?_fail] at hcut
  | comment seen => simp [finish, hmode, fault?_fail] at hcut
  | doctype depth seen => simp [finish, hmode, fault?_fail] at hcut
  | failed cause =>
    rw [fault?_finish_of_failed hmode] at hcut
    cases hcut

end Reader

/-- A byte order mark is in front of every part of a document, or of none. -/
theorem unmarked_prefix {front whole : List Char} (h : front <+: whole) :
    unmarked front <+: unmarked whole := by
  cases front with
  | nil => exact List.nil_prefix
  | cons c front =>
    cases whole with
    | nil => simp at h
    | cons d whole =>
      obtain ⟨rfl, htail⟩ := List.cons_prefix_cons.1 h
      by_cases hmark : c = '\uFEFF'
      · subst hmark
        exact htail
      · have hkeep (cs : List Char) : unmarked (c :: cs) = c :: cs := by simp [unmarked, hmark]
        rw [hkeep, hkeep]
        exact h

/-- The events of a document that is cut off are the first ones of the whole document, apart from
a text at the cut. -/
theorem readEvents_of_prefix {front whole : List Char} (h : front <+: whole)
    (hfront : (readEvents front).2 = none) (hwhole : (readEvents whole).2 = none) :
    ∃ es after, (readEvents whole).1 = es ++ after ∧
      ((readEvents front).1 = es ∨ ∃ raw, (readEvents front).1 = es ++ [.text raw]) := by
  obtain ⟨rest, hrest⟩ := unmarked_prefix h
  rw [readEvents_eq] at hfront
  rw [readEvents_eq whole, ← hrest, Reader.run_append] at hwhole ⊢
  rw [readEvents_eq front]
  obtain ⟨es, ⟨after, hafter⟩, hcut⟩ := Reader.settled hfront hwhole
  refine ⟨es.reverse, after.reverse, ?_, ?_⟩
  · rw [← hafter, List.reverse_append]
  · rcases hcut with hcut | ⟨raw, hcut⟩
    · exact .inl (by rw [hcut])
    · exact .inr ⟨raw, by rw [hcut, List.reverse_cons]⟩

/-! ## Documents that are cut off -/

/-- A document that is cut off is read as one of the elements at the top of the whole document. -/
theorem readDocument_of_prefix {front whole : List Char} (h : front <+: whole) {t t' : Element}
    (hwhole : readDocument whole = .ok t) (hfront : readDocument front = .ok t') :
    ∃ ps, Piece.eventsAll ps = (readEvents whole).1 ∧ t' ∈ Piece.trees ps := by
  rw [readDocument_eq_ok_iff] at hwhole hfront
  obtain ⟨hsound, -, ps, hps, -⟩ := hwhole
  obtain ⟨hsound', -, ps', hps', hlast⟩ := hfront
  refine ⟨ps, hps, ?_⟩
  obtain ⟨es, after, hevents, hcut⟩ := readEvents_of_prefix h hsound' hsound
  -- no element is open at the cut
  have hopen : openAfter [] es = some [] := by
    have hclosed := Piece.openAfter_eventsAll ps' []
    rw [hps'] at hclosed
    rcases hcut with hcut | ⟨raw, hcut⟩
    · rwa [hcut] at hclosed
    · rw [hcut, openAfter_append] at hclosed
      simpa using hclosed
  obtain ⟨qs, hqs⟩ := Piece.exists_eventsAll hopen
  have htrees : Piece.trees ps' = Piece.trees qs := by
    rcases hcut with hcut | ⟨raw, hcut⟩
    · rw [Piece.eventsAll_injective (hps'.trans (hcut.trans hqs.symm))]
    · have hmore : ps' = qs ++ [.text raw] := by
        refine Piece.eventsAll_injective ?_
        rw [hps', hcut, Piece.eventsAll_append, hqs]
        simp [Piece.events]
      rw [hmore, Piece.trees_append]
      simp [Piece.tree?]
  -- nor is one at the end
  have hafter : openAfter [] after = some [] := by
    have hclosed := Piece.openAfter_eventsAll ps []
    rwa [hps, hevents, openAfter_append, hopen, Option.bind_some] at hclosed
  obtain ⟨rs, hrs⟩ := Piece.exists_eventsAll hafter
  have hwhole : ps = qs ++ rs := by
    refine Piece.eventsAll_injective ?_
    rw [hps, hevents, Piece.eventsAll_append, hqs, hrs]
  rw [hwhole, Piece.trees_append]
  refine List.mem_append_left _ ?_
  rw [← htrees]
  exact List.mem_of_getLast? hlast

/-- A document with one element at the top. -/
def SingleRooted (cs : List Char) : Prop :=
  ∃ ps, Piece.eventsAll ps = (readEvents cs).1 ∧ (Piece.trees ps).length = 1

/-- An answer with one element at the top is read as a whole, or not at all, wherever it is cut
off. -/
theorem document_of_truncated {whole front : String} (hsingle : SingleRooted whole.toList)
    {t : Element} (hwhole : Remote.document whole = .ok t) (h : front.toList <+: whole.toList) :
    Remote.document front = .ok t ∨ ∃ cause, Remote.document front = .error cause := by
  cases hfront : Remote.document front with
  | error cause => exact .inr ⟨cause, rfl⟩
  | ok t' =>
    rw [document_eq_ok_iff] at hwhole hfront
    obtain ⟨ps, hps, hlength⟩ := hsingle
    obtain ⟨e, he⟩ := List.length_eq_one_iff.1 hlength
    obtain ⟨qs, hqs, hmem⟩ := readDocument_of_prefix h hwhole hfront
    rw [readDocument_eq_ok_iff] at hwhole
    obtain ⟨-, -, rs, hrs, hlast⟩ := hwhole
    -- all of them are the pieces of the document
    obtain rfl := Piece.eventsAll_injective (hps.trans hqs.symm)
    obtain rfl := Piece.eventsAll_injective (hps.trans hrs.symm)
    rw [he] at hmem hlast
    obtain rfl : t' = e := by simpa using hmem
    obtain rfl : t' = t := by simpa using hlast
    exact .inl rfl

/-- An answer that is cut off in its last end tag is read as the whole answer. -/
theorem document_of_cut_in_end_tag :
    SingleRooted "<a>x</a>".toList ∧ Remote.document "<a>x</a>" = .ok (.mk "a" "x" []) ∧
      "<a>x</a".toList <+: "<a>x</a>".toList ∧
      (Remote.document "<a>x</a" = .ok (.mk "a" "x" []) ∨
        ∃ cause, Remote.document "<a>x</a" = .error cause) := by
  have hsingle : SingleRooted "<a>x</a>".toList :=
    ⟨[.element ['a'] [.text ['x']]], by decide, by simp [Piece.tree?]⟩
  have hwhole : Remote.document "<a>x</a>" = .ok (.mk "a" "x" []) := by rfl
  have hcut : "<a>x</a".toList <+: "<a>x</a>".toList := by decide
  exact ⟨hsingle, hwhole, hcut, document_of_truncated hsingle hwhole hcut⟩

/-- With two elements at the top, an answer that is cut off between them is another answer. -/
example : Remote.document "<a/><b/>" = .ok (.mk "b" "" []) ∧
    Remote.document "<a/>" = .ok (.mk "a" "" []) :=
  ⟨rfl, rfl⟩

end SapMonitor.Markup
