import Mathlib.Data.List.Induction
import SapMonitor.Proofs.Url.Pieces

/-!
# Paths

The path of a URL is in one form: encoded segments with a slash before each, none of which stands
for another.  Such a path is read as it is, and so is what remains of it without the slashes at its
end.

Main results:

- `isPath_readPath`: what is read as a path is in this form.
- `readPath_of_isPath`: a path in this form is read as it is.
- `isPath_dropTrailing`: without the slashes at its end it keeps the form, if anything is left.
-/

namespace SapMonitor.Url

/-! ## Segments -/

/-- What may not stand in an encoded segment. -/
def endsSegment (c : Char) : Bool :=
  inPathSet c || c = '/' || c = '\\'

/-- A segment of a path in its form: encoded, and not standing for another one. -/
structure IsSegment (s : List Char) : Prop where
  encoded : ∀ c ∈ s, endsSegment c = false
  single : isSingleDot s = false
  double : isDoubleDot s = false

theorem isSegment_nil : IsSegment [] where
  encoded := by simp
  single := by decide
  double := by decide

/-- The segments that remain are in their form, if all are encoded. -/
theorem isSegment_of_mem_resolveDots {done segments : List (List Char)}
    (hdone : ∀ s ∈ done, IsSegment s) (hencoded : ∀ s ∈ segments, ∀ c ∈ s, endsSegment c = false) :
    ∀ s ∈ resolveDots done segments, IsSegment s := by
  induction segments generalizing done with
  | nil => simpa [resolveDots] using hdone
  | cons first rest ih =>
    obtain ⟨hfirst, hrest⟩ := List.forall_mem_cons.1 hencoded
    have hdrop : ∀ s ∈ done.drop 1, IsSegment s := fun s hs => hdone s (List.mem_of_mem_drop hs)
    unfold resolveDots
    apply ih _ hrest
    split
    · split
      · exact List.forall_mem_cons.2 ⟨isSegment_nil, hdrop⟩
      · exact hdrop
    · rename_i hdouble
      split
      · split
        · exact List.forall_mem_cons.2 ⟨isSegment_nil, hdone⟩
        · exact hdone
      · rename_i hsingle
        refine List.forall_mem_cons.2 ⟨⟨hfirst, ?_, ?_⟩, hdone⟩
        · simpa using hsingle
        · simpa using hdouble

/-- The last segment always leaves one, an empty one if need be. -/
theorem resolveDots_ne_nil {segments : List (List Char)} (h : segments ≠ [])
    (done : List (List Char)) : resolveDots done segments ≠ [] := by
  induction segments generalizing done with
  | nil => exact absurd rfl h
  | cons first rest ih =>
    unfold resolveDots
    cases rest with
    | cons second others => exact ih (List.cons_ne_nil _ _) _
    | nil =>
      simp only [resolveDots, List.isEmpty_nil, if_true]
      split
      · simp
      · split <;> simp

/-- Segments in their form stay as they are. -/
theorem resolveDots_of_segments {segments : List (List Char)} (h : ∀ s ∈ segments, IsSegment s)
    (done : List (List Char)) : resolveDots done segments = done.reverse ++ segments := by
  induction segments generalizing done with
  | nil => simp [resolveDots]
  | cons first rest ih =>
    obtain ⟨hfirst, hrest⟩ := List.forall_mem_cons.1 h
    simp only [resolveDots, hfirst.double, hfirst.single]
    simp [ih hrest]

/-! ## Whole paths -/

/-- A path in its form. -/
def IsPath (cs : List Char) : Prop :=
  ∃ segments ≠ [], (∀ s ∈ segments, IsSegment s) ∧ cs = joinSegments segments

theorem IsPath.ne_nil {cs : List Char} (h : IsPath cs) : cs ≠ [] := by
  obtain ⟨segments, hne, -, rfl⟩ := h
  obtain ⟨first, rest, rfl⟩ := List.exists_cons_of_ne_nil hne
  exact List.cons_ne_nil _ _

theorem isPath_slash : IsPath ['/'] :=
  ⟨[[]], List.cons_ne_nil _ _, by simpa using isSegment_nil, rfl⟩

/-- The segments of a text without backslashes are encoded. -/
theorem encoded_of_split {body : List Char} (h : '\\' ∉ body) :
    ∀ s ∈ (Text.splitOnChar '/' body).map (encode inPathSet), ∀ c ∈ s, endsSegment c = false := by
  have hslash : ∀ n < 16, '/' ≠ upperHex n := by decide
  have hback : ∀ n < 16, '\\' ≠ upperHex n := by decide
  intro s hs c hc
  obtain ⟨part, hpart, rfl⟩ := List.mem_map.1 hs
  obtain ⟨hsep, hmem⟩ := Text.mem_splitOnChar hpart
  have hencoded : inPathSet c = false := allowed_of_mem_encode sparesCodes_path hc
  have hne : c ≠ '/' := by
    rintro rfl
    exact hsep (mem_of_mem_encode (by decide) hslash hc)
  have hne' : c ≠ '\\' := by
    rintro rfl
    exact h (hmem _ (mem_of_mem_encode (by decide) hback hc))
  simp [endsSegment, hencoded, hne, hne']

/-- What is read as a path is in its form. -/
theorem isPath_readPath (cs : List Char) : IsPath (readPath true cs).toList := by
  have hback : '\\' ∉ cs.map fun c => if c = '\\' then '/' else c := by
    intro hmem
    obtain ⟨c, -, hc⟩ := List.mem_map.1 hmem
    split at hc
    · exact absurd hc (by decide)
    · contradiction
  unfold readPath
  simp only [if_true]
  cases hds : cs.map fun c => if c = '\\' then '/' else c with
  | nil => exact isPath_slash
  | cons c rest =>
    rw [hds] at hback
    have hbody : '\\' ∉ (if c = '/' then rest else c :: rest) := by
      split
      · exact fun hmem => hback (List.mem_cons_of_mem c hmem)
      · exact hback
    rw [String.toList_ofList]
    refine ⟨_, resolveDots_ne_nil ?_ [], ?_, rfl⟩
    · simpa using Text.splitOnChar_ne_nil '/' _
    · exact isSegment_of_mem_resolveDots (by simp) (encoded_of_split hbody)

theorem splitOnChar_joinSegments {s : List Char} {segments : List (List Char)}
    (h : ∀ t ∈ s :: segments, '/' ∉ t) :
    Text.splitOnChar '/' (s ++ joinSegments segments) = s :: segments := by
  induction segments generalizing s with
  | nil => simpa [joinSegments] using Text.splitOnChar_of_not_mem (h s List.mem_cons_self)
  | cons t segments ih =>
    obtain ⟨hs, hrest⟩ := List.forall_mem_cons.1 h
    have hjoin : joinSegments (t :: segments) = '/' :: (t ++ joinSegments segments) := rfl
    rw [hjoin, Text.splitOnChar_append hs, ih hrest]

/-- The characters of a path. -/
theorem mem_joinSegments {segments : List (List Char)} {c : Char} (h : c ∈ joinSegments segments) :
    c = '/' ∨ ∃ s ∈ segments, c ∈ s := by
  obtain ⟨s, hs, hc⟩ := List.mem_flatMap.1 h
  rcases List.mem_cons.1 hc with rfl | hc
  · exact .inl rfl
  · exact .inr ⟨s, hs, hc⟩

theorem IsPath.encoded {cs : List Char} (h : IsPath cs) :
    ∀ c ∈ cs, inPathSet c = false ∧ c ≠ '\\' := by
  obtain ⟨segments, -, hform, rfl⟩ := h
  intro c hc
  rcases mem_joinSegments hc with rfl | ⟨s, hs, hcs⟩
  · decide
  · have hencoded := (hform s hs).encoded c hcs
    simp only [endsSegment, Bool.or_eq_false_iff, decide_eq_false_iff_not] at hencoded
    exact ⟨hencoded.1.1, hencoded.2⟩

/-- A path in its form is read as it is. -/
theorem readPath_of_isPath {cs : List Char} (h : IsPath cs) :
    readPath true cs = String.ofList cs := by
  have hmap : (cs.map fun c => if c = '\\' then '/' else c) = cs := by
    have hid : ∀ c ∈ cs, (if c = '\\' then '/' else c) = id c := fun c hc =>
      if_neg (h.encoded c hc).2
    rw [List.map_congr_left hid, List.map_id]
  have hchars := h.encoded
  obtain ⟨segments, hne, hform, rfl⟩ := h
  obtain ⟨first, rest, rfl⟩ := List.exists_cons_of_ne_nil hne
  have hsplit : Text.splitOnChar '/' (first ++ joinSegments rest) = first :: rest := by
    apply splitOnChar_joinSegments
    intro s hs hslash
    exact absurd ((hform s hs).encoded _ hslash) (by decide)
  have hencode : (first :: rest).map (encode inPathSet) = first :: rest := by
    rw [List.map_congr_left (g := id), List.map_id]
    intro s hs
    apply encode_of_allowed
    intro c hc
    exact (hchars c (List.mem_flatMap.2 ⟨s, hs, List.mem_cons_of_mem '/' hc⟩)).1
  have hjoin : joinSegments (first :: rest) = '/' :: (first ++ joinSegments rest) := rfl
  unfold readPath
  simp only [if_true, hmap]
  rw [hjoin]
  simp only [if_true, hsplit, hencode]
  rw [resolveDots_of_segments hform, List.reverse_nil, List.nil_append, hjoin]

/-- Without the slashes at its end a path keeps its form, if anything is left. -/
theorem isPath_dropTrailing {cs : List Char} (h : IsPath cs) :
    Text.dropTrailing (· = '/') cs = [] ∨ IsPath (Text.dropTrailing (· = '/') cs) := by
  obtain ⟨segments, -, hform, rfl⟩ := h
  induction segments using List.reverseRecOn with
  | nil => exact .inl rfl
  | append_singleton segments s ih =>
    have hjoin : joinSegments (segments ++ [s]) = joinSegments segments ++ '/' :: s := by
      simp [joinSegments]
    rw [hjoin]
    rcases List.eq_nil_or_concat s with rfl | ⟨front, c, rfl⟩
    · rw [Text.dropTrailing_append_of_all (by simp)]
      exact ih fun t ht => hform t (List.mem_append_left _ ht)
    · -- the last character of the last segment protects all before it
      have hc : c ≠ '/' := by
        rintro rfl
        exact absurd ((hform _ (List.mem_append_right _ List.mem_cons_self)).encoded '/' (by simp))
          (by decide)
      have hlast : joinSegments segments ++ '/' :: (front ++ [c]) =
          (joinSegments segments ++ '/' :: front) ++ [c] := by simp
      rw [List.concat_eq_append, hlast, Text.dropTrailing_concat (by simpa using hc), ← hlast,
        ← List.concat_eq_append, ← hjoin]
      exact .inr ⟨_, List.append_ne_nil_of_right_ne_nil _ (List.cons_ne_nil _ _), hform, rfl⟩

end SapMonitor.Url
