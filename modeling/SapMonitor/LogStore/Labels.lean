import SapMonitor.Text.Quoted
import SapMonitor.Text.Strip

/-!
# Label sets

A log line belongs to the stream of its label set.  A label set maps names to
values and keeps the names in ascending order, so that equal sets have equal
texts.

Main results:

- `LabelSet.find?_insert_self` and `LabelSet.find?_insert_of_ne`: an inserted label is found,
  and the others are as before.
- `LabelSet.ascending`: the names are in strictly ascending order.
-/

namespace SapMonitor.LogStore

/-- Labels in ascending order of names, with one of them set. -/
def putLabel (name value : String) : List (String × String) → List (String × String)
  | [] => [(name, value)]
  | (n, v) :: rest =>
    if name < n then (name, value) :: (n, v) :: rest
    else if name = n then (name, value) :: rest
    else (n, v) :: putLabel name value rest

/-- The names after a label was set are the new one and those before. -/
theorem mem_putLabel {name value : String} {labels : List (String × String)}
    {p : String × String} (h : p ∈ putLabel name value labels) :
    p.1 = name ∨ p ∈ labels := by
  induction labels with
  | nil =>
    simp only [putLabel, List.mem_singleton] at h
    exact .inl (by rw [h])
  | cons q rest ih =>
    obtain ⟨n, v⟩ := q
    unfold putLabel at h
    split at h
    · rcases List.mem_cons.1 h with rfl | h
      · exact .inl rfl
      · exact .inr h
    · split at h
      · rcases List.mem_cons.1 h with rfl | h
        · exact .inl rfl
        · exact .inr (List.mem_cons_of_mem _ h)
      · rcases List.mem_cons.1 h with rfl | h
        · exact .inr (List.mem_cons_self ..)
        · rcases ih h with h | h
          · exact .inl h
          · exact .inr (List.mem_cons_of_mem _ h)

/-- Setting a label keeps the order. -/
theorem pairwise_putLabel (name value : String) {labels : List (String × String)}
    (h : labels.Pairwise fun a b => a.1 < b.1) :
    (putLabel name value labels).Pairwise fun a b => a.1 < b.1 := by
  induction labels with
  | nil => simp [putLabel]
  | cons q rest ih =>
    obtain ⟨n, v⟩ := q
    rw [List.pairwise_cons] at h
    unfold putLabel
    split
    · rename_i hlt
      rw [List.pairwise_cons]
      refine ⟨fun p hp => ?_, List.pairwise_cons.2 h⟩
      rcases List.mem_cons.1 hp with rfl | hp
      · exact hlt
      · exact String.lt_trans hlt (h.1 p hp)
    · split
      · rename_i heq
        subst heq
        exact List.pairwise_cons.2 ⟨h.1, h.2⟩
      · rename_i hlt hne
        rw [List.pairwise_cons]
        refine ⟨fun p hp => ?_, ih h.2⟩
        rcases mem_putLabel hp with hp | hp
        · rw [hp]
          refine String.not_le.1 fun hle => hne ?_
          exact String.le_antisymm hle (String.not_lt.1 hlt)
        · exact h.1 p hp

/-- Labels with names in strictly ascending order. -/
structure LabelSet where
  pairs : List (String × String)
  ascending : pairs.Pairwise fun a b => a.1 < b.1
  deriving DecidableEq

namespace LabelSet

/-- The set without labels. -/
def empty : LabelSet :=
  { pairs := [], ascending := List.Pairwise.nil }

/-- The set with a label set. -/
def insert (s : LabelSet) (name value : String) : LabelSet :=
  { pairs := putLabel name value s.pairs, ascending := pairwise_putLabel name value s.ascending }

/-- The value of a label. -/
def find? (s : LabelSet) (name : String) : Option String :=
  s.pairs.lookup name

/-- The set with a label set unless it has one of that name. -/
def insertNew (s : LabelSet) (name value : String) : LabelSet :=
  if (s.find? name).isSome then s else s.insert name value

/-- The set of some labels, later ones winning. -/
def ofList (labels : List (String × String)) : LabelSet :=
  labels.foldl (fun s l => s.insert l.1 l.2) empty

/-- An inserted label is found. -/
theorem find?_insert_self (s : LabelSet) (name value : String) :
    (s.insert name value).find? name = some value := by
  obtain ⟨pairs, h⟩ := s
  simp only [insert, find?]
  clear h
  induction pairs with
  | nil => simp [putLabel]
  | cons q rest ih =>
    obtain ⟨n, v⟩ := q
    unfold putLabel
    split
    · simp
    · split
      · simp
      · rename_i hne
        have hb : (name == n) = false := beq_false_of_ne hne
        simp [List.lookup_cons, hb, ih]

/-- Setting a label leaves the others as they are. -/
theorem find?_insert_of_ne (s : LabelSet) {name other : String} (value : String)
    (h : other ≠ name) : (s.insert name value).find? other = s.find? other := by
  obtain ⟨pairs, hpairs⟩ := s
  simp only [insert, find?]
  clear hpairs
  have hb : (other == name) = false := beq_false_of_ne h
  induction pairs with
  | nil => simp [putLabel, List.lookup_cons, hb]
  | cons q rest ih =>
    obtain ⟨n, v⟩ := q
    unfold putLabel
    split
    · simp [List.lookup_cons, hb]
    · split
      · rename_i heq
        subst heq
        simp [List.lookup_cons, hb]
      · simp [List.lookup_cons, ih]

/-- The text of a label: the name, a sign of equality and the value in
quotes. -/
def labelText (l : String × String) : String :=
  l.1 ++ "=" ++ Text.quote l.2

/-- The text of a label set, which is the key of its stream: its labels between
braces. -/
def text (s : LabelSet) : String :=
  "\x7b" ++ Text.joinWith "," (s.pairs.map labelText) ++ "\x7d"

end LabelSet

end SapMonitor.LogStore
