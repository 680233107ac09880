import SapMonitor.Proofs.Url.Ipv4

/-!
# IPv6 addresses

An IPv6 address is shown as its eight pieces in hexadecimal, the longest run of zeros among them
left out, and read back from them.

Main results:

- `arePieces_of_readIpv6`: what is read as an IPv6 address are eight pieces.
- `ipv6Text_split`: what the shortened text leaves out.
- `readIpv6_ipv6Text`: an IPv6 address is read back from its text.
-/

namespace SapMonitor.Url

/-! ## The pieces of an IPv6 address -/

/-- The eight pieces of an IPv6 address. -/
structure ArePieces (ps : List Nat) : Prop where
  count : ps.length = 8
  bounded : ∀ p ∈ ps, p < 65536

theorem lt_of_ipv6Group? {cs : List Char} {n : Nat} (h : ipv6Group? cs = some n) : n < 65536 := by
  unfold ipv6Group? at h
  split at h
  · cases h
  · rename_i hlength
    have hshort : cs.length ≤ 4 := by
      simp only [Bool.or_eq_true, decide_eq_true_eq, not_or, not_lt] at hlength
      exact hlength.2
    calc n < 16 ^ cs.length := lt_of_readDigits? h
      _ ≤ 16 ^ 4 := Nat.pow_le_pow_right (by decide) hshort

theorem exists_of_mem_mapM {α β : Type} {f : α → Option β} {xs : List α} {ys : List β}
    (h : xs.mapM f = some ys) {y : β} (hy : y ∈ ys) : ∃ x ∈ xs, f x = some y := by
  induction xs generalizing ys with
  | nil =>
    obtain rfl : [] = ys := by simpa using h
    simp at hy
  | cons x xs ih =>
    rw [List.mapM_cons] at h
    obtain ⟨z, hz, h⟩ := Option.bind_eq_some_iff.1 h
    obtain ⟨zs, hzs, h⟩ := Option.bind_eq_some_iff.1 h
    obtain rfl := Option.some.inj h
    rcases List.mem_cons.1 hy with rfl | hy
    · exact ⟨x, List.mem_cons_self, hz⟩
    · obtain ⟨w, hw, hfw⟩ := ih hzs hy
      exact ⟨w, List.mem_cons_of_mem x hw, hfw⟩

theorem lt_of_decimalByte? {cs : List Char} {n : Nat} (h : decimalByte? cs = some n) : n < 256 := by
  unfold decimalByte? at h
  split at h
  · cases h
  · simpa using (Option.filter_eq_some_iff.1 h).2

theorem lt_of_ipv6Groups? {gs : List (List Char)} {ps : List Nat} (h : ipv6Groups? gs = some ps) :
    ∀ p ∈ ps, p < 65536 := by
  induction gs using ipv6Groups?.induct generalizing ps with
  | case1 =>
    obtain rfl : [] = ps := by simpa [ipv6Groups?] using h
    simp
  | case2 last hdot =>
    -- the four bytes make two pieces
    rw [ipv6Groups?, if_pos hdot] at h
    obtain ⟨bytes, hbytes, h⟩ := Option.bind_eq_some_iff.1 h
    have hbound : ∀ b ∈ bytes, b < 256 := by
      intro b hb
      obtain ⟨part, -, hpart⟩ := exists_of_mem_mapM hbytes hb
      exact lt_of_decimalByte? hpart
    split at h
    · obtain rfl := (Option.some.inj h)
      simp only [List.mem_cons, List.not_mem_nil, or_false, forall_eq_or_imp, forall_eq] at hbound ⊢
      omega
    · cases h
  | case3 last hdot =>
    rw [ipv6Groups?, if_neg hdot] at h
    obtain ⟨n, hn, rfl⟩ := Option.map_eq_some_iff.1 h
    simpa using lt_of_ipv6Group? hn
  | case4 g gs hgs ih =>
    rw [ipv6Groups?] at h
    · obtain ⟨n, hn, h⟩ := Option.bind_eq_some_iff.1 h
      obtain ⟨ns, hns, h⟩ := Option.bind_eq_some_iff.1 h
      obtain rfl := Option.some.inj h
      rw [List.forall_mem_cons]
      exact ⟨lt_of_ipv6Group? hn, ih hns⟩
    · exact hgs

theorem lt_of_ipv6Side? {cs : List Char} {ps : List Nat} (h : ipv6Side? cs = some ps) :
    ∀ p ∈ ps, p < 65536 := by
  unfold ipv6Side? at h
  split at h
  · obtain rfl := Option.some.inj h
    simp
  · exact lt_of_ipv6Groups? h

/-- What is read as an IPv6 address are eight pieces. -/
theorem arePieces_of_readIpv6 {cs : List Char} {ps : List Nat} (h : readIpv6 cs = .ok ps) :
    ArePieces ps := by
  unfold readIpv6 at h
  simp only at h
  split at h
  · rename_i qs hqs
    obtain rfl : qs = ps := by simpa using h
    split at hqs
    · split at hqs
      · cases hqs
      · obtain ⟨left, hleft, hqs⟩ := Option.bind_eq_some_iff.1 hqs
        obtain ⟨right, hright, hqs⟩ := Option.bind_eq_some_iff.1 hqs
        split at hqs
        · cases hqs
        · rename_i hcount
          obtain rfl := Option.some.inj hqs
          constructor
          · simp only [List.length_append, List.length_replicate]
            omega
          · intro p hp
            simp only [List.mem_append, List.mem_replicate] at hp
            rcases hp with (hp | ⟨-, rfl⟩) | hp
            · exact lt_of_ipv6Side? hleft p hp
            · decide
            · exact lt_of_ipv6Side? hright p hp
    · obtain ⟨all, hall, hqs⟩ := Option.bind_eq_some_iff.1 hqs
      split at hqs
      · rename_i hcount
        obtain rfl := Option.some.inj hqs
        exact ⟨hcount, lt_of_ipv6Groups? hall⟩
      · cases hqs
  · cases h

/-! ## Groups and their texts -/

/-- The digits of a group are neither colons nor dots. -/
theorem not_mem_toDigits_hex (n : Nat) : ':' ∉ Nat.toDigits 16 n ∧ '.' ∉ Nat.toDigits 16 n := by
  have hcolon : ∀ d < 16, ':' ≠ Nat.digitChar d := by decide
  have hdot : ∀ d < 16, '.' ≠ Nat.digitChar d := by decide
  constructor
  · intro h
    obtain ⟨d, hd, hc⟩ := mem_toDigits (by decide) h
    exact hcolon d hd hc
  · intro h
    obtain ⟨d, hd, hc⟩ := mem_toDigits (by decide) h
    exact hdot d hd hc

theorem ipv6Group?_toDigits {n : Nat} (h : n < 65536) :
    ipv6Group? (Nat.toDigits 16 n) = some n := by
  have hlength : (Nat.toDigits 16 n).length ≤ 4 := Nat.toDigits_length 16 n 4 (by decide) h
  have hne : Nat.toDigits 16 n ≠ [] := Nat.toDigits_ne_nil
  unfold ipv6Group?
  rw [if_neg (by simp [hne, hlength]), readDigits?_toDigits (by decide) (by decide)]

theorem ipv6Groups?_toDigits {ps : List Nat} (h : ∀ p ∈ ps, p < 65536) :
    ipv6Groups? (ps.map (Nat.toDigits 16)) = some ps := by
  induction ps with
  | nil => rfl
  | cons p ps ih =>
    obtain ⟨hp, hps⟩ := List.forall_mem_cons.1 h
    cases ps with
    | nil => simp [ipv6Groups?, (not_mem_toDigits_hex p).2, ipv6Group?_toDigits hp]
    | cons q qs =>
      rw [List.map_cons, ipv6Groups?, ipv6Group?_toDigits hp, ih hps]
      · rfl
      · simp

theorem splitOnChar_groupText {ps : List Nat} (h : ps ≠ []) :
    Text.splitOnChar ':' (groupText ps).toList = ps.map (Nat.toDigits 16) := by
  induction ps with
  | nil => exact absurd rfl h
  | cons p ps ih =>
    cases ps with
    | nil => simp [groupText, Text.splitOnChar_of_not_mem (not_mem_toDigits_hex p).1]
    | cons q qs =>
      have htext : (groupText (p :: q :: qs)).toList =
          Nat.toDigits 16 p ++ ':' :: (groupText (q :: qs)).toList := by
        simp [groupText]
      rw [htext, Text.splitOnChar_append (not_mem_toDigits_hex p).1, ih (by simp)]
      rfl

/-- Groups are read back from their text. -/
theorem ipv6Side?_groupText {ps : List Nat} (h : ∀ p ∈ ps, p < 65536) :
    ipv6Side? (groupText ps).toList = some ps := by
  cases ps with
  | nil => rfl
  | cons p ps =>
    have hsplit := splitOnChar_groupText (List.cons_ne_nil p ps)
    have hne : (groupText (p :: ps)).toList ≠ [] := by
      intro hnil
      rw [hnil] at hsplit
      simp [Text.splitOnChar, Nat.toDigits_ne_nil.symm] at hsplit
    unfold ipv6Side?
    rw [if_neg (by simpa using hne), hsplit, ipv6Groups?_toDigits h]

/-- Groups begin with a digit. -/
theorem groupText_head (p : Nat) (ps : List Nat) :
    ∃ c cs, (groupText (p :: ps)).toList = c :: cs ∧ c ≠ ':' := by
  have hdigits (rest : List Char) :
      ∃ c cs, Nat.toDigits 16 p ++ rest = c :: cs ∧ c ≠ ':' := by
    cases hcs : Nat.toDigits 16 p with
    | nil => exact absurd hcs Nat.toDigits_ne_nil
    | cons c cs =>
      refine ⟨c, cs ++ rest, rfl, fun hc => (not_mem_toDigits_hex p).1 ?_⟩
      rw [hcs, hc]
      exact List.mem_cons_self
  cases ps with
  | nil => simpa [groupText] using hdigits []
  | cons q qs => simpa [groupText] using hdigits (':' :: (groupText (q :: qs)).toList)

/-- The characters of groups. -/
theorem mem_groupText {ps : List Nat} {c : Char} (h : c ∈ (groupText ps).toList) :
    c = ':' ∨ ∃ d < 16, c = Nat.digitChar d := by
  induction ps with
  | nil => simp [groupText] at h
  | cons p ps ih =>
    cases ps with
    | nil =>
      simp only [groupText, String.toList_ofList] at h
      exact .inr (mem_toDigits (by decide) h)
    | cons q qs =>
      simp only [groupText, String.toList_append, String.toList_ofList, List.mem_append] at h
      rcases h with (h | h) | h
      · exact .inr (mem_toDigits (by decide) h)
      · exact .inl (by simpa using h)
      · exact ih h

/-! ## The pair of colons -/

theorem splitDoubleColon?_cons {c : Char} (h : c ≠ ':') (cs : List Char) :
    splitDoubleColon? (c :: cs) = (splitDoubleColon? cs).map fun (a, b) => (c :: a, b) := by
  rw [splitDoubleColon?]
  intro rest hc
  exact absurd hc h

theorem splitDoubleColon?_append {front : List Char} (h : ':' ∉ front) (rest : List Char) :
    splitDoubleColon? (front ++ rest) =
      (splitDoubleColon? rest).map fun (a, b) => (front ++ a, b) := by
  induction front with
  | nil => simp
  | cons c front ih =>
    obtain ⟨hc, hfront⟩ := not_or.1 (mt List.mem_cons.2 h)
    rw [List.cons_append, splitDoubleColon?_cons (Ne.symm hc), ih hfront, Option.map_map]
    rfl

theorem splitDoubleColon?_colon {c : Char} (h : c ≠ ':') (cs : List Char) :
    splitDoubleColon? (':' :: c :: cs) =
      (splitDoubleColon? (c :: cs)).map fun (a, b) => (':' :: a, b) := by
  rw [splitDoubleColon?]
  simp [h]

/-- Groups have no pair of colons, and do not begin one. -/
theorem splitDoubleColon?_groupText (ps : List Nat) (rest : List Char) :
    splitDoubleColon? ((groupText ps).toList ++ rest) =
      (splitDoubleColon? rest).map fun (a, b) => ((groupText ps).toList ++ a, b) := by
  induction ps with
  | nil => simp [groupText]
  | cons p ps ih =>
    cases ps with
    | nil =>
      simpa [groupText] using splitDoubleColon?_append (not_mem_toDigits_hex p).1 rest
    | cons q qs =>
      have htext : (groupText (p :: q :: qs)).toList ++ rest =
          (Nat.toDigits 16 p ++ [':']) ++ ((groupText (q :: qs)).toList ++ rest) := by
        simp [groupText]
      obtain ⟨c, cs, hcs, hc⟩ := groupText_head q qs
      rw [htext, List.append_assoc, splitDoubleColon?_append (not_mem_toDigits_hex p).1]
      rw [hcs] at ih ⊢
      rw [List.singleton_append, List.cons_append, splitDoubleColon?_colon hc, ← List.cons_append,
        ih, Option.map_map, Option.map_map]
      congr 1
      funext ⟨a, b⟩
      simp [groupText, hcs]

/-! ## The longest run of zeros -/

theorem take_zeroRun (ps : List Nat) : ps.take (zeroRun ps) = List.replicate (zeroRun ps) 0 := by
  have htake : ps.take (zeroRun ps) = ps.takeWhile (· = 0) :=
    List.prefix_iff_eq_take.1 (List.takeWhile_prefix _) |>.symm
  rw [htake, List.eq_replicate_iff]
  refine ⟨rfl, fun p hp => ?_⟩
  simpa using List.mem_takeWhile_imp hp

/-- The best of the candidates is one of them. -/
theorem foldl_best_mem (runs : List (Nat × Nat)) (b : Nat × Nat) :
    runs.foldl (fun b r => if b.2 < r.2 then r else b) b ∈ b :: runs := by
  induction runs generalizing b with
  | nil => simp
  | cons r runs ih =>
    rw [List.foldl_cons]
    split
    · exact List.mem_cons_of_mem b (ih r)
    · rcases List.mem_cons.1 (ih b) with h | h
      · exact List.mem_cons.2 (.inl h)
      · exact List.mem_cons_of_mem b (List.mem_cons_of_mem r h)

/-- The shortened text leaves out at least two pieces, all of them zero. -/
theorem ipv6Text_split {ps : List Nat} {i n : Nat} (h : longestZeroRun ps = some (i, n)) :
    2 ≤ n ∧ i + n ≤ ps.length ∧ ps = ps.take i ++ List.replicate n 0 ++ ps.drop (i + n) := by
  unfold longestZeroRun at h
  simp only [Option.ite_none_right_eq_some, Option.some.injEq] at h
  obtain ⟨hlong, hbest⟩ := h
  have hmem := foldl_best_mem ((List.range ps.length).map fun i => (i, zeroRun (ps.drop i))) (0, 0)
  rw [hbest] at hlong hmem
  rcases List.mem_cons.1 hmem with hzero | hmem
  · rw [hzero] at hlong
    exact absurd hlong (by decide)
  · obtain ⟨j, hj, hrun⟩ := List.mem_map.1 hmem
    obtain ⟨rfl, rfl⟩ := Prod.mk.inj hrun
    have hle : zeroRun (ps.drop j) ≤ (ps.drop j).length := (List.takeWhile_prefix _).length_le
    rw [List.length_drop] at hle
    have hj : j < ps.length := List.mem_range.1 hj
    refine ⟨hlong, by omega, ?_⟩
    rw [← take_zeroRun, List.append_assoc, ← List.drop_drop, List.take_append_drop,
      List.take_append_drop]

/-! ## IPv6 addresses -/

theorem mem_ipv6Text {ps : List Nat} {c : Char} (h : c ∈ (ipv6Text ps).toList) :
    c = ':' ∨ ∃ d < 16, c = Nat.digitChar d := by
  unfold ipv6Text at h
  split at h
  · exact mem_groupText h
  · simp only [String.toList_append, List.mem_append] at h
    rcases h with (h | h) | h
    · exact mem_groupText h
    · exact .inl (by simpa using h)
    · exact mem_groupText h

/-- An IPv6 address is read back from its text. -/
theorem readIpv6_ipv6Text {ps : List Nat} (h : ArePieces ps) :
    readIpv6 (ipv6Text ps).toList = .ok ps := by
  have hpart {qs : List Nat} (hqs : qs.Sublist ps) : ipv6Side? (groupText qs).toList = some qs :=
    ipv6Side?_groupText fun q hq => h.bounded q (hqs.subset hq)
  cases hrun : longestZeroRun ps with
  | none =>
    have hsplit : splitDoubleColon? (groupText ps).toList = none := by
      simpa [splitDoubleColon?] using splitDoubleColon?_groupText ps []
    have hne : ps ≠ [] := List.ne_nil_of_length_eq_add_one h.count
    have htext : ipv6Text ps = groupText ps := by simp [ipv6Text, hrun]
    rw [htext, readIpv6, hsplit]
    simp only [splitOnChar_groupText hne, ipv6Groups?_toDigits h.bounded]
    simp [h.count]
  | some run =>
    obtain ⟨i, n⟩ := run
    obtain ⟨hlong, hin, hps⟩ := ipv6Text_split hrun
    have htext : (ipv6Text ps).toList = (groupText (ps.take i)).toList ++
        ':' :: ':' :: (groupText (ps.drop (i + n))).toList := by
      simp [ipv6Text, hrun]
    have hsplit : splitDoubleColon? (ipv6Text ps).toList =
        some ((groupText (ps.take i)).toList, (groupText (ps.drop (i + n))).toList) := by
      rw [htext, splitDoubleColon?_groupText]
      simp [splitDoubleColon?]
    have hdot : ¬(groupText (ps.take i)).toList.contains '.' = true := by
      have hdigit : ∀ d < 16, '.' ≠ Nat.digitChar d := by decide
      intro hdot
      rcases mem_groupText (List.contains_iff_mem.1 hdot) with hc | ⟨d, hd, hc⟩
      · exact absurd hc (by decide)
      · exact hdigit d hd hc
    have hcount := h.count
    have hleft : (ps.take i).length = i := by
      rw [List.length_take]
      omega
    have hright : (ps.drop (i + n)).length = 8 - (i + n) := by
      rw [List.length_drop, h.count]
    have hgap : 8 - (ps.take i).length - (ps.drop (i + n)).length = n := by omega
    rw [readIpv6, hsplit]
    simp only
    rw [if_neg hdot, hpart (List.take_sublist i ps), hpart (List.drop_sublist _ ps)]
    simp only [Option.bind_eq_bind, Option.bind_some]
    rw [if_neg (by omega), hgap, ← hps]

end SapMonitor.Url
