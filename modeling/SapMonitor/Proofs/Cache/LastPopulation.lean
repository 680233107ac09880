import SapMonitor.Proofs.Cache.Uses

/-!
# The last population

A cache is a map from keys to their last populations.  Dead entries stay in it, are
replaced, removed or swept out; none of that is seen by a fetch or a get, which go by
what the transcript of the calls before says about the last population of their key.
A removal does see it: it tells whether an entry was held, dead or not.  A population that
would live beyond the end of the clock does not count: its fetch is lost, and the next one
populates the key again.

Main results:

- `Recalls.step`: what is live agrees with the last populations after every call.
- `reads_transcript_filter`: sweeps change no reply to a fetch or a get.
- `about_transcript_filter`: calls about other keys change no reply at all.
- `refines_last_population`: all of it for every sequence of calls.
-/

namespace SapMonitor.Cache

open Time (Span)

variable {ν : Type}

/-! ## Populations -/

/-- What a key was populated with, and when the population was complete. -/
structure Population (ν : Type) where
  value : ν
  completed : Nat
  lifetime : Span

namespace Population

/-- A population holds until its lifetime is over, and forever if that is zero. -/
def holds (p : Population ν) (now : Nat) : Bool :=
  p.lifetime.isZero || now < p.completed + p.lifetime.nanos

theorem isLive_ofPopulation (p : Population ν) (now : Nat) :
    (Entry.ofPopulation p.value p.lifetime p.completed).isLive now = p.holds now := by
  cases hz : p.lifetime.isZero with
  | false => rw [Entry.isLive_of_span _ hz, holds, hz, Bool.false_or]
  | true =>
    rw [Span.isZero_iff] at hz
    rw [holds, hz, Entry.isLive_of_zero]
    rfl

end Population

/-! ## The last population -/

/-- The last population of a key after one more call: a fetch that populates the key
is the last one unless it is lost, and a removal of the key leaves none. -/
def renew (key : String) (last : Option (Population ν)) :
    Use ν × Reply ν → Option (Population ν)
  | (.fetch k _ _ stored v d, .value _ populations) =>
    if k = key ∧ 0 < populations then some ⟨v, stored, d⟩ else last
  | (.remove k, _) => if k = key then none else last
  | _ => last

/-- The last population of a key in a transcript. -/
def lastPopulation (key : String) (past : List (Use ν × Reply ν)) : Option (Population ν) :=
  past.foldl (renew key) none

theorem lastPopulation_concat (key : String) (past : List (Use ν × Reply ν))
    (e : Use ν × Reply ν) :
    lastPopulation key (past ++ [e]) = renew key (lastPopulation key past) e := by
  rw [lastPopulation, List.foldl_append]
  rfl

/-- The value of a population, as long as it holds. -/
def Population.valueAt (now : Nat) (p : Option (Population ν)) : Option ν :=
  (p.filter fun p => p.holds now).map Population.value

theorem Population.valueAt_some (now : Nat) (p : Population ν) :
    Population.valueAt now (some p) = if p.holds now then some p.value else none := by
  rw [valueAt, Option.filter_some]
  cases p.holds now <;> rfl

/-- The value of the last population of a key, as long as it holds. -/
def heldValue (key : String) (past : List (Use ν × Reply ν)) (now : Nat) : Option ν :=
  Population.valueAt now (lastPopulation key past)

/-- From a time on, what is live in a cache is what the last populations say. -/
def Recalls (c : ExpiringCache ν) (past : List (Use ν × Reply ν)) (t : Nat) : Prop :=
  ∀ key n, t ≤ n → c.live? key n = heldValue key past n

namespace Recalls

variable {c : ExpiringCache ν} {past : List (Use ν × Reply ν)} {t : Nat}

theorem start (name : String) (t : Nat) : Recalls (.empty name : ExpiringCache ν) [] t :=
  fun _ _ _ => rfl

/-- A call that neither changes what is live nor counts as a population makes no difference. -/
theorem keep (h : Recalls c past t) {c' : ExpiringCache ν} {t' : Nat} {e : Use ν × Reply ν}
    (ht : t ≤ t') (hc : ∀ key n, t' ≤ n → c'.live? key n = c.live? key n)
    (he : ∀ key last, renew key last e = last) : Recalls c' (past ++ [e]) t' := by
  intro key n hn
  rw [hc key n hn, h key n (Nat.le_trans ht hn), heldValue, heldValue, lastPopulation_concat, he]

/-- What is live goes with a population that is stored. -/
theorem store (h : Recalls c past t) (key : String) {stored : Nat} (ht : t ≤ stored) (v : ν)
    (d : Span) (stale : Bool) (looked claimed : Nat) :
    Recalls (c.store key v d stored stale)
      (past ++ [(.fetch key looked claimed stored v d, .value v 1)]) stored := by
  intro other n hn
  rw [heldValue, lastPopulation_concat, renew]
  by_cases hk : key = other
  · subst hk
    rw [if_pos ⟨rfl, Nat.one_pos⟩, ExpiringCache.live?_store_self, Population.valueAt_some]
    exact congrArg (fun b => if b = true then some v else none)
      (Population.isLive_ofPopulation ⟨v, stored, d⟩ n)
  · rw [if_neg fun hand => hk hand.1, ExpiringCache.live?_store_of_ne c (Ne.symm hk),
      h other n (Nat.le_trans ht hn), heldValue]

/-- A removal takes the last population away. -/
theorem remove (h : Recalls c past t) (key : String) :
    Recalls (c.remove key).2 (past ++ [(.remove key, .removed (c.remove key).1)]) t := by
  intro other n hn
  rw [heldValue, lastPopulation_concat, renew]
  by_cases hk : key = other
  · rw [if_pos hk, hk, ExpiringCache.live?_remove_self]
    rfl
  · rw [if_neg hk, ExpiringCache.live?_remove_of_ne c (Ne.symm hk), h other n hn, heldValue]

/-- What is live agrees with the last populations after every call. -/
theorem step (h : Recalls c past t) {u : Use ν} (hu : (t :: u.readings).Pairwise (· ≤ ·)) :
    Recalls (u.perform c).2 (past ++ [(u, (u.perform c).1)]) (u.ending t) := by
  cases u with
  | fetch key looked claimed stored v d =>
    rcases Use.le_of_fetch hu with ⟨hlooked, hclaimed⟩
    have hstored : t ≤ stored := Use.le_ending hu
    cases hl : c.live? key looked with
    | some w =>
      rw [Use.perform_fetch_of_live hl]
      refine h.keep hstored (fun _ _ _ => rfl) fun other last => ?_
      exact if_neg fun hand => Nat.lt_irrefl 0 hand.2
    | none =>
      have hsame (k : String) (n : Nat) : (Use.claimedCache key c).live? k n = c.live? k n :=
        ExpiringCache.live?_of_entries (Use.entries_claimedCache key c) k n
      have hclaim : Recalls (Use.claimedCache key c) past t := by
        intro k n hn
        rw [hsame, h k n hn]
      cases hd : d.fits stored with
      | true =>
        rw [Use.perform_fetch_of_dead hl hclaimed hd]
        exact hclaim.store key hstored v d _ looked claimed
      | false =>
        rw [Use.perform_fetch_of_endless hl hclaimed hd]
        exact hclaim.keep hstored (fun _ _ _ => rfl) fun _ _ => rfl
  | get key now =>
    exact h.keep (Use.le_ending hu) (fun _ _ _ => rfl) fun _ _ => rfl
  | remove key => exact h.remove key
  | purge now =>
    exact h.keep (Use.le_ending hu) (fun key n hn => c.live?_purge key hn) fun _ _ => rfl

/-- Before each call what is live agrees with the last populations. -/
theorem before (h : Recalls c past t) {before after : List (Use ν)} {u : Use ν}
    (ho : InOrder t (before ++ u :: after)) :
    ∃ t', Recalls (afterUses c before) (past ++ transcript c before) t' ∧
      InOrder t' (u :: after) := by
  induction before generalizing c past t with
  | nil => exact ⟨t, by rwa [transcript, List.append_nil], ho⟩
  | cons v before ih =>
    rcases ih (h.step ho.head) ho.tail with ⟨t', hrecalls, horder⟩
    refine ⟨t', ?_, horder⟩
    rwa [List.append_assoc, List.singleton_append] at hrecalls

end Recalls

/-! ## Sweeps do not matter -/

/-- The calls of a transcript that ask for a value, with the replies. -/
def reads (past : List (Use ν × Reply ν)) : List (Use ν × Reply ν) :=
  past.filter fun e => e.1.isRead

theorem reads_cons (e : Use ν × Reply ν) (past : List (Use ν × Reply ν)) :
    reads (e :: past) = if e.1.isRead then e :: reads past else reads past :=
  List.filter_cons

/-- From a time on, the same is live in two caches. -/
def Agree (t : Nat) (c c' : ExpiringCache ν) : Prop :=
  ∀ key n, t ≤ n → c.live? key n = c'.live? key n

namespace Agree

variable {t : Nat} {c c' : ExpiringCache ν}

/-- Where the same is live, calls that ask for a value get the same replies. -/
theorem reply (h : Agree t c c') {u : Use ν} (hu : (t :: u.readings).Pairwise (· ≤ ·))
    (hread : u.isRead = true) : (u.perform c).1 = (u.perform c').1 := by
  cases u with
  | fetch key looked claimed stored v d =>
    rcases Use.le_of_fetch hu with ⟨hlooked, hclaimed⟩
    have hsame := h key looked hlooked
    cases hl : c.live? key looked with
    | some w =>
      rw [Use.perform_fetch_of_live hl, Use.perform_fetch_of_live (hsame.symm.trans hl)]
    | none =>
      cases hd : d.fits stored with
      | true =>
        rw [Use.perform_fetch_of_dead hl hclaimed hd,
          Use.perform_fetch_of_dead (hsame.symm.trans hl) hclaimed hd]
      | false =>
        rw [Use.perform_fetch_of_endless hl hclaimed hd,
          Use.perform_fetch_of_endless (hsame.symm.trans hl) hclaimed hd]
  | get key now =>
    exact congrArg Reply.live (h key now (Use.le_ending hu))
  | remove key => cases hread
  | purge now => cases hread

/-- A sweep of one of the caches makes no difference. -/
theorem purge (h : Agree t c c') {now : Nat} (ht : t ≤ now) : Agree now (c.purge now).2 c' := by
  intro key n hn
  rw [c.live?_purge key hn, h key n (Nat.le_trans ht hn)]

/-- Where the same is live, the same is live after a call. -/
theorem step (h : Agree t c c') {u : Use ν} (hu : (t :: u.readings).Pairwise (· ≤ ·)) :
    Agree (u.ending t) (u.perform c).2 (u.perform c').2 := by
  cases u with
  | fetch key looked claimed stored v d =>
    rcases Use.le_of_fetch hu with ⟨hlooked, hclaimed⟩
    have hstored : t ≤ stored := Use.le_ending hu
    have hsame := h key looked hlooked
    intro other n hn
    cases hl : c.live? key looked with
    | some w =>
      rw [Use.perform_fetch_of_live hl, Use.perform_fetch_of_live (hsame.symm.trans hl)]
      exact h other n (Nat.le_trans hstored hn)
    | none =>
      have hclaim (k : String) : (Use.claimedCache key c).live? k n =
          (Use.claimedCache key c').live? k n := by
        rw [ExpiringCache.live?_of_entries (Use.entries_claimedCache key c),
          ExpiringCache.live?_of_entries (Use.entries_claimedCache key c'),
          h k n (Nat.le_trans hstored hn)]
      cases hd : d.fits stored with
      | true =>
        rw [Use.perform_fetch_of_dead hl hclaimed hd,
          Use.perform_fetch_of_dead (hsame.symm.trans hl) hclaimed hd]
        by_cases hk : other = key
        · rw [hk, ExpiringCache.live?_store_self, ExpiringCache.live?_store_self]
        · rw [ExpiringCache.live?_store_of_ne _ hk, ExpiringCache.live?_store_of_ne _ hk,
            hclaim other]
      | false =>
        rw [Use.perform_fetch_of_endless hl hclaimed hd,
          Use.perform_fetch_of_endless (hsame.symm.trans hl) hclaimed hd]
        exact hclaim other
  | get key now =>
    exact fun other n hn => h other n (Nat.le_trans (Use.le_ending hu) hn)
  | remove key =>
    intro other n hn
    by_cases hk : other = key
    · rw [Use.perform, Use.perform, hk, ExpiringCache.live?_remove_self,
        ExpiringCache.live?_remove_self]
    · rw [Use.perform, Use.perform, ExpiringCache.live?_remove_of_ne _ hk,
        ExpiringCache.live?_remove_of_ne _ hk, h other n hn]
  | purge now =>
    have hle : t ≤ now := Use.le_ending hu
    exact fun other n hn => (h.purge hle other n hn).trans (c'.live?_purge other hn).symm

end Agree

/-- Leaving the sweeps out changes no reply to a fetch or a get. -/
theorem reads_transcript_filter {t : Nat} {c c' : ExpiringCache ν} (h : Agree t c c')
    {uses : List (Use ν)} (ho : InOrder t uses) :
    reads (transcript c' (uses.filter fun u => !u.isPurge)) = reads (transcript c uses) := by
  induction uses generalizing c c' t with
  | nil => rfl
  | cons u uses ih =>
    cases hp : u.isPurge with
    | true =>
      cases u with
      | purge now => exact ih (h.purge (Use.le_ending ho.head)) ho.tail
      | _ => cases hp
    | false =>
      have hrest := ih (h.step ho.head) ho.tail
      rw [List.filter_cons_of_pos (by rw [hp]; rfl), transcript, transcript, reads_cons, reads_cons,
        hrest]
      cases hr : u.isRead with
      | true => rw [h.reply ho.head hr]
      | false => rfl

/-! ## Other keys do not matter -/

/-- The calls of a transcript that are about a key, with the replies. -/
def about (key : String) (past : List (Use ν × Reply ν)) : List (Use ν × Reply ν) :=
  past.filter fun e => e.1.isOn key

theorem about_cons (key : String) (e : Use ν × Reply ν) (past : List (Use ν × Reply ν)) :
    about key (e :: past) = if e.1.isOn key then e :: about key past else about key past :=
  List.filter_cons

/-- A call about a key goes by the entry of the key, in its reply and in the entry that it
leaves. -/
theorem Use.perform_of_find? {t : Nat} {c c' : ExpiringCache ν} {key : String} {u : Use ν}
    (hu : (t :: u.readings).Pairwise (· ≤ ·)) (hkey : u.isOn key = true)
    (h : c.find? key = c'.find? key) :
    (u.perform c).1 = (u.perform c').1 ∧ (u.perform c).2.find? key = (u.perform c').2.find? key := by
  cases u with
  | fetch k looked claimed stored v d =>
    obtain rfl : k = key := of_decide_eq_true hkey
    rcases Use.le_of_fetch hu with ⟨-, hclaimed⟩
    have hsame : c.live? k looked = c'.live? k looked := ExpiringCache.live?_of_find? h looked
    cases hl : c.live? k looked with
    | some w =>
      rw [perform_fetch_of_live hl, perform_fetch_of_live (hsame.symm.trans hl)]
      exact ⟨rfl, h⟩
    | none =>
      cases hd : d.fits stored with
      | true =>
        rw [perform_fetch_of_dead hl hclaimed hd,
          perform_fetch_of_dead (hsame.symm.trans hl) hclaimed hd]
        exact ⟨rfl, by rw [ExpiringCache.find?_store_self, ExpiringCache.find?_store_self]⟩
      | false =>
        rw [perform_fetch_of_endless hl hclaimed hd,
          perform_fetch_of_endless (hsame.symm.trans hl) hclaimed hd]
        refine ⟨rfl, ?_⟩
        rw [ExpiringCache.find?_of_entries (entries_claimedCache k c),
          ExpiringCache.find?_of_entries (entries_claimedCache k c'), h]
  | get k now =>
    obtain rfl : k = key := of_decide_eq_true hkey
    exact ⟨congrArg Reply.live (ExpiringCache.live?_of_find? h now), h⟩
  | remove k =>
    obtain rfl : k = key := of_decide_eq_true hkey
    refine ⟨congrArg (fun e : Option (Entry ν) => (Reply.removed e.isSome : Reply ν)) h, ?_⟩
    rw [perform, perform, ExpiringCache.find?_remove_self, ExpiringCache.find?_remove_self]
  | purge now => cases hkey

/-- A call about another key keeps the entry of the key. -/
theorem Use.find?_perform {t : Nat} (c : ExpiringCache ν) {key : String} {u : Use ν}
    (hu : (t :: u.readings).Pairwise (· ≤ ·)) (hkey : u.isOn key = false)
    (hp : u.isPurge = false) : (u.perform c).2.find? key = c.find? key := by
  cases u with
  | fetch k looked claimed stored v d =>
    have hne : key ≠ k := fun he => of_decide_eq_false hkey he.symm
    rcases Use.le_of_fetch hu with ⟨-, hclaimed⟩
    cases hl : c.live? k looked with
    | some w =>
      rw [perform_fetch_of_live hl]
      rfl
    | none =>
      have hclaim : (claimedCache k c).find? key = c.find? key :=
        ExpiringCache.find?_of_entries (entries_claimedCache k c) key
      cases hd : d.fits stored with
      | true =>
        rw [perform_fetch_of_dead hl hclaimed hd, ExpiringCache.find?_store_of_ne _ hne, hclaim]
      | false =>
        rw [perform_fetch_of_endless hl hclaimed hd, hclaim]
  | get k now => rfl
  | remove k =>
    have hne : key ≠ k := fun he => of_decide_eq_false hkey he.symm
    exact c.find?_remove_of_ne hne
  | purge now => cases hp

/-- Leaving out the calls about other keys changes no reply to a call about the key. -/
theorem about_transcript_filter {t : Nat} {c c' : ExpiringCache ν} {key : String}
    (h : c.find? key = c'.find? key) {uses : List (Use ν)} (ho : InOrder t uses) :
    about key (transcript c' (uses.filter fun u => u.isOn key || u.isPurge)) =
      about key (transcript c uses) := by
  induction uses generalizing c c' t with
  | nil => rfl
  | cons u uses ih =>
    cases hk : u.isOn key with
    | true =>
      rcases Use.perform_of_find? ho.head hk h with ⟨hreply, hfind⟩
      rw [List.filter_cons_of_pos (by rw [hk]; rfl), transcript, transcript, about_cons, about_cons,
        hreply, ih hfind ho.tail]
    | false =>
      cases hp : u.isPurge with
      | true =>
        have hfind : (u.perform c).2.find? key = (u.perform c').2.find? key := by
          cases u with
          | purge now =>
            rw [Use.perform, Use.perform, ExpiringCache.find?_purge, ExpiringCache.find?_purge, h]
          | _ => cases hp
        rw [List.filter_cons_of_pos (by rw [hk, hp]; rfl), transcript, transcript, about_cons,
          about_cons, ih hfind ho.tail]
        simp only [hk, Bool.false_eq_true, ↓reduceIte]
      | false =>
        have hfind : (u.perform c).2.find? key = c'.find? key :=
          (Use.find?_perform c ho.head hk hp).trans h
        rw [List.filter_cons_of_neg (by rw [hk, hp]; exact Bool.false_ne_true), transcript,
          about_cons, ih hfind ho.tail]
        simp only [hk, Bool.false_eq_true, ↓reduceIte]

/-! ## Refinement -/

/-- Calls of a cache get what the last populations say. -/
structure Refines (c : ExpiringCache ν) (uses : List (Use ν)) : Prop where
  /-- A fetch returns the last population of its key without populating it, as long as it
  holds; otherwise it populates the key once, and returns that, or is lost if the clock cannot
  tell when that ends. -/
  fetch : ∀ before key looked claimed stored v d after,
    uses = before ++ .fetch key looked claimed stored v d :: after →
    ((Use.fetch key looked claimed stored v d).perform (afterUses c before)).1 =
      match heldValue key (transcript c before) looked with
      | some w => .value w 0
      | none => if d.fits stored then .value v 1 else .lost 1
  /-- A get returns the last population of its key as long as it holds, and changes
  nothing. -/
  get : ∀ before key now after, uses = before ++ .get key now :: after →
    (Use.get key now).perform (afterUses c before) =
      (.live (heldValue key (transcript c before) now), afterUses c before)
  /-- Calls that differ in their sweeps get the same values. -/
  sweeps : ∀ t swept, InOrder t swept →
    (swept.filter fun u => !u.isPurge) = (uses.filter fun u => !u.isPurge) →
    reads (transcript c swept) = reads (transcript c uses)
  /-- What calls about a key get depends on no call about another key. -/
  keys : ∀ key, about key (transcript c (uses.filter fun u => u.isOn key || u.isPurge)) =
    about key (transcript c uses)

/-- A cache refines the map of last populations. -/
theorem refines_last_population (name : String) {t : Nat} {uses : List (Use ν)}
    (ho : InOrder t uses) : Refines (.empty name) uses where
  fetch before key looked claimed stored v d after huses := by
    rw [huses] at ho
    rcases (Recalls.start name t).before ho with ⟨t', hrecalls, horder⟩
    rcases Use.le_of_fetch horder.head with ⟨hlooked, hclaimed⟩
    have hlive := hrecalls key looked hlooked
    rw [List.nil_append] at hlive
    rw [← hlive]
    cases hl : (afterUses (.empty name) before).live? key looked with
    | some w => rw [Use.perform_fetch_of_live hl]
    | none =>
      cases hd : d.fits stored with
      | true => rw [Use.perform_fetch_of_dead hl hclaimed hd]; rfl
      | false => rw [Use.perform_fetch_of_endless hl hclaimed hd]; rfl
  get before key now after huses := by
    rw [huses] at ho
    rcases (Recalls.start name t).before ho with ⟨t', hrecalls, horder⟩
    have hlive := hrecalls key now (Use.le_ending horder.head)
    rw [List.nil_append] at hlive
    rw [← hlive]
    rfl
  sweeps t' swept ho' hsame := by
    have hrefl (s : Nat) : Agree s (.empty name : ExpiringCache ν) (.empty name) :=
      fun _ _ _ => rfl
    rw [← reads_transcript_filter (hrefl t') ho', hsame, reads_transcript_filter (hrefl t) ho]
  keys _ := about_transcript_filter rfl ho

/-- A population that ends, and is fetched again before that and after. -/
def refetched : List (Use Nat) :=
  [.fetch "a" 0 0 1 7 ⟨5⟩, .fetch "a" 5 5 5 8 ⟨5⟩, .purge 6, .fetch "b" 6 6 7 9 .zero,
    .fetch "a" 8 8 9 8 ⟨5⟩]

theorem refines_refetched : InOrder 0 refetched ∧ Refines (.empty "cache") refetched ∧
    ((Use.fetch "a" 5 5 5 8 ⟨5⟩).perform (afterUses (.empty "cache") (refetched.take 1))).1 =
      .value 7 0 ∧
    ((Use.fetch "a" 8 8 9 8 ⟨5⟩).perform (afterUses (.empty "cache") (refetched.take 4))).1 =
      .value 8 1 := by
  have ho : InOrder 0 refetched := by
    rw [InOrder]
    decide
  have hrefines := refines_last_population "cache" ho
  exact ⟨ho, hrefines, hrefines.fetch _ _ _ _ _ _ _ _ rfl, hrefines.fetch _ _ _ _ _ _ _ _ rfl⟩

/-- A sweep changes the reply to a removal, which tells whether a dead entry was held. -/
theorem removed_of_sweep :
    InOrder 0 [.fetch "k" 0 0 0 1 ⟨5⟩, .purge 5, .remove "k"] ∧
    ((Use.remove "k").perform
      (afterUses (.empty "test") [.fetch "k" 0 0 0 1 ⟨5⟩])).1 = .removed true ∧
    ((Use.remove "k").perform
      (afterUses (.empty "test") [.fetch "k" 0 0 0 1 ⟨5⟩, .purge 5])).1 = .removed false := by
  refine ⟨?_, rfl, rfl⟩
  rw [InOrder]
  decide

end SapMonitor.Cache
