import SapMonitor.Proofs.Markup.Written

/-!
# Reading written nodes

The reader takes a sound written document node by node: after each node it stands in text
again, with the same open elements, and has emitted the events of the node.

Main results:

- `Reader.run_text`: a text is read up to the bracket after it.
- `Tag.Sound.run_start`, `Tag.Sound.run_empty` and `Tag.Sound.run_end`: a tag is read as its
  event.
- `Node.run_written` and `Node.run_writtenAll`: what the reader emits for nodes.
-/

namespace SapMonitor.Markup

/-! ## Text -/

namespace Reader

variable {names : List (List Char)} {emitted : List Event}

/-- Once a text has begun, every character of it is collected. -/
theorem run_begun {raw : List Char} (hraw : '<' ∉ raw) (c : Char) (seen : List Char) :
    (⟨.content (c :: seen), names, emitted⟩ : Reader).run raw =
      ⟨.content (raw.reverse ++ c :: seen), names, emitted⟩ := by
  induction raw generalizing c seen with
  | nil => rfl
  | cons d raw ih =>
    rw [List.mem_cons, not_or] at hraw
    have hstep : (⟨.content (c :: seen), names, emitted⟩ : Reader).step d =
        ⟨.content (d :: c :: seen), names, emitted⟩ := by
      simp [step, Ne.symm hraw.1]
    rw [run_cons, hstep, ih hraw.2]
    simp

/-- White space before a text is not collected. -/
theorem run_content {raw : List Char} (hraw : '<' ∉ raw) :
    (⟨.content [], names, emitted⟩ : Reader).run raw =
      ⟨.content (raw.dropWhile isGap).reverse, names, emitted⟩ := by
  induction raw with
  | nil => rfl
  | cons c raw ih =>
    rw [List.mem_cons, not_or] at hraw
    rw [run_cons]
    cases hc : isGap c with
    | true =>
      have hstep : (⟨.content [], names, emitted⟩ : Reader).step c =
          ⟨.content [], names, emitted⟩ := by
        simp [step, Ne.symm hraw.1, hc]
      rw [hstep, ih hraw.2, List.dropWhile_cons_of_pos hc]
    | false =>
      have hstep : (⟨.content [], names, emitted⟩ : Reader).step c =
          ⟨.content [c], names, emitted⟩ := by
        simp [step, Ne.symm hraw.1, hc]
      rw [hstep, run_begun hraw.2, List.dropWhile_cons_of_neg (by simp [hc])]
      simp

/-- Closing a text emits its events. -/
theorem closeText_eq (mode : Mode) (raw : List Char) :
    (⟨mode, names, emitted⟩ : Reader).closeText (raw.dropWhile isGap).reverse =
      ⟨mode, names, (Node.textEvents raw).reverse ++ emitted⟩ := by
  unfold closeText Node.textEvents Text.strip Text.dropTrailing
  cases h : (raw.dropWhile isGap).reverse.dropWhile isGap with
  | nil => rfl
  | cons c cs =>
    cases hr : (c :: cs).reverse with
    | nil => simp at hr
    | cons d ds => simp [← hr]

/-- A text is read up to the bracket after it. -/
theorem run_text {raw : List Char} (hraw : '<' ∉ raw) (rest : List Char) :
    (⟨.content [], names, emitted⟩ : Reader).run (raw ++ '<' :: rest) =
      (⟨.opened, names, (Node.textEvents raw).reverse ++ emitted⟩ : Reader).run rest := by
  rw [run_append, run_content hraw, run_cons]
  congr 1
  simp [step, closeText_eq]

/-- Where characters are collected up to a mark, a text without the mark is collected as a
whole. -/
theorem run_unmarked {enter : List Char → Mode} {mark : Char}
    (hstep : ∀ seen c, c ≠ mark → (⟨enter seen, names, emitted⟩ : Reader).step c =
      ⟨enter (c :: seen), names, emitted⟩)
    {cs : List Char} (h : mark ∉ cs) (seen : List Char) :
    (⟨enter seen, names, emitted⟩ : Reader).run cs =
      ⟨enter (cs.reverse ++ seen), names, emitted⟩ := by
  induction cs generalizing seen with
  | nil => rfl
  | cons c cs ih =>
    rw [List.mem_cons, not_or] at h
    rw [run_cons, hstep seen c (Ne.symm h.1), ih h.2]
    simp

/-! ## Tags -/

/-- Inside a tag everything is collected up to a closing bracket outside of quotes. -/
theorem run_startTag {quote : Option Char} {cs : List Char} (h : closesQuotes quote cs = true)
    (seen : List Char) :
    (⟨.startTag quote seen, names, emitted⟩ : Reader).run cs =
      ⟨.startTag none (cs.reverse ++ seen), names, emitted⟩ := by
  induction cs generalizing quote seen with
  | nil =>
    cases quote with
    | none => rfl
    | some q => simp [closesQuotes] at h
  | cons c cs ih =>
    rw [run_cons]
    cases quote with
    | none =>
      rw [closesQuotes] at h
      split at h
      · exact absurd h (by simp)
      · rename_i hc
        have hstep : (⟨.startTag none seen, names, emitted⟩ : Reader).step c =
            ⟨.startTag (if c = '\'' || c = '"' then some c else none) (c :: seen), names,
              emitted⟩ := by
          by_cases hq : c = '\'' ∨ c = '"' <;> simp [step, hc, hq]
        rw [hstep, ih h]
        simp
    | some q =>
      rw [closesQuotes] at h
      have hstep : (⟨.startTag (some q) seen, names, emitted⟩ : Reader).step c =
          ⟨.startTag (if c = q then none else some q) (c :: seen), names, emitted⟩ := rfl
      rw [hstep, ih h]
      simp

end Reader

/-- Name characters open no quotes. -/
theorem closesQuotes_append_of_plain {cs : List Char} (h : ∀ c ∈ cs, isTagChar c = true)
    (rest : List Char) : closesQuotes none (cs ++ rest) = closesQuotes none rest := by
  induction cs with
  | nil => rfl
  | cons c cs ih =>
    obtain ⟨-, -, hclose, -, hdouble, hsingle⟩ := isTagChar_iff.1 (h c (by simp))
    rw [List.cons_append, closesQuotes]
    simp only [hclose, hdouble, hsingle, if_false, decide_false, Bool.or_self, Bool.false_eq_true]
    exact ih fun d hd => h d (by simp [hd])

namespace Tag.Sound

variable {t : Tag} {names : List (List Char)} {emitted : List Event}

/-- A name character is no white space. -/
theorem isGap_qualified (h : t.Sound) : ∀ c ∈ t.qualified, isGap c = false := by
  intro c hc
  exact (isTagChar_iff.1 (h.plain c hc)).1

/-- The name of a tag is what stands before the first white space. -/
theorem takeWhile_inside (h : t.Sound) (rest : List Char)
    (hrest : (t.attributes ++ rest).head?.all isGap = true) :
    (t.inside ++ rest).takeWhile (fun c => !isGap c) = t.qualified := by
  have hall : ∀ c ∈ t.qualified, (!isGap c) = true := by
    intro c hc
    rw [h.isGap_qualified c hc]
    rfl
  rw [Tag.inside, List.append_assoc, List.takeWhile_append_of_pos hall]
  cases hr : t.attributes ++ rest with
  | nil => simp
  | cons c cs =>
    rw [hr] at hrest
    have hc : isGap c = true := by simpa using hrest
    simp [hc]

/-- The reader collects a start tag. -/
theorem run_inside (h : t.Sound) :
    (⟨.opened, names, emitted⟩ : Reader).run t.inside =
      ⟨.startTag none t.inside.reverse, names, emitted⟩ := by
  have hplain := h.plain
  have hopening := h.opening
  have hclosed : closesQuotes none t.inside = true := by
    rw [Tag.inside, closesQuotes_append_of_plain hplain]
    exact h.closed
  rw [Tag.inside] at hclosed ⊢
  cases hq : t.qualified with
  | nil => exact absurd hq h.named
  | cons c cs =>
    rw [hq] at hplain hopening hclosed
    obtain ⟨-, -, hclose, hslash, hdouble, hsingle⟩ := isTagChar_iff.1 (hplain c (by simp))
    have hbang : c ≠ '!' ∧ c ≠ '?' := by simpa using hopening
    have hstep : (⟨.opened, names, emitted⟩ : Reader).step c =
        ⟨.startTag none [c], names, emitted⟩ := by
      simp [Reader.step, hbang, hclose, hslash, hdouble, hsingle]
    have hrest : closesQuotes none (cs ++ t.attributes) = true := by
      rw [closesQuotes_append_of_plain fun d hd => hplain d (by simp [hd])]
      exact h.closed
    rw [List.cons_append, Reader.run_cons, hstep, Reader.run_startTag hrest]
    simp

/-- The content of a start tag does not end in a slash. -/
theorem getLast?_inside (h : t.Sound) : t.inside.getLast? ≠ some '/' := by
  rw [Tag.inside, List.getLast?_append]
  cases ha : t.attributes.getLast? with
  | some c =>
    have hfilled := h.filled
    rw [ha] at hfilled
    simpa using hfilled
  | none =>
    intro hc
    have hmem := List.mem_of_getLast? (by simpa using hc)
    exact absurd (h.plain _ hmem) (by decide)

/-- A start tag opens its element. -/
theorem run_start (h : t.Sound) (rest : List Char) :
    (⟨.opened, names, emitted⟩ : Reader).run (t.inside ++ '>' :: rest) =
      (⟨.content [], t.qualified :: names, .start t.qualified :: emitted⟩ : Reader).run rest := by
  have hname := h.takeWhile_inside [] (by simpa using h.apart)
  have hlast : ∀ seen, t.inside.reverse ≠ '/' :: seen := by
    intro seen hs
    apply h.getLast?_inside
    rw [← List.head?_reverse, hs, List.head?_cons]
  rw [Reader.run_append, h.run_inside, Reader.run_cons]
  congr 1
  rw [List.append_nil] at hname
  unfold Reader.step Reader.closeStartTag
  simp only [if_true, List.reverse_reverse, hname]
  rfl

/-- An empty tag is a whole element. -/
theorem run_empty (h : t.Sound) (rest : List Char) :
    (⟨.opened, names, emitted⟩ : Reader).run (t.inside ++ '/' :: '>' :: rest) =
      (⟨.content [], names, .empty t.qualified :: emitted⟩ : Reader).run rest := by
  have hslash : (⟨.startTag none t.inside.reverse, names, emitted⟩ : Reader).step '/' =
      ⟨.startTag none ('/' :: t.inside.reverse), names, emitted⟩ := by
    simp [Reader.step]
  rw [Reader.run_append, h.run_inside, Reader.run_cons, hslash, Reader.run_cons]
  congr 1
  unfold Reader.step Reader.closeStartTag
  simp only [if_true, List.reverse_cons, List.reverse_reverse, Reader.emit]
  congr 3
  cases ha : t.attributes with
  | nil =>
    have hnone : (t.inside ++ ['/']).any isGap = false := by
      rw [Tag.inside, ha, List.append_nil, List.any_append, List.any_eq_false.2]
      · decide
      · intro c hc
        simp [h.isGap_qualified c hc]
    rw [hnone, Tag.inside, ha, List.append_nil]
    rfl
  | cons c cs =>
    have hc : isGap c = true := by simpa [ha] using h.apart
    have hsome : (t.inside ++ ['/']).any isGap = true := by
      rw [List.any_eq_true]
      exact ⟨c, by simp [Tag.inside, ha], hc⟩
    rw [hsome, if_pos rfl, h.takeWhile_inside ['/'] (by simp [ha, hc])]

/-- The end tag closes the innermost element. -/
theorem run_end (h : t.Sound) (rest : List Char) :
    (⟨.opened, t.qualified :: names, emitted⟩ : Reader).run ('/' :: (t.qualified ++ '>' :: rest)) =
      (⟨.content [], names, .stop :: emitted⟩ : Reader).run rest := by
  have hcollect : (⟨.endTag [], t.qualified :: names, emitted⟩ : Reader).run t.qualified =
      ⟨.endTag t.qualified.reverse, t.qualified :: names, emitted⟩ := by
    have hclose : '>' ∉ t.qualified := fun hmem => absurd (h.plain _ hmem) (by decide)
    rw [Reader.run_unmarked (fun seen c hc => by simp [Reader.step, hc]) hclose, List.append_nil]
  have hslash : (⟨.opened, t.qualified :: names, emitted⟩ : Reader).step '/' =
      ⟨.endTag [], t.qualified :: names, emitted⟩ := by
    simp [Reader.step]
  have htrim : t.qualified.reverse.dropWhile Reader.isEndTagGap = t.qualified.reverse := by
    cases hq : t.qualified.reverse with
    | nil => rfl
    | cons c cs =>
      have hmem : c ∈ t.qualified := by
        rw [← List.mem_reverse, hq]
        simp
      obtain ⟨hgap, hfeed, -⟩ := isTagChar_iff.1 (h.plain c hmem)
      apply List.dropWhile_cons_of_neg
      simp [Reader.isEndTagGap, hgap, hfeed]
  rw [Reader.run_cons, hslash, Reader.run_append, hcollect, Reader.run_cons]
  congr 1
  unfold Reader.step Reader.closeEndTag
  simp only [if_true, htrim]
  cases hq : t.qualified.reverse with
  | nil => exact absurd (List.reverse_eq_nil_iff.1 hq) h.named
  | cons c cs =>
    have hwhole : (c :: cs).reverse = t.qualified := by rw [← hq, List.reverse_reverse]
    simp only [hwhole, if_true]
    rfl

end Tag.Sound

/-! ## Comments, instructions and verbatim sections -/

/-- A mark that ends with a closing bracket does not come about by the two characters that
a section is closed with. -/
theorem closing_not_inside {x : Char} (hx : x ≠ '>') {body : List Char}
    (h : ¬[x, x, '>'] <:+: body) : ¬[x, x, '>'] <:+: body ++ [x, x] := by
  rw [← List.reverse_infix] at h ⊢
  simp only [List.reverse_append, List.reverse_cons, List.reverse_nil, List.nil_append,
    List.cons_append] at h ⊢
  intro hinfix
  rw [List.infix_cons_iff, List.infix_cons_iff] at hinfix
  rcases hinfix with hfront | hfront | hrest
  · exact hx (List.cons_prefix_cons.1 hfront).1.symm
  · exact hx (List.cons_prefix_cons.1 hfront).1.symm
  · exact h hrest

/-- Before a closing bracket inside a section the two characters of its mark do not
stand. -/
theorem reverse_ne_of_not_inside {x : Char} {front rest : List Char}
    (h : ¬[x, x, '>'] <:+: front ++ '>' :: rest) (tail : List Char) :
    front.reverse ≠ x :: x :: tail := by
  intro hfront
  apply h
  have hsplit : front = tail.reverse ++ [x, x] := by
    rw [← List.reverse_reverse front, hfront]
    simp
  exact ⟨tail.reverse, rest, by simp [hsplit]⟩

namespace Reader

variable {names : List (List Char)} {emitted : List Event}

/-- A section is collected up to its mark, if each of its characters is collected that
does not complete the mark.  What is collected goes before the beginning of the section. -/
theorem run_section {enter : List Char → Mode} {x : Char} {begun : List Char}
    (hstep : ∀ front c, (c = '>' → ∀ tail, front ≠ x :: x :: tail) →
      (⟨enter (front ++ begun), names, emitted⟩ : Reader).step c =
        ⟨enter (c :: (front ++ begun)), names, emitted⟩)
    (front : List Char) {cs : List Char} (h : ¬[x, x, '>'] <:+: front ++ cs) :
    (⟨enter (front.reverse ++ begun), names, emitted⟩ : Reader).run cs =
      ⟨enter ((front ++ cs).reverse ++ begun), names, emitted⟩ := by
  induction cs generalizing front with
  | nil => rw [run_nil, List.append_nil]
  | cons c cs ih =>
    have hc : c = '>' → ∀ tail, front.reverse ≠ x :: x :: tail := by
      rintro rfl
      exact reverse_ne_of_not_inside h
    have hnext : c :: (front.reverse ++ begun) = (front ++ [c]).reverse ++ begun := by simp
    rw [run_cons, hstep _ c hc, hnext, ih (front ++ [c]) (by simpa using h)]
    simp

/-- In a comment a character is collected that does not complete the mark.  The dashes that
begin the comment are no part of the mark. -/
theorem step_comment (front : List Char) (c : Char)
    (h : c = '>' → ∀ tail, front ≠ '-' :: '-' :: tail) :
    (⟨.comment (front ++ ['-', '-']), names, emitted⟩ : Reader).step c =
      ⟨.comment (c :: (front ++ ['-', '-'])), names, emitted⟩ := by
  by_cases hc : c = '>'
  · subst hc
    match front with
    | [] => rfl
    | [x] => simp [step]
    | x :: y :: tail =>
      have hxy : ¬(x = '-' ∧ y = '-') := by
        rintro ⟨rfl, rfl⟩
        exact h rfl tail rfl
      simp only [step, List.cons_append]
      split
      · rename_i heq
        simp only [List.cons.injEq] at heq
        exact absurd ⟨heq.1, heq.2.1⟩ hxy
      · rfl
  · simp [step, hc]

/-- A comment is skipped. -/
theorem run_comment {body : List Char} (h : ¬['-', '-', '>'] <:+: body) (rest : List Char) :
    (⟨.opened, names, emitted⟩ : Reader).run
        ('!' :: '-' :: '-' :: (body ++ '-' :: '-' :: '>' :: rest)) =
      (⟨.content [], names, emitted⟩ : Reader).run rest := by
  have hbody : (⟨.comment ['-', '-'], names, emitted⟩ : Reader).run (body ++ ['-', '-']) =
      ⟨.comment ('-' :: '-' :: (body.reverse ++ ['-', '-'])), names, emitted⟩ := by
    have hrun : (⟨.comment ([].reverse ++ ['-', '-']), names, emitted⟩ : Reader).run
        (body ++ ['-', '-']) = ⟨.comment ((body ++ ['-', '-']).reverse ++ ['-', '-']), names,
          emitted⟩ :=
      run_section step_comment [] (closing_not_inside (by decide) h)
    simpa using hrun
  have hopen : (⟨.opened, names, emitted⟩ : Reader).run ['!', '-', '-'] =
      ⟨.comment ['-', '-'], names, emitted⟩ := rfl
  have hsplit : '!' :: '-' :: '-' :: (body ++ '-' :: '-' :: '>' :: rest) =
      ['!', '-', '-'] ++ ((body ++ ['-', '-']) ++ '>' :: rest) := by simp
  have hbegin : beginsWith ('-' :: '-' :: (body.reverse ++ ['-', '-'])) ['-', '-'] = true := by
    simp [beginsWith]
  obtain ⟨c, d, tail, htail⟩ : ∃ c d tail, body.reverse ++ ['-', '-'] = c :: d :: tail := by
    match body.reverse with
    | [] => exact ⟨_, _, _, rfl⟩
    | [c] => exact ⟨_, _, _, rfl⟩
    | c :: d :: tail => exact ⟨_, _, _, rfl⟩
  rw [hsplit, run_append, hopen, run_append, hbody, run_cons]
  congr 1
  rw [htail] at hbegin ⊢
  simp [step, hbegin, skip]

/-- An instruction is skipped. -/
theorem run_instruction {body : List Char} (hne : body ≠ []) (h : '>' ∉ body)
    (rest : List Char) :
    (⟨.opened, names, emitted⟩ : Reader).run ('?' :: (body ++ '?' :: '>' :: rest)) =
      (⟨.content [], names, emitted⟩ : Reader).run rest := by
  have hcollect : (⟨.instruction [], names, emitted⟩ : Reader).run body =
      ⟨.instruction body.reverse, names, emitted⟩ := by
    rw [run_unmarked (fun seen c hc => by simp [step, hc]) h, List.append_nil]
  have hopen : (⟨.opened, names, emitted⟩ : Reader).step '?' =
      ⟨.instruction [], names, emitted⟩ := rfl
  rw [run_cons, hopen, run_append, hcollect, run_cons, run_cons]
  congr 1
  cases hb : body.reverse with
  | nil => exact absurd (List.reverse_eq_nil_iff.1 hb) hne
  | cons c cs => simp [step, closeInstruction, skip]

/-- How a verbatim section begins, after the exclamation mark and last first. -/
def verbatimMark : List Char :=
  ['[', 'A', 'T', 'A', 'D', 'C', '[']

/-- In a verbatim section a character is collected that does not complete the mark. -/
theorem step_verbatim (front : List Char) (c : Char)
    (h : c = '>' → ∀ tail, front ≠ ']' :: ']' :: tail) :
    (⟨.verbatim (front ++ verbatimMark), names, emitted⟩ : Reader).step c =
      ⟨.verbatim (c :: (front ++ verbatimMark)), names, emitted⟩ := by
  by_cases hc : c = '>'
  · subst hc
    match front with
    | [] => rfl
    | [x] => simp [step, verbatimMark]
    | x :: y :: tail =>
      have hxy : ¬(x = ']' ∧ y = ']') := by
        rintro ⟨rfl, rfl⟩
        exact h rfl tail rfl
      simp only [step, List.cons_append]
      split
      · rename_i heq
        simp only [List.cons.injEq] at heq
        exact absurd ⟨heq.1, heq.2.1⟩ hxy
      · rfl
  · simp [step, hc]

/-- A verbatim section is emitted as it is. -/
theorem run_verbatim {body : List Char} (h : ¬[']', ']', '>'] <:+: body) (rest : List Char) :
    (⟨.opened, names, emitted⟩ : Reader).run
        ('!' :: '[' :: 'C' :: 'D' :: 'A' :: 'T' :: 'A' :: '[' ::
          (body ++ ']' :: ']' :: '>' :: rest)) =
      (⟨.content [], names, .verbatim body :: emitted⟩ : Reader).run rest := by
  have hbody : (⟨.verbatim verbatimMark, names, emitted⟩ : Reader).run (body ++ [']', ']']) =
      ⟨.verbatim (']' :: ']' :: (body.reverse ++ verbatimMark)), names, emitted⟩ := by
    have hrun : (⟨.verbatim ([].reverse ++ verbatimMark), names, emitted⟩ : Reader).run
        (body ++ [']', ']']) = ⟨.verbatim ((body ++ [']', ']']).reverse ++ verbatimMark), names,
          emitted⟩ :=
      run_section step_verbatim [] (closing_not_inside (by decide) h)
    simpa using hrun
  have hopen : (⟨.opened, names, emitted⟩ : Reader).run
      ['!', '[', 'C', 'D', 'A', 'T', 'A', '['] = ⟨.verbatim verbatimMark, names, emitted⟩ := rfl
  have hsplit : '!' :: '[' :: 'C' :: 'D' :: 'A' :: 'T' :: 'A' :: '[' ::
      (body ++ ']' :: ']' :: '>' :: rest) =
      ['!', '[', 'C', 'D', 'A', 'T', 'A', '['] ++ ((body ++ [']', ']']) ++ '>' :: rest) := by simp
  have hwhole : (body.reverse ++ verbatimMark).reverse =
      ['[', 'C', 'D', 'A', 'T', 'A', '['] ++ body := by simp [verbatimMark]
  have hbegin : beginsWith (body.reverse ++ verbatimMark) ['[', 'C', 'D', 'A', 'T', 'A', '['] =
      true := by
    rw [beginsWith, hwhole, List.map_append]
    rfl
  rw [hsplit, run_append, hopen, run_append, hbody, run_cons]
  congr 1
  simp only [step, closeVerbatim, hbegin, if_true, hwhole, emit]
  rfl

end Reader

/-! ## Nodes -/

namespace Node

open Reader

mutual

/-- The reader takes a node as a whole. -/
theorem run_written : (n : Node) → n.Sound → ∀ (names : List (List Char)) (emitted : List Event)
    (rest : List Char), (⟨.content [], names, emitted⟩ : Reader).run (n.written ++ rest) =
      (⟨.content [], names, n.events.reverse ++ emitted⟩ : Reader).run rest
  | element before tag content after, hn, names, emitted, rest => by
    cases hn with
    | element hbefore htag hcontent hafter =>
    rw [written, List.append_assoc, List.cons_append, run_text hbefore.1, List.append_assoc,
      List.cons_append, htag.run_start, List.append_assoc, run_writtenAll content hcontent,
      List.append_assoc, List.cons_append, List.cons_append, run_text hafter.1,
      List.append_assoc, List.singleton_append, htag.run_end]
    simp [events]
  | empty before tag, hn, names, emitted, rest => by
    cases hn with
    | empty hbefore htag =>
    rw [written, List.append_assoc, List.cons_append, run_text hbefore.1, List.append_assoc,
      List.cons_append, List.singleton_append, htag.run_empty]
    simp [events]
  | comment before body, hn, names, emitted, rest => by
    cases hn with
    | comment hbefore hbody =>
    rw [written, List.append_assoc, List.cons_append, run_text hbefore.1]
    simp only [List.cons_append, List.append_assoc, List.nil_append]
    rw [run_comment hbody, events]
  | instruction before body, hn, names, emitted, rest => by
    cases hn with
    | instruction hbefore hne hbody =>
    rw [written, List.append_assoc, List.cons_append, run_text hbefore.1]
    simp only [List.cons_append, List.append_assoc, List.nil_append]
    rw [run_instruction hne hbody, events]
  | verbatim before body, hn, names, emitted, rest => by
    cases hn with
    | verbatim hbefore hbody =>
    rw [written, List.append_assoc, List.cons_append, run_text hbefore.1]
    simp only [List.cons_append, List.append_assoc, List.nil_append]
    rw [run_verbatim hbody, events]
    simp

/-- The reader takes nodes one by one. -/
theorem run_writtenAll : (ns : List Node) → (∀ n ∈ ns, n.Sound) →
    ∀ (names : List (List Char)) (emitted : List Event) (rest : List Char),
      (⟨.content [], names, emitted⟩ : Reader).run (writtenAll ns ++ rest) =
        (⟨.content [], names, (eventsAll ns).reverse ++ emitted⟩ : Reader).run rest
  | [], _, names, emitted, rest => by
    rw [writtenAll, eventsAll]
    rfl
  | n :: ns, hns, names, emitted, rest => by
    rw [writtenAll, List.append_assoc, run_written n (hns n (by simp)),
      run_writtenAll ns fun m hm => hns m (by simp [hm])]
    simp [eventsAll]

end

end Node

end SapMonitor.Markup
