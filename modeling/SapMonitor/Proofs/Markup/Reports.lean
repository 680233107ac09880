import SapMonitor.Proofs.Markup.Nesting

/-!
# What the reader reports

With every character, and at the end of the input, the reader reports one event or none.  It
keeps the names of the elements that its events leave open, because it checks every end tag
against them.  A fault is final, and so is whatever was reported before.

Main results:

- `Reader.reports_step` and `Reader.reports_finish`: the reader reports one event or none.
- `Reader.Reports.suffix`: reported events stay.
- `openAfter_readEvents`: no end tag that the reader reports is outside of every element.
-/

namespace SapMonitor.Markup

namespace Reader

/-! ## One step -/

/-- A reader goes on from another one: it reports nothing and leaves the open elements alone, or it
reports an event that has its effect on them. -/
inductive Reports (r r' : Reader) : Prop
  | nothing (hemitted : r'.emitted = r.emitted) (hnames : r'.openNames = r.openNames)
  | event (e : Event) (hemitted : r'.emitted = e :: r.emitted)
      (hnames : openAfter r.openNames [e] = some r'.openNames)

section Reports

variable (r : Reader) (seen : List Char)

theorem reports_closeText : Reports r (r.closeText seen) := by
  unfold closeText
  split
  · exact .nothing rfl rfl
  · exact .event (.text _) rfl rfl

theorem reports_closeStartTag : Reports r (r.closeStartTag seen) := by
  unfold closeStartTag
  split
  · exact .event (.empty _) rfl rfl
  · exact .event (.start _) rfl rfl

/-- An end tag closes the innermost element, or it is a fault. -/
theorem closeEndTag_cases :
    (∃ cause, r.closeEndTag seen = r.fail cause) ∨
      ∃ name rest, r.openNames = name :: rest ∧
        r.closeEndTag seen = { r with openNames := rest }.emit .stop := by
  unfold closeEndTag
  cases r.openNames with
  | nil => exact .inl ⟨_, rfl⟩
  | cons expected rest =>
    simp only
    -- the name is compared as it is, or without the white space after it
    split
    all_goals
      split
      · exact .inr ⟨_, _, rfl, rfl⟩
      · exact .inl ⟨_, rfl⟩

theorem reports_closeEndTag : Reports r (r.closeEndTag seen) := by
  rcases closeEndTag_cases r seen with ⟨cause, hfail⟩ | ⟨name, rest, hnames, hstop⟩
  · rw [hfail]
    exact .nothing rfl rfl
  · rw [hstop]
    refine .event .stop rfl ?_
    rw [hnames]
    rfl

theorem reports_closeInstruction : Reports r (r.closeInstruction seen) := by
  unfold closeInstruction
  split <;> exact .nothing rfl rfl

theorem reports_closeVerbatim : Reports r (r.closeVerbatim seen) := by
  unfold closeVerbatim
  split
  · exact .event (.verbatim _) rfl rfl
  · exact .nothing rfl rfl

theorem reports_closeDoctype : Reports r (r.closeDoctype seen) := by
  unfold closeDoctype
  split
  · split <;> exact .nothing rfl rfl
  · exact .nothing rfl rfl

end Reports

/-- What is reported does not depend on where the reader stands afterwards. -/
theorem Reports.moved {r r' : Reader} (h : Reports r r') (mode : Mode) :
    Reports r { r' with mode := mode } := by
  cases h with
  | nothing hemitted hnames => exact .nothing hemitted hnames
  | event e hemitted hnames => exact .event e hemitted hnames

/-- With every character the reader reports one event or none. -/
theorem reports_step (r : Reader) (c : Char) : Reports r (r.step c) := by
  have hstay (mode : Mode) : Reports r { r with mode := mode } := .nothing rfl rfl
  unfold step
  cases r.mode with
  | content seen =>
    simp only
    split
    · exact (reports_closeText r seen).moved _
    · split
      · exact .nothing rfl rfl
      · exact hstay _
  | opened =>
    simp only
    repeat' split
    all_goals first | exact reports_closeStartTag r [] | exact hstay _
  | startTag quote seen =>
    cases quote with
    | none =>
      simp only
      split
      · exact reports_closeStartTag r seen
      · split <;> exact hstay _
    | some quote => exact hstay _
  | endTag seen =>
    simp only
    split
    · exact reports_closeEndTag r seen
    · exact hstay _
  | instruction seen =>
    simp only
    split
    · exact reports_closeInstruction r seen
    · exact hstay _
  | bang =>
    simp only
    repeat' split
    all_goals exact hstay _
  | verbatim seen =>
    simp only
    split
    · exact reports_closeVerbatim r _
    · exact hstay _
  | comment seen =>
    simp only
    split
    · split <;> exact hstay _
    · exact hstay _
  | doctype depth seen =>
    simp only
    split
    · split
      · exact reports_closeDoctype r seen
      · exact hstay _
    · split <;> exact hstay _
  | failed cause => exact .nothing rfl rfl

/-- So it does at the end of the input. -/
theorem reports_finish (r : Reader) : Reports r r.finish := by
  unfold finish
  cases r.mode with
  | content seen => exact reports_closeText r seen
  | endTag seen => exact reports_closeEndTag r seen
  | instruction seen => exact reports_closeInstruction r seen
  | opened => exact .nothing rfl rfl
  | startTag quote seen => exact .nothing rfl rfl
  | bang => exact .nothing rfl rfl
  | verbatim seen => exact .nothing rfl rfl
  | comment seen => exact .nothing rfl rfl
  | doctype depth seen => exact .nothing rfl rfl
  | failed cause => exact .nothing rfl rfl

/-! ## Several steps -/

/-- Reported events stay. -/
theorem Reports.suffix {r r' : Reader} (h : Reports r r') : r.emitted <:+ r'.emitted := by
  cases h with
  | nothing hemitted hnames => exact ⟨[], hemitted.symm⟩
  | event e hemitted hnames => exact ⟨[e], hemitted.symm⟩

theorem suffix_run (r : Reader) (cs : List Char) : r.emitted <:+ (r.run cs).emitted := by
  induction cs generalizing r with
  | nil => exact List.suffix_rfl
  | cons c cs ih => exact (reports_step r c).suffix.trans (ih (r.step c))

/-- The reader knows the elements that its events leave open. -/
def Follows (r : Reader) : Prop :=
  openAfter [] r.emitted.reverse = some r.openNames

theorem follows_fresh : fresh.Follows := rfl

theorem Follows.reports {r r' : Reader} (hr : r.Follows) (h : Reports r r') : r'.Follows := by
  unfold Follows at hr ⊢
  cases h with
  | nothing hemitted hnames => rw [hemitted, hnames, hr]
  | event e hemitted hnames =>
    rw [hemitted, List.reverse_cons, openAfter_append, hr, Option.bind_some, hnames]

theorem Follows.run {r : Reader} (hr : r.Follows) (cs : List Char) : (r.run cs).Follows := by
  induction cs generalizing r with
  | nil => exact hr
  | cons c cs ih => exact ih (hr.reports (reports_step r c))

/-! ## Faults -/

/-- After a fault the reader does not move. -/
theorem run_failed {r : Reader} {cause : MarkupError} (h : r.mode = .failed cause)
    (cs : List Char) : r.run cs = r := by
  induction cs with
  | nil => rfl
  | cons c cs ih => rw [run_cons, step_failed h, ih]

/-- A fault is found at the end of the input as well. -/
theorem fault?_finish_of_failed {r : Reader} {cause : MarkupError} (h : r.mode = .failed cause) :
    r.finish.fault? = some cause := by
  simp [finish, fault?, h]

end Reader

/-! ## Documents -/

/-- The part of a document after its byte order mark. -/
def unmarked : List Char → List Char
  | '\uFEFF' :: rest => rest
  | rest => rest

theorem readEvents_eq (cs : List Char) :
    readEvents cs = ((Reader.fresh.run (unmarked cs)).finish.emitted.reverse,
      (Reader.fresh.run (unmarked cs)).finish.fault?) := rfl

/-- No end tag that the reader reports is outside of every element. -/
theorem openAfter_readEvents (cs : List Char) :
    ∃ names, openAfter [] (readEvents cs).1 = some names := by
  have hrun := Reader.follows_fresh.run (unmarked cs)
  exact ⟨_, hrun.reports (Reader.reports_finish _)⟩

end SapMonitor.Markup
