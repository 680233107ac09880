import SapMonitor.Time.Moment

/-!
# Ages and numbers of moments

The age of a moment is counted on the calendar, where leap seconds have no number of their
own.  In numbers a moment is the nanoseconds since the beginning of 1970, as far as these fit
64 bits.  A reading of the clock lies in no leap second; from there the two can be compared.

Main results:

- `Moment.isOutdated_of_ahead`: what lies ahead of a reading of the clock is not too old.
- `Moment.sub_sinceEpoch_le_age`: the number of a moment lies no further back than its age.
- `Moment.epochNanos_of_fits`: the number of a moment is written as it is if it fits.
-/

namespace SapMonitor.Time.Moment

variable {t now : Moment}

/-! ## Ages -/

/-- Outside of leap seconds no correction makes an age smaller. -/
theorem leapCorrection_nonneg (h : now.inLeapSecond = false) (t : Moment) :
    0 ≤ now.leapCorrection t := by
  unfold leapCorrection
  rw [h]
  split
  · split <;> decide
  · split <;> decide

/-- A correction is one second at most, and none within the same second. -/
theorem leapCorrection_le (now t : Moment) : now.leapCorrection t ≤ 1 := by
  unfold leapCorrection
  split
  · split <;> decide
  · split
    · split <;> decide
    · decide

theorem leapCorrection_of_seconds_eq (h : now.seconds = t.seconds) :
    now.leapCorrection t = 0 := by
  have hday : t.secondOfDay = now.secondOfDay := by rw [secondOfDay, secondOfDay, h]
  simp [leapCorrection, hday]

/-- Only a leap second is corrected for. -/
theorem leapCorrection_le_zero (h : t.inLeapSecond = false) (now : Moment) :
    now.leapCorrection t ≤ 0 := by
  unfold leapCorrection
  rw [h]
  split
  · decide
  · split
    · split <;> decide
    · decide

/-- One moment lies ahead of another: in a later second, or later in the same one. -/
def Ahead (t now : Moment) : Prop :=
  now.seconds < t.seconds ∨ now.seconds = t.seconds ∧ now.nanos ≤ t.nanos

/-- What lies ahead of a reading of the clock has no positive age there. -/
theorem age_le_zero_of_ahead (hnow : now.inLeapSecond = false) (h : t.Ahead now) :
    now.age t ≤ 0 := by
  have hnanos : now.nanos < 1000000000 := by simpa [inLeapSecond] using hnow
  unfold age perSecond
  rcases h with hlater | ⟨hsame, hle⟩
  · cases hleap : t.inLeapSecond with
    | false =>
      have hcorrection := leapCorrection_le_zero hleap now
      omega
    | true =>
      -- the nanoseconds of the leap second outweigh the correction
      have hcorrection := leapCorrection_le now t
      have hfull : 1000000000 ≤ t.nanos := by simpa [inLeapSecond] using hleap
      omega
  · rw [leapCorrection_of_seconds_eq hsame]
    omega

/-- What lies ahead of a reading of the clock is not too old, whatever the limit. -/
theorem isOutdated_of_ahead (hnow : now.inLeapSecond = false) (h : t.Ahead now)
    (limit : Option Span) : t.isOutdated now limit = false := by
  cases limit with
  | none => rfl
  | some limit =>
    have hage := age_le_zero_of_ahead hnow h
    simp only [isOutdated, decide_eq_false_iff_not]
    omega

/-- A moment is not too old at itself. -/
theorem isOutdated_self (t : Moment) (limit : Option Span) : t.isOutdated t limit = false := by
  cases limit with
  | none => rfl
  | some limit => simp [isOutdated]

theorem isOutdated_eq_false_iff {limit : Option Span} :
    t.isOutdated now limit = false ↔ ∀ l, limit = some l → now.age t ≤ l.nanos := by
  cases limit with
  | none => simp
  | some limit => simp [isOutdated]

/-! ## Numbers -/

/-- The nanoseconds from the beginning of 1970 to a moment. -/
def sinceEpoch (t : Moment) : Int :=
  t.seconds * perSecond + t.nanos

/-- The number of a moment fits 64 bits. -/
def Fits (t : Moment) : Prop :=
  Decimal.Range.int64.lo ≤ t.sinceEpoch ∧ t.sinceEpoch ≤ Decimal.Range.int64.hi

instance (t : Moment) : Decidable t.Fits :=
  inferInstanceAs (Decidable (_ ∧ _))

theorem epochNanos_eq (t : Moment) : t.epochNanos = if t.Fits then t.sinceEpoch else 0 := by
  unfold epochNanos Fits
  simp only [Bool.and_eq_true, decide_eq_true_eq]
  rfl

/-- The number of a moment is written as it is if it fits. -/
theorem epochNanos_of_fits (h : t.Fits) : t.epochNanos = t.sinceEpoch := by
  rw [epochNanos_eq, if_pos h]

/-- It is written as zero if it does not. -/
theorem epochNanos_of_not_fits (h : ¬t.Fits) : t.epochNanos = 0 := by
  rw [epochNanos_eq, if_neg h]

/-- At a reading of the clock the number of a moment lies no further back than its age. -/
theorem sub_sinceEpoch_le_age (hnow : now.inLeapSecond = false) (t : Moment) :
    now.sinceEpoch - t.sinceEpoch ≤ now.age t := by
  have hcorrection := leapCorrection_nonneg hnow t
  unfold sinceEpoch age perSecond
  omega

end SapMonitor.Time.Moment
