import Mathlib

/-!
# Extrapolation of a measured clock

A counter and a clock run at a fixed ratio, and the clock is read with an error. The slope
between two readings is off by no more than both errors over the ticks between them, and
what is extrapolated by a slope, in either direction, is off by that much for every tick.
-/

namespace Machine

variable {K : Type} [Field K] [LinearOrder K] [IsStrictOrderedRing K]
variable {period phase error drift rate tick reading later after : K}

/-- The clock reads this at that tick of the counter, up to an error in ticks. -/
def ReadsAt (period phase error tick reading : K) : Prop :=
  |period * reading - (tick + phase)| ≤ error

/-- A change of a reading is a change of its error. -/
theorem ReadsAt.shift (reads : ReadsAt period phase error tick reading) (positive : 0 ≤ period)
    {change : K} (near : |after - reading| ≤ change) :
    ReadsAt period phase (error + period * change) tick after := by
  have apart : |period * after - period * reading| ≤ period * change := by
    rw [← mul_sub, abs_mul, abs_of_nonneg positive]
    exact mul_le_mul_of_nonneg_left near positive
  have triangle := abs_sub_le (period * after) (period * reading) (tick + phase)
  unfold ReadsAt at reads ⊢
  linarith only [triangle, apart, reads]

/-- The slope between two readings is off by their errors over the ticks between them. -/
theorem ReadsAt.slope (first : ReadsAt period phase error tick reading)
    (second : ReadsAt period phase error later after) (forward : tick < later) :
    |period * ((after - reading) / (later - tick)) - 1| ≤ 2 * error / (later - tick) := by
  have positive : 0 < later - tick := sub_pos.mpr forward
  have quotient : period * ((after - reading) / (later - tick)) - 1 =
      ((period * after - (later + phase)) - (period * reading - (tick + phase))) /
        (later - tick) := by
    field_simp
    ring
  have both : |(period * after - (later + phase)) - (period * reading - (tick + phase))| ≤
      2 * error := by
    have triangle := abs_sub (period * after - (later + phase))
      (period * reading - (tick + phase))
    unfold ReadsAt at first second
    linarith only [triangle, first, second]
  rw [quotient, abs_div, abs_of_pos positive]
  exact div_le_div_of_nonneg_right both positive.le

/-- A change of a slope is a change of its drift. -/
theorem slope_shift (slope : |period * rate - 1| ≤ drift) (positive : 0 ≤ period) {other change : K}
    (near : |other - rate| ≤ change) : |period * other - 1| ≤ drift + period * change := by
  have apart : |period * other - period * rate| ≤ period * change := by
    rw [← mul_sub, abs_mul, abs_of_nonneg positive]
    exact mul_le_mul_of_nonneg_left near positive
  have triangle := abs_sub_le (period * other) (period * rate) 1
  linarith only [triangle, apart, slope]

/-- A reading extrapolated to a later tick. -/
theorem ReadsAt.extrapolate (reads : ReadsAt period phase error tick reading)
    (slope : |period * rate - 1| ≤ drift) (forward : tick ≤ later) :
    ReadsAt period phase (error + drift * (later - tick)) later
      (reading + rate * (later - tick)) := by
  have elapsed : 0 ≤ later - tick := sub_nonneg.mpr forward
  have parts : period * (reading + rate * (later - tick)) - (later + phase) =
      (period * reading - (tick + phase)) + (period * rate - 1) * (later - tick) := by ring
  have drifted : |(period * rate - 1) * (later - tick)| ≤ drift * (later - tick) := by
    rw [abs_mul, abs_of_nonneg elapsed]
    exact mul_le_mul_of_nonneg_right slope elapsed
  have triangle := abs_add_le (period * reading - (tick + phase))
    ((period * rate - 1) * (later - tick))
  unfold ReadsAt at reads ⊢
  rw [parts]
  linarith only [triangle, drifted, reads]

/-- The tick predicted from another reading. -/
theorem ReadsAt.predict (reads : ReadsAt period phase error tick reading) {lag : K}
    (now : ReadsAt period phase lag later after) (slope : |period * rate - 1| ≤ drift)
    (small : drift < 1) (positive : 0 < period) :
    |tick + (after - reading) / rate - later| ≤
      error + lag + drift / (1 - drift) * |period * (after - reading)| := by
  obtain ⟨lower, upper⟩ := abs_le.mp slope
  have ratio : 0 < period * rate := by linarith only [lower, small]
  have rate_positive : 0 < rate := pos_of_mul_pos_right ratio positive.le
  have parts : tick + (after - reading) / rate - later =
      ((period * after - (later + phase)) - (period * reading - (tick + phase))) +
        (1 - period * rate) / (period * rate) * (period * (after - reading)) := by
    field_simp
    ring
  have quotient : |(1 - period * rate) / (period * rate)| ≤ drift / (1 - drift) := by
    rw [abs_div, abs_of_pos ratio, abs_sub_comm]
    have least : 0 < 1 - drift := sub_pos.mpr small
    exact div_le_div₀ ((abs_nonneg _).trans slope) slope least (by linarith only [lower])
  have drifted : |(1 - period * rate) / (period * rate) * (period * (after - reading))| ≤
      drift / (1 - drift) * |period * (after - reading)| := by
    rw [abs_mul]
    exact mul_le_mul_of_nonneg_right quotient (abs_nonneg _)
  have outer := abs_add_le
    ((period * after - (later + phase)) - (period * reading - (tick + phase)))
    ((1 - period * rate) / (period * rate) * (period * (after - reading)))
  have inner := abs_sub (period * after - (later + phase)) (period * reading - (tick + phase))
  unfold ReadsAt at reads now
  rw [parts]
  linarith only [outer, inner, drifted, reads, now]

/-- A quotient of naturals is rounded by less than one. -/
theorem abs_natDiv_sub_le [FloorSemiring K] (dividend divisor : ℕ) :
    |((dividend / divisor : ℕ) : K) - (dividend : K) / divisor| ≤ 1 := by
  have below : ((dividend / divisor : ℕ) : K) ≤ (dividend : K) / divisor := Nat.cast_div_le
  have above : (dividend : K) / divisor < ((dividend / divisor : ℕ) : K) + 1 := by
    rw [← Nat.floor_div_eq_div (K := K)]
    exact Nat.lt_floor_add_one _
  exact abs_le.mpr ⟨by linarith only [above], by linarith only [below]⟩

end Machine
