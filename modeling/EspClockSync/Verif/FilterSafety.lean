import EspClockSync.Verif.FilterSteps

/-!
# Arithmetic safety of the filter

One observation adds to the rate at most the clamp over the gain, and to the offset
at most the rate over the time since the last one. Rate and offset accumulate without
limit, but the rate is bounded by the number of observations and the times of the
absorbed ones increase within an `i64`: together that keeps every plain operation of
2 ^ 32 observations inside `i128`.
-/

namespace EspClockSync

open Machine

namespace AlphaBetaFilter

variable {checks : OverflowChecks} {f : AlphaBetaFilter} {xUs observedOffsetUs : Int}

/-! ## One observation in exact integers -/

/-- The clamped innovation of an observation past the last one. -/
def innovationQ (f : AlphaBetaFilter) (xUs observedOffsetUs : Int) : Int :=
  max (-maxInnovationQ)
    (min (observedOffsetUs * 2 ^ 20 - f.predictedQ (xUs - f.lastXUs)) maxInnovationQ)

/-- The filter after one observation whose plain operations stay in range. -/
def next (f : AlphaBetaFilter) (xUs observedOffsetUs : Int) : AlphaBetaFilter :=
  if !f.initialized then
    { f with
      lastXUs := xUs
      offsetQ := observedOffsetUs * 2 ^ 20
      rateQ := 0
      initialized := true }
  else if xUs ≤ f.lastXUs then f
  else { f with
    offsetQ := f.predictedQ (xUs - f.lastXUs) +
      (f.innovationQ xUs observedOffsetUs).tdiv f.alpha.toNat
    rateQ := saturateI128 (f.rateQ +
      ((f.innovationQ xUs observedOffsetUs * 2 ^ 12).tdiv (xUs - f.lastXUs)).tdiv f.beta.toNat)
    lastXUs := xUs }

/-- No plain `i128` operation of this observation leaves the range: the shifts lose no
bits, the differences and the sum are exact, and no divisor is zero. -/
structure ObserveFits (f : AlphaBetaFilter) (xUs observedOffsetUs : Int) : Prop where
  /-- `observed_offset_us << OFFSET_Q_SHIFT`. -/
  observed : I128Fits (observedOffsetUs * 2 ^ 20)
  /-- `x_us - last_x_us`. -/
  elapsed : f.initialized = true → I128Fits (xUs - f.lastXUs)
  /-- `observed_q - predicted_offset_q`. -/
  innovation : f.initialized = true → f.lastXUs < xUs →
    I128Fits (observedOffsetUs * 2 ^ 20 - f.predictedQ (xUs - f.lastXUs))
  /-- `clamped_innovation << RATE_TO_OFFSET_SHIFT`. -/
  shifted : f.initialized = true → f.lastXUs < xUs →
    I128Fits (f.innovationQ xUs observedOffsetUs * 2 ^ 12)
  /-- `predicted_offset_q + clamped_innovation / alpha`. -/
  offset : f.initialized = true → f.lastXUs < xUs →
    I128Fits (f.predictedQ (xUs - f.lastXUs) +
      (f.innovationQ xUs observedOffsetUs).tdiv f.alpha.toNat)
  /-- The divisors `alpha` and `beta`; the third divisor is the elapsed time. -/
  gains : 0 < f.alpha.toNat ∧ 0 < f.beta.toNat

/-- An observation in range is the exact one, in every build. -/
theorem observe_eq_next (fits : f.ObserveFits xUs observedOffsetUs) :
    f.observe checks xUs observedOffsetUs = .ok (f.next xUs observedOffsetUs) := by
  unfold observe next
  cases running : f.initialized with
  | false =>
    simp only [Bool.not_false, if_true]
    rw [wrapI128_of_fits fits.observed]
  | true =>
    simp only [Bool.not_true, Bool.false_eq_true, if_false]
    rw [checks.i128_ok (fits.elapsed running), ok_bind]
    by_cases late : xUs ≤ f.lastXUs
    · rw [if_pos (by omega), if_pos late]
    · have later : f.lastXUs < xUs := by omega
      have alpha : (0 : Int) < f.alpha.toNat := by
        have gain := fits.gains.1
        omega
      have beta : (0 : Int) < f.beta.toNat := by
        have gain := fits.gains.2
        omega
      have innovation := fits.innovation running later
      have shifted := fits.shifted running later
      have offset := fits.offset running later
      unfold innovationQ at shifted offset
      rw [if_neg (by omega), if_neg late]
      rw [wrapI128_of_fits fits.observed, checks.i128_ok innovation, ok_bind,
        divI128_pos _ alpha, ok_bind, checks.i128_ok offset, ok_bind, wrapI128_of_fits shifted,
        divI128_pos _ (by omega), ok_bind, divI128_pos _ beta, ok_bind]
      rfl

/-! ## Bounds along a run -/

/-- How far a filter can be after its seed at time `first` and this many more observations. -/
structure Bounded (f : AlphaBetaFilter) (first : Int) (count : Nat) : Prop where
  /-- The filter is seeded. -/
  running : f.initialized = true
  /-- Its gains divide. -/
  gains : 0 < f.alpha.toNat ∧ 0 < f.beta.toNat
  /-- The seed was at an `i64`. -/
  seeded : I64Fits first
  /-- The last absorbed time is an `i64`. -/
  last : I64Fits f.lastXUs
  /-- Absorbed times increase. -/
  later : first ≤ f.lastXUs
  /-- Each observation moved the rate by the clamp at most. -/
  rate : |f.rateQ| ≤ count * (1000 * 2 ^ 32)
  /-- Each observation moved the offset by the largest rate over its own time and the clamp. -/
  offset : |f.offsetQ| ≤ 2 ^ 83 + 1000 * 2 ^ 52 * (f.lastXUs - first) + count * 2 ^ 31

/-- A floor of a product with a bounded rate. -/
theorem abs_drift_floor_le {rate dxUs : Int} (bounded : |rate| ≤ 1000 * 2 ^ 64)
    (forward : 0 ≤ dxUs) : |saturateI128 (rate * dxUs) / 2 ^ 12| ≤ 1000 * 2 ^ 52 * dxUs + 1 := by
  have product : |rate * dxUs| ≤ 1000 * 2 ^ 64 * dxUs := by
    rw [abs_mul, abs_of_nonneg forward]
    exact mul_le_mul_of_nonneg_right bounded forward
  have saturated := abs_le.mp ((abs_saturateI128_le (rate * dxUs)).trans product)
  exact abs_le.mpr ⟨by omega, by omega⟩

/-- The prediction of a bounded filter is as far as its offset and the largest rate go. -/
theorem Bounded.predictedQ_le {first : Int} {count : Nat} (bounded : f.Bounded first count)
    (short : count ≤ 2 ^ 32) (later : f.lastXUs < xUs) :
    |f.predictedQ (xUs - f.lastXUs)| ≤
      2 ^ 83 + 1000 * 2 ^ 52 * (xUs - first) + count * 2 ^ 31 + 1 := by
  have rate : |f.rateQ| ≤ 1000 * 2 ^ 64 := by
    have each := bounded.rate
    omega
  have drift := abs_le.mp (abs_drift_floor_le rate (show 0 ≤ xUs - f.lastXUs by omega))
  have offset := abs_le.mp bounded.offset
  have sum : |f.offsetQ + saturateI128 (f.rateQ * (xUs - f.lastXUs)) / 2 ^ 12| ≤
      2 ^ 83 + 1000 * 2 ^ 52 * (xUs - first) + count * 2 ^ 31 + 1 :=
    abs_le.mpr ⟨by omega, by omega⟩
  exact (abs_saturateI128_le _).trans sum

/-- A clamped innovation is within the clamp. -/
theorem abs_innovationQ_le (f : AlphaBetaFilter) (xUs observedOffsetUs : Int) :
    |f.innovationQ xUs observedOffsetUs| ≤ 1000 * 2 ^ 20 :=
  abs_clamp_le _ (by decide)

/-- A bounded filter observes any `i64` readings without leaving `i128`. -/
theorem Bounded.observeFits {first : Int} {count : Nat} (bounded : f.Bounded first count)
    (short : count < 2 ^ 32) (x : I64Fits xUs) (y : I64Fits observedOffsetUs) :
    f.ObserveFits xUs observedOffsetUs := by
  obtain ⟨xLower, xUpper⟩ := x
  obtain ⟨yLower, yUpper⟩ := y
  obtain ⟨firstLower, firstUpper⟩ := bounded.seeded
  obtain ⟨lastLower, lastUpper⟩ := bounded.last
  have innovation := abs_le.mp (f.abs_innovationQ_le xUs observedOffsetUs)
  refine ⟨⟨by omega, by omega⟩, fun _ => ⟨by omega, by omega⟩, fun _ later => ?_,
    fun _ _ => ⟨by omega, by omega⟩, fun _ later => ?_, bounded.gains⟩
  · have predicted := abs_le.mp (bounded.predictedQ_le short.le later)
    constructor
    · omega
    · omega
  · have predicted := abs_le.mp (bounded.predictedQ_le short.le later)
    have alpha : (0 : Int) < f.alpha.toNat := by
      have gain := bounded.gains.1
      omega
    have correction := abs_le.mp
      (abs_tdiv_le alpha (f.abs_innovationQ_le xUs observedOffsetUs))
    have whole := Int.ediv_le_self (f.alpha.toNat : Int) (show (0 : Int) ≤ 1000 * 2 ^ 20 by decide)
    constructor
    · omega
    · omega

/-- The rate moves by the clamp at most, however short the time and small the gain. -/
theorem abs_rateQ_step_le (rateQ : Int) {innovation dxUs gain : Int}
    (clamped : |innovation| ≤ 1000 * 2 ^ 20)
    (later : 0 < dxUs) (positive : 0 < gain) :
    |saturateI128 (rateQ + ((innovation * 2 ^ 12).tdiv dxUs).tdiv gain)| ≤
      |rateQ| + 1000 * 2 ^ 32 := by
  have shifted : |innovation * 2 ^ 12| ≤ 1000 * 2 ^ 32 := by
    rw [abs_mul]
    exact mul_le_mul_of_nonneg_right clamped (by decide)
  have observed := abs_tdiv_le later shifted
  have short := Int.ediv_le_self dxUs (show (0 : Int) ≤ 1000 * 2 ^ 32 by decide)
  have correction := abs_tdiv_le positive (observed.trans short)
  have small := Int.ediv_le_self gain (show (0 : Int) ≤ 1000 * 2 ^ 32 by decide)
  calc |saturateI128 (rateQ + _)|
      ≤ |rateQ + _| := abs_saturateI128_le _
    _ ≤ |rateQ| + _ := abs_add_le _ _
    _ ≤ |rateQ| + 1000 * 2 ^ 32 := Int.add_le_add_left (correction.trans small) _

/-- One more observation keeps the bounds. -/
theorem Bounded.next {first : Int} {count : Nat} (bounded : f.Bounded first count)
    (short : count < 2 ^ 32) (x : I64Fits xUs) (observedOffsetUs : Int) :
    (f.next xUs observedOffsetUs).Bounded first (count + 1) := by
  have rate := bounded.rate
  have offset := bounded.offset
  unfold AlphaBetaFilter.next
  rw [if_neg (by simp [bounded.running])]
  split
  · refine ⟨bounded.running, bounded.gains, bounded.seeded, bounded.last, bounded.later, ?_, ?_⟩
    · push_cast
      omega
    · push_cast
      omega
  · rename_i late
    have later : f.lastXUs < xUs := by omega
    have started := bounded.later
    have predicted := abs_le.mp (bounded.predictedQ_le short.le later)
    have alpha : (0 : Int) < f.alpha.toNat := by
      have gain := bounded.gains.1
      omega
    have beta : (0 : Int) < f.beta.toNat := by
      have gain := bounded.gains.2
      omega
    have innovation := f.abs_innovationQ_le xUs observedOffsetUs
    have correction := abs_le.mp (abs_tdiv_le alpha innovation)
    have whole := Int.ediv_le_self (f.alpha.toNat : Int) (show (0 : Int) ≤ 1000 * 2 ^ 20 by decide)
    refine ⟨bounded.running, bounded.gains, bounded.seeded, x, by dsimp only; omega, ?_, ?_⟩
    · have grown := abs_rateQ_step_le f.rateQ innovation (sub_pos.mpr later) beta
      have sum := grown.trans (Int.add_le_add_right rate (1000 * 2 ^ 32))
      have more : (count : Int) * (1000 * 2 ^ 32) + 1000 * 2 ^ 32 =
          ((count + 1 : Nat) : Int) * (1000 * 2 ^ 32) := by omega
      exact more ▸ sum
    · refine abs_le.mpr ⟨?_, ?_⟩
      · push_cast
        omega
      · push_cast
        omega

/-- The seed of a fresh filter is in range and bounded. -/
theorem Bounded.seed (fresh : f.initialized = false)
    (gains : 0 < f.alpha.toNat ∧ 0 < f.beta.toNat) (x : I64Fits xUs) (y : I64Fits observedOffsetUs) :
    f.ObserveFits xUs observedOffsetUs ∧ (f.next xUs observedOffsetUs).Bounded xUs 0 := by
  obtain ⟨yLower, yUpper⟩ := y
  constructor
  · refine ⟨⟨by omega, by omega⟩, ?_, ?_, ?_, ?_, gains⟩ <;> simp [fresh]
  · unfold AlphaBetaFilter.next
    rw [if_pos (by simp [fresh])]
    refine ⟨rfl, gains, x, x, le_refl _, by simp, abs_le.mpr ⟨?_, ?_⟩⟩
    · dsimp only
      omega
    · dsimp only
      omega

/-- A run over one more observation. -/
theorem observeAll_concat {start before after : AlphaBetaFilter} {observations : List (Int × Int)}
    {o : Int × Int} (earlier : start.observeAll checks observations = .ok before)
    (observed : before.observe checks o.1 o.2 = .ok after) :
    start.observeAll checks (observations ++ [o]) = .ok after := by
  unfold observeAll at earlier ⊢
  rw [foldlM_concat, earlier, ok_bind]
  exact observed

/-- **Run.** Seeded by the first of its observations, a filter stays in range and bounded
through all of them. -/
theorem Bounded.observeAll {seed : Int × Int} {observations : List (Int × Int)}
    (fresh : f.initialized = false) (gains : 0 < f.alpha.toNat ∧ 0 < f.beta.toNat)
    (fits : ∀ o ∈ seed :: observations, I64Fits o.1 ∧ I64Fits o.2)
    (short : observations.length ≤ 2 ^ 32) :
    ∃ after : AlphaBetaFilter, after.Bounded seed.1 observations.length ∧
      ∀ checks, f.observeAll checks (seed :: observations) = .ok after := by
  induction observations using List.reverseRecOn with
  | nil =>
    obtain ⟨x, y⟩ := fits seed (by simp)
    obtain ⟨start, bounded⟩ := Bounded.seed fresh gains x y
    refine ⟨f.next seed.1 seed.2, bounded, fun checks => ?_⟩
    change f.observeAll checks ([] ++ [seed]) = _
    exact observeAll_concat rfl (observe_eq_next start)
  | append_singleton observations o ih =>
    rw [List.length_append, List.length_singleton] at short
    have kept : ∀ o ∈ seed :: observations, I64Fits o.1 ∧ I64Fits o.2 :=
      fun o member => fits o (by
        rw [← List.cons_append]
        exact List.mem_append_left _ member)
    obtain ⟨before, bounded, earlier⟩ := ih kept (by omega)
    obtain ⟨x, y⟩ := fits o (by simp)
    refine ⟨before.next o.1 o.2, ?_, fun checks => ?_⟩
    · rw [List.length_append, List.length_singleton]
      exact bounded.next (by omega) x o.2
    · rw [← List.cons_append]
      exact observeAll_concat (earlier checks)
        (observe_eq_next (bounded.observeFits (by omega) x y))

/-- A bounded filter leaves room for the multiplication of `rate_ppb`. -/
theorem Bounded.ratePpb_fits {first : Int} {count : Nat} (bounded : f.Bounded first count)
    (short : count ≤ 2 ^ 32) : I128Fits (f.rateQ * 1000000000) := by
  have rate := abs_le.mp bounded.rate
  constructor
  · omega
  · omega

end AlphaBetaFilter

/-- **Arithmetic safety of the filter.** For all positive gains and every sequence of at
most `2 ^ 32` observations of `i64` values, each prefix of the sequence leads every build
to the same filter, whose rate `rate_ppb` can scale; and the next observation of the
sequence leaves it by exact steps. -/
theorem filter_arithmetic_safe (alpha beta : U32) (alphaPos : 1 ≤ alpha.toNat)
    (betaPos : 1 ≤ beta.toNat) (observations : List (Int × Int))
    (fits : ∀ o ∈ observations, I64Fits o.1 ∧ I64Fits o.2) (short : observations.length ≤ 2 ^ 32) :
    ∀ earlier, earlier <+: observations → ∃ f : AlphaBetaFilter,
      (∀ checks, (AlphaBetaFilter.new alpha beta).observeAll checks earlier = .ok f) ∧
      I128Fits (f.rateQ * 1000000000) ∧
      ∀ o, earlier ++ [o] <+: observations →
        f.ObserveFits o.1 o.2 ∧ ∀ checks, f.observe checks o.1 o.2 = .ok (f.next o.1 o.2) := by
  intro earlier reached
  have kept : ∀ o ∈ earlier, I64Fits o.1 ∧ I64Fits o.2 := fun o member => fits o (reached.subset member)
  have gains : 0 < (AlphaBetaFilter.new alpha beta).alpha.toNat ∧
      0 < (AlphaBetaFilter.new alpha beta).beta.toNat := ⟨alphaPos, betaPos⟩
  have bound := reached.length_le
  cases earlier with
  | nil =>
    refine ⟨AlphaBetaFilter.new alpha beta, fun checks => rfl, (by decide : I128Fits (0 * 1000000000)),
      fun o following => ?_⟩
    obtain ⟨x, y⟩ := fits o (following.subset (by simp))
    have start := (AlphaBetaFilter.Bounded.seed rfl gains x y).1
    exact ⟨start, fun checks => AlphaBetaFilter.observe_eq_next start⟩
  | cons seed rest =>
    rw [List.length_cons] at bound
    obtain ⟨f, bounded, returned⟩ :=
      AlphaBetaFilter.Bounded.observeAll rfl gains kept (by omega)
    refine ⟨f, returned, bounded.ratePpb_fits (by omega), fun o following => ?_⟩
    obtain ⟨x, y⟩ := fits o (following.subset (by simp))
    have step := bounded.observeFits (by omega) x y
    exact ⟨step, fun checks => AlphaBetaFilter.observe_eq_next step⟩

/-- A filter of the largest offset gain that has seen one observation at the lower ends. -/
theorem filter_arithmetic_safe_extremes :
    ∃ f : AlphaBetaFilter,
      (∀ checks, (AlphaBetaFilter.new 1 1).observeAll checks [(-2 ^ 63, -2 ^ 63)] = .ok f) ∧
      f.ObserveFits (2 ^ 63 - 1) (2 ^ 63 - 1) := by
  have safe := filter_arithmetic_safe 1 1 (by decide) (by decide)
    [(-2 ^ 63, -2 ^ 63), (2 ^ 63 - 1, 2 ^ 63 - 1)] (by decide) (by decide)
    [(-2 ^ 63, -2 ^ 63)] ⟨[(2 ^ 63 - 1, 2 ^ 63 - 1)], rfl⟩
  obtain ⟨f, returned, _, next⟩ := safe
  exact ⟨f, returned, (next _ (List.prefix_refl _)).1⟩

end EspClockSync
