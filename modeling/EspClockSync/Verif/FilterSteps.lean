import EspClockSync.Sync.AlphaBeta

/-!
# What one observation does to the filter

The first observation seeds the filter; a later one is skipped unless its time is
past the last absorbed one, and otherwise moves the filter to its own time.
-/

namespace EspClockSync

open Machine

namespace AlphaBetaFilter

variable {checks : OverflowChecks} {f after : AlphaBetaFilter} {xUs observedOffsetUs : Int}

/-- The outcomes of one observation. -/
inductive Observed (f : AlphaBetaFilter) (xUs observedOffsetUs : Int) : AlphaBetaFilter → Prop where
  /-- The first observation is taken as it is. -/
  | seeded (fresh : f.initialized = false) : Observed f xUs observedOffsetUs
      { f with
        lastXUs := xUs
        offsetQ := wrapI128 (observedOffsetUs * 2 ^ 20)
        rateQ := 0
        initialized := true }
  /-- An observation out of order changes nothing. -/
  | skipped (running : f.initialized = true) (late : xUs ≤ f.lastXUs) :
      Observed f xUs observedOffsetUs f
  /-- A later observation corrects offset and rate, the rate by a bounded amount. -/
  | corrected (running : f.initialized = true) (later : f.lastXUs < xUs) (offsetQ rateQ : Int)
      (slow : |rateQ| ≤ |f.rateQ| + maxInnovationQ * 2 ^ 12 / f.beta.toNat) :
      Observed f xUs observedOffsetUs
        { f with
          offsetQ := offsetQ
          rateQ := rateQ
          lastXUs := xUs }

/-- A clamped innovation is within the clamp. -/
theorem abs_clamp_le (value : Int) {bound : Int} (nonneg : 0 ≤ bound) :
    |max (-bound) (min value bound)| ≤ bound :=
  abs_le.mpr ⟨by omega, by omega⟩

/-- A clamped innovation over whole microseconds moves the rate by no more than the
clamp over the rate gain. -/
theorem rateQ_step (f : AlphaBetaFilter) {clamped dxUs observedRateQ rateCorrection : Int}
    (later : 0 < dxUs) (bounded : |clamped| ≤ maxInnovationQ)
    (observedRate : divI128 (wrapI128 (clamped * 2 ^ 12)) dxUs = .ok observedRateQ)
    (corrected : divI128 observedRateQ f.beta.toNat = .ok rateCorrection) :
    |saturateI128 (f.rateQ + rateCorrection)| ≤
      |f.rateQ| + maxInnovationQ * 2 ^ 12 / f.beta.toNat := by
  obtain ⟨_, rfl⟩ := divI128_ok observedRate
  obtain ⟨gain, rfl⟩ := divI128_ok corrected
  have exact_shift : wrapI128 (clamped * 2 ^ 12) = clamped * 2 ^ 12 := by
    obtain ⟨lower, upper⟩ := abs_le.mp bounded
    unfold maxInnovationQ at lower upper
    exact Int.bmod_eq_of_le (by omega) (by omega)
  have shifted : |wrapI128 (clamped * 2 ^ 12)| ≤ maxInnovationQ * 2 ^ 12 := by
    rw [exact_shift, abs_mul]
    exact mul_le_mul_of_nonneg_right bounded (by decide)
  have observed : |(wrapI128 (clamped * 2 ^ 12)).tdiv dxUs| ≤ maxInnovationQ * 2 ^ 12 := by
    have quotient := abs_tdiv_le later shifted
    have whole := Int.ediv_le_self dxUs (show 0 ≤ maxInnovationQ * 2 ^ 12 by decide)
    omega
  have correction := abs_tdiv_le (show 0 < (f.beta.toNat : Int) by omega) observed
  calc |saturateI128 (f.rateQ + _)|
      ≤ |f.rateQ + _| := abs_saturateI128_le _
    _ ≤ |f.rateQ| + _ := abs_add_le _ _
    _ ≤ |f.rateQ| + maxInnovationQ * 2 ^ 12 / f.beta.toNat := Int.add_le_add_left correction _

/-- **Inversion.** Every observation of machine integers that returns has one of the
listed outcomes. -/
theorem observed_of_observe (x : I64Fits xUs) (last : I64Fits f.lastXUs)
    (returned : f.observe checks xUs observedOffsetUs = .ok after) :
    f.Observed xUs observedOffsetUs after := by
  unfold observe at returned
  cases running : f.initialized with
  | false =>
    rw [if_pos (by simp [running])] at returned
    rw [← Except.ok.inj returned]
    exact .seeded running
  | true =>
    have elapsed : I128Fits (xUs - f.lastXUs) := by
      obtain ⟨xLower, xUpper⟩ := x
      obtain ⟨lastLower, lastUpper⟩ := last
      constructor
      · omega
      · omega
    rw [if_neg (by simp [running]), checks.i128_ok elapsed, ok_bind] at returned
    by_cases late : xUs - f.lastXUs ≤ 0
    · rw [if_pos late] at returned
      rw [← Except.ok.inj returned]
      exact .skipped running (by omega)
    · rw [if_neg late] at returned
      obtain ⟨innovationQ, _, returned⟩ := bind_eq_ok returned
      obtain ⟨correction, _, returned⟩ := bind_eq_ok returned
      obtain ⟨offsetQ, _, returned⟩ := bind_eq_ok returned
      obtain ⟨observedRateQ, observedRate, returned⟩ := bind_eq_ok returned
      obtain ⟨rateCorrection, corrected, returned⟩ := bind_eq_ok returned
      have later : f.lastXUs < xUs := by omega
      have clamped : |max (-maxInnovationQ) (min innovationQ maxInnovationQ)| ≤ maxInnovationQ :=
        abs_clamp_le innovationQ (by decide)
      rw [← Except.ok.inj returned]
      exact .corrected running later offsetQ _
        (rateQ_step f (by omega) clamped observedRate corrected)

/-- An absorbed observation leaves the filter running at its time. -/
theorem Observed.absorbed (observed : f.Observed xUs observedOffsetUs after)
    (absorbs : f.absorbs xUs = true) : after.initialized = true ∧ after.lastXUs = xUs := by
  cases observed with
  | seeded fresh => exact ⟨rfl, rfl⟩
  | skipped running late =>
    unfold AlphaBetaFilter.absorbs at absorbs
    rw [running] at absorbs
    have later : f.lastXUs < xUs := by simpa using absorbs
    omega
  | corrected running later offsetQ rateQ slow => exact ⟨running, rfl⟩

/-- The last time is an `i64` when every observed time is. -/
theorem Observed.lastXUs_fits (observed : f.Observed xUs observedOffsetUs after)
    (x : I64Fits xUs) (last : I64Fits f.lastXUs) : I64Fits after.lastXUs := by
  cases observed with
  | seeded fresh => exact x
  | skipped running late => exact last
  | corrected running later offsetQ rateQ slow => exact x

/-- An observation grows the rate by no more than the clamp over the rate gain, which it keeps. -/
theorem Observed.rateQ_le (observed : f.Observed xUs observedOffsetUs after) :
    |after.rateQ| ≤ |f.rateQ| + maxInnovationQ * 2 ^ 12 / f.beta.toNat ∧ after.beta = f.beta := by
  have grows : 0 ≤ maxInnovationQ * 2 ^ 12 / (f.beta.toNat : Int) :=
    Int.ediv_nonneg (by decide) (by omega)
  cases observed with
  | seeded fresh =>
    have size := abs_nonneg f.rateQ
    refine ⟨?_, rfl⟩
    simp only [abs_zero]
    omega
  | skipped running late => exact ⟨by omega, rfl⟩
  | corrected running later offsetQ rateQ slow => exact ⟨slow, rfl⟩

/-- A filter that has observed machine integers remembers one. -/
theorem lastXUs_fits_of_observeAll {observations : List (Int × Int)}
    (fits : ∀ o ∈ observations, I64Fits o.1) (last : I64Fits f.lastXUs)
    (returned : f.observeAll checks observations = .ok after) : I64Fits after.lastXUs := by
  induction observations using List.reverseRecOn generalizing after with
  | nil =>
    rw [← Except.ok.inj returned]
    exact last
  | append_singleton observations o ih =>
    obtain ⟨before, earlier, returned⟩ := foldlM_concat_ok returned
    have held := ih (fun o member => fits o (List.mem_append_left _ member)) earlier
    have x := fits o (by simp)
    exact (observed_of_observe x held returned).lastXUs_fits x held

/-- No observation changes the gains. -/
theorem Observed.gains (observed : f.Observed xUs observedOffsetUs after) :
    after.alpha = f.alpha ∧ after.beta = f.beta := by
  cases observed with
  | seeded fresh => exact ⟨rfl, rfl⟩
  | skipped running late => exact ⟨rfl, rfl⟩
  | corrected running later offsetQ rateQ slow => exact ⟨rfl, rfl⟩

/-- **Run.** What every observation keeps holds after all of them. -/
theorem observeAll_induction {motive : List (Int × Int) → AlphaBetaFilter → Prop}
    (start : motive [] f)
    (step : ∀ observations o before next, motive observations before →
      before.Observed o.1 o.2 next → motive (observations ++ [o]) next)
    {observations : List (Int × Int)} (fits : ∀ o ∈ observations, I64Fits o.1)
    (last : I64Fits f.lastXUs) (returned : f.observeAll checks observations = .ok after) :
    motive observations after := by
  induction observations using List.reverseRecOn generalizing after with
  | nil =>
    rw [← Except.ok.inj returned]
    exact start
  | append_singleton observations o ih =>
    obtain ⟨before, earlier, returned⟩ := foldlM_concat_ok returned
    have kept : ∀ o ∈ observations, I64Fits o.1 :=
      fun o member => fits o (List.mem_append_left _ member)
    have held := lastXUs_fits_of_observeAll kept last earlier
    exact step observations o before after (ih kept earlier)
      (observed_of_observe (fits o (by simp)) held returned)

/-- Nor do many. -/
theorem gains_of_observeAll {observations : List (Int × Int)}
    (fits : ∀ o ∈ observations, I64Fits o.1) (last : I64Fits f.lastXUs)
    (returned : f.observeAll checks observations = .ok after) :
    after.alpha = f.alpha ∧ after.beta = f.beta := by
  apply observeAll_induction (motive := fun _ g => g.alpha = f.alpha ∧ g.beta = f.beta) ⟨rfl, rfl⟩
    ?_ fits last returned
  intro observations o before next same observed
  exact ⟨observed.gains.1.trans same.1, observed.gains.2.trans same.2⟩

/-- The rate grows at most linearly with the number of observations. -/
theorem rateQ_le_of_observeAll {observations : List (Int × Int)}
    (fits : ∀ o ∈ observations, I64Fits o.1) (last : I64Fits f.lastXUs)
    (returned : f.observeAll checks observations = .ok after) :
    |after.rateQ| ≤ |f.rateQ| + observations.length * (maxInnovationQ * 2 ^ 12 / f.beta.toNat) ∧
      after.beta = f.beta := by
  apply observeAll_induction (motive := fun observations g =>
    |g.rateQ| ≤ |f.rateQ| + observations.length * (maxInnovationQ * 2 ^ 12 / f.beta.toNat) ∧
      g.beta = f.beta) (by simp) ?_ fits last returned
  intro observations o before next held observed
  have step := observed.rateQ_le
  rw [held.2] at step
  constructor
  · have grown := held.1
    rw [List.length_append, List.length_singleton, Nat.cast_add, Nat.cast_one, add_mul, one_mul]
    omega
  · exact step.2

end AlphaBetaFilter

end EspClockSync
