import EspClockSync.Verif.FilterErrors

/-!
# The instant filter on a line

Fed by readings of a line at constant spacing, a fresh filter predicts near the line from
the first reading on, and no reading is ever far enough from its prediction to be clamped:
the errors stay those of a tracker, and small errors keep its numbers in range.
-/

namespace EspClockSync

open Machine

namespace AlphaBetaFilter

variable {checks : OverflowChecks} {f : AlphaBetaFilter} {dxUs observedOffsetUs : Int} {spread : ℝ}

/-! ## Runs on a line -/

/-- A line slow and readings close enough for the filter, at a spacing it resolves. -/
structure Trackable (rho : ℝ) (dxUs : Int) (spread : ℝ) : Prop where
  /-- The slope is a crystal's. -/
  slow : |rho| ≤ 100 / 10 ^ 6
  /-- The spacing. -/
  spacing : 1 ≤ dxUs ∧ dxUs ≤ 200000
  /-- The readings are this close. -/
  close : spread ≤ 100

/-- A filter on a line: its errors are those of a tracker. -/
structure OnLine (f : AlphaBetaFilter) (c rho : ℝ) (x₀ dxUs : Int) (spread : ℝ) : Prop where
  /-- It has the instant gains. -/
  deployed : f.Deployed
  /-- Its errors are small. -/
  tracks : Tracks (rho * dxUs) spread (f.errorOn c rho x₀ dxUs)

variable {c rho : ℝ} {x₀ : Int}

/-- Between two readings the line moves by twenty microseconds at most. -/
theorem Trackable.drift_le (trackable : Trackable rho dxUs spread) : |rho * dxUs| ≤ 20 := by
  have forward : (0 : ℝ) ≤ dxUs := by exact_mod_cast (by have := trackable.spacing; omega : 0 ≤ dxUs)
  have short : (dxUs : ℝ) ≤ 200000 := by exact_mod_cast trackable.spacing.2
  rw [abs_mul, abs_of_nonneg forward]
  calc |rho| * dxUs ≤ 100 / 10 ^ 6 * 200000 :=
        mul_le_mul trackable.slow short forward (by norm_num)
    _ = 20 := by norm_num

/-- The prediction of a filter on the line is within the clamp of any reading of it. -/
theorem OnLine.rawInnovationQ_lt (onLine : f.OnLine c rho x₀ dxUs spread)
    (trackable : Trackable rho dxUs spread)
    (near : |(observedOffsetUs : ℝ) - line c rho x₀ (f.lastXUs + dxUs)| ≤ spread) :
    |f.rawInnovationQ dxUs observedOffsetUs| < maxInnovationQ := by
  have ahead := onLine.tracks.ahead_le
  have drift := trackable.drift_le
  have close := trackable.close
  have innovation : (f.rawInnovationQ dxUs observedOffsetUs : ℝ) =
      ((observedOffsetUs - line c rho x₀ (f.lastXUs + dxUs)) -
        (f.errorOn c rho x₀ dxUs).ahead) * 2 ^ 20 := by
    simp only [rawInnovationQ, errorOn]
    push_cast
    ring
  have bounded : |(f.rawInnovationQ dxUs observedOffsetUs : ℝ)| < 1000 * 2 ^ 20 := by
    have nearWithin := abs_le.mp near
    have aheadWithin := abs_le.mp ahead
    rw [innovation]
    exact abs_lt.mpr ⟨by linarith, by linarith⟩
  unfold maxInnovationQ
  exact_mod_cast bounded

/-- Nor is it larger than the line. -/
theorem OnLine.predictedQ_le (onLine : f.OnLine c rho x₀ dxUs spread)
    (trackable : Trackable rho dxUs spread)
    (range : |line c rho x₀ (f.lastXUs + dxUs)| ≤ 2 ^ 51) : |f.predictedQ dxUs| ≤ 2 ^ 72 := by
  have ahead := onLine.tracks.ahead_le
  have drift := trackable.drift_le
  have close := trackable.close
  have prediction : (f.predictedQ dxUs : ℝ) =
      ((f.errorOn c rho x₀ dxUs).ahead + line c rho x₀ (f.lastXUs + dxUs)) * 2 ^ 20 := by
    simp only [errorOn]
    ring
  have bounded : |(f.predictedQ dxUs : ℝ)| ≤ 2 ^ 72 := by
    have rangeWithin := abs_le.mp range
    have aheadWithin := abs_le.mp ahead
    rw [prediction]
    exact abs_le.mpr ⟨by linarith, by linarith⟩
  exact_mod_cast bounded

/-- The rate of small errors is far inside the range. -/
theorem abs_rateQ_le_of_tracks (trackable : Trackable rho dxUs spread)
    (tracks : Tracks (rho * dxUs) spread (f.errorOn c rho x₀ dxUs)) : |f.rateQ| ≤ 2 ^ 60 := by
  have slope := tracks.slope_le
  have drift := trackable.drift_le
  have close := trackable.close
  have unit : (1 : ℝ) ≤ dxUs := by exact_mod_cast trackable.spacing.1
  have moved : |(f.rateQ : ℝ)| * dxUs ≤ 141 * 2 ^ 32 := by
    have rate : (f.rateQ : ℝ) * dxUs = ((f.errorOn c rho x₀ dxUs).slope + rho * dxUs) * 2 ^ 32 := by
      simp only [errorOn]
      ring
    have product : |(f.rateQ : ℝ)| * dxUs = |(f.rateQ : ℝ) * dxUs| := by
      rw [abs_mul, abs_of_nonneg (zero_le_one.trans unit)]
    rw [product, rate]
    have slopeWithin := abs_le.mp slope
    have driftWithin := abs_le.mp drift
    exact abs_le.mpr ⟨by linarith, by linarith⟩
  have bounded : |(f.rateQ : ℝ)| ≤ 2 ^ 60 := by
    have grown := le_mul_of_one_le_right (abs_nonneg (f.rateQ : ℝ)) unit
    linarith
  exact_mod_cast bounded

/-- The line is in the range of its readings. -/
theorem Trackable.line_le {xUs : Int} (trackable : Trackable rho dxUs spread)
    (near : |(observedOffsetUs : ℝ) - line c rho x₀ xUs| ≤ spread)
    (range : |observedOffsetUs| < 2 ^ 50) : |line c rho x₀ xUs| ≤ 2 ^ 50 + 100 := by
  have close := trackable.close
  have bounded : |(observedOffsetUs : ℝ)| < 2 ^ 50 := by exact_mod_cast range
  have within := abs_lt.mp bounded
  have nearWithin := abs_le.mp near
  exact abs_le.mpr ⟨by linarith, by linarith⟩

/-- **Step.** Another reading keeps a filter on the line, in range and without the clamp. -/
theorem OnLine.next (onLine : f.OnLine c rho x₀ dxUs spread) (trackable : Trackable rho dxUs spread)
    (near : |(observedOffsetUs : ℝ) - line c rho x₀ (f.lastXUs + dxUs)| ≤ spread)
    (range : |observedOffsetUs| < 2 ^ 50) :
    f.ObserveFits (f.lastXUs + dxUs) observedOffsetUs ∧
      (f.next (f.lastXUs + dxUs) observedOffsetUs).OnLine c rho x₀ dxUs spread ∧
      (f.next (f.lastXUs + dxUs) observedOffsetUs).lastXUs = f.lastXUs + dxUs := by
  have deployed := onLine.deployed
  have spacing := trackable.spacing
  have unclamped := onLine.rawInnovationQ_lt trackable near
  have predicted := onLine.predictedQ_le trackable
    ((trackable.line_le near range).trans (by norm_num))
  have next_eq := deployed.next_eq spacing.1 unclamped.le
  obtain ⟨roundAhead, roundSlope, ahead, slope, step⟩ :=
    deployed.errorOn_next spacing unclamped.le (predicted.trans (by decide)) c rho x₀
  have tracked := onLine.tracks.next near ahead slope
  rw [← step] at tracked
  refine ⟨deployed.observeFits spacing predicted range,
    ⟨⟨?_, ?_, ?_, abs_rateQ_le_of_tracks trackable tracked⟩, tracked⟩, ?_⟩
  · rw [next_eq]
    exact deployed.running
  · rw [next_eq]
    exact deployed.alpha
  · rw [next_eq]
    exact deployed.beta
  · rw [next_eq]

/-- The first reading puts a fresh filter on the line. -/
theorem OnLine.seed (trackable : Trackable rho dxUs spread) {xUs : Int}
    (near : |(observedOffsetUs : ℝ) - line c rho x₀ xUs| ≤ spread)
    (range : |observedOffsetUs| < 2 ^ 50) :
    (new 16 2048).ObserveFits xUs observedOffsetUs ∧
      ((new 16 2048).next xUs observedOffsetUs).OnLine c rho x₀ dxUs spread ∧
      ((new 16 2048).next xUs observedOffsetUs).lastXUs = xUs := by
  have within := abs_lt.mp range
  have seeded : (new 16 2048).next xUs observedOffsetUs =
      ⟨true, xUs, observedOffsetUs * 2 ^ 20, 0, 16, 2048⟩ := rfl
  have errors : ((new 16 2048).next xUs observedOffsetUs).errorOn c rho x₀ dxUs =
      ⟨observedOffsetUs - line c rho x₀ xUs - rho * dxUs, -(rho * dxUs)⟩ := by
    rw [seeded]
    apply TrackError.ext
    · dsimp only [errorOn]
      rw [predictedQ_of_small trackable.spacing (abs_le.mpr ⟨by dsimp only; omega, by dsimp only; omega⟩)
        (by simp)]
      simp only [line]
      push_cast
      norm_num
      ring
    · simp [errorOn]
  have still : |((new 16 2048).next xUs observedOffsetUs).rateQ| ≤ 2 ^ 60 := by
    rw [seeded]
    simp
  refine ⟨⟨⟨by omega, by omega⟩, ?_, ?_, ?_, ?_, by decide⟩, ⟨⟨rfl, rfl, rfl, still⟩, ?_⟩, rfl⟩
  · simp [new]
  · simp [new]
  · simp [new]
  · simp [new]
  · rw [errors]
    exact Tracks.seed _ near

/-- The first readings of a sequence at constant spacing. -/
def readings (x₀ dxUs : Int) (y : Nat → Int) (count : Nat) : List (Int × Int) :=
  (List.range count).map fun i : Nat => (x₀ + (i : Int) * dxUs, y i)

/-- One more reading comes last. -/
theorem readings_succ (x₀ dxUs : Int) (y : Nat → Int) (count : Nat) :
    readings x₀ dxUs y (count + 1) =
      readings x₀ dxUs y count ++ [(x₀ + count * dxUs, y count)] := by
  simp [readings, List.range_succ]

/-- One more reading is one spacing later. -/
theorem time_succ {last : Nat} (time : f.lastXUs = x₀ + last * dxUs) :
    x₀ + ((last + 1 : Nat) : Int) * dxUs = f.lastXUs + dxUs := by
  rw [time]
  push_cast
  ring

/-- **Run.** A fresh filter is on the line after any number of readings. -/
theorem OnLine.observeAll (trackable : Trackable rho dxUs spread) {y : Nat → Int} {last : Nat}
    (near : ∀ i ≤ last, |(y i : ℝ) - line c rho x₀ (x₀ + i * dxUs)| ≤ spread)
    (range : ∀ i ≤ last, |y i| < 2 ^ 50) :
    ∃ f : AlphaBetaFilter, f.OnLine c rho x₀ dxUs spread ∧ f.lastXUs = x₀ + last * dxUs ∧
      ∀ checks, (new 16 2048).observeAll checks (readings x₀ dxUs y (last + 1)) = .ok f := by
  induction last with
  | zero =>
    have first := near 0 (le_refl 0)
    obtain ⟨fits, onLine, time⟩ := OnLine.seed trackable first (range 0 (le_refl 0))
    refine ⟨_, onLine, time, fun checks => ?_⟩
    change (new 16 2048).observe checks _ _ >>= _ = _
    rw [observe_eq_next fits, ok_bind]
    rfl
  | succ last ih =>
    obtain ⟨f, onLine, time, returned⟩ :=
      ih (fun i earlier => near i (by omega)) (fun i earlier => range i (by omega))
    have next_time := time_succ time
    have reading := near (last + 1) (le_refl _)
    rw [next_time] at reading
    obtain ⟨fits, next_onLine, later⟩ :=
      onLine.next trackable reading (range (last + 1) (le_refl _))
    refine ⟨_, next_onLine, later.trans next_time.symm, fun checks => ?_⟩
    have earlier := returned checks
    unfold AlphaBetaFilter.observeAll at earlier ⊢
    rw [readings_succ, foldlM_concat, earlier, ok_bind, next_time]
    exact observe_eq_next fits

/-- The prediction one spacing later is within whole microseconds of the line. -/
theorem OnLine.predict_near (onLine : f.OnLine c rho x₀ dxUs spread)
    (trackable : Trackable rho dxUs spread)
    (range : |line c rho x₀ (f.lastXUs + dxUs)| ≤ 2 ^ 51) :
    ∃ p, f.predict (f.lastXUs + dxUs) = some p ∧
      |(p : ℝ) - line c rho x₀ (f.lastXUs + dxUs)| ≤ 2 * spread + 16 * |rho * dxUs| + 2 := by
  have elapsed : f.lastXUs + dxUs - f.lastXUs = dxUs := by omega
  have within := abs_le.mp (onLine.predictedQ_le trackable range)
  refine ⟨f.predictedQ dxUs / 2 ^ 20, ?_, ?_⟩
  · unfold predict
    rw [if_neg (by simp [onLine.deployed.running]), elapsed,
      wrapI64_of_fits ⟨by omega, by omega⟩]
  · obtain ⟨round, rounds, whole⟩ :=
      exists_round_ediv (f.predictedQ dxUs) (show (0 : Int) < 2 ^ 20 by decide)
    have ahead := onLine.tracks.ahead_le
    have prediction : ((f.predictedQ dxUs / 2 ^ 20 : Int) : ℝ) - line c rho x₀ (f.lastXUs + dxUs) =
        (f.errorOn c rho x₀ dxUs).ahead + round := by
      rw [whole]
      simp only [errorOn]
      push_cast
      ring
    rw [prediction]
    exact (abs_add_le _ _).trans (by linarith)

end AlphaBetaFilter

open AlphaBetaFilter in
/-- **Tracking.** Readings of a slow line at constant spacing, each off by at most `spread`,
leave a fresh filter of the instant gains with a prediction of the next one that is off by no
more than four times that, the drift of twenty spacings and three microseconds. The clamp
of one millisecond is never reached on the way. -/
theorem filter_tracks_line (checks : OverflowChecks) (c rho : ℝ) (slow : |rho| ≤ 100 / 10 ^ 6)
    (x₀ dxUs : Int) (spacing : 1 ≤ dxUs ∧ dxUs ≤ 200000) (spread : Nat) (close : spread ≤ 100)
    (y : Nat → Int) (m : Nat) (observed : 1 ≤ m)
    (near : ∀ i < m, |(y i : ℝ) - line c rho x₀ (x₀ + i * dxUs)| ≤ spread)
    (range : ∀ i < m, |y i| < 2 ^ 50) :
    (∃ f p, (new 16 2048).observeAll checks (readings x₀ dxUs y m) = .ok f ∧
      f.predict (x₀ + m * dxUs) = some p ∧
      |(p : ℝ) - line c rho x₀ (x₀ + m * dxUs)| ≤ 4 * spread + 20 * |rho| * dxUs + 3) ∧
    ∀ k, 1 ≤ k → k < m → ∃ f,
      (new 16 2048).observeAll checks (readings x₀ dxUs y k) = .ok f ∧
      |y k * 2 ^ 20 - f.predictedQ (x₀ + k * dxUs - f.lastXUs)| < maxInnovationQ := by
  have trackable : Trackable rho dxUs spread := ⟨slow, spacing, by exact_mod_cast close⟩
  have reached (last : Nat) (part : last < m) :=
    OnLine.observeAll trackable (fun i (earlier : i ≤ last) => near i (earlier.trans_lt part))
      (fun i earlier => range i (earlier.trans_lt part))
  constructor
  · obtain ⟨last, rfl⟩ : ∃ last, m = last + 1 := ⟨m - 1, by omega⟩
    obtain ⟨f, onLine, time, returned⟩ := reached last last.lt_succ_self
    have reading := trackable.line_le (near last last.lt_succ_self) (range last last.lt_succ_self)
    have bounded : |line c rho x₀ (f.lastXUs + dxUs)| ≤ 2 ^ 51 := by
      rw [line_add, time]
      exact (abs_add_le _ _).trans (by linarith [trackable.drift_le])
    obtain ⟨p, predicted, off⟩ := onLine.predict_near trackable bounded
    rw [← time_succ time] at predicted off
    refine ⟨f, p, returned checks, predicted, off.trans ?_⟩
    have forward : (0 : ℝ) ≤ dxUs := by exact_mod_cast (by omega : 0 ≤ dxUs)
    have drift := mul_nonneg (abs_nonneg rho) forward
    have nonneg : (0 : ℝ) ≤ spread := spread.cast_nonneg
    rw [abs_mul, abs_of_nonneg forward]
    linarith
  · intro k before part
    obtain ⟨last, rfl⟩ : ∃ last, k = last + 1 := ⟨k - 1, by omega⟩
    obtain ⟨f, onLine, time, returned⟩ := reached last (by omega)
    have reading := near (last + 1) part
    have elapsed : f.lastXUs + dxUs - f.lastXUs = dxUs := by omega
    rw [time_succ time] at reading
    refine ⟨f, returned checks, ?_⟩
    rw [time_succ time, elapsed]
    exact onLine.rawInnovationQ_lt trackable reading

open AlphaBetaFilter in
/-- A clock that drifts by 10 ppm, read twice and the second time one microsecond late. -/
theorem filter_tracks_line_two_readings :
    ∃ f p, (new 16 2048).observeAll .enabled [(0, 5), (100000, 7)] = .ok f ∧
      f.predict 200000 = some p ∧ |(p : ℝ) - 7| ≤ 27 := by
  have near : ∀ i < 2, |(((5 + 2 * i : Nat) : Int) : ℝ) -
      line 5 (1 / 100000) 0 (0 + i * 100000)| ≤ (1 : Nat) := by
    intro i part
    interval_cases i
    · norm_num [line]
    · norm_num [line]
  have range : ∀ i < 2, |((5 + 2 * i : Nat) : Int)| < 2 ^ 50 := by decide
  obtain ⟨⟨f, p, returned, predicted, off⟩, _⟩ := filter_tracks_line .enabled 5 (1 / 100000)
    (by norm_num [abs_of_pos]) 0 100000 (by decide) 1 (by decide) (fun i => (5 + 2 * i : Nat)) 2
    (by decide) near range
  refine ⟨f, p, returned, predicted, ?_⟩
  norm_num [line, abs_of_pos] at off
  linarith

end EspClockSync
