import EspClockSync.Sync.Estimator

/-!
# The estimator as a function of its window

What the estimator answers depends on the last 256 observations alone. The exact
offset of a sample, the mean offset and the residual of a list of samples are
stated over unbounded integers; `refit_ok` shows that the code computes them in
every build, on every list of samples whose arithmetic stays in range.
-/

namespace EspClockSync

open Machine

/-! ## Exact statistics of a list of samples -/

/-- `server_ns - 1000 * local_us` over the integers. -/
def Sample.exactOffset (s : Sample) : Int := s.serverNs.toNat - 1000 * s.localUs.toNat

/-- The sum of the exact offsets. -/
def offsetSum (samples : List Sample) : Int := (samples.map Sample.exactOffset).sum

/-- The mean offset, rounded toward zero. -/
def meanOffset (samples : List Sample) : Int := (offsetSum samples).tdiv samples.length

/-- The whole microseconds between a sample's offset and this mean. -/
def Sample.residualUs (mean : Int) (s : Sample) : Nat := (s.exactOffset - mean).natAbs / 1000

/-- The unbounded sum of the squared residuals. -/
def squareSum (mean : Int) (samples : List Sample) : Nat :=
  (samples.map fun s => s.residualUs mean ^ 2).sum

/-- Twice the floor of the standard deviation, capped at `u32::MAX`. -/
def residualOf (samples : List Sample) : U32 :=
  BitVec.ofNat 32
    (min (2 * Nat.sqrt (squareSum (meanOffset samples) samples / samples.length)) (2 ^ 32 - 1))

/-- The two-point slope between two samples, as `refit` evaluates it. -/
def slopeBetween (o n : Sample) : Int :=
  if o.localUs.toNat + 1000000 < n.localUs.toNat then
    max (-1000000) (min ((saturateI128 (((n.serverNs.toNat : Int) - o.serverNs.toNat) * 1000000)).tdiv
      ((n.localUs.toNat : Int) - o.localUs.toNat) - 1000000000) 1000000)
  else 0

/-- Two samples of least and of greatest local time. -/
structure Extremal (samples : List Sample) (o n : Sample) : Prop where
  /-- The older one is a sample. -/
  oldest_mem : o ∈ samples
  /-- The newer one is a sample. -/
  newest_mem : n ∈ samples
  /-- No sample is older. -/
  oldest_le : ∀ s ∈ samples, o.localUs ≤ s.localUs
  /-- No sample is newer. -/
  le_newest : ∀ s ∈ samples, s.localUs ≤ n.localUs

/-- Samples whose fit stays in range, in the order the loops visit them. -/
structure FitsInOrder (samples : List Sample) : Prop where
  /-- Server times survive the cast to `i128`. -/
  times : ∀ s ∈ samples, s.serverNs.toNat < 2 ^ 127
  /-- Local times leave room for the drift guard. -/
  readings : ∀ s ∈ samples, s.localUs.toNat < 2 ^ 63
  /-- No window is longer than the ring. -/
  short : samples.length ≤ windowSize
  /-- Every running sum is an `i128`. -/
  sums : ∀ part, part <+: samples → I128Fits (offsetSum part)
  /-- Once a mean is taken, every squared residual is a `u128`. -/
  spread : minSamples ≤ samples.length →
    ∀ s ∈ samples, (s.exactOffset - meanOffset samples).natAbs < 1000 * 2 ^ 64

/-- One more sample adds its offset to the sum. -/
theorem offsetSum_concat (samples : List Sample) (s : Sample) :
    offsetSum (samples ++ [s]) = offsetSum samples + s.exactOffset := by
  simp [offsetSum]

/-- The sum does not depend on the order. -/
theorem offsetSum_perm {left right : List Sample} (same : left.Perm right) :
    offsetSum left = offsetSum right := (same.map _).sum_eq

/-- The mean does not depend on the order. -/
theorem meanOffset_perm {left right : List Sample} (same : left.Perm right) :
    meanOffset left = meanOffset right := by
  rw [meanOffset, meanOffset, offsetSum_perm same, same.length_eq]

/-- The residual does not depend on the order. -/
theorem residualOf_perm {left right : List Sample} (same : left.Perm right) :
    residualOf left = residualOf right := by
  have squares : squareSum (meanOffset left) left = squareSum (meanOffset right) right := by
    rw [meanOffset_perm same]
    exact (same.map _).sum_eq
  rw [residualOf, residualOf, squares, same.length_eq]

/-- The extremes do not depend on the order. -/
theorem Extremal.perm {left right : List Sample} {o n : Sample} (extremal : Extremal left o n)
    (same : left.Perm right) : Extremal right o n where
  oldest_mem := same.mem_iff.mp extremal.oldest_mem
  newest_mem := same.mem_iff.mp extremal.newest_mem
  oldest_le s member := extremal.oldest_le s (same.mem_iff.mpr member)
  le_newest s member := extremal.le_newest s (same.mem_iff.mpr member)

/-- With distinct local times there is one pair of extremes. -/
theorem Extremal.unique {samples : List Sample} {o n o' n' : Sample}
    (distinct : (samples.map Sample.localUs).Nodup) (first : Extremal samples o n)
    (second : Extremal samples o' n') : o = o' ∧ n = n' := by
  have injective := List.inj_on_of_nodup_map distinct
  constructor
  · exact injective first.oldest_mem second.oldest_mem
      (BitVec.le_antisymm (first.oldest_le o' second.oldest_mem)
        (second.oldest_le o first.oldest_mem))
  · exact injective first.newest_mem second.newest_mem
      (BitVec.le_antisymm (second.le_newest n first.newest_mem)
        (first.le_newest n' second.newest_mem))

/-! ## The loops of the fit -/

/-- A server time below the sign bit has its exact offset. -/
theorem Sample.offsetNs_ok (checks : OverflowChecks) {s : Sample}
    (time : s.serverNs.toNat < 2 ^ 127) : s.offsetNs checks = .ok s.exactOffset := by
  have reading := s.localUs.isLt
  have scaledFits : I128Fits ((s.localUs.toNat : Int) * 1000) := by
    constructor
    · omega
    · omega
  have offsetFits : I128Fits ((s.serverNs.toNat : Int) - s.localUs.toNat * 1000) := by
    constructor
    · omega
    · omega
  unfold Sample.offsetNs Sample.exactOffset
  rw [checks.i128_ok scaledFits, ok_bind, toInt_of_lt s.serverNs (by omega),
    checks.i128_ok offsetFits, Int.mul_comm 1000]

/-- One sample in range adds its offset to the sum and one to the count. -/
theorem sumStep_ok (checks : OverflowChecks) {sum : Int} {k : Nat} {s : Sample}
    (time : s.serverNs.toNat < 2 ^ 127) (total : I128Fits (sum + s.exactOffset))
    (count : k + 1 < 2 ^ 32) :
    sumStep checks (sum, k) s = .ok (sum + s.exactOffset, k + 1) := by
  unfold sumStep
  rw [s.offsetNs_ok checks time, ok_bind, checks.i128_ok total, ok_bind,
    checks.unsigned_ok count, ok_bind]

/-- The first loop computes the sum and the count when every running sum fits. -/
theorem sumOffsets_ok (checks : OverflowChecks) {samples : List Sample}
    (times : ∀ s ∈ samples, s.serverNs.toNat < 2 ^ 127) (short : samples.length ≤ windowSize)
    (sums : ∀ part, part <+: samples → I128Fits (offsetSum part)) :
    sumOffsets checks samples = .ok (offsetSum samples, samples.length) := by
  induction samples using List.reverseRecOn with
  | nil => rfl
  | append_singleton samples s ih =>
    have total := sums _ (List.prefix_refl _)
    rw [offsetSum_concat] at total
    rw [List.length_append, List.length_singleton, windowSize] at short
    have earlier := ih (fun t member => times t (List.mem_append_left _ member))
      (by unfold windowSize; omega)
      (fun part before => sums part (before.trans (List.prefix_append _ _)))
    unfold sumOffsets at earlier ⊢
    rw [foldlM_concat, earlier, ok_bind, sumStep_ok checks (times s (by simp)) total (by omega),
      offsetSum_concat, List.length_append, List.length_singleton]

/-- The choice between a first value of a list and one more is a first of all. -/
theorem first_concat {α : Type} (before : α → α → Prop) (reflexive : ∀ a, before a a)
    (transitive : ∀ a b c, before a b → before b c → before a c) {values : List α}
    {first value : α} (held : first ∈ values) (earlier : ∀ t ∈ values, before first t)
    {replaces : Prop} [Decidable replaces] (won : replaces → before value first)
    (lost : ¬ replaces → before first value) :
    (if replaces then value else first) ∈ values ++ [value] ∧
      ∀ t ∈ values ++ [value], before (if replaces then value else first) t := by
  split
  · rename_i replaced
    constructor
    · exact List.mem_append_right _ List.mem_cons_self
    · intro t member
      rcases List.mem_append.mp member with member | member
      · exact transitive _ _ _ (won replaced) (earlier t member)
      · rw [List.mem_singleton.mp member]
        exact reflexive value
  · rename_i kept
    constructor
    · exact List.mem_append_left _ held
    · intro t member
      rcases List.mem_append.mp member with member | member
      · exact earlier t member
      · rw [List.mem_singleton.mp member]
        exact lost kept

/-- The older of an oldest sample and one more is the oldest of all; a tie keeps the earlier. -/
theorem Extremal.oldest_concat {samples : List Sample} {o n : Sample}
    (extremal : Extremal samples o n) (s : Sample) :
    (if s.localUs < o.localUs then s else o) ∈ samples ++ [s] ∧
      ∀ t ∈ samples ++ [s], (if s.localUs < o.localUs then s else o).localUs ≤ t.localUs := by
  apply first_concat (fun a b : Sample => a.localUs ≤ b.localUs) (fun _ => BitVec.le_refl _)
    (fun _ _ _ => BitVec.le_trans) extremal.oldest_mem extremal.oldest_le
  · exact BitVec.le_of_lt
  · exact BitVec.not_lt.mp

/-- The newer of a newest sample and one more is the newest of all; a tie keeps the earlier. -/
theorem Extremal.newest_concat {samples : List Sample} {o n : Sample}
    (extremal : Extremal samples o n) (s : Sample) :
    (if n.localUs < s.localUs then s else n) ∈ samples ++ [s] ∧
      ∀ t ∈ samples ++ [s], t.localUs ≤ (if n.localUs < s.localUs then s else n).localUs := by
  apply first_concat (fun a b : Sample => b.localUs ≤ a.localUs) (fun _ => BitVec.le_refl _)
    (fun _ _ _ later earlier => BitVec.le_trans earlier later) extremal.newest_mem extremal.le_newest
  · exact BitVec.le_of_lt
  · exact BitVec.not_lt.mp

/-- The second loop finds extremes of every nonempty list. -/
theorem extremes_ok {samples : List Sample} (nonempty : samples ≠ []) :
    ∃ o n, extremes samples = .ok (some o, some n) ∧ Extremal samples o n := by
  induction samples using List.reverseRecOn with
  | nil => contradiction
  | append_singleton samples s ih =>
    by_cases first : samples = []
    · subst first
      refine ⟨s, s, rfl, ⟨by simp, by simp, ?_, ?_⟩⟩
      · simp
      · simp
    · obtain ⟨o, n, found, extremal⟩ := ih first
      have oldest := extremal.oldest_concat s
      have newest := extremal.newest_concat s
      refine ⟨if s.localUs < o.localUs then s else o, if n.localUs < s.localUs then s else n,
        ?_, ⟨oldest.1, newest.1, oldest.2, newest.2⟩⟩
      unfold extremes at found ⊢
      rw [foldlM_concat, found]
      rfl

/-- A saturated rise over more than a million microseconds leaves room for the nominal slope. -/
theorem slope_fits {scaled dx : Int} (range : I128Fits scaled) (run : 1000000 < dx) :
    I128Fits (scaled.tdiv dx - 1000000000) := by
  obtain ⟨lower, upper⟩ := range
  have above : dx * -2 ^ 126 ≤ scaled := by nlinarith
  have below : scaled ≤ dx * 2 ^ 126 := by nlinarith
  have between := tdiv_between (show 0 < dx by omega) above below
  constructor
  · omega
  · omega

/-- The slope of two samples in range is computed exactly. -/
theorem slopePpb_ok (checks : OverflowChecks) {o n : Sample} (oTime : o.serverNs.toNat < 2 ^ 127)
    (nTime : n.serverNs.toNat < 2 ^ 127) (reading : o.localUs.toNat < 2 ^ 63) :
    slopePpb checks (some o, some n) = .ok (slopeBetween o n) := by
  unfold slopePpb slopeBetween
  dsimp only
  rw [checks.unsigned_ok (show o.localUs.toNat + 1000000 < 2 ^ 64 by omega), ok_bind,
    toInt_of_lt o.serverNs (by omega), toInt_of_lt n.serverNs (by omega)]
  by_cases apart : o.localUs.toNat + 1000000 < n.localUs.toNat
  · have width : ((n.localUs.toNat - o.localUs.toNat : Nat) : Int) =
        n.localUs.toNat - o.localUs.toNat := by omega
    have rise : I128Fits ((n.serverNs.toNat : Int) - o.serverNs.toNat) := by
      constructor
      · omega
      · omega
    rw [if_pos apart, if_pos apart, checks.unsignedSub_ok (show o.localUs.toNat ≤
      n.localUs.toNat by omega), ok_bind, checks.i128_ok rise, ok_bind, width]
    have range := saturateI128_fits (((n.serverNs.toNat : Int) - o.serverNs.toNat) * 1000000)
    generalize saturateI128 (((n.serverNs.toNat : Int) - o.serverNs.toNat) * 1000000) = scaled
      at range ⊢
    have run : (1000000 : Int) < n.localUs.toNat - o.localUs.toNat := by omega
    generalize (n.localUs.toNat : Int) - o.localUs.toNat = dx at run ⊢
    have slope := slope_fits range run
    rw [divI128_pos scaled (show 0 < dx by omega), ok_bind, checks.i128_ok slope, ok_bind]
  · rw [if_neg apart, if_neg apart]

/-- A square root of a value below `2 ^ (2 * bits)` is below `2 ^ bits`. -/
theorem sqrt_lt_two_pow {value bits : Nat} (small : value < 2 ^ (2 * bits)) :
    Nat.sqrt value < 2 ^ bits := by
  rw [Nat.sqrt_lt', ← Nat.pow_mul, Nat.mul_comm bits 2]
  exact small

/-- A square root of a value from `2 ^ (2 * bits)` on is at least `2 ^ bits`. -/
theorem two_pow_le_sqrt {value bits : Nat} (large : 2 ^ (2 * bits) ≤ value) :
    2 ^ bits ≤ Nat.sqrt value := by
  rw [Nat.le_sqrt', ← Nat.pow_mul, Nat.mul_comm bits 2]
  exact large

/-- The final cap hides the saturation of the square sum: a saturated sum already
gives a deviation above the cap. -/
theorem doubleDeviation_saturated {squares k : Nat} (enough : minSamples ≤ k)
    (short : k ≤ windowSize) :
    doubleDeviation (Nat.sqrt (min squares (2 ^ 128 - 1) / k)) =
      BitVec.ofNat 32 (min (2 * Nat.sqrt (squares / k)) (2 ^ 32 - 1)) := by
  unfold minSamples at enough
  unfold windowSize at short
  unfold doubleDeviation
  have quotient : min squares (2 ^ 128 - 1) / k ≤ (2 ^ 128 - 1) / 8 :=
    Nat.div_le_div (Nat.min_le_right _ _) enough (by decide)
  have root : Nat.sqrt (min squares (2 ^ 128 - 1) / k) < 2 ^ 63 :=
    sqrt_lt_two_pow (Nat.lt_of_le_of_lt quotient (by decide))
  rw [Nat.mod_eq_of_lt (Nat.lt_trans root (by decide))]
  by_cases exact_sum : squares ≤ 2 ^ 128 - 1
  · rw [Nat.min_eq_left exact_sum] at root ⊢
    congr 1
    omega
  · have capped : ∀ value, 2 ^ 128 - 1 ≤ value → 2 ^ 59 ≤ Nat.sqrt (value / k) := by
      intro value large
      apply two_pow_le_sqrt
      have first : 2 ^ 118 ≤ value / 256 := by
        rw [Nat.le_div_iff_mul_le (by decide)]
        omega
      exact first.trans (Nat.div_le_div_left short (by omega))
    have left := capped (min squares (2 ^ 128 - 1)) (by omega)
    have right := capped squares (by omega)
    congr 1
    omega

/-- One sample in range adds the square of its residual, up to saturation. -/
theorem squareStep_ok (checks : OverflowChecks) {mean : Int} {sum : Nat} {s : Sample}
    (time : s.serverNs.toNat < 2 ^ 127)
    (spread : (s.exactOffset - mean).natAbs < 1000 * 2 ^ 64) :
    squareStep checks mean sum s = .ok (min (sum + s.residualUs mean ^ 2) (2 ^ 128 - 1)) := by
  have small : s.residualUs mean < 2 ^ 64 := by
    unfold Sample.residualUs
    omega
  have square : s.residualUs mean * s.residualUs mean < 2 ^ 128 :=
    calc s.residualUs mean * s.residualUs mean < 2 ^ 64 * 2 ^ 64 := Nat.mul_lt_mul'' small small
      _ = 2 ^ 128 := by decide
  have resid : I128Fits (s.exactOffset - mean) := by
    constructor
    · omega
    · omega
  unfold squareStep
  rw [s.offsetNs_ok checks time, ok_bind, checks.i128_ok resid, ok_bind]
  change checks.unsigned 128 (s.residualUs mean * s.residualUs mean) >>= _ = _
  rw [checks.unsigned_ok square, ok_bind, ← Nat.pow_two]

/-- The third loop computes the sum of the squares, up to saturation. -/
theorem sumSquares_ok (checks : OverflowChecks) {mean : Int} {samples : List Sample}
    (times : ∀ s ∈ samples, s.serverNs.toNat < 2 ^ 127)
    (spread : ∀ s ∈ samples, (s.exactOffset - mean).natAbs < 1000 * 2 ^ 64) :
    sumSquares checks mean samples = .ok (min (squareSum mean samples) (2 ^ 128 - 1)) := by
  induction samples using List.reverseRecOn with
  | nil => rfl
  | append_singleton samples s ih =>
    have earlier := ih (fun t member => times t (List.mem_append_left _ member))
      (fun t member => spread t (List.mem_append_left _ member))
    have grown : squareSum mean (samples ++ [s]) =
        squareSum mean samples + s.residualUs mean ^ 2 := by simp [squareSum]
    unfold sumSquares at earlier ⊢
    rw [foldlM_concat, earlier, ok_bind,
      squareStep_ok checks (times s (by simp)) (spread s (by simp)), grown]
    congr 1
    omega

/-! ## The fit -/

/-- The fit an estimator stores is the fit of these samples. -/
structure Estimator.Fitted (est : Estimator) (samples : List Sample) : Prop where
  /-- The offset is the truncated mean. -/
  offset : est.offsetNs = meanOffset samples
  /-- The residual is the capped double deviation. -/
  residual : est.residualUsP95 = residualOf samples
  /-- The drift is the slope between two extremes. -/
  slope : ∃ o n, Extremal samples o n ∧ est.driftPpb = slopeBetween o n

/-- A fit does not depend on the order of the samples. -/
theorem Estimator.Fitted.perm {est : Estimator} {left right : List Sample}
    (fitted : est.Fitted left) (same : left.Perm right) : est.Fitted right where
  offset := fitted.offset.trans (meanOffset_perm same)
  residual := fitted.residual.trans (residualOf_perm same)
  slope := by
    obtain ⟨o, n, extremal, slope⟩ := fitted.slope
    exact ⟨o, n, extremal.perm same, slope⟩

/-- A refit in range returns in every build, keeps the ring and the last local
time, and from `MIN_SAMPLES` on stores the fit of the occupied slots. -/
theorem refit_ok {est : Estimator} (fits : FitsInOrder est.occupied) :
    ∃ after : Estimator, (∀ checks, est.refit checks = .ok after) ∧ after.toRing = est.toRing ∧
      after.lastUpdateUs = est.lastUpdateUs ∧
      (minSamples ≤ est.occupied.length → after.Fitted est.occupied) := by
  set samples := est.occupied with samplesDef
  by_cases few : samples.length < minSamples
  · refine ⟨est, fun checks => ?_, rfl, rfl, fun enough => absurd few (Nat.not_lt.mpr enough)⟩
    unfold Estimator.refit
    dsimp only
    rw [← samplesDef, sumOffsets_ok checks fits.times fits.short fits.sums, ok_bind]
    exact if_pos few
  · have enough : minSamples ≤ samples.length := Nat.not_lt.mp few
    have nonempty : samples ≠ [] := by
      rintro empty
      rw [empty] at few
      exact few (by decide)
    obtain ⟨o, n, found, extremal⟩ := extremes_ok nonempty
    have quotient : min (squareSum (meanOffset samples) samples) (2 ^ 128 - 1) / samples.length <
        2 ^ 128 - 1 := by
      have halved := Nat.div_le_div (Nat.min_le_right (squareSum (meanOffset samples) samples)
        (2 ^ 128 - 1)) enough (by decide)
      exact Nat.lt_of_le_of_lt halved (by decide)
    refine ⟨{ est with
      anchorUs := 0
      offsetNs := meanOffset samples
      driftPpb := slopeBetween o n
      residualUsP95 := residualOf samples }, fun checks => ?_, rfl, rfl,
      fun _ => ⟨rfl, rfl, o, n, extremal, rfl⟩⟩
    have count := int_length_pos nonempty
    unfold Estimator.refit
    dsimp only
    rw [← samplesDef, sumOffsets_ok checks fits.times fits.short fits.sums, ok_bind]
    dsimp only
    rw [if_neg few, divI128_pos _ count, ok_bind, found, ok_bind,
      slopePpb_ok checks (fits.times o extremal.oldest_mem) (fits.times n extremal.newest_mem)
        (fits.readings o extremal.oldest_mem), ok_bind]
    change sumSquares checks (meanOffset samples) samples >>= _ = _
    rw [sumSquares_ok checks fits.times (fits.spread enough), ok_bind,
      isqrtU128_eq checks quotient, ok_bind, doubleDeviation_saturated enough fits.short]
    rfl

end EspClockSync
