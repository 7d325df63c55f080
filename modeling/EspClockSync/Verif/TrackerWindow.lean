import EspClockSync.Sync.LinearTracker

/-!
# The line of a window

What `refit` computes is a function of the window: the truncated centroid, the centred sums
and the clamped slope are stated over unbounded integers, and `refit_ok` shows that the code
computes them in every build, without losing a bit, on every list of observations within
2 ^ 40 of zero.
-/

namespace EspClockSync

open Machine

namespace LinearTracker

/-! ## Exact statistics of a window -/

/-- A line through an anchor, with the slope in fixed point. -/
structure Line where
  /-- The `x` of the anchor. -/
  meanX : Int
  /-- The `y` of the anchor. -/
  meanY : Int
  /-- The slope, scaled by `2 ^ 32`. -/
  slopeQ32 : Int
  deriving DecidableEq, Repr

/-- The line of a tracker. -/
def line (tracker : LinearTracker) : Line := ⟨tracker.meanX, tracker.meanY, tracker.slopeQ32⟩

/-- The value of a line, rounded down. -/
def Line.at (line : Line) (x : Int) : Int := line.meanY + (x - line.meanX) * line.slopeQ32 / 2 ^ 32

/-- `anchor_x + sum_dx / k`. -/
def centerX (anchorX : Int) (samples : List (Int × Int)) : Int :=
  anchorX + (samples.map fun s => s.1 - anchorX).sum.tdiv samples.length

/-- `sum_y / k`. -/
def centerY (samples : List (Int × Int)) : Int := (samples.map Prod.snd).sum.tdiv samples.length

/-- The sum of the products of both distances from a center. -/
def numerator (x y : Int) (samples : List (Int × Int)) : Int :=
  (samples.map fun s => (s.1 - x) * (s.2 - y)).sum

/-- The sum of the squared distances from a center. -/
def denominator (x : Int) (samples : List (Int × Int)) : Int :=
  (samples.map fun s => (s.1 - x) * (s.1 - x)).sum

/-- The clamped slope. -/
def slopeOf (x y : Int) (samples : List (Int × Int)) : Int :=
  max (-maxSlopeQ32)
    (min ((numerator x y samples * 2 ^ 32).tdiv (denominator x samples)) maxSlopeQ32)

/-- The line of these samples, the last of which is at `anchorX`. -/
def fitOf (anchorX : Int) (samples : List (Int × Int)) : Line where
  meanX := centerX anchorX samples
  meanY := centerY samples
  slopeQ32 := slopeOf (centerX anchorX samples) (centerY samples) samples

/-- The samples have a line: there are enough of them, at two places. -/
def Spread (samples : List (Int × Int)) : Prop :=
  minSamples ≤ samples.length ∧ ∃ s ∈ samples, ∃ t ∈ samples, s.1 ≠ t.1

instance (samples : List (Int × Int)) : Decidable (Spread samples) :=
  inferInstanceAs (Decidable (_ ∧ _))

/-- Such samples are some. -/
theorem Spread.nonempty {samples : List (Int × Int)} (spread : Spread samples) : samples ≠ [] := by
  obtain ⟨s, member, _⟩ := spread.2
  exact List.ne_nil_of_mem member

/-- The line after a refit over these samples. -/
def refitted (anchorX : Int) (samples : List (Int × Int)) (previous : Line) : Line :=
  if Spread samples then fitOf anchorX samples else previous

/-- None of this depends on the order. -/
theorem refitted_perm (anchorX : Int) {left right : List (Int × Int)} (same : left.Perm right)
    (previous : Line) : refitted anchorX left previous = refitted anchorX right previous := by
  have spread : Spread left ↔ Spread right := by
    unfold Spread
    simp only [same.length_eq, same.mem_iff]
  have meanX : centerX anchorX left = centerX anchorX right := by
    unfold centerX
    rw [(same.map _).sum_eq, same.length_eq]
  have meanY : centerY left = centerY right := by
    unfold centerY
    rw [(same.map _).sum_eq, same.length_eq]
  have slope : ∀ x y, slopeOf x y left = slopeOf x y right := by
    intro x y
    unfold slopeOf numerator denominator
    rw [(same.map _).sum_eq, (same.map _).sum_eq]
  unfold refitted fitOf
  simp only [spread, meanX, meanY, slope]

/-! ## Sizes -/

/-- An observation within `2 ^ 40` of zero. -/
def InBox (s : Int × Int) : Prop := |s.1| ≤ 2 ^ 40 ∧ |s.2| ≤ 2 ^ 40

instance (s : Int × Int) : Decidable (InBox s) := inferInstanceAs (Decidable (_ ∧ _))

/-- The observations of one window. -/
structure Window (samples : List (Int × Int)) : Prop where
  /-- No more than the ring holds. -/
  short : samples.length ≤ trackerSize
  /-- Each within `2 ^ 40`. -/
  box : ∀ s ∈ samples, InBox s

/-- A part of a window. -/
theorem Window.of_append {samples more : List (Int × Int)} (window : Window (samples ++ more)) :
    Window samples where
  short := by
    have short := window.short
    rw [List.length_append] at short
    omega
  box s member := window.box s (List.mem_append_left _ member)

/-- The centroid is within `2 ^ 40` too. -/
theorem Window.center_le {samples : List (Int × Int)} (window : Window samples)
    (nonempty : samples ≠ []) (anchorX : Int) :
    |centerX anchorX samples| ≤ 2 ^ 40 ∧ |centerY samples| ≤ 2 ^ 40 := by
  have count := int_length_pos nonempty
  have xs : ∀ s ∈ samples, -2 ^ 40 - anchorX ≤ s.1 - anchorX ∧ s.1 - anchorX ≤ 2 ^ 40 - anchorX := by
    intro s member
    have x := abs_le.mp (window.box s member).1
    omega
  have ys : ∀ s ∈ samples, -2 ^ 40 ≤ s.2 ∧ s.2 ≤ 2 ^ 40 :=
    fun s member => abs_le.mp (window.box s member).2
  have sumX := sum_between xs
  have sumY := sum_between ys
  have meanX := tdiv_between count sumX.1 sumX.2
  have meanY := tdiv_between count sumY.1 sumY.2
  unfold centerX centerY
  constructor
  · exact abs_le.mpr ⟨by omega, by omega⟩
  · exact abs_le.mpr meanY

/-- A distance from a center in the box. -/
theorem abs_sub_le_of_box {value center : Int} (inBox : |value| ≤ 2 ^ 40)
    (centered : |center| ≤ 2 ^ 40) : |value - center| ≤ 2 ^ 41 := by
  have first := abs_le.mp inBox
  have second := abs_le.mp centered
  exact abs_le.mpr ⟨by omega, by omega⟩

/-- A product of two distances. -/
theorem abs_mul_le_of_box {dx dy : Int} (x : |dx| ≤ 2 ^ 41) (y : |dy| ≤ 2 ^ 41) :
    |dx * dy| ≤ 2 ^ 82 := by
  rw [abs_mul]
  exact (mul_le_mul x y (abs_nonneg _) (by decide)).trans_eq (by norm_num)

/-- The centred sums are below `2 ^ 90`. -/
theorem Window.sums_le {samples : List (Int × Int)} (window : Window samples) {x y : Int}
    (centeredX : |x| ≤ 2 ^ 40) (centeredY : |y| ≤ 2 ^ 40) :
    |numerator x y samples| ≤ 2 ^ 90 ∧ 0 ≤ denominator x samples ∧
      denominator x samples ≤ 2 ^ 90 := by
  have short := window.short
  unfold trackerSize at short
  have products : ∀ s ∈ samples, -2 ^ 82 ≤ (s.1 - x) * (s.2 - y) ∧
      (s.1 - x) * (s.2 - y) ≤ 2 ^ 82 := fun s member =>
    abs_le.mp (abs_mul_le_of_box (abs_sub_le_of_box (window.box s member).1 centeredX)
      (abs_sub_le_of_box (window.box s member).2 centeredY))
  have squares : ∀ s ∈ samples, 0 ≤ (s.1 - x) * (s.1 - x) ∧
      (s.1 - x) * (s.1 - x) ≤ 2 ^ 82 := fun s member =>
    ⟨mul_self_nonneg _, (abs_le.mp (abs_mul_le_of_box
      (abs_sub_le_of_box (window.box s member).1 centeredX)
      (abs_sub_le_of_box (window.box s member).1 centeredX))).2⟩
  have sum := sum_between products
  have square := sum_between squares
  unfold numerator denominator
  exact ⟨abs_le.mpr ⟨by omega, by omega⟩, by omega, by omega⟩

/-! ## Spread -/

/-- A sum of squares is no less than zero. -/
theorem denominator_nonneg (x : Int) (samples : List (Int × Int)) : 0 ≤ denominator x samples := by
  apply List.sum_nonneg
  intro square member
  obtain ⟨s, _, rfl⟩ := List.mem_map.mp member
  exact mul_self_nonneg _

/-- The squared distances vanish only when every sample is at the center. -/
theorem denominator_eq_zero_iff (x : Int) (samples : List (Int × Int)) :
    denominator x samples = 0 ↔ ∀ s ∈ samples, s.1 = x := by
  unfold denominator
  induction samples with
  | nil => simp
  | cons s samples ih =>
    have rest : 0 ≤ (samples.map fun s => (s.1 - x) * (s.1 - x)).sum := denominator_nonneg x samples
    have first := mul_self_nonneg (s.1 - x)
    rw [List.map_cons, List.sum_cons, List.forall_mem_cons, ← ih]
    constructor
    · intro zero
      have here : (s.1 - x) * (s.1 - x) = 0 := by omega
      exact ⟨by linarith [mul_self_eq_zero.mp here], by omega⟩
    · rintro ⟨here, zero⟩
      rw [zero, here]
      simp

/-- Samples at one place have it for their center. -/
theorem centerX_of_same {anchorX x : Int} {samples : List (Int × Int)} (nonempty : samples ≠ [])
    (same : ∀ s ∈ samples, s.1 = x) : centerX anchorX samples = x := by
  have count := int_length_pos nonempty
  have sum : (samples.map fun s => s.1 - anchorX).sum = samples.length * (x - anchorX) := by
    have each : samples.map (fun s => s.1 - anchorX) = samples.map fun _ => x - anchorX :=
      List.map_congr_left fun s member => by rw [same s member]
    rw [each, List.map_const', List.sum_replicate, nsmul_eq_mul]
  unfold centerX
  rw [sum, Int.mul_tdiv_cancel_left _ count.ne']
  omega

/-- There is something to divide by exactly when two samples differ in their place. -/
theorem denominator_ne_zero_iff {samples : List (Int × Int)} (nonempty : samples ≠ [])
    (anchorX : Int) :
    denominator (centerX anchorX samples) samples ≠ 0 ↔
      ∃ s ∈ samples, ∃ t ∈ samples, s.1 ≠ t.1 := by
  rw [Ne, denominator_eq_zero_iff]
  constructor
  · intro apart
    by_contra together
    apply apart
    obtain ⟨first, member⟩ := List.exists_mem_of_ne_nil samples nonempty
    have same : ∀ s ∈ samples, s.1 = first.1 := by
      intro s other
      by_contra differ
      exact together ⟨s, other, first, member, differ⟩
    rw [centerX_of_same nonempty same]
    exact same
  · rintro ⟨s, sMember, t, tMember, differ⟩ same
    exact differ ((same s sMember).trans (same t tMember).symm)

/-! ## The loops -/

/-- The first loop computes both sums and the count. -/
theorem sumLoop_ok (checks : OverflowChecks) {anchorX : Int} (anchored : |anchorX| ≤ 2 ^ 40)
    {samples : List (Int × Int)} (window : Window samples) :
    samples.foldlM (sumStep checks anchorX) (0, 0, 0) =
      .ok ((samples.map fun s => s.1 - anchorX).sum, (samples.map Prod.snd).sum, samples.length) := by
  induction samples using List.reverseRecOn with
  | nil => rfl
  | append_singleton samples s ih =>
    have short := window.short
    have before := window.of_append
    have here := window.box s (by simp)
    have distance := abs_le.mp (abs_sub_le_of_box here.1 anchored)
    have y := abs_le.mp here.2
    have xs : ∀ s ∈ samples, -2 ^ 41 ≤ s.1 - anchorX ∧ s.1 - anchorX ≤ 2 ^ 41 :=
      fun s member => abs_le.mp (abs_sub_le_of_box (before.box s member).1 anchored)
    have ys : ∀ s ∈ samples, -2 ^ 40 ≤ s.2 ∧ s.2 ≤ 2 ^ 40 :=
      fun s member => abs_le.mp (before.box s member).2
    have sumX := sum_between xs
    have sumY := sum_between ys
    rw [List.length_append, List.length_singleton, trackerSize] at short
    rw [foldlM_concat, ih before, ok_bind]
    change (do
      let dx ← checks.i128 (s.1 - anchorX)
      let sumDx ← checks.i128 ((samples.map fun (t : Int × Int) => t.1 - anchorX).sum + dx)
      let sumY ← checks.i128 ((samples.map Prod.snd).sum + s.2)
      let k ← checks.i128 ((samples.length : Int) + 1)
      Except.ok (sumDx, sumY, k)) = _
    rw [checks.i128_ok ⟨by omega, by omega⟩, ok_bind, checks.i128_ok ⟨by omega, by omega⟩, ok_bind,
      checks.i128_ok ⟨by omega, by omega⟩, ok_bind, checks.i128_ok ⟨by omega, by omega⟩, ok_bind]
    simp

/-- The second loop computes both centred sums. -/
theorem productLoop_ok (checks : OverflowChecks) {anchorX meanDx meanY : Int}
    (anchored : |anchorX| ≤ 2 ^ 40) (centeredX : |anchorX + meanDx| ≤ 2 ^ 40)
    (centeredY : |meanY| ≤ 2 ^ 40) {samples : List (Int × Int)} (window : Window samples) :
    samples.foldlM (productStep checks anchorX meanDx meanY) (0, 0) =
      .ok (numerator (anchorX + meanDx) meanY samples, denominator (anchorX + meanDx) samples) := by
  induction samples using List.reverseRecOn with
  | nil => rfl
  | append_singleton samples s ih =>
    have before := window.of_append
    have here := window.box s (by simp)
    have sums := before.sums_le centeredX centeredY
    have num := abs_le.mp sums.1
    have fromAnchor := abs_le.mp (abs_sub_le_of_box here.1 anchored)
    have dx := abs_sub_le_of_box here.1 centeredX
    have dy := abs_sub_le_of_box here.2 centeredY
    have dxWithin := abs_le.mp dx
    have dyWithin := abs_le.mp dy
    have product := abs_le.mp (abs_mul_le_of_box dx dy)
    have square := abs_le.mp (abs_mul_le_of_box dx dx)
    have centered : s.1 - anchorX - meanDx = s.1 - (anchorX + meanDx) := by omega
    rw [foldlM_concat, ih before, ok_bind]
    unfold productStep
    rw [checks.i128_ok ⟨by omega, by omega⟩, ok_bind, centered,
      checks.i128_ok ⟨by omega, by omega⟩, ok_bind, checks.i128_ok ⟨by omega, by omega⟩, ok_bind,
      checks.i128_ok ⟨by omega, by omega⟩, ok_bind, checks.i128_ok ⟨by omega, by omega⟩, ok_bind,
      checks.i128_ok ⟨by omega, by omega⟩, ok_bind, checks.i128_ok ⟨by omega, by omega⟩, ok_bind]
    simp [numerator, denominator]

/-! ## The fit -/

/-- The shift of the numerator loses no bits. -/
theorem Window.shift_fits {samples : List (Int × Int)} (window : Window samples) {x y : Int}
    (centeredX : |x| ≤ 2 ^ 40) (centeredY : |y| ≤ 2 ^ 40) :
    I128Fits (numerator x y samples * 2 ^ 32) := by
  have num := abs_le.mp (window.sums_le centeredX centeredY).1
  exact ⟨by omega, by omega⟩

/-- The slope is within the clamp. -/
theorem abs_slopeOf_le (x y : Int) (samples : List (Int × Int)) : |slopeOf x y samples| ≤ 2 ^ 31 := by
  unfold slopeOf maxSlopeQ32
  exact abs_le.mpr ⟨by omega, by omega⟩

/-- The tracker with another line. -/
def withLine (tracker : LinearTracker) (line : Line) : LinearTracker :=
  { tracker with
    meanX := line.meanX
    meanY := line.meanY
    slopeQ32 := line.slopeQ32 }

/-- Below eight samples a refit changes nothing. -/
theorem refit_of_few (checks : OverflowChecks) {tracker : LinearTracker}
    (window : Window tracker.occupied) (anchored : |tracker.lastX| ≤ 2 ^ 40)
    (few : tracker.occupied.length < minSamples) : tracker.refit checks = .ok tracker := by
  unfold refit
  dsimp only
  rw [sumLoop_ok checks anchored window, ok_bind]
  dsimp only
  rw [if_pos (by exact_mod_cast few)]

/-- From eight samples on both loops give the center and its moments. -/
theorem refit_of_many (checks : OverflowChecks) {tracker : LinearTracker}
    (window : Window tracker.occupied) (anchored : |tracker.lastX| ≤ 2 ^ 40)
    (many : minSamples ≤ tracker.occupied.length) {x y : Int}
    (meanX : x = centerX tracker.lastX tracker.occupied) (meanY : y = centerY tracker.occupied) :
    tracker.refit checks =
      if denominator x tracker.occupied = 0 then .ok tracker
      else (do
        let rawQ32 ← divI128 (wrapI128 (numerator x y tracker.occupied * 2 ^ 32))
          (denominator x tracker.occupied)
        let meanX ← checks.i128 x
        .ok { tracker with
          slopeQ32 := wrapI64 (max (-maxSlopeQ32) (min rawQ32 maxSlopeQ32))
          meanX := wrapI64 meanX
          meanY := wrapI64 y }) := by
  have count : (0 : Int) < tracker.occupied.length := by
    unfold minSamples at many
    omega
  have centered := window.center_le (List.length_pos_iff.mp (by omega)) tracker.lastX
  subst meanX meanY
  unfold refit
  dsimp only
  rw [sumLoop_ok checks anchored window, ok_bind]
  dsimp only
  rw [if_neg (by exact_mod_cast Nat.not_lt.mpr many), divI128_pos _ count, ok_bind,
    divI128_pos _ count, ok_bind]
  change tracker.occupied.foldlM (productStep checks tracker.lastX _ (centerY tracker.occupied))
    (0, 0) >>= _ = _
  rw [productLoop_ok checks anchored centered.1 centered.2 window, ok_bind]
  rfl

/-- A refit over a window returns in every build and changes the line only. -/
theorem refit_ok (checks : OverflowChecks) {tracker : LinearTracker}
    (window : Window tracker.occupied) (anchored : |tracker.lastX| ≤ 2 ^ 40) :
    tracker.refit checks =
      .ok (tracker.withLine (refitted tracker.lastX tracker.occupied tracker.line)) := by
  unfold refitted
  by_cases few : tracker.occupied.length < minSamples
  · have unspread : ¬ Spread tracker.occupied := fun spread => Nat.not_lt.mpr spread.1 few
    rw [if_neg unspread]
    exact refit_of_few checks window anchored few
  · have many := Nat.not_lt.mp few
    have nonempty : tracker.occupied ≠ [] := List.length_pos_iff.mp (Nat.lt_of_lt_of_le (by decide) many)
    have centered := window.center_le nonempty tracker.lastX
    have shifted := window.shift_fits centered.1 centered.2
    have slope := abs_le.mp (abs_slopeOf_le (centerX tracker.lastX tracker.occupied)
      (centerY tracker.occupied) tracker.occupied)
    have spread := denominator_ne_zero_iff nonempty tracker.lastX
    have nonneg := denominator_nonneg (centerX tracker.lastX tracker.occupied) tracker.occupied
    have meanX := abs_le.mp centered.1
    have meanY := abs_le.mp centered.2
    unfold slopeOf at slope
    rw [refit_of_many checks window anchored many rfl rfl]
    by_cases zero : denominator (centerX tracker.lastX tracker.occupied) tracker.occupied = 0
    · have unspread : ¬ Spread tracker.occupied := fun apart => spread.mpr apart.2 zero
      rw [if_pos zero, if_neg unspread]
      rfl
    · have apart : Spread tracker.occupied := ⟨many, spread.mp zero⟩
      rw [if_neg zero, if_pos apart, wrapI128_of_fits shifted, divI128_pos _ (by omega), ok_bind,
        checks.i128_ok ⟨by omega, by omega⟩, ok_bind, wrapI64_of_fits ⟨by omega, by omega⟩,
        wrapI64_of_fits ⟨by omega, by omega⟩, wrapI64_of_fits ⟨by omega, by omega⟩]
      rfl

end LinearTracker

end EspClockSync
