import EspClockSync.Verif.FilterInfluence

/-!
# Epochs of the filter

Two filters that observe the same readings from different epochs stay in step: their times
and offsets differ by the shifts of the epochs, their rates are the same. The shift of the
offset is a whole number of microseconds, so every clamp, floor and quotient commutes with
it; nothing saturates within 2 ^ 20 observations.
-/

namespace EspClockSync

open Machine

namespace AlphaBetaFilter

variable {checks : OverflowChecks} {f g : AlphaBetaFilter} {a c xUs observedOffsetUs : Int}

/-- `g` is `f` read from epochs that are `a` and `c` earlier. -/
structure Shifted (a c : Int) (f g : AlphaBetaFilter) : Prop where
  /-- Both filters are seeded. -/
  running : f.initialized = true ∧ g.initialized = true
  /-- The offset gains are the same. -/
  alpha : g.alpha = f.alpha
  /-- So are the rate gains. -/
  beta : g.beta = f.beta
  /-- The times are shifted. -/
  last : g.lastXUs = f.lastXUs + a
  /-- The offsets are shifted by whole microseconds. -/
  offset : g.offsetQ = f.offsetQ + c * 2 ^ 20
  /-- The rates are the same. -/
  rate : g.rateQ = f.rateQ

/-- Shifted filters extrapolate in step. -/
theorem Shifted.predictedQ {first firstShifted dxUs : Int} {count : Nat}
    (shifted : Shifted a c f g) (bounded : f.Bounded first count)
    (boundedShifted : g.Bounded firstShifted count) (short : count ≤ 2 ^ 20)
    (span : |dxUs| < 2 ^ 64) : g.predictedQ dxUs = f.predictedQ dxUs + c * 2 ^ 20 := by
  rw [boundedShifted.predictedQ_eq short span, bounded.predictedQ_eq short span,
    shifted.offset, shifted.rate]
  ring

/-- Two `i64` times are less than the range apart. -/
theorem abs_sub_lt_of_fits {left right : Int} (leftFits : I64Fits left)
    (rightFits : I64Fits right) : |left - right| < 2 ^ 64 := by
  unfold I64Fits at leftFits rightFits
  exact abs_lt.mpr ⟨by omega, by omega⟩

/-- **Step.** The same observation from both epochs keeps the filters in step. -/
theorem Shifted.next {first firstShifted : Int} {count : Nat} (shifted : Shifted a c f g)
    (bounded : f.Bounded first count) (boundedShifted : g.Bounded firstShifted count)
    (short : count < 2 ^ 20) (x : I64Fits xUs) (observedOffsetUs : Int) :
    Shifted a c (f.next xUs observedOffsetUs) (g.next (xUs + a) (observedOffsetUs + c)) := by
  have elapsed : xUs + a - g.lastXUs = xUs - f.lastXUs := by
    rw [shifted.last]
    omega
  by_cases late : xUs ≤ f.lastXUs
  · rw [bounded.next_of_late observedOffsetUs late,
      boundedShifted.next_of_late (observedOffsetUs + c) (by omega)]
    exact shifted
  · have predicted := shifted.predictedQ bounded boundedShifted short.le
      (abs_sub_lt_of_fits x bounded.last)
    have innovation : g.innovationQ (xUs + a) (observedOffsetUs + c) =
        f.innovationQ xUs observedOffsetUs := by
      unfold innovationQ
      rw [elapsed, predicted, show (observedOffsetUs + c) * 2 ^ 20 -
          (f.predictedQ (xUs - f.lastXUs) + c * 2 ^ 20) =
        observedOffsetUs * 2 ^ 20 - f.predictedQ (xUs - f.lastXUs) by omega]
    rw [bounded.next_eq short (by omega), boundedShifted.next_eq short (by omega)]
    unfold correctionQ rateCorrectionQ
    rw [innovation, elapsed, predicted, shifted.alpha, shifted.beta, shifted.rate]
    exact ⟨shifted.running, rfl, rfl, rfl, by dsimp only; omega, rfl⟩

/-- The readings from the other epochs. -/
def shiftAll (a c : Int) (observations : List (Int × Int)) : List (Int × Int) :=
  observations.map fun o => (o.1 + a, o.2 + c)

/-- **Run.** Two runs of the same readings from different epochs stay in step and bounded. -/
theorem Shifted.observeAll {start : AlphaBetaFilter} {seed : Int × Int}
    {observations : List (Int × Int)} (fresh : start.initialized = false)
    (gains : 0 < start.alpha.toNat ∧ 0 < start.beta.toNat)
    (fits : ∀ o ∈ seed :: observations,
      I64Fits o.1 ∧ I64Fits o.2 ∧ I64Fits (o.1 + a) ∧ I64Fits (o.2 + c))
    (short : observations.length ≤ 2 ^ 20) :
    ∃ f g : AlphaBetaFilter, Shifted a c f g ∧ f.Bounded seed.1 observations.length ∧
      g.Bounded (seed.1 + a) observations.length ∧
      (∀ checks, start.observeAll checks (seed :: observations) = .ok f) ∧
      ∀ checks, start.observeAll checks (shiftAll a c (seed :: observations)) = .ok g := by
  induction observations using List.reverseRecOn with
  | nil =>
    obtain ⟨x, y, xShifted, yShifted⟩ := fits seed (by simp)
    have plain := Bounded.seed fresh gains x y
    have moved := Bounded.seed fresh gains xShifted yShifted
    refine ⟨_, _, ?_, plain.2, moved.2, fun checks => ?_, fun checks => ?_⟩
    · unfold AlphaBetaFilter.next
      rw [if_pos (by simp [fresh]), if_pos (by simp [fresh])]
      exact ⟨⟨rfl, rfl⟩, rfl, rfl, rfl, by dsimp only; omega, rfl⟩
    · change start.observeAll checks ([] ++ [seed]) = _
      exact observeAll_concat rfl (observe_eq_next plain.1)
    · change start.observeAll checks ([] ++ [(seed.1 + a, seed.2 + c)]) = _
      exact observeAll_concat rfl (observe_eq_next moved.1)
  | append_singleton observations o ih =>
    rw [List.length_append, List.length_singleton] at short
    have kept : ∀ o ∈ seed :: observations,
        I64Fits o.1 ∧ I64Fits o.2 ∧ I64Fits (o.1 + a) ∧ I64Fits (o.2 + c) :=
      fun o member => fits o (by
        rw [← List.cons_append]
        exact List.mem_append_left _ member)
    obtain ⟨f, g, shifted, bounded, boundedShifted, earlier, earlierShifted⟩ :=
      ih kept (by omega)
    obtain ⟨x, y, xShifted, yShifted⟩ := fits o (by simp)
    refine ⟨f.next o.1 o.2, g.next (o.1 + a) (o.2 + c),
      shifted.next bounded boundedShifted (by omega) x o.2, ?_, ?_, fun checks => ?_,
      fun checks => ?_⟩
    · rw [List.length_append, List.length_singleton]
      exact bounded.next (by omega) x o.2
    · rw [List.length_append, List.length_singleton]
      exact boundedShifted.next (by omega) xShifted (o.2 + c)
    · rw [← List.cons_append]
      exact observeAll_concat (earlier checks)
        (observe_eq_next (bounded.observeFits (by omega) x y))
    · unfold shiftAll
      rw [← List.cons_append, List.map_append]
      exact observeAll_concat (earlierShifted checks)
        (observe_eq_next (boundedShifted.observeFits (by omega) xShifted yShifted))

/-- Shifted filters predict shifted offsets, where `i64` wraps. -/
theorem Shifted.predict {first firstShifted : Int} {count : Nat} (shifted : Shifted a c f g)
    (bounded : f.Bounded first count) (boundedShifted : g.Bounded firstShifted count)
    (short : count ≤ 2 ^ 20) (x : I64Fits xUs) :
    ∃ p, f.predict xUs = some p ∧ g.predict (xUs + a) = some (wrapI64 (p + c)) := by
  have elapsed : xUs + a - g.lastXUs = xUs - f.lastXUs := by
    rw [shifted.last]
    omega
  have predicted := shifted.predictedQ bounded boundedShifted short
    (abs_sub_lt_of_fits x bounded.last)
  refine ⟨wrapI64 (f.predictedQ (xUs - f.lastXUs) / 2 ^ 20), ?_, ?_⟩
  · unfold AlphaBetaFilter.predict
    rw [if_neg (by simp [shifted.running.1])]
  · unfold AlphaBetaFilter.predict
    have whole : (f.predictedQ (xUs - f.lastXUs) + c * 2 ^ 20) / 2 ^ 20 =
        c + f.predictedQ (xUs - f.lastXUs) / 2 ^ 20 := by omega
    rw [if_neg (by simp [shifted.running.2]), elapsed, predicted, whole, add_comm (wrapI64 _) c,
      wrapI64_add_wrapI64]

end AlphaBetaFilter

/-- **Epochs.** A fresh filter fed the same readings from epochs that differ by `a` and `c`
has the same rate and predicts offsets that differ by `c`, up to the range of an `i64`; it
predicts nothing only before the first reading. -/
theorem filter_epoch_invariant (alpha beta : U32) (alphaPos : 1 ≤ alpha.toNat)
    (betaPos : 1 ≤ beta.toNat) (a c : Int) (observations : List (Int × Int))
    (fits : ∀ o ∈ observations,
      I64Fits o.1 ∧ I64Fits o.2 ∧ I64Fits (o.1 + a) ∧ I64Fits (o.2 + c))
    (short : observations.length ≤ 2 ^ 20) :
    ∃ f g : AlphaBetaFilter,
      (∀ checks, (AlphaBetaFilter.new alpha beta).observeAll checks observations = .ok f) ∧
      (∀ checks, (AlphaBetaFilter.new alpha beta).observeAll checks
        (AlphaBetaFilter.shiftAll a c observations) = .ok g) ∧
      (∃ ppb, ∀ checks, f.ratePpb checks = .ok ppb ∧ g.ratePpb checks = .ok ppb) ∧
      ∀ xUs, I64Fits xUs → I64Fits (xUs + a) →
        g.predict (xUs + a) = (f.predict xUs).map (fun p => wrapI64 (p + c)) ∧
          (f.predict xUs = none ↔ observations = []) := by
  have gains : 0 < (AlphaBetaFilter.new alpha beta).alpha.toNat ∧
      0 < (AlphaBetaFilter.new alpha beta).beta.toNat := ⟨alphaPos, betaPos⟩
  cases observations with
  | nil =>
    refine ⟨_, _, fun checks => rfl, fun checks => rfl, ⟨0, fun checks => ?_⟩, fun xUs _ _ => ?_⟩
    · exact ⟨by cases checks <;> rfl, by cases checks <;> rfl⟩
    · exact ⟨rfl, ⟨fun _ => rfl, fun _ => rfl⟩⟩
  | cons seed rest =>
    rw [List.length_cons] at short
    obtain ⟨f, g, shifted, bounded, boundedShifted, returned, returnedShifted⟩ :=
      AlphaBetaFilter.Shifted.observeAll rfl gains fits (by omega)
    have scaled := bounded.ratePpb_fits (by omega)
    refine ⟨f, g, returned, returnedShifted,
      ⟨wrapI64 (f.rateQ * 1000000000 / 2 ^ 32), fun checks => ?_⟩, fun xUs x xShifted => ?_⟩
    · unfold AlphaBetaFilter.ratePpb
      rw [shifted.rate, checks.i128_ok scaled, ok_bind]
      exact ⟨rfl, rfl⟩
    · obtain ⟨p, predicted, predictedShifted⟩ :=
        shifted.predict bounded boundedShifted (by omega) x
      rw [predicted, predictedShifted]
      exact ⟨rfl, by simp⟩

/-- Two readings from two pairs of epochs, one of them at the end of the range. -/
theorem filter_epoch_invariant_extremes : ∃ f g : AlphaBetaFilter,
    (AlphaBetaFilter.new 16 2048).observeAll .enabled [(0, 5), (100, 7)] = .ok f ∧
    (AlphaBetaFilter.new 16 2048).observeAll .enabled
      [(2 ^ 63 - 101, -2 ^ 63 + 5), (2 ^ 63 - 1, -2 ^ 63 + 7)] = .ok g ∧
    g.predict (2 ^ 63 - 1) = (f.predict 100).map (fun p => wrapI64 (p + -2 ^ 63)) := by
  obtain ⟨f, g, returned, returnedShifted, _, predicted⟩ :=
    filter_epoch_invariant 16 2048 (by decide) (by decide) (2 ^ 63 - 101) (-2 ^ 63)
      [(0, 5), (100, 7)] (by decide) (by decide)
  exact ⟨f, g, returned .enabled, returnedShifted .enabled,
    (predicted 100 (by decide) (by decide)).1⟩

end EspClockSync
