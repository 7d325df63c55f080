import EspClockSync.Verif.EstimatorHistory

/-!
# Answers as translations

From `MIN_SAMPLES` on an estimator is a translation by its offset: both
conversions are exact affine maps between local and server time, cut off below
zero, and no saturating operator is ever at its limit.
-/

namespace EspClockSync

open Machine

/-- The offset of a tracked window lies among the offsets of plain samples. -/
theorem Estimator.Tracks.offset_range {est : Estimator} {history : List Sample}
    (tracks : est.Tracks history) (bounded : ∀ s ∈ history, s.Bounded)
    (enough : minSamples ≤ est.n) :
    -(1000 * 2 ^ 62) ≤ est.offsetNs ∧ est.offsetNs ≤ 2 ^ 72 := by
  rw [tracks.count] at enough
  rw [(tracks.fitted enough).offset]
  refine meanOffset_between ?_ fun s member => (bounded s (mem_of_mem_window member)).offset
  rintro empty
  rw [empty] at enough
  exact absurd enough (by decide)

/-- An estimator translates a local time by its offset, exactly. -/
theorem Estimator.syncedNsAt_eq_some_iff {est : Estimator} (enough : minSamples ≤ est.n)
    (range : -(1000 * 2 ^ 62) ≤ est.offsetNs ∧ est.offsetNs ≤ 2 ^ 72) (localUs : U64)
    (serverNs : U128) :
    est.syncedNsAt localUs = some serverNs ↔
      (serverNs.toNat : Int) = est.offsetNs + 1000 * localUs.toNat := by
  have reading := localUs.isLt
  have scaled : I128Fits ((localUs.toNat : Int) * 1000) := by
    constructor
    · omega
    · omega
  have sum : I128Fits (est.offsetNs + (localUs.toNat : Int) * 1000) := by
    constructor
    · omega
    · omega
  unfold Estimator.syncedNsAt
  rw [if_neg (Nat.not_lt.mpr enough), saturateI128_of_fits scaled]
  dsimp only
  rw [saturateI128_of_fits sum]
  by_cases negative : est.offsetNs + (localUs.toNat : Int) * 1000 < 0
  · rw [if_pos negative]
    constructor
    · intro absent
      contradiction
    · intro same
      omega
  · rw [if_neg negative, Option.some.injEq, ← BitVec.toNat_inj, BitVec.toNat_ofInt,
      Int.emod_eq_of_lt (by omega) (by omega)]
    omega

/-- It has no answer exactly before server time zero. -/
theorem Estimator.syncedNsAt_eq_none_iff {est : Estimator} (enough : minSamples ≤ est.n)
    (range : -(1000 * 2 ^ 62) ≤ est.offsetNs ∧ est.offsetNs ≤ 2 ^ 72) (localUs : U64) :
    est.syncedNsAt localUs = none ↔ est.offsetNs + 1000 * localUs.toNat < 0 := by
  have reading := localUs.isLt
  constructor
  · intro absent
    by_contra nonnegative
    have answer := (Estimator.syncedNsAt_eq_some_iff enough range localUs
      (BitVec.ofNat 128 (est.offsetNs + 1000 * localUs.toNat).toNat)).mpr (by
        rw [BitVec.toNat_ofNat, Nat.mod_eq_of_lt (by omega)]
        omega)
    rw [absent] at answer
    contradiction
  · intro negative
    cases answer : est.syncedNsAt localUs with
    | none => rfl
    | some serverNs =>
      have exactly := (Estimator.syncedNsAt_eq_some_iff enough range localUs serverNs).mp answer
      omega

/-- Back from server time it answers the last whole microsecond. -/
theorem Estimator.localUsAt_eq_some_iff {est : Estimator} (enough : minSamples ≤ est.n)
    (range : -(1000 * 2 ^ 62) ≤ est.offsetNs ∧ est.offsetNs ≤ 2 ^ 72) (serverNs : U128)
    (reach : (serverNs.toNat : Int) - est.offsetNs < 1000 * 2 ^ 64) (localUs : U64) :
    est.localUsAt serverNs = some localUs ↔
      1000 * (localUs.toNat : Int) ≤ serverNs.toNat - est.offsetNs ∧
        serverNs.toNat - est.offsetNs < 1000 * (localUs.toNat : Int) + 1000 := by
  have reading := localUs.isLt
  have elapsed : I128Fits ((serverNs.toNat : Int) - est.offsetNs) := by
    constructor
    · omega
    · omega
  unfold Estimator.localUsAt
  rw [if_neg (Nat.not_lt.mpr enough), toInt_of_lt serverNs (by omega)]
  dsimp only
  rw [saturateI128_of_fits elapsed]
  by_cases negative : (serverNs.toNat : Int) - est.offsetNs < 0
  · rw [if_pos negative]
    constructor
    · intro absent
      contradiction
    · intro same
      omega
  · rw [if_neg negative, Option.some.injEq, ← BitVec.toNat_inj, BitVec.toNat_ofInt,
      Int.tdiv_eq_ediv_of_nonneg (by omega), Int.emod_eq_of_lt (by omega) (by omega)]
    omega

/-! ## Every target -/

/-- The server time `serverNs` falls in the microsecond in which the local clock reads `localUs`. -/
def Estimator.Reads (est : Estimator) (serverNs : U128) (localUs : U64) : Prop :=
  0 ≤ (serverNs.toNat : Int) - (est.offsetNs + 1000 * localUs.toNat) ∧
    (serverNs.toNat : Int) - (est.offsetNs + 1000 * localUs.toNat) < 1000

/-- The answer to this server time is the reading it falls in, and nothing where there is none. -/
def Estimator.Inverts (est : Estimator) (serverNs : U128) : Prop :=
  (∀ localUs, est.localUsAt serverNs = some localUs ↔ est.Reads serverNs localUs) ∧
    ((∀ localUs, ¬ est.Reads serverNs localUs) → est.localUsAt serverNs = none)

/-- Back from server time it answers nothing exactly when the signed difference is negative. -/
theorem Estimator.localUsAt_eq_none_iff {est : Estimator} (enough : minSamples ≤ est.n)
    (serverNs : U128) : est.localUsAt serverNs = none ↔ serverNs.toInt - est.offsetNs < 0 := by
  have sign : saturateI128 (serverNs.toInt - est.offsetNs) < 0 ↔
      serverNs.toInt - est.offsetNs < 0 := by
    unfold saturateI128
    omega
  unfold Estimator.localUsAt
  rw [if_neg (Nat.not_lt.mpr enough), ← sign]
  dsimp only
  split
  · rename_i negative
    exact iff_of_true rfl negative
  · rename_i nonnegative
    exact iff_of_false (Option.some_ne_none _) nonnegative

/-- A signed reading of an unsigned value from the sign bit on is a whole range lower. -/
theorem toInt_of_ge {serverNs : U128} (large : 2 ^ 127 ≤ serverNs.toNat) :
    serverNs.toInt = serverNs.toNat - 2 ^ 128 := by
  have whole := serverNs.toInt_eq_toNat_cond
  rw [if_neg (by omega)] at whole
  exact whole

/-- Past the last reading an estimator that answers nothing is right, and no other is. -/
theorem Estimator.inverts_of_far {est : Estimator} {serverNs : U128}
    (far : 1000 * 2 ^ 64 ≤ (serverNs.toNat : Int) - est.offsetNs) :
    est.Inverts serverNs ↔ est.localUsAt serverNs = none := by
  have beyond : ∀ localUs, ¬ est.Reads serverNs localUs := by
    intro localUs reads
    have reading := localUs.isLt
    unfold Estimator.Reads at reads
    omega
  constructor
  · intro inverts
    exact inverts.2 beyond
  · intro absent
    constructor
    · intro localUs
      rw [absent]
      exact iff_of_false (Option.some_ne_none localUs).symm (beyond localUs)
    · exact fun _ => absent

/-- Up to the last reading every answer is right. -/
theorem Estimator.inverts_of_near {est : Estimator} (enough : minSamples ≤ est.n)
    (range : -(1000 * 2 ^ 62) ≤ est.offsetNs ∧ est.offsetNs ≤ 2 ^ 72) {serverNs : U128}
    (near : (serverNs.toNat : Int) - est.offsetNs < 1000 * 2 ^ 64) : est.Inverts serverNs := by
  have same : ∀ localUs, est.localUsAt serverNs = some localUs ↔ est.Reads serverNs localUs := by
    intro localUs
    rw [Estimator.localUsAt_eq_some_iff enough range serverNs near]
    unfold Estimator.Reads
    omega
  constructor
  · exact same
  · intro nothing
    cases answer : est.localUsAt serverNs with
    | none => rfl
    | some localUs => exact absurd ((same localUs).mp answer) (nothing localUs)

/-- **When the inverse is right.** A target up to the last reading is answered by its
reading, or by nothing before the first. A later one should have no answer; it has none
exactly where the cast to a signed integer makes it negative and the offset keeps it so. -/
theorem Estimator.inverts_iff {est : Estimator} (enough : minSamples ≤ est.n)
    (range : -(1000 * 2 ^ 62) ≤ est.offsetNs ∧ est.offsetNs ≤ 2 ^ 72) (serverNs : U128) :
    est.Inverts serverNs ↔
      (serverNs.toNat : Int) - est.offsetNs < 1000 * 2 ^ 64 ∨
        (2 ^ 127 ≤ serverNs.toNat ∧ (serverNs.toNat : Int) - est.offsetNs < 2 ^ 128) := by
  by_cases near : (serverNs.toNat : Int) - est.offsetNs < 1000 * 2 ^ 64
  · exact iff_of_true (Estimator.inverts_of_near enough range near) (Or.inl near)
  · rw [Estimator.inverts_of_far (not_lt.mp near), Estimator.localUsAt_eq_none_iff enough]
    by_cases large : 2 ^ 127 ≤ serverNs.toNat
    · rw [toInt_of_ge large]
      omega
    · rw [toInt_of_lt serverNs (by omega)]
      omega

/-- **The inverse over a run.** After at least eight plain observations the conversion of a
server time is right exactly when the time is up to the last reading of the local clock, or
in the upper half of its own range and less than the whole range past the offset. -/
theorem local_us_at_right_iff {history : List Sample} (bounded : ∀ s ∈ history, s.Bounded)
    (enough : 8 ≤ history.length) :
    ∃ est, (∀ checks, Estimator.observeAll checks history = .ok est) ∧
      est.offsetNs = meanOffset (window 256 history) ∧
      ∀ serverNs : U128, est.Inverts serverNs ↔
        (serverNs.toNat : Int) - est.offsetNs < 1000 * 2 ^ 64 ∨
          (2 ^ 127 ≤ serverNs.toNat ∧ (serverNs.toNat : Int) - est.offsetNs < 2 ^ 128) := by
  obtain ⟨est, observed, tracks⟩ := observeAll_of_bounded bounded
  have full := minSamples_le_window enough
  have stored : minSamples ≤ est.n := tracks.count ▸ full
  exact ⟨est, observed, (tracks.fitted full).offset,
    Estimator.inverts_iff stored (tracks.offset_range bounded stored)⟩

/-- Eight observations of plausible size with an offset of 4 µs. -/
theorem local_us_at_right_steady :
    ∃ est, Estimator.observeAll .enabled (List.replicate 8 ⟨5000, 1⟩) = .ok est ∧
      est.Inverts 9000 := by
  have bounded : ∀ s ∈ List.replicate 8 (⟨5000, 1⟩ : Sample), s.Bounded := by
    intro s member
    rw [List.eq_of_mem_replicate member]
    exact ⟨by decide, by decide⟩
  obtain ⟨est, observed, offset, right⟩ := local_us_at_right_iff bounded (by decide)
  have mean : meanOffset (window 256 (List.replicate 8 ⟨5000, 1⟩)) = 4000 := by decide
  refine ⟨est, observed .enabled, (right 9000).mpr ?_⟩
  rw [offset, mean]
  decide

/-- The target that is one microsecond past the last reading is answered by the reading zero. -/
theorem local_us_at_wrong_past_range :
    ∃ est, Estimator.observeAll .enabled (List.replicate 8 ⟨5000, 1⟩) = .ok est ∧
      est.localUsAt 18446744073709551620000 = some 0 ∧
      ¬ est.Inverts 18446744073709551620000 := by
  obtain ⟨est, observed, seen⟩ := exists_of_map_eq_ok (show
    (Estimator.observeAll .enabled (List.replicate 8 ⟨5000, 1⟩)).map (fun est =>
      (est.offsetNs, est.localUsAt 18446744073709551620000)) = .ok (4000, some 0) by
    decide +kernel)
  obtain ⟨offset, answer⟩ := Prod.mk.inj seen
  refine ⟨est, observed, answer, fun inverts => ?_⟩
  have reads := (inverts.1 0).mp answer
  unfold Estimator.Reads at reads
  rw [offset] at reads
  exact absurd reads (by decide)

end EspClockSync
