import EspClockSync.Verif.FilterTracking
import EspClockSync.Verif.OneAccessPoint

/-!
# The clock of the uptime

`synced_ns_at` answers for a reading of the device's uptime: the instant filter predicts the
time of the access point, the estimator the server time of that. The filter is fed by the
callback, beacon by beacon, and asked between two beacons. On paced beacons of a slow line
its error there is an interpolation of the errors of a tracker, so the answers of a client are
as accurate as its beacons and packets, through every interleaving.
-/

namespace EspClockSync

open Machine

variable {channel : Channel SnifferEvent} {checks : OverflowChecks}

/-! ## Between two readings -/

namespace AlphaBetaFilter

variable {f : AlphaBetaFilter} {c rho spread : ℝ} {x₀ dxUs tUs : Int}

/-- What is not saturated is the sum. -/
theorem eq_of_saturateI128_small {value result : Int} (saturated : saturateI128 value = result)
    (small : |result| ≤ 2 ^ 100) : value = result := by
  have within := abs_le.mp small
  unfold saturateI128 at saturated
  omega

/-- The numbers of a filter on a line extrapolate exactly, over a spacing and less. -/
theorem OnLine.predictedQ_eq (onLine : f.OnLine c rho x₀ dxUs spread)
    (trackable : Trackable rho dxUs spread)
    (range : |line c rho x₀ (f.lastXUs + dxUs)| ≤ 2 ^ 51) (forward : 0 ≤ tUs) (before : tUs ≤ dxUs) :
    f.predictedQ tUs = f.offsetQ + f.rateQ * tUs / 2 ^ 12 ∧
      |f.offsetQ + f.rateQ * tUs / 2 ^ 12| ≤ 2 ^ 80 := by
  have spacing := trackable.spacing
  have rate := onLine.deployed.rate
  have product : ∀ {t : Int}, 0 ≤ t → t ≤ dxUs → |f.rateQ * t| ≤ 2 ^ 60 * 200000 := by
    intro t nonneg short
    rw [abs_mul]
    exact mul_le_mul rate (abs_le.mpr ⟨by omega, by omega⟩) (abs_nonneg _) (by decide)
  have whole := abs_le.mp (product (show 0 ≤ dxUs by omega) (le_refl _))
  have part := abs_le.mp (product forward before)
  have predicted := abs_le.mp (onLine.predictedQ_le trackable range)
  have fits : I128Fits (f.rateQ * dxUs) := ⟨by omega, by omega⟩
  have sum : f.offsetQ + f.rateQ * dxUs / 2 ^ 12 = f.predictedQ dxUs := by
    apply eq_of_saturateI128_small
    · unfold predictedQ
      rw [saturateI128_of_fits fits]
    · exact abs_le.mpr ⟨by omega, by omega⟩
  constructor
  · exact predictedQ_of_fits ⟨by omega, by omega⟩ ⟨by omega, by omega⟩
  · exact abs_le.mpr ⟨by omega, by omega⟩

/-- Between two readings the error is one of the prediction and a part of one of the rate. -/
theorem OnLine.predict_between (onLine : f.OnLine c rho x₀ dxUs spread)
    (trackable : Trackable rho dxUs spread)
    (range : |line c rho x₀ (f.lastXUs + dxUs)| ≤ 2 ^ 51) (forward : 0 ≤ tUs) (before : tUs ≤ dxUs) :
    ∃ p, f.predict (f.lastXUs + tUs) = some p ∧
      |(p : ℝ) - line c rho x₀ (f.lastXUs + tUs)| ≤ 3 * spread + 17 * |rho * dxUs| + 4 := by
  have spacing := trackable.spacing
  obtain ⟨part, size⟩ := onLine.predictedQ_eq trackable range forward before
  have whole := (onLine.predictedQ_eq trackable range (show 0 ≤ dxUs by omega) (le_refl dxUs)).1
  have elapsed : f.lastXUs + tUs - f.lastXUs = tUs := by omega
  have within := abs_le.mp size
  refine ⟨f.predictedQ tUs / 2 ^ 20, ?_, ?_⟩
  · unfold predict
    rw [if_neg (by simp [onLine.deployed.running]), elapsed, part,
      wrapI64_of_fits ⟨by omega, by omega⟩]
  · obtain ⟨round, rounds, prediction⟩ :=
      exists_round_ediv (f.predictedQ tUs) (show (0 : Int) < 2 ^ 20 by decide)
    obtain ⟨partRound, partRounds, partDrift⟩ :=
      exists_round_ediv (f.rateQ * tUs) (show (0 : Int) < 2 ^ 12 by decide)
    obtain ⟨wholeRound, wholeRounds, wholeDrift⟩ :=
      exists_round_ediv (f.rateQ * dxUs) (show (0 : Int) < 2 ^ 12 by decide)
    have positive : (0 : ℝ) < dxUs := by exact_mod_cast (by omega : 0 < dxUs)
    have late : (0 : ℝ) ≤ (dxUs - tUs : Int) / dxUs :=
      div_nonneg (by exact_mod_cast (by omega : 0 ≤ dxUs - tUs)) positive.le
    have early : ((dxUs - tUs : Int) : ℝ) / dxUs ≤ 1 :=
      (div_le_one positive).mpr (by exact_mod_cast (by omega : dxUs - tUs ≤ dxUs))
    have error : ((f.predictedQ tUs / 2 ^ 20 : Int) : ℝ) - line c rho x₀ (f.lastXUs + tUs) =
        (f.errorOn c rho x₀ dxUs).ahead -
          (f.errorOn c rho x₀ dxUs).slope * ((dxUs - tUs : Int) / dxUs) +
            ((partRound - wholeRound) / 2 ^ 20 + round) := by
      rw [prediction, part]
      simp only [errorOn, line, whole]
      push_cast at partDrift wholeDrift ⊢
      rw [partDrift, wholeDrift]
      field_simp
      ring
    have slope : |(f.errorOn c rho x₀ dxUs).slope * ((dxUs - tUs : Int) / dxUs)| ≤
        spread + |rho * dxUs| + 1 := by
      rw [abs_mul, abs_of_nonneg late]
      calc |(f.errorOn c rho x₀ dxUs).slope| * ((dxUs - tUs : Int) / dxUs)
          ≤ |(f.errorOn c rho x₀ dxUs).slope| * 1 := mul_le_mul_of_nonneg_left early (abs_nonneg _)
        _ ≤ spread + |rho * dxUs| + 1 := by
          rw [mul_one]
          exact onLine.tracks.slope_le
    have ahead := abs_le.mp onLine.tracks.ahead_le
    have slopeWithin := abs_le.mp slope
    have roundWithin := abs_lt.mp rounds
    have partWithin := abs_lt.mp partRounds
    have wholeWithin := abs_lt.mp wholeRounds
    rw [error]
    exact abs_le.mpr ⟨by linarith, by linarith⟩

end AlphaBetaFilter

open AlphaBetaFilter

/-! ## The filter of a client -/

/-- The offset that a beacon observes. -/
def BeaconAnchor.offsetUs (anchor : BeaconAnchor) : Int :=
  anchor.apTsfUs.toNat - anchor.instantUs.toNat

/-- Beacons that are taken at constant spacing, their offsets near a line. -/
structure Paced (c rho : ℝ) (x₀ dxUs : Int) (spread : ℝ) (anchors : List BeaconAnchor) : Prop where
  /-- The spacing. -/
  times : ∀ (i : Nat) (anchor : BeaconAnchor), anchors[i]? = some anchor →
    (anchor.instantUs.toNat : Int) = x₀ + i * dxUs
  /-- The readings are plausible: 2 ^ 50 µs are 35 years. -/
  range : ∀ anchor ∈ anchors, anchor.instantUs.toNat < 2 ^ 60 ∧ |anchor.offsetUs| < 2 ^ 50
  /-- The line. -/
  near : ∀ anchor ∈ anchors,
    |(anchor.offsetUs : ℝ) - line c rho x₀ anchor.instantUs.toNat| ≤ spread

variable {c rho spread : ℝ} {x₀ dxUs : Int} {anchors : List BeaconAnchor}

/-- The offset of a beacon by its place. -/
def offsetAt (anchors : List BeaconAnchor) (i : Nat) : Int :=
  ((anchors[i]?).map BeaconAnchor.offsetUs).getD 0

/-- What the filter observes of paced beacons are readings at constant spacing. -/
theorem Paced.observations (paced : Paced c rho x₀ dxUs spread anchors) :
    anchors.map BeaconAnchor.instantObservation =
      readings x₀ dxUs (offsetAt anchors) anchors.length := by
  apply List.ext_getElem
  · simp [readings]
  · intro i inside _
    rw [List.length_map] at inside
    have member := List.getElem_mem inside
    obtain ⟨small, bounded⟩ := paced.range _ member
    have time := paced.times i anchors[i] (List.getElem?_eq_getElem inside)
    have within := abs_lt.mp bounded
    unfold BeaconAnchor.offsetUs at within
    have instant := toInt_of_lt anchors[i].instantUs (by omega)
    have ap := toInt_of_lt anchors[i].apTsfUs (by omega)
    rw [List.getElem_map]
    simp only [readings, List.getElem_map, List.getElem_range, BeaconAnchor.instantObservation,
      offsetAt, List.getElem?_eq_getElem inside, Option.map_some, Option.getD_some,
      BeaconAnchor.offsetUs]
    rw [instant, ap, wrapI64_of_fits ⟨by omega, by omega⟩, time]

/-- A client of paced beacons has a filter on their line. -/
theorem Client.Recorded.onLine {client : Client channel} {log : List Effect}
    (recorded : client.Recorded checks log) (trackable : Trackable rho dxUs spread)
    (paced : Paced c rho x₀ dxUs spread (acceptedAnchors log)) {last : BeaconAnchor}
    (latest : (acceptedAnchors log).getLast? = some last) :
    client.apTsfMinusInstantFilter.OnLine c rho x₀ dxUs spread ∧
      client.apTsfMinusInstantFilter.lastXUs = last.instantUs.toNat := by
  set anchors := acceptedAnchors log with accepted
  obtain ⟨count, length⟩ : ∃ count, anchors.length = count + 1 := by
    have nonempty := List.length_pos_of_mem (List.mem_of_getLast? latest)
    exact ⟨anchors.length - 1, by omega⟩
  have inside : ∀ i ≤ count, ∃ anchor ∈ anchors, offsetAt anchors i = anchor.offsetUs ∧
      (anchor.instantUs.toNat : Int) = x₀ + i * dxUs := by
    intro i part
    have held : anchors[i]? = some anchors[i] := List.getElem?_eq_getElem (by omega)
    exact ⟨anchors[i], List.getElem_mem _, by simp [offsetAt, held], paced.times i _ held⟩
  have near : ∀ i ≤ count,
      |(offsetAt anchors i : ℝ) - line c rho x₀ (x₀ + i * dxUs)| ≤ spread := by
    intro i part
    obtain ⟨anchor, member, same, onTime⟩ := inside i part
    rw [same, ← onTime]
    exact paced.near anchor member
  have range : ∀ i ≤ count, |offsetAt anchors i| < 2 ^ 50 := by
    intro i part
    obtain ⟨anchor, member, same, _⟩ := inside i part
    rw [same]
    exact (paced.range anchor member).2
  obtain ⟨f, onLine, time, observed⟩ := OnLine.observeAll trackable near range
  have filter := recorded.filter
  rw [paced.observations, length, observed checks] at filter
  rw [← Except.ok.inj filter]
  refine ⟨onLine, time.trans (paced.times count last ?_).symm⟩
  rw [List.getLast?_eq_getElem?, length] at latest
  exact latest

/-- What a client of paced beacons makes of an uptime until the next beacon is due. -/
theorem Client.Recorded.instantToApTsf {client : Client channel} {log : List Effect}
    (recorded : client.Recorded checks log) (trackable : Trackable rho dxUs spread)
    (paced : Paced c rho x₀ dxUs spread (acceptedAnchors log)) {last : BeaconAnchor}
    (latest : (acceptedAnchors log).getLast? = some last) {instantUs : U64}
    (since : last.instantUs.toNat ≤ instantUs.toNat)
    (untilNext : (instantUs.toNat : Int) ≤ last.instantUs.toNat + dxUs) :
    (∀ ap, client.instantToApTsf instantUs = some ap →
      |(ap.toNat : ℝ) - (instantUs.toNat + line c rho x₀ instantUs.toNat)| ≤
        3 * spread + 17 * |rho * dxUs| + 4) ∧
    (3 * spread + 17 * |rho * dxUs| + 4 ≤ instantUs.toNat + line c rho x₀ instantUs.toNat →
      ∃ ap, client.instantToApTsf instantUs = some ap) := by
  obtain ⟨onLine, time⟩ := recorded.onLine trackable paced latest
  have member := List.mem_of_getLast? latest
  have small := (paced.range last member).1
  have reading := trackable.line_le (paced.near last member) (paced.range last member).2
  have spacing := trackable.spacing
  have bounded : |line c rho x₀ (client.apTsfMinusInstantFilter.lastXUs + dxUs)| ≤ 2 ^ 51 := by
    rw [line_add, time]
    exact (abs_add_le _ _).trans (by linarith [trackable.drift_le])
  obtain ⟨p, predicted, close⟩ := onLine.predict_between trackable bounded
    (show 0 ≤ (instantUs.toNat : Int) - last.instantUs.toNat by omega)
    (show (instantUs.toNat : Int) - last.instantUs.toNat ≤ dxUs by omega)
  rw [time, add_sub_cancel] at predicted close
  have instant := toInt_of_lt instantUs (by omega)
  have moved : |line c rho x₀ instantUs.toNat| ≤ 2 ^ 50 + 120 := by
    have step := line_add c rho x₀ last.instantUs.toNat (instantUs.toNat - last.instantUs.toNat)
    rw [add_sub_cancel] at step
    have short : |(instantUs.toNat : Int) - last.instantUs.toNat| ≤ |dxUs| :=
      abs_le_abs_of_nonneg (by omega) (by omega)
    have part : |rho * ((instantUs.toNat - last.instantUs.toNat : Int) : ℝ)| ≤ 20 := by
      refine le_trans ?_ trackable.drift_le
      rw [abs_mul, abs_mul, ← Int.cast_abs, ← Int.cast_abs]
      exact mul_le_mul_of_nonneg_left (by exact_mod_cast short) (abs_nonneg rho)
    rw [step]
    exact (abs_add_le _ _).trans (by linarith)
  have size : |p| < 2 ^ 51 := by
    have drift := trackable.drift_le
    have narrow := trackable.close
    have closeWithin := abs_le.mp close
    have movedWithin := abs_le.mp moved
    have real : |(p : ℝ)| < 2 ^ 51 := abs_lt.mpr ⟨by linarith, by linarith⟩
    exact_mod_cast real
  have within := abs_lt.mp size
  have convert : client.instantToApTsf instantUs =
      if (instantUs.toNat : Int) + p < 0 then none
      else some (BitVec.ofInt 64 (instantUs.toNat + p)) := by
    unfold Client.instantToApTsf
    rw [instant, predicted, Option.bind_eq_bind, Option.bind_some]
    dsimp only
    split
    · rw [if_pos (by omega)]
    · rw [if_neg (by omega)]
  have closeWithin := abs_le.mp close
  rw [convert]
  constructor
  · intro ap converted
    split at converted
    · contradiction
    · rename_i nonneg
      have value : (ap.toNat : Int) = instantUs.toNat + p := by
        rw [← Option.some.inj converted, BitVec.toNat_ofInt]
        omega
      have real : (ap.toNat : ℝ) = instantUs.toNat + p := by exact_mod_cast value
      rw [real]
      exact abs_le.mpr ⟨by linarith, by linarith⟩
  · intro late
    have real : (0 : ℝ) ≤ instantUs.toNat + p := by linarith
    have nonneg : 0 ≤ (instantUs.toNat : Int) + p := by exact_mod_cast real
    exact ⟨_, if_neg (by omega)⟩

end EspClockSync
