import EspClockSync.Rig.Capture

/-!
# Unwrapping captures

Both ways to recover the high bits of a capture are exact under a condition on time: an
edge is recovered from any prediction closer than half a wrap, a software capture from
any earlier one less than a whole wrap back. A longer pause loses wraps for good, and
from then on the two disagree.
-/

namespace EspClockSync

open Machine

namespace McpwmCap

/-! ## Packed words -/

theorem rawOf_toNat (packed : U64) : (rawOf packed).toNat = packed.toNat % 2 ^ 32 :=
  BitVec.toNat_setWidth ..

theorem highOf_toNat (packed : U64) : (highOf packed).toNat = packed.toNat / 2 ^ 32 := by
  have range := packed.isLt
  unfold highOf
  rw [BitVec.toNat_ofNat, Nat.mod_eq_of_lt (by omega)]

theorem pack_toNat (high raw : U32) : (pack high raw).toNat = high.toNat * 2 ^ 32 + raw.toNat := by
  have highRange := high.isLt
  have rawRange := raw.isLt
  unfold pack
  rw [BitVec.toNat_ofNat, Nat.mod_eq_of_lt (by omega)]

/-- A capture keeps the high word, or takes the next one where the low word went back. -/
theorem newPacked_toNat (packed timer : U64) :
    (newPacked packed (rawOf timer)).toNat =
      (if timer.toNat % 2 ^ 32 < packed.toNat % 2 ^ 32 then (packed.toNat / 2 ^ 32 + 1) % 2 ^ 32
        else packed.toNat / 2 ^ 32) * 2 ^ 32 + timer.toNat % 2 ^ 32 := by
  have next : (highOf packed + 1).toNat = (packed.toNat / 2 ^ 32 + 1) % 2 ^ 32 := by
    rw [BitVec.toNat_add, highOf_toNat]
    rfl
  unfold newPacked
  rw [pack_toNat, rawOf_toNat, rawOf_toNat]
  split
  · rw [next]
  · rw [highOf_toNat]

/-- A capture of a timer that has not gone back is the least later value with the new
low word. -/
theorem newPacked_forward {packed : U64} (timer : U64) (forward : packed.toNat ≤ timer.toNat) :
    (newPacked packed (rawOf timer)).toNat =
      packed.toNat + (timer.toNat - packed.toNat) % 2 ^ 32 := by
  have range := timer.isLt
  rw [newPacked_toNat]
  split
  · omega
  · omega

/-! ## Edges -/

/-- Whether `init` has measured the system clock. -/
def Calibration.Completed (calibration : Calibration) : Prop :=
  calibration.instantAnchorUs ≠ -2 ^ 63 ∧ calibration.usPerTickInstantQ32 ≠ 0

/-- The calibrated timer at this reading of the system clock. -/
def Calibration.prediction (calibration : Calibration) (nowUs : U64) : Int :=
  calibration.capAnchorTicks.toNat +
    ((nowUs.toNat - calibration.instantAnchorUs) * 2 ^ 32).tdiv
      calibration.usPerTickInstantQ32.toNat

/-- The prediction never leaves `i128`. -/
theorem predicted64_eq (checks : OverflowChecks) {calibration : Calibration}
    (completed : calibration.Completed) (nowUs : U64) :
    predicted64 checks calibration nowUs = .ok (calibration.prediction nowUs) := by
  have anchored := calibration.fits
  have now := nowUs.isLt
  have cap := calibration.capAnchorTicks.isLt
  have rate : (0 : Int) < calibration.usPerTickInstantQ32.toNat := by
    have nonzero : calibration.usPerTickInstantQ32.toNat ≠ 0 := fun zero =>
      completed.2 (BitVec.eq_of_toNat_eq zero)
    omega
  have elapsed : |((nowUs.toNat : Int) - calibration.instantAnchorUs) * 2 ^ 32| ≤ 2 ^ 97 := by
    obtain ⟨lower, upper⟩ := anchored
    exact abs_le.mpr ⟨by omega, by omega⟩
  have ticks := abs_le.mp (abs_tdiv_le rate elapsed)
  have whole := Int.ediv_le_self (calibration.usPerTickInstantQ32.toNat : Int)
    (show (0 : Int) ≤ 2 ^ 97 by decide)
  have bounds := abs_le.mp elapsed
  unfold predicted64
  rw [checks.i128_ok ⟨by omega, by omega⟩, ok_bind, wrapI128_of_fits ⟨by omega, by omega⟩,
    divI128_pos _ rate, ok_bind, checks.i128_ok ⟨by omega, by omega⟩]
  rfl

/-- The loop ends with a candidate closer than every other one. -/
theorem closest_eq {predicted best target : U64} {rest : List U64} (member : target ∈ best :: rest)
    (nearest : ∀ other ∈ best :: rest, other ≠ target →
      absDiff predicted target < absDiff predicted other) :
    closest predicted best rest = target := by
  induction rest generalizing best with
  | nil => exact (List.mem_singleton.mp member).symm
  | cons candidate rest ih =>
    apply ih
    · split
      · rename_i closer
        rcases List.mem_cons.mp member with rfl | later
        · by_cases same : candidate = target
          · exact same ▸ List.mem_cons_self
          · exact absurd closer (Nat.lt_asymm (nearest candidate (by simp) same))
        · exact later
      · rename_i farther
        rcases List.mem_cons.mp member with rfl | later
        · exact List.mem_cons_self
        · rcases List.mem_cons.mp later with rfl | behind
          · by_cases same : best = target
            · exact same ▸ List.mem_cons_self
            · exact absurd (nearest best List.mem_cons_self same) farther
          · exact List.mem_cons_of_mem _ behind
    · intro other inside
      apply nearest other
      split at inside
      · exact List.mem_cons_of_mem _ inside
      · rcases List.mem_cons.mp inside with rfl | behind
        · exact List.mem_cons_self
        · exact List.mem_cons_of_mem _ (List.mem_cons_of_mem _ behind)

/-- Two values with one low word are the same or a wrap apart. -/
theorem apart_of_raw {left right : U64} (raw : rawOf left = rawOf right) (differ : left ≠ right) :
    left.toNat + 2 ^ 32 ≤ right.toNat ∨ right.toNat + 2 ^ 32 ≤ left.toNat := by
  have same : left.toNat % 2 ^ 32 = right.toNat % 2 ^ 32 := by
    rw [← rawOf_toNat, ← rawOf_toNat, raw]
  have values : left.toNat ≠ right.toNat := fun equal => differ (BitVec.eq_of_toNat_eq equal)
  omega

/-- The three candidates around this prediction for this low word. -/
abbrev candidates (predicted : U64) (raw : U32) : List U64 :=
  [pack (highOf predicted - 1) raw, pack (highOf predicted) raw, pack (highOf predicted + 1) raw]

/-- Every candidate has the given low word. -/
theorem rawOf_of_mem_candidates {predicted candidate : U64} {raw : U32}
    (member : candidate ∈ candidates predicted raw) : rawOf candidate = raw := by
  have low (high : U32) : rawOf (pack high raw) = raw := by
    have range := raw.isLt
    apply BitVec.eq_of_toNat_eq
    rw [rawOf_toNat, pack_toNat]
    omega
  simp only [candidates, List.mem_cons, List.not_mem_nil, or_false] at member
  rcases member with rfl | rfl | rfl
  · exact low _
  · exact low _
  · exact low _

/-- A value half a wrap around the prediction, or at the start of the range below it, is
a candidate. -/
theorem mem_candidates {predicted target : U64}
    (next : target.toNat / 2 ^ 32 ≤ predicted.toNat / 2 ^ 32 + 1)
    (previous : predicted.toNat / 2 ^ 32 ≤ target.toNat / 2 ^ 32 + 1) :
    target ∈ candidates predicted (rawOf target) := by
  have range := target.isLt
  have high := highOf_toNat predicted
  have packed (word : U32) (same : word.toNat = target.toNat / 2 ^ 32) :
      target = pack word (rawOf target) := by
    apply BitVec.eq_of_toNat_eq
    rw [pack_toNat, same, rawOf_toNat]
    omega
  simp only [candidates, List.mem_cons, List.not_mem_nil, or_false]
  by_cases below : target.toNat / 2 ^ 32 + 1 = predicted.toNat / 2 ^ 32
  · left
    apply packed
    rw [BitVec.toNat_sub, high]
    change (2 ^ 32 - 1 + predicted.toNat / 2 ^ 32) % 2 ^ 32 = _
    omega
  · right
    by_cases level : target.toNat / 2 ^ 32 = predicted.toNat / 2 ^ 32
    · left
      apply packed
      omega
    · right
      apply packed
      rw [BitVec.toNat_add, high]
      change (predicted.toNat / 2 ^ 32 + 1) % 2 ^ 32 = _
      omega

/-- Among the candidates the loop chooses a value closer than half a wrap. -/
theorem closest_of_near {predicted target : U64} (near : absDiff predicted target < 2 ^ 31) :
    closest predicted (pack (highOf predicted - 1) (rawOf target))
      [pack (highOf predicted) (rawOf target), pack (highOf predicted + 1) (rawOf target)] =
        target := by
  have distance : predicted.toNat < target.toNat + 2 ^ 31 ∧ target.toNat < predicted.toNat + 2 ^ 31 := by
    unfold absDiff at near
    split at near <;> omega
  apply closest_eq (mem_candidates (by omega) (by omega))
  intro other member differs
  have apart := apart_of_raw (rawOf_of_mem_candidates member) differs
  unfold absDiff
  split <;> split <;> omega

/-- A prediction past the 64-bit range is reduced to its start, where the loop chooses the low
word itself. -/
theorem closest_of_past {prediction : Int} {timer : U64} (past : 2 ^ 64 ≤ prediction)
    (near : prediction < 2 ^ 64 + 2 ^ 31) (last : 2 ^ 64 - 2 ^ 31 ≤ timer.toNat) :
    closest (BitVec.ofInt 64 prediction)
      (pack (highOf (BitVec.ofInt 64 prediction) - 1) (rawOf timer))
      [pack (highOf (BitVec.ofInt 64 prediction)) (rawOf timer),
        pack (highOf (BitVec.ofInt 64 prediction) + 1) (rawOf timer)] =
      (rawOf timer).setWidth 64 := by
  have raw := rawOf_toNat timer
  have start : ((rawOf timer).setWidth 64).toNat = timer.toNat % 2 ^ 32 := by
    rw [BitVec.toNat_setWidth, raw]
    omega
  have predicted : (BitVec.ofInt 64 prediction).toNat = (prediction % 2 ^ 64).toNat :=
    BitVec.toNat_ofInt ..
  have low : rawOf ((rawOf timer).setWidth 64) = rawOf timer := by
    apply BitVec.eq_of_toNat_eq
    rw [rawOf_toNat, start, raw]
    omega
  have member : (rawOf timer).setWidth 64 ∈ candidates (BitVec.ofInt 64 prediction)
      (rawOf ((rawOf timer).setWidth 64)) := mem_candidates (by omega) (by omega)
  rw [low] at member
  apply closest_eq member
  intro other candidate differs
  have apart := apart_of_raw ((rawOf_of_mem_candidates candidate).trans low.symm) differs
  have range := timer.isLt
  unfold absDiff
  split <;> split <;> omega

/-- **An edge is recovered from a prediction closer than half a wrap.** Only a prediction
past the 64-bit range is taken for one at its start. -/
theorem unwrapCapRaw_of_near (checks : OverflowChecks) {calibration : Calibration}
    (completed : calibration.Completed) {nowUs timer : U64}
    (near : |calibration.prediction nowUs - timer.toNat| < 2 ^ 31) :
    unwrapCapRaw checks calibration nowUs (rawOf timer) =
      .ok (if calibration.prediction nowUs < 2 ^ 64 then timer
        else (rawOf timer).setWidth 64) := by
  obtain ⟨lower, upper⟩ := abs_lt.mp near
  have range := timer.isLt
  have raw := rawOf_toNat timer
  have start : ((rawOf timer).setWidth 64).toNat = timer.toNat % 2 ^ 32 := by
    rw [BitVec.toNat_setWidth, raw]
    omega
  have uncalibrated : ¬ (calibration.instantAnchorUs = -2 ^ 63 ∨
      calibration.usPerTickInstantQ32 = 0) := not_or.mpr completed
  unfold unwrapCapRaw
  rw [if_neg uncalibrated, predicted64_eq checks completed, ok_bind]
  generalize calibration.prediction nowUs = prediction at lower upper
  by_cases negative : prediction < 0
  · have first : (rawOf timer).setWidth 64 = timer := by
      apply BitVec.eq_of_toNat_eq
      rw [start]
      omega
    rw [if_pos negative, if_pos (by omega), first]
  · have predicted : (BitVec.ofInt 64 prediction).toNat = (prediction % 2 ^ 64).toNat :=
      BitVec.toNat_ofInt ..
    rw [if_neg negative]
    apply congrArg
    by_cases inside : prediction < 2 ^ 64
    · rw [if_pos inside]
      apply closest_of_near
      unfold absDiff
      split <;> omega
    · rw [if_neg inside]
      exact closest_of_past (by omega) (by omega) (by omega)

/-- **An edge recovers its timer.** Short of the last half wrap of the 64-bit range, the low
word of every timer closer than half a wrap to the calibrated prediction is unwrapped to that
timer, with a negative prediction, at both ends of the range and across its wraps. -/
theorem edge_recovers_timer (checks : OverflowChecks) {calibration : Calibration}
    (completed : calibration.Completed) {nowUs timer : U64} (early : timer.toNat < 2 ^ 64 - 2 ^ 31)
    (near : |calibration.prediction nowUs - timer.toNat| < 2 ^ 31) :
    unwrapCapRaw checks calibration nowUs (rawOf timer) = .ok timer := by
  have inside : calibration.prediction nowUs < 2 ^ 64 := by
    have distance := abs_lt.mp near
    omega
  rw [unwrapCapRaw_of_near checks completed near, if_pos inside]

/-- With the clock 91 µs before the wrap of its prediction, an edge latched past the wrap is
recovered. -/
theorem edge_recovers_timer_across_wrap :
    unwrapCapRaw .enabled ⟨0, by decide, 0, 53687091⟩ 53687000 (rawOf 4294967301) =
      .ok 4294967301 := by
  have completed : (⟨0, by decide, 0, 53687091⟩ : Calibration).Completed := ⟨by decide, by decide⟩
  apply edge_recovers_timer .enabled completed
  · decide
  · decide

/-- A poll reports what the register unwraps to, once for each change of it. -/
theorem poll_eq {checks : OverflowChecks} {calibration : Calibration} {nowUs : U64}
    {channel after : EdgeChannel} {raw : U32} {found : Option U64}
    (returned : poll checks calibration nowUs channel raw = .ok (after, found)) :
    raw = rawOf channel.lastRaw ∧ after = channel ∧ found = none ∨
      raw ≠ rawOf channel.lastRaw ∧ ∃ capUs, found = some capUs ∧
        unwrapCapRaw checks calibration nowUs raw = .ok capUs ∧
        after = ⟨capUs, raw.setWidth 64, channel.hits + 1⟩ := by
  unfold poll at returned
  split at returned
  · rename_i same
    obtain ⟨rfl, rfl⟩ := Prod.mk.inj (Except.ok.inj returned)
    exact Or.inl ⟨same, rfl, rfl⟩
  · rename_i differs
    obtain ⟨capUs, unwrapped, returned⟩ := bind_eq_ok returned
    obtain ⟨rfl, rfl⟩ := Prod.mk.inj (Except.ok.inj returned)
    exact Or.inr ⟨differs, capUs, rfl, unwrapped, rfl⟩

/-! ## Software captures in sequence -/

/-- What the last of these software captures, one after another, returns. -/
def softwareValue (timers : List U64) : U64 :=
  timers.foldl (fun packed timer => newPacked packed (rawOf timer)) 0

/-- The whole wraps of the timer that no capture has seen, from a capture at `last` on. -/
def lostWraps (last : Nat) : List U64 → Nat
  | [] => 0
  | timer :: rest => (timer.toNat - last) / 2 ^ 32 + lostWraps timer.toNat rest

/-- Captures lose exactly the wraps that no capture saw. -/
theorem foldl_newPacked {packed : U64} {last lost : Nat} {timers : List U64} {timer : U64}
    (behind : packed.toNat + 2 ^ 32 * lost = last)
    (ordered : (last :: (timers ++ [timer]).map BitVec.toNat).Pairwise (· ≤ ·)) :
    ((timers ++ [timer]).foldl (fun packed timer => newPacked packed (rawOf timer)) packed).toNat +
      2 ^ 32 * (lost + lostWraps last (timers ++ [timer])) = timer.toNat := by
  induction timers generalizing packed last lost with
  | nil =>
    have forward : last ≤ timer.toNat := by simpa using ordered
    have value := newPacked_forward timer (show packed.toNat ≤ _ by omega)
    simp only [List.nil_append, List.foldl_cons, List.foldl_nil, lostWraps]
    omega
  | cons next rest ih =>
    rw [List.cons_append, List.map_cons, List.pairwise_cons] at ordered
    have forward : last ≤ next.toNat := ordered.1 _ List.mem_cons_self
    have value := newPacked_forward next (show packed.toNat ≤ _ by omega)
    have rest_behind : (newPacked packed (rawOf next)).toNat +
        2 ^ 32 * (lost + (next.toNat - last) / 2 ^ 32) = next.toNat := by omega
    have rest_value := ih rest_behind ordered.2
    simp only [List.cons_append, List.foldl_cons, lostWraps]
    omega

/-- A software capture returns the timer less the wraps lost before it. -/
theorem softwareValue_add_lostWraps {timers : List U64} {timer : U64}
    (ordered : ((timers ++ [timer]).map BitVec.toNat).Pairwise (· ≤ ·)) :
    (softwareValue (timers ++ [timer])).toNat + 2 ^ 32 * lostWraps 0 (timers ++ [timer]) =
      timer.toNat := by
  have start : (0 : U64).toNat + 2 ^ 32 * 0 = 0 := rfl
  have counted := foldl_newPacked start
    (List.pairwise_cons.mpr ⟨fun _ _ => Nat.zero_le _, ordered⟩)
  rw [Nat.zero_add] at counted
  exact counted

/-- No wrap is lost exactly when every capture follows within a wrap. -/
theorem lostWraps_eq_zero_iff {last : Nat} {timers : List U64} :
    lostWraps last timers = 0 ↔
      (last :: timers.map BitVec.toNat).IsChain (fun earlier later => later < earlier + 2 ^ 32) := by
  induction timers generalizing last with
  | nil => simp [lostWraps]
  | cons timer rest ih =>
    rw [List.map_cons, List.isChain_cons_cons, ← ih, lostWraps, Nat.add_eq_zero_iff]
    have step : (timer.toNat - last) / 2 ^ 32 = 0 ↔ timer.toNat < last + 2 ^ 32 := by omega
    rw [step]

/-- Later captures find no lost wrap again. -/
theorem lostWraps_le_of_prefix (last : Nat) {earlier timers : List U64} (part : earlier <+: timers) :
    lostWraps last earlier ≤ lostWraps last timers := by
  induction timers generalizing last earlier with
  | nil => simp [List.prefix_nil.mp part]
  | cons timer rest ih =>
    cases earlier with
    | nil => exact Nat.zero_le _
    | cons first before =>
      obtain ⟨rfl, behind⟩ := List.cons_prefix_cons.mp part
      exact Nat.add_le_add_left (ih _ behind) _

/-! ## Both in one timeline -/

/-- A moment of the rig: the timer, and what the system clock reads. -/
structure Moment where
  /-- The capture timer. -/
  timer : U64
  /-- `Instant::now()` in microseconds. -/
  nowUs : U64

/-- At each of these moments in turn, a software capture returns what an edge latched at
that moment unwraps to. -/
def Agree (checks : OverflowChecks) (calibration : Calibration) (moments : List Moment) : Prop :=
  ∀ earlier moment, earlier ++ [moment] <+: moments →
    unwrapCapRaw checks calibration moment.nowUs (rawOf moment.timer) =
      .ok (softwareValue ((earlier ++ [moment]).map Moment.timer))

/-- Both captures of one moment agree when the software captures have lost no wrap; past
the 64-bit range of the prediction, when they have lost all. -/
theorem agree_at_iff (checks : OverflowChecks) {calibration : Calibration}
    (completed : calibration.Completed) {earlier : List Moment} {moment : Moment}
    (ordered : ((earlier ++ [moment]).map fun m => m.timer.toNat).Pairwise (· ≤ ·))
    (near : |calibration.prediction moment.nowUs - moment.timer.toNat| < 2 ^ 31) :
    unwrapCapRaw checks calibration moment.nowUs (rawOf moment.timer) =
        .ok (softwareValue ((earlier ++ [moment]).map Moment.timer)) ↔
      lostWraps 0 ((earlier ++ [moment]).map Moment.timer) =
        if calibration.prediction moment.nowUs < 2 ^ 64 then 0 else 2 ^ 32 - 1 := by
  obtain ⟨lower, upper⟩ := abs_lt.mp near
  have range := moment.timer.isLt
  have raw : ((rawOf moment.timer).setWidth 64).toNat = moment.timer.toNat % 2 ^ 32 := by
    rw [BitVec.toNat_setWidth, rawOf_toNat]
    omega
  have counted : (softwareValue (earlier.map Moment.timer ++ [moment.timer])).toNat +
      2 ^ 32 * lostWraps 0 (earlier.map Moment.timer ++ [moment.timer]) = moment.timer.toNat :=
    softwareValue_add_lostWraps (by simpa [List.map_map, Function.comp_def] using ordered)
  rw [unwrapCapRaw_of_near checks completed near, List.map_append, List.map_singleton,
    Except.ok.injEq, BitVec.toNat_eq]
  by_cases inside : calibration.prediction moment.nowUs < 2 ^ 64
  · rw [if_pos inside, if_pos inside]
    omega
  · rw [if_neg inside, if_neg inside, raw]
    omega

/-- **Software captures and edges agree while no wrap is lost.** For every calibration
whose prediction stays within half a wrap of the timer, the captures of a run agree at
every moment exactly when the software captures have lost no wrap up to it; in the last
half wrap of the 64-bit range, where the prediction leaves it, when they have lost all.
Before that, this says that no pause between software captures reaches a wrap. -/
theorem captures_agree_iff (checks : OverflowChecks) {calibration : Calibration}
    (completed : calibration.Completed) {moments : List Moment}
    (ordered : (moments.map fun m => m.timer.toNat).Pairwise (· ≤ ·))
    (near : ∀ m ∈ moments, |calibration.prediction m.nowUs - m.timer.toNat| < 2 ^ 31) :
    (Agree checks calibration moments ↔
      ∀ earlier moment, earlier ++ [moment] <+: moments →
        lostWraps 0 ((earlier ++ [moment]).map Moment.timer) =
          if calibration.prediction moment.nowUs < 2 ^ 64 then 0 else 2 ^ 32 - 1) ∧
    ((∀ m ∈ moments, calibration.prediction m.nowUs < 2 ^ 64) →
      (Agree checks calibration moments ↔
        (0 :: moments.map fun m => m.timer.toNat).IsChain
          (fun earlier later => later < earlier + 2 ^ 32))) := by
  have exact_at : Agree checks calibration moments ↔
      ∀ earlier moment, earlier ++ [moment] <+: moments →
        lostWraps 0 ((earlier ++ [moment]).map Moment.timer) =
          if calibration.prediction moment.nowUs < 2 ^ 64 then 0 else 2 ^ 32 - 1 := by
    refine forall_congr' fun earlier => forall_congr' fun moment => forall_congr' fun part => ?_
    exact agree_at_iff checks completed (ordered.sublist (part.map _).sublist)
      (near moment (part.subset (by simp)))
  refine ⟨exact_at, fun small => ?_⟩
  have chain := @lostWraps_eq_zero_iff 0 (moments.map Moment.timer)
  rw [List.map_map] at chain
  rw [exact_at]
  change _ ↔ (0 :: moments.map (BitVec.toNat ∘ Moment.timer)).IsChain _
  rw [← chain]
  constructor
  · intro each
    cases moments using List.reverseRecOn with
    | nil => rfl
    | append_singleton earlier moment =>
      rw [each earlier moment (List.prefix_refl _), if_pos (small moment (by simp))]
  · intro none_lost earlier moment part
    rw [if_pos (small moment (part.subset (by simp)))]
    have bound := lostWraps_le_of_prefix 0 (part.map Moment.timer)
    omega

/-- A capture timer of 80 MHz, anchored at zero. -/
def nominalCalibration : Calibration := ⟨0, by decide, 0, 53687091⟩

/-- Two software captures half a wrap apart agree with the edges. -/
theorem captures_agree_half :
    Agree .enabled nominalCalibration [⟨5, 0⟩, ⟨2147483653, 26843545⟩] := by
  have completed : nominalCalibration.Completed := ⟨by decide, by decide⟩
  refine ((captures_agree_iff .enabled completed ?_ ?_).2 ?_).mpr ?_
  · decide
  · decide
  · decide
  · decide

/-- After a pause of 53.7 s the software capture is a wrap behind the edge. -/
theorem captures_disagree_after_pause :
    nominalCalibration.Completed ∧
    (∀ m ∈ [(⟨5, 0⟩ : Moment), ⟨4294967301, 53687091⟩],
      |nominalCalibration.prediction m.nowUs - m.timer.toNat| < 2 ^ 31) ∧
    softwareValue [5, 4294967301] = 5 ∧
    unwrapCapRaw .enabled nominalCalibration 53687091 (rawOf 4294967301) = .ok 4294967301 ∧
    ¬ Agree .enabled nominalCalibration [⟨5, 0⟩, ⟨4294967301, 53687091⟩] := by
  have completed : nominalCalibration.Completed := ⟨by decide, by decide⟩
  have near : |nominalCalibration.prediction 53687091 - (4294967301 : U64).toNat| < 2 ^ 31 := by
    decide
  have inside : nominalCalibration.prediction 53687091 < 2 ^ 64 := by decide
  have software : softwareValue [5, 4294967301] = 5 := by decide
  have edge := unwrapCapRaw_of_near .enabled completed near
  rw [if_pos inside] at edge
  refine ⟨completed, by decide, software, edge, fun agree => ?_⟩
  have same : unwrapCapRaw .enabled nominalCalibration 53687091 (rawOf 4294967301) =
      .ok (softwareValue [5, 4294967301]) :=
    agree [⟨5, 0⟩] ⟨4294967301, 53687091⟩ (List.prefix_refl _)
  rw [edge, software] at same
  exact absurd (Except.ok.inj same) (by decide)

end McpwmCap

end EspClockSync
