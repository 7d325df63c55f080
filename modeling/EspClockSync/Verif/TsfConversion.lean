import EspClockSync.Client.Queries
import EspClockSync.Verif.EstimatorAnswers

/-!
# Own TSF and server time

An anchor relates the own TSF to the TSF of the access point by one difference,
modulo `2 ^ 64`; the casts and wrapping operators of the conversions compute that
translation and refuse results with the sign bit set. With the exact answers of
the estimator this makes the two client conversions inverse up to the microsecond.
-/

namespace EspClockSync

open Machine

/-- A cast to `i64`, its sign test and the cast back keep a value below the sign bit. -/
theorem unsigned_of_toInt (value : U64) :
    (if value.toInt < 0 then none else some (BitVec.ofInt 64 value.toInt)) =
      if value.toNat < 2 ^ 63 then some value else none := by
  have range := value.isLt
  have sign : value.toInt < 0 ↔ 2 ^ 63 ≤ value.toNat := by
    rw [BitVec.toInt_eq_toNat_cond]
    split
    · omega
    · omega
  rw [BitVec.ofInt_toInt]
  by_cases small : value.toNat < 2 ^ 63
  · rw [if_pos small, if_neg (by omega)]
  · rw [if_neg small, if_pos (by omega)]

/-- The wrapping steps `to + (value - from)` on signed readings translate the value. -/
theorem wrapI64_translate (value source target : U64) :
    wrapI64 (target.toInt + wrapI64 (value.toInt - source.toInt)) =
      (value + (target - source)).toInt := by
  have same : value + (target - source) = target + (value - source) := by
    rw [BitVec.sub_eq_add_neg, BitVec.sub_eq_add_neg]
    ac_rfl
  rw [same, BitVec.toInt_add, BitVec.toInt_sub]
  rfl

namespace Client

variable {channel : Channel SnifferEvent} {client : Client channel} {anchor : BeaconAnchor}

/-- `own_tsf_to_ap_tsf` is the translation of the anchor, below the sign bit. -/
theorem ownTsfToApTsf_eq (anchored : client.latestBeacon = some anchor) (own : U64) :
    client.ownTsfToApTsf own =
      if (own + (anchor.apTsfUs - anchor.ownTsfUs)).toNat < 2 ^ 63 then
        some (own + (anchor.apTsfUs - anchor.ownTsfUs)) else none := by
  unfold ownTsfToApTsf
  rw [anchored, Option.bind_eq_bind, Option.bind_some]
  dsimp only
  rw [wrapI64_translate, unsigned_of_toInt]

/-- `own_tsf_at` is the inverse translation of what the estimator answers. -/
theorem ownTsfAt_eq (anchored : client.latestBeacon = some anchor) {serverNs : U128} {ap : U64}
    (answer : client.udpEst.localUsAt serverNs = some ap) :
    client.ownTsfAt serverNs =
      if (ap + (anchor.ownTsfUs - anchor.apTsfUs)).toNat < 2 ^ 63 then
        some (ap + (anchor.ownTsfUs - anchor.apTsfUs)) else none := by
  unfold ownTsfAt
  rw [answer, anchored, Option.bind_eq_bind, Option.bind_some, Option.bind_eq_bind,
    Option.bind_some]
  dsimp only
  rw [wrapI64_translate, unsigned_of_toInt]

end Client

/-- Translating there and back is the identity. -/
theorem translate_back (value source target : U64) :
    value + (target - source) + (source - target) = value := by
  have cancel : (target - source) + (source - target) = 0#64 := by
    rw [BitVec.sub_eq_add_neg, BitVec.sub_eq_add_neg]
    calc target + -source + (source + -target)
        = (target + -target) + (source + -source) := by ac_rfl
      _ = 0#64 := by rw [BitVec.add_right_neg, BitVec.add_right_neg, BitVec.zero_add]
  rw [BitVec.add_assoc, cancel, BitVec.add_zero]

section RoundTrip

variable {channel : Channel SnifferEvent} {client : Client channel} {anchor : BeaconAnchor}
  (anchored : client.latestBeacon = some anchor) (counted : minSamples ≤ client.udpEst.n)
  (range : -(1000 * 2 ^ 62) ≤ client.udpEst.offsetNs ∧ client.udpEst.offsetNs ≤ 2 ^ 72)

include anchored counted range

/-- An own TSF that has a server time is recovered from it. -/
theorem Client.ownTsfAt_of_syncedNsAtOwnTsf {own : U64} {s : U128} (small : own.toNat < 2 ^ 63)
    (answer : client.syncedNsAtOwnTsf own = some s) : client.ownTsfAt s = some own := by
  unfold Client.syncedNsAtOwnTsf at answer
  rw [Client.ownTsfToApTsf_eq anchored] at answer
  split at answer
  · rename_i positive
    rw [Option.bind_eq_bind, Option.bind_some] at answer
    have exactly := (Estimator.syncedNsAt_eq_some_iff counted range _ s).mp answer
    have inverse := (Estimator.localUsAt_eq_some_iff counted range s (by omega)
      (own + (anchor.apTsfUs - anchor.ownTsfUs))).mpr (by omega)
    rw [Client.ownTsfAt_eq anchored inverse, translate_back, if_pos small]
  · contradiction

/-- A server time that has an own TSF is recovered from it to the microsecond. -/
theorem Client.syncedNsAtOwnTsf_of_ownTsfAt {s : U128} {own : U64} (large : 1000 ≤ s.toNat)
    (small : s.toNat < 2 ^ 63) (answer : client.ownTsfAt s = some own) :
    ∃ p, client.syncedNsAtOwnTsf own = some p ∧
      0 ≤ (s.toNat : Int) - p.toNat ∧ (s.toNat : Int) - p.toNat < 1000 := by
  cases inverse : client.udpEst.localUsAt s with
  | none =>
    unfold Client.ownTsfAt at answer
    rw [inverse] at answer
    contradiction
  | some ap =>
    rw [Client.ownTsfAt_eq anchored inverse] at answer
    split at answer
    · rename_i positive
      have bracket := (Estimator.localUsAt_eq_some_iff counted range s (by omega) ap).mp inverse
      rw [← Option.some.inj answer]
      refine ⟨BitVec.ofNat 128 (client.udpEst.offsetNs + 1000 * ap.toNat).toNat, ?_, ?_⟩
      · unfold Client.syncedNsAtOwnTsf
        rw [Client.ownTsfToApTsf_eq anchored, translate_back, if_pos (by omega),
          Option.bind_eq_bind, Option.bind_some]
        apply (Estimator.syncedNsAt_eq_some_iff counted range _ _).mpr
        rw [BitVec.toNat_ofNat, Nat.mod_eq_of_lt (by omega)]
        omega
      · rw [BitVec.toNat_ofNat, Nat.mod_eq_of_lt (by omega)]
        omega
    · contradiction

end RoundTrip

/-- **Round trip of the client conversions.** For every anchor and every fit of
plain observations, an own TSF that has a server time is recovered from it
exactly, and a server time that has an own TSF is recovered from it to the
microsecond. -/
theorem own_tsf_round_trip {channel : Channel SnifferEvent} (checks : OverflowChecks)
    (client : Client channel) {anchor : BeaconAnchor} {history : List Sample}
    (anchored : client.latestBeacon = some anchor)
    (bounded : ∀ s ∈ history, s.Bounded) (enough : 8 ≤ history.length)
    (observed : Estimator.observeAll checks history = .ok client.udpEst) :
    (∀ (own : U64) (s : U128), own.toNat < 2 ^ 63 → client.syncedNsAtOwnTsf own = some s →
      client.ownTsfAt s = some own) ∧
    (∀ (s : U128) (o : U64), 1000 ≤ s.toNat → s.toNat < 2 ^ 63 → client.ownTsfAt s = some o →
      ∃ p, client.syncedNsAtOwnTsf o = some p ∧
        0 ≤ (s.toNat : Int) - p.toNat ∧ (s.toNat : Int) - p.toNat < 1000) := by
  obtain ⟨est, same, tracks⟩ := observeAll_of_bounded bounded
  obtain rfl := Except.ok.inj ((same checks).symm.trans observed)
  have counted : minSamples ≤ client.udpEst.n := by
    rw [tracks.count]
    exact minSamples_le_window enough
  have range := tracks.offset_range bounded counted
  constructor
  · intro own s small answer
    exact Client.ownTsfAt_of_syncedNsAtOwnTsf anchored counted range small answer
  · intro s o large small answer
    exact Client.syncedNsAtOwnTsf_of_ownTsfAt anchored counted range large small answer

/-- An own TSF just before its wrap at the anchor, read again after the wrap. -/
theorem own_tsf_round_trip_wrapped :
    ∃ est, Estimator.observeAll .enabled (List.replicate 8 ⟨90000, 10⟩) = .ok est ∧
      { Client.boot (Channel.ofList SnifferEvent channelDepth) with
        latestBeacon := some ⟨0, 0xFFFFFFFFFFFFFFFF, 1, 0⟩
        udpEst := est }.ownTsfAt 87000 = some 5 := by
  have bounded : ∀ s ∈ List.replicate 8 (⟨90000, 10⟩ : Sample), s.Bounded := by
    intro s member
    rw [List.eq_of_mem_replicate member]
    exact ⟨by decide, by decide⟩
  obtain ⟨est, observed, tracks⟩ := observeAll_of_bounded bounded
  refine ⟨est, observed .enabled, ?_⟩
  have counted : minSamples ≤ est.n := tracks.count ▸ (by decide)
  have offset : est.offsetNs = 80000 := (tracks.fitted (by decide)).offset.trans (by decide)
  refine (own_tsf_round_trip .enabled { Client.boot (Channel.ofList SnifferEvent channelDepth) with
      latestBeacon := some ⟨0, 0xFFFFFFFFFFFFFFFF, 1, 0⟩
      udpEst := est } rfl bounded (by decide) (observed .enabled)).1 5 87000 (by decide) ?_
  unfold Client.syncedNsAtOwnTsf
  rw [Client.ownTsfToApTsf_eq rfl, if_pos (by decide), Option.bind_eq_bind, Option.bind_some]
  refine (est.syncedNsAt_eq_some_iff counted (tracks.offset_range bounded counted) _ _).mpr ?_
  rw [offset]
  decide

end EspClockSync
