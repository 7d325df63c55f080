import EspClockSync.Client.Steps

/-!
# The hardware timestamp

`rx_cb` extends the 32-bit timestamp of a frame by the high bits of a later 64-bit reading.
Read without the masks and the borrow this subtracts from the reading its age: how far its
low word is past the timestamp. The age knows nothing of where the counters started.
-/

namespace EspClockSync

open Machine

namespace Reception

/-- How far the low word of the reading in the callback is past the hardware timestamp,
across a wrap of either. -/
def age (packet : Reception) : U32 := packet.ownTsfAtCb.setWidth 32 - packet.timestamp

/-- The high bits of a reading, and nothing below them. -/
theorem highBits_toNat (reading : U64) :
    (reading &&& 0xFFFFFFFF00000000#64).toNat = reading.toNat / 2 ^ 32 * 2 ^ 32 := by
  have mask : 0xFFFFFFFF00000000#64 = BitVec.allOnes 64 <<< 32 := by decide
  rw [mask, and_allOnes_shiftLeft_toNat]

/-- The age as a natural number. -/
theorem age_toNat (packet : Reception) :
    packet.age.toNat = (2 ^ 32 - packet.timestamp.toNat + packet.ownTsfAtCb.toNat) % 2 ^ 32 := by
  have reading : (packet.ownTsfAtCb.setWidth 32).toNat = packet.ownTsfAtCb.toNat % 2 ^ 32 :=
    BitVec.toNat_setWidth ..
  have range := packet.timestamp.isLt
  unfold age
  rw [BitVec.toNat_sub, reading]
  omega

/-- The reconstructed timestamp is the reading less its age, borrow or not. -/
theorem ownTsfUs_eq (packet : Reception) :
    packet.ownTsfUs = packet.ownTsfAtCb - packet.age.setWidth 64 := by
  have range := packet.ownTsfAtCb.isLt
  have stamp := packet.timestamp.isLt
  have reading : (packet.ownTsfAtCb.setWidth 32).toNat = packet.ownTsfAtCb.toNat % 2 ^ 32 :=
    BitVec.toNat_setWidth ..
  have high := highBits_toNat packet.ownTsfAtCb
  have low : (packet.timestamp.setWidth 64).toNat = packet.timestamp.toNat :=
    BitVec.toNat_setWidth_of_le (by decide)
  have past : (packet.age.setWidth 64).toNat = packet.age.toNat :=
    BitVec.toNat_setWidth_of_le (by decide)
  have age := packet.age_toNat
  apply BitVec.eq_of_toNat_eq
  unfold ownTsfUs
  rw [BitVec.toNat_sub, past, age]
  split
  · rename_i before
    have joined := or_toNat_of_aligned (packet.ownTsfAtCb &&& 0xFFFFFFFF00000000#64)
      (packet.timestamp.setWidth 64) 32 (by omega) (by omega)
    rw [BitVec.le_def, reading] at before
    omega
  · rename_i behind
    have earlier : ((packet.ownTsfAtCb &&& 0xFFFFFFFF00000000#64) - 0x100000000#64).toNat =
        (2 ^ 64 - 2 ^ 32 + packet.ownTsfAtCb.toNat / 2 ^ 32 * 2 ^ 32) % 2 ^ 64 := by
      rw [BitVec.toNat_sub, high]
      rfl
    have joined := or_toNat_of_aligned
      ((packet.ownTsfAtCb &&& 0xFFFFFFFF00000000#64) - 0x100000000#64)
      (packet.timestamp.setWidth 64) 32 (by omega) (by omega)
    rw [BitVec.le_def, reading] at behind
    omega

/-- Both counters of a reception advanced by the same amount. -/
def advance (packet : Reception) (amount : U64) : Reception :=
  { packet with
    timestamp := packet.timestamp + amount.setWidth 32
    ownTsfAtCb := packet.ownTsfAtCb + amount }

/-- The age does not change when both counters advance. -/
theorem age_advance (packet : Reception) (amount : U64) : (packet.advance amount).age = packet.age := by
  unfold age advance
  rw [BitVec.setWidth_add _ _ (by decide), add_sub_add_right_eq_sub]

/-- The reconstructed timestamp as a natural number. -/
theorem ownTsfUs_toNat (packet : Reception) :
    packet.ownTsfUs.toNat = (2 ^ 64 - packet.age.toNat + packet.ownTsfAtCb.toNat) % 2 ^ 64 := by
  rw [ownTsfUs_eq, BitVec.toNat_sub, BitVec.toNat_setWidth_of_le (by decide)]

end Reception

/-- **The hardware timestamp is reconstructed.** For every reading in the callback and every
timestamp, the result has the timestamp for its low word and is less than a wrap before the
reading. So it is the time of reception of every frame read less than a wrap after it, and
it advances with both counters, wherever they started and whichever of them wraps. -/
theorem rx_timestamp_reconstructed (packet : Reception) :
    packet.ownTsfUs.toNat % 2 ^ 32 = packet.timestamp.toNat ∧
      (packet.ownTsfAtCb - packet.ownTsfUs).toNat < 2 ^ 32 ∧
      (∀ time : Nat, time % 2 ^ 32 = packet.timestamp.toNat → time ≤ packet.ownTsfAtCb.toNat →
        packet.ownTsfAtCb.toNat < time + 2 ^ 32 → packet.ownTsfUs.toNat = time) ∧
      ∀ amount : U64, (packet.advance amount).ownTsfUs = packet.ownTsfUs + amount := by
  have own := packet.ownTsfUs_toNat
  have age := packet.age_toNat
  have range := packet.ownTsfAtCb.isLt
  have stamp := packet.timestamp.isLt
  refine ⟨by omega, ?_, fun time low reached recent => by omega, fun amount => ?_⟩
  · rw [BitVec.toNat_sub]
    omega
  · rw [Reception.ownTsfUs_eq, Reception.age_advance, Reception.ownTsfUs_eq]
    exact add_sub_right_comm packet.ownTsfAtCb amount _

/-- A frame 16 µs before the low word of the reading wrapped, with the timestamp still in
the earlier wrap. -/
theorem rx_timestamp_reconstructed_across_wrap :
    (⟨[], 0xFFFFFFF8#32, 0, 0, 0x500000008#64⟩ : Reception).ownTsfUs.toNat = 0x4FFFFFFF8 :=
  (rx_timestamp_reconstructed ⟨[], 0xFFFFFFF8#32, 0, 0, 0x500000008#64⟩).2.2.1 0x4FFFFFFF8
    (by decide) (by decide) (by decide)

end EspClockSync
