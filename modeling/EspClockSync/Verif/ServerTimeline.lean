import EspClockSync.Server.Broadcast

/-!
# The timeline of the server

The time in a packet is a function of its sequence number, and the sequence number
counts the iterations modulo `2 ^ 32`. So the timeline is even for `2 ^ 32` packets and
then starts over.
-/

namespace EspClockSync

open Machine

namespace Server

variable {checks : OverflowChecks} {settings : Settings}

/-- The time in the packet of this iteration, in nanoseconds. -/
def sendTimeNs (settings : Settings) (iteration : Nat) : Nat :=
  settings.t0 + iteration % 2 ^ 32 * settings.intervalNs

/-- The packet of this iteration. -/
def packetAt (settings : Settings) (iteration : Nat) : SyncPacket where
  magic := magicBytes
  seq := BitVec.ofNat 32 iteration
  sendUnixNs := BitVec.ofNat 128 (sendTimeNs settings iteration)

/-- The times in these packets, in nanoseconds. -/
def sendTimes (sent : List Broadcast) : List Nat :=
  sent.map fun broadcast => broadcast.packet.sendUnixNs.toNat

/-! ## One iteration -/

/-- A time since the epoch is far below the range of a `u128`. -/
theorem t0_lt (settings : Settings) : settings.t0 < 2 ^ 94 := by
  unfold Settings.t0
  cases settings.sinceEpoch with
  | none => simp
  | some duration =>
    have secs := duration.secs.isLt
    have nanos := duration.nanos_lt
    simp only [Option.map_some, Option.getD_some, Duration.asNanos]
    omega

/-- So is the time between any two sequence numbers. -/
theorem elapsedNs_lt (settings : Settings) {seq : Nat} (range : seq < 2 ^ 32) :
    seq * settings.intervalNs < 2 ^ 116 := by
  have interval := settings.intervalMs.isLt
  have bounded : settings.intervalNs < 2 ^ 84 := by
    unfold Settings.intervalNs
    omega
  have product := Nat.mul_lt_mul'' range bounded
  omega

/-- Every time in a packet is a `u128`. -/
theorem sendTimeNs_lt (settings : Settings) (iteration : Nat) :
    sendTimeNs settings iteration < 2 ^ 128 := by
  have captured := t0_lt settings
  have elapsed := elapsedNs_lt settings (Nat.mod_lt iteration (show 0 < 2 ^ 32 by decide))
  unfold sendTimeNs
  omega

/-- The packet carries its time unreduced. -/
theorem packetAt_time (settings : Settings) (iteration : Nat) :
    (packetAt settings iteration).sendUnixNs.toNat = sendTimeNs settings iteration := by
  unfold packetAt
  rw [BitVec.toNat_ofNat, Nat.mod_eq_of_lt (sendTimeNs_lt settings iteration)]

/-- The times in the packets of these iterations. -/
theorem times_packetAt (settings : Settings) (iterations : List Nat) :
    (iterations.map (packetAt settings)).map (fun packet => packet.sendUnixNs.toNat) =
      iterations.map (sendTimeNs settings) := by
  induction iterations with
  | nil => rfl
  | cons iteration rest ih => simp only [List.map_cons, packetAt_time, ih]

/-- What an iteration does when its packet was due at `next`. -/
def broadcastAt (settings : Settings) (next iteration : Nat) (pass : Pass) : Broadcast where
  sleptNs := if pass.now < next then next - pass.now else 0
  packet := packetAt settings iteration
  logged :=
    if !pass.sent then some .sendFailed
    else if iteration % 2 ^ 32 % 50 = 0 then
      some (.sent (BitVec.ofNat 32 iteration) (packetAt settings iteration).sendUnixNs)
    else none

/-- An iteration only stops where the clock ends; otherwise it sends the packet of its
sequence number and counts it, whether `send_to` succeeds or not. -/
theorem iterate_eq (checks : OverflowChecks) (settings : Settings) (next iteration : Nat)
    (pass : Pass) :
    iterate checks settings ⟨next, BitVec.ofNat 32 iteration⟩ pass =
      addInstant next (Duration.fromMillis settings.intervalMs) >>= fun due =>
        .ok (⟨due, BitVec.ofNat 32 (iteration + 1)⟩, broadcastAt settings next iteration pass) := by
  have elapsed := elapsedNs_lt settings (Nat.mod_lt iteration (show 0 < 2 ^ 32 by decide))
  have count : (BitVec.ofNat 32 iteration).toNat = iteration % 2 ^ 32 := BitVec.toNat_ofNat _ _
  have following : BitVec.ofNat 32 iteration + 1 = BitVec.ofNat 32 (iteration + 1) := by
    rw [BitVec.ofNat_add]
    rfl
  have product : checks.unsigned 128 (iteration % 2 ^ 32 * settings.intervalNs) = .ok _ :=
    checks.unsigned_ok (by omega)
  have sum := checks.unsigned_ok (sendTimeNs_lt settings iteration)
  unfold sendTimeNs at sum
  unfold iterate
  apply bind_congr
  intro due
  rw [count, product, ok_bind, sum, ok_bind, following]
  rfl

/-! ## Runs -/

/-- After a run the sequence number counts the iterations, and each sent its packet. -/
theorem packets_of_run {passes : List Pass} {state : Loop × List Broadcast}
    (reached : (broadcasting checks settings).run passes = .ok state) :
    state.1.seq = BitVec.ofNat 32 passes.length ∧
      state.2.map Broadcast.packet = (List.range passes.length).map (packetAt settings) := by
  refine System.run_induction
    (motive := fun passes state => state.1.seq = BitVec.ofNat 32 passes.length ∧
      state.2.map Broadcast.packet = (List.range passes.length).map (packetAt settings))
    ⟨rfl, rfl⟩ (fun passes before pass after _ held stepped => ?_) reached
  obtain ⟨⟨next, seq⟩, sent⟩ := before
  obtain ⟨rfl, packets⟩ := held
  simp only [broadcasting, iterate_eq] at stepped
  obtain ⟨⟨moved, broadcast⟩, iterated, returned⟩ := bind_eq_ok stepped
  obtain ⟨due, _, moved_eq⟩ := bind_eq_ok iterated
  obtain ⟨rfl, rfl⟩ := Prod.mk.inj (Except.ok.inj moved_eq)
  rw [← Except.ok.inj returned]
  constructor
  · simp
  · simp only [List.map_append, List.length_append, List.length_singleton, List.range_succ] at packets ⊢
    rw [packets]
    rfl

/-- The times of a run are those of its iterations. -/
theorem sendTimes_of_run {passes : List Pass} {state : Loop} {sent : List Broadcast}
    (reached : (broadcasting checks settings).run passes = .ok (state, sent)) :
    sendTimes sent = (List.range passes.length).map (sendTimeNs settings) := by
  have packets := (packets_of_run reached).2
  calc sendTimes sent
      = (sent.map Broadcast.packet).map fun packet => packet.sendUnixNs.toNat := by
        rw [List.map_map]
        rfl
    _ = (List.range passes.length).map (sendTimeNs settings) := by
        rw [packets, times_packetAt]

/-- A run goes on where the clock has room for its next instant. -/
theorem run_concat_due {passes : List Pass} {pass : Pass} {state : Loop} {sent : List Broadcast}
    {due : Nat} (reached : (broadcasting checks settings).run passes = .ok (state, sent))
    (room : addInstant state.next (Duration.fromMillis settings.intervalMs) = .ok due) :
    (broadcasting checks settings).run (passes ++ [pass]) =
      .ok (⟨due, BitVec.ofNat 32 (passes.length + 1)⟩,
        sent ++ [broadcastAt settings state.next passes.length pass]) := by
  have counted := (packets_of_run reached).1
  obtain ⟨next, seq⟩ := state
  subst counted
  have iterated := iterate_eq checks settings next passes.length pass
  rw [room, ok_bind] at iterated
  rw [System.run_concat, reached, ok_bind]
  simp only [broadcasting]
  rw [iterated, ok_bind]

/-- A run of iterations that end before the clock does returns. -/
theorem broadcasting_returns (checks : OverflowChecks) (settings : Settings) (passes : List Pass)
    (room : settings.start + passes.length * (Duration.fromMillis settings.intervalMs).asNanos <
      2 ^ 63 * 1000000000) :
    ∃ state sent, (broadcasting checks settings).run passes = .ok (state, sent) ∧
      state.next = settings.start +
        passes.length * (Duration.fromMillis settings.intervalMs).asNanos := by
  induction passes using List.reverseRecOn with
  | nil => exact ⟨_, _, rfl, by simp⟩
  | append_singleton passes pass ih =>
    rw [List.length_append, List.length_singleton, add_mul, one_mul] at room ⊢
    obtain ⟨state, sent, reached, due⟩ := ih (by omega)
    have room' : addInstant state.next (Duration.fromMillis settings.intervalMs) = .ok _ :=
      if_pos (by omega)
    refine ⟨_, _, run_concat_due reached room', ?_⟩
    simp only [due, Nat.add_assoc]

/-- In its first `2 ^ 32` iterations the time is even. -/
theorem sendTimeNs_succ (settings : Settings) {iteration : Nat} (early : iteration + 1 < 2 ^ 32) :
    sendTimeNs settings (iteration + 1) = sendTimeNs settings iteration + settings.intervalNs := by
  unfold sendTimeNs
  rw [Nat.mod_eq_of_lt early, Nat.mod_eq_of_lt (by omega), add_mul, one_mul]
  omega

/-- The iteration after them sends the captured time again. -/
theorem sendTimeNs_wrap (settings : Settings) : sendTimeNs settings (2 ^ 32) = settings.t0 := by
  simp [sendTimeNs]

/-- An even timeline has not wrapped. -/
theorem length_le_of_even {passes : List Pass} {state : Loop} {sent : List Broadcast}
    (positive : 1 ≤ settings.intervalMs.toNat)
    (reached : (broadcasting checks settings).run passes = .ok (state, sent))
    (even : (sendTimes sent).IsChain
      (fun earlier later => later = earlier + settings.intervalMs.toNat * 1000000)) :
    passes.length ≤ 2 ^ 32 := by
  rw [sendTimes_of_run reached, List.isChain_map, List.isChain_range] at even
  by_contra long
  have last := even (2 ^ 32 - 1) (by omega)
  have following : (2 ^ 32 - 1).succ = 2 ^ 32 := by omega
  have captured : settings.t0 ≤ sendTimeNs settings (2 ^ 32 - 1) := Nat.le_add_right _ _
  rw [following, sendTimeNs_wrap] at last
  omega

/-- **The timeline is even for `2 ^ 32` iterations.** In every run at a positive
interval, consecutive packets are one interval apart, and the times increase, exactly
when the run has at most `2 ^ 32` iterations. -/
theorem server_timeline_even_iff (checks : OverflowChecks) (settings : Settings)
    (positive : 1 ≤ settings.intervalMs.toNat) {passes : List Pass} {state : Loop}
    {sent : List Broadcast}
    (reached : (broadcasting checks settings).run passes = .ok (state, sent)) :
    ((sendTimes sent).IsChain
        (fun earlier later => later = earlier + settings.intervalMs.toNat * 1000000) ∧
      (sendTimes sent).Pairwise (· < ·)) ↔ passes.length ≤ 2 ^ 32 := by
  have interval : 0 < settings.intervalNs := by
    unfold Settings.intervalNs
    omega
  refine ⟨fun property => length_le_of_even positive reached property.1, fun short => ?_⟩
  rw [sendTimes_of_run reached]
  constructor
  · rw [List.isChain_map, List.isChain_range]
    intro iteration inside
    exact sendTimeNs_succ settings (by omega)
  · rw [List.pairwise_map]
    apply (List.pairwise_lt_range (n := passes.length)).imp_of_mem
    intro earlier later member member' before
    have first := List.mem_range.mp member
    have second := List.mem_range.mp member'
    have gap := Nat.mul_lt_mul_of_pos_right before interval
    unfold sendTimeNs
    rw [Nat.mod_eq_of_lt (by omega), Nat.mod_eq_of_lt (by omega)]
    omega

/-- A server started at second 1700000000 with packets a millisecond apart. -/
def everyMillisecond : Settings := ⟨1, some ⟨1700000000, 0, by decide⟩, 0⟩

/-- Its first three packets, of which the second is lost. -/
theorem server_timeline_even_three :
    ∃ state sent,
      (broadcasting .enabled everyMillisecond).run [⟨0, true⟩, ⟨5, false⟩, ⟨2000000, true⟩] =
        .ok (state, sent) ∧
      (sendTimes sent).IsChain (fun earlier later => later = earlier + 1 * 1000000) ∧
      (sendTimes sent).Pairwise (· < ·) := by
  obtain ⟨state, sent, reached, _⟩ := broadcasting_returns .enabled everyMillisecond
    [⟨0, true⟩, ⟨5, false⟩, ⟨2000000, true⟩] (by decide)
  exact ⟨state, sent, reached,
    (server_timeline_even_iff .enabled everyMillisecond (by decide) reached).mpr (by decide)⟩

/-- After 49.7 days of packets every millisecond the time jumps back to the start. -/
theorem server_timeline_jumps_back :
    ∃ passes state sent,
      (broadcasting .enabled everyMillisecond).run passes = .ok (state, sent) ∧
      passes.length = 2 ^ 32 + 1 ∧
      (sendTimes sent)[2 ^ 32 - 1]? = some 1704294967295000000 ∧
      (sendTimes sent)[2 ^ 32]? = some 1700000000000000000 ∧
      ¬ ((sendTimes sent).IsChain
          (fun earlier later => later = earlier + everyMillisecond.intervalMs.toNat * 1000000) ∧
        (sendTimes sent).Pairwise (· < ·)) := by
  have count : (List.replicate (2 ^ 32 + 1) (⟨0, true⟩ : Pass)).length = 2 ^ 32 + 1 :=
    List.length_replicate
  have nanos : (Duration.fromMillis everyMillisecond.intervalMs).asNanos = 1000000 := by decide
  have start : everyMillisecond.start = 0 := rfl
  have captured : everyMillisecond.t0 = 1700000000000000000 := by decide
  have interval : everyMillisecond.intervalNs = 1000000 := by decide
  obtain ⟨state, sent, reached, _⟩ := broadcasting_returns .enabled everyMillisecond
    (List.replicate (2 ^ 32 + 1) ⟨0, true⟩) (by
      rw [count, nanos, start]
      decide)
  have times := sendTimes_of_run reached
  rw [count] at times
  refine ⟨_, state, sent, reached, count, ?_, ?_, fun property => ?_⟩
  · rw [times, List.getElem?_map, List.getElem?_range (by omega), Option.map_some, sendTimeNs, captured,
      interval]
    norm_num
  · rw [times, List.getElem?_map, List.getElem?_range (by omega), Option.map_some, sendTimeNs_wrap,
      captured]
  · have short := length_le_of_even (by decide) reached property.1
    rw [count] at short
    omega

end Server

end EspClockSync
