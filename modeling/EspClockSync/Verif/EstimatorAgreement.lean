import EspClockSync.Verif.EstimatorAnswers

/-!
# Accuracy and agreement of estimators

An estimator translates local time by its mean offset, so two estimators agree as
far as their mean offsets do. The accuracy of the window bounds the accuracy of
every answer, whatever was observed before it; two clients that hear the same
packets agree up to the jitter of their receptions, whatever the packets say.
-/

namespace EspClockSync

open Machine

/-! ## Accuracy -/

/-- **Accuracy and self-stabilisation.** Once the window holds only observations
within `error` of an offset, every answer is within `error` of that offset, an
answer is missing only below `error`, and the estimator answers like one that
never observed anything earlier. -/
theorem estimator_accuracy (checks : OverflowChecks) {earlier later : List Sample}
    (theta error : Int) (earlierBounded : ∀ s ∈ earlier, s.Bounded)
    (laterBounded : ∀ s ∈ later, s.Bounded)
    (enough : 256 ≤ later.length ∨ earlier = [] ∧ 8 ≤ later.length)
    (near : ∀ s ∈ later,
      |(s.serverNs.toNat : Int) - 1000 * s.localUs.toNat - theta| ≤ error) :
    ∃ est fresh, Estimator.observeAll checks (earlier ++ later) = .ok est ∧
      Estimator.observeAll checks later = .ok fresh ∧
      (est.syncedNsAt = fresh.syncedNsAt ∧ est.localUsAt = fresh.localUsAt ∧
        est.quality.residualUsP95 = fresh.quality.residualUsP95) ∧
      ∀ localUs : U64, match est.syncedNsAt localUs with
        | some p => |(p.toNat : Int) - (theta + 1000 * localUs.toNat)| ≤ error
        | none => theta + 1000 * localUs.toNat < error := by
  have bounded : ∀ s ∈ earlier ++ later, s.Bounded := by
    intro s member
    rcases List.mem_append.mp member with member | member
    · exact earlierBounded s member
    · exact laterBounded s member
  obtain ⟨est, observed, tracks⟩ := observeAll_of_bounded bounded
  obtain ⟨fresh, freshObserved, freshTracks⟩ := observeAll_of_bounded laterBounded
  have sameWindow : window windowSize (earlier ++ later) = window windowSize later := by
    rcases enough with full | ⟨rfl, _⟩
    · exact window_append_of_le earlier full
    · rfl
  have size : minSamples ≤ (window windowSize (earlier ++ later)).length := by
    rw [sameWindow]
    apply minSamples_le_window
    omega
  have fitted := tracks.fitted size
  have counted : minSamples ≤ est.n := tracks.count ▸ size
  have range := tracks.offset_range bounded counted
  refine ⟨est, fresh, observed checks, freshObserved checks,
    tracks.answers_eq freshTracks size (List.Perm.of_eq sameWindow), fun localUs => ?_⟩
  have offset : theta - error ≤ est.offsetNs ∧ est.offsetNs ≤ theta + error := by
    rw [fitted.offset, sameWindow]
    apply meanOffset_between
    · intro empty
      rw [sameWindow, empty] at size
      exact absurd size (by decide)
    · intro s member
      have close := abs_le.mp (near s (mem_of_mem_window member))
      unfold Sample.exactOffset
      omega
  cases answer : est.syncedNsAt localUs with
  | none =>
    have negative := (est.syncedNsAt_eq_none_iff counted range localUs).mp answer
    dsimp only
    omega
  | some p =>
    have exactly := (est.syncedNsAt_eq_some_iff counted range localUs p).mp answer
    dsimp only
    rw [exactly]
    exact abs_le.mpr ⟨by omega, by omega⟩

/-- A wild first observation is forgotten after a window of good ones. -/
theorem estimator_accuracy_recovers :
    ∃ est, Estimator.observeAll .enabled
        ([⟨BitVec.ofNat 128 (2 ^ 71), 0⟩] ++ List.replicate 256 ⟨5001, 1⟩) = .ok est ∧
      ∃ p, est.syncedNsAt 2 = some p ∧ |(p.toNat : Int) - 6000| ≤ 1 := by
  have each : ∀ s ∈ List.replicate 256 (⟨5001, 1⟩ : Sample), s.Bounded ∧
      |(s.serverNs.toNat : Int) - 1000 * s.localUs.toNat - 4000| ≤ 1 := by
    intro s member
    rw [List.eq_of_mem_replicate member]
    exact ⟨⟨by decide, by decide⟩, by decide⟩
  have wild : ∀ s ∈ [(⟨BitVec.ofNat 128 (2 ^ 71), 0⟩ : Sample)], s.Bounded := by
    intro s member
    rw [List.mem_singleton.mp member]
    exact ⟨by decide, by decide⟩
  have full := (List.length_replicate (n := 256) (a := (⟨5001, 1⟩ : Sample))).ge
  obtain ⟨est, _, observed, _, _, accurate⟩ := estimator_accuracy .enabled 4000 1 wild
    (fun s member => (each s member).1) (Or.inl full) (fun s member => (each s member).2)
  refine ⟨est, observed, ?_⟩
  have answer := accurate 2
  cases same : est.syncedNsAt 2 with
  | none =>
    rw [same] at answer
    exact absurd answer (by decide)
  | some p =>
    rw [same] at answer
    exact ⟨p, rfl, answer⟩

/-! ## Agreement -/

/-- Means of offsets that differ pairwise by bounded amounts differ by little more:
the two truncations can round apart by less than two. -/
theorem meanOffset_sub_between (pairs : List (Sample × Sample)) (low high : Int)
    (nonempty : pairs ≠ [])
    (within : ∀ pair ∈ pairs, low ≤ pair.1.exactOffset - pair.2.exactOffset ∧
      pair.1.exactOffset - pair.2.exactOffset ≤ high) :
    low - 1 ≤ meanOffset (pairs.map Prod.fst) - meanOffset (pairs.map Prod.snd) ∧
      meanOffset (pairs.map Prod.fst) - meanOffset (pairs.map Prod.snd) ≤ high + 1 := by
  have difference : (pairs.map fun pair => pair.1.exactOffset - pair.2.exactOffset).sum =
      offsetSum (pairs.map Prod.fst) - offsetSum (pairs.map Prod.snd) := by
    have split := List.sum_map_add (l := pairs)
      (f := fun pair => pair.1.exactOffset - pair.2.exactOffset)
      (g := fun pair => pair.2.exactOffset)
    simp only [Int.sub_add_cancel] at split
    unfold offsetSum
    rw [List.map_map, List.map_map]
    exact (sub_eq_of_eq_add split).symm
  have total := sum_between within
  rw [difference] at total
  have count := int_length_pos nonempty
  have first := tdiv_bracket (offsetSum (pairs.map Prod.fst)) count
  have second := tdiv_bracket (offsetSum (pairs.map Prod.snd)) count
  unfold meanOffset
  rw [List.length_map, List.length_map]
  constructor
  · by_contra below
    have product : (pairs.length : Int) * ((offsetSum (pairs.map Prod.fst)).tdiv pairs.length -
        (offsetSum (pairs.map Prod.snd)).tdiv pairs.length) ≤ pairs.length * (low - 2) :=
      Int.mul_le_mul_of_nonneg_left (by omega) (by omega)
    rw [Int.mul_sub, Int.mul_sub] at product
    omega
  · by_contra above
    have product : (pairs.length : Int) * (high + 2) ≤ pairs.length *
        ((offsetSum (pairs.map Prod.fst)).tdiv pairs.length -
          (offsetSum (pairs.map Prod.snd)).tdiv pairs.length) :=
      Int.mul_le_mul_of_nonneg_left (by omega) (by omega)
    rw [Int.mul_add, Int.mul_sub] at product
    omega

/-- The offsets of packets read by two clocks that stand `skew` apart up to `jitter`. -/
theorem meanOffset_packets_between {packets : List (U128 × U64 × U64)} {skew jitter : Int}
    (nonempty : packets ≠ [])
    (near : ∀ packet ∈ packets,
      |(packet.2.1.toNat : Int) - packet.2.2.toNat - skew| ≤ jitter) :
    -(1000 * skew) - 1000 * jitter - 1 ≤ meanOffset (packets.map fun p => ⟨p.1, p.2.1⟩) -
        meanOffset (packets.map fun p => ⟨p.1, p.2.2⟩) ∧
      meanOffset (packets.map fun p => ⟨p.1, p.2.1⟩) -
        meanOffset (packets.map fun p => ⟨p.1, p.2.2⟩) ≤ -(1000 * skew) + 1000 * jitter + 1 := by
  have within : ∀ pair ∈ packets.map (fun p =>
      ((⟨p.1, p.2.1⟩ : Sample), (⟨p.1, p.2.2⟩ : Sample))),
      -(1000 * skew) - 1000 * jitter ≤ pair.1.exactOffset - pair.2.exactOffset ∧
        pair.1.exactOffset - pair.2.exactOffset ≤ -(1000 * skew) + 1000 * jitter := by
    intro pair member
    obtain ⟨packet, inside, rfl⟩ := List.mem_map.mp member
    have close := abs_le.mp (near packet inside)
    unfold Sample.exactOffset
    dsimp only
    omega
  have pairs : packets.map (fun p => ((⟨p.1, p.2.1⟩ : Sample), (⟨p.1, p.2.2⟩ : Sample))) ≠ [] := by
    simpa using nonempty
  have means := meanOffset_sub_between _ _ _ pairs within
  rw [List.map_map, List.map_map] at means
  exact means

/-- **Clients agree.** Two fresh estimators hear the same packets, at readings of
two clocks that stand `skew` apart up to `jitter`. Then both fit without overflow,
and their answers for one moment are at most `1000 * jitter + 1` ns apart. -/
theorem estimators_agree (checks : OverflowChecks) (packets : List (U128 × U64 × U64))
    (skew jitter : Int) (enough : 8 ≤ packets.length)
    (bounded : ∀ packet ∈ packets, packet.1.toNat < 2 ^ 72 ∧ packet.2.1.toNat < 2 ^ 62 ∧
      packet.2.2.toNat < 2 ^ 62)
    (near : ∀ packet ∈ packets,
      |(packet.2.1.toNat : Int) - packet.2.2.toNat - skew| ≤ jitter) :
    ∃ a b, Estimator.observeAll checks (packets.map fun p => ⟨p.1, p.2.1⟩) = .ok a ∧
      Estimator.observeAll checks (packets.map fun p => ⟨p.1, p.2.2⟩) = .ok b ∧
      ∀ (ta tb : U64) (pa pb : U128), (ta.toNat : Int) = tb.toNat + skew →
        a.syncedNsAt ta = some pa → b.syncedNsAt tb = some pb →
        |(pa.toNat : Int) - pb.toNat| ≤ 1000 * jitter + 1 := by
  have aBounded : ∀ s ∈ packets.map (fun p => (⟨p.1, p.2.1⟩ : Sample)), s.Bounded := by
    intro s member
    obtain ⟨packet, inside, rfl⟩ := List.mem_map.mp member
    exact ⟨(bounded packet inside).1, (bounded packet inside).2.1⟩
  have bBounded : ∀ s ∈ packets.map (fun p => (⟨p.1, p.2.2⟩ : Sample)), s.Bounded := by
    intro s member
    obtain ⟨packet, inside, rfl⟩ := List.mem_map.mp member
    exact ⟨(bounded packet inside).1, (bounded packet inside).2.2⟩
  obtain ⟨a, aObserved, aTracks⟩ := observeAll_of_bounded aBounded
  obtain ⟨b, bObserved, bTracks⟩ := observeAll_of_bounded bBounded
  refine ⟨a, b, aObserved checks, bObserved checks, fun ta tb pa pb same aAnswer bAnswer => ?_⟩
  have size : ∀ f : U128 × U64 × U64 → Sample,
      minSamples ≤ (window windowSize (packets.map f)).length := by
    intro f
    apply minSamples_le_window
    rw [List.length_map]
    exact enough
  have aCounted : minSamples ≤ a.n := aTracks.count ▸ size _
  have bCounted : minSamples ≤ b.n := bTracks.count ▸ size _
  have aExactly := (a.syncedNsAt_eq_some_iff aCounted (aTracks.offset_range aBounded aCounted)
    ta pa).mp aAnswer
  have bExactly := (b.syncedNsAt_eq_some_iff bCounted (bTracks.offset_range bBounded bCounted)
    tb pb).mp bAnswer
  -- Both rings evict in lockstep: their windows are images of one window of packets.
  have nonempty : window windowSize packets ≠ [] := by
    intro empty
    have some := size fun p => ⟨p.1, p.2.1⟩
    rw [window_map, empty] at some
    exact absurd some (by decide)
  have means := meanOffset_packets_between nonempty fun packet inside =>
    near packet (mem_of_mem_window inside)
  have aOffset := (aTracks.fitted (size _)).offset
  have bOffset := (bTracks.fitted (size _)).offset
  rw [window_map] at aOffset bOffset
  rw [← aOffset, ← bOffset] at means
  exact abs_le.mpr ⟨by omega, by omega⟩

/-- Two clocks seven microseconds apart agree exactly on eight packets. -/
theorem estimators_agree_shifted :
    ∃ a b, Estimator.observeAll .enabled (List.replicate 8 ⟨90000, 10⟩) = .ok a ∧
      Estimator.observeAll .enabled (List.replicate 8 ⟨90000, 3⟩) = .ok b ∧
      ∀ pa pb, a.syncedNsAt 107 = some pa → b.syncedNsAt 100 = some pb →
        |(pa.toNat : Int) - pb.toNat| ≤ 1 := by
  have each : ∀ packet ∈ List.replicate 8 ((90000, 10, 3) : U128 × U64 × U64),
      packet = (90000, 10, 3) := fun _ member => List.eq_of_mem_replicate member
  obtain ⟨a, b, aObserved, bObserved, agree⟩ := estimators_agree .enabled
    (List.replicate 8 (90000, 10, 3)) 7 0 (by decide)
    (fun packet member => by
      rw [each packet member]
      decide)
    (fun packet member => by
      rw [each packet member]
      decide)
  exact ⟨a, b, aObserved, bObserved, fun pa pb => agree 107 100 pa pb (by decide)⟩

end EspClockSync
