import EspClockSync.Verif.MeterSteps

/-!
# What the meter searches

The search for an edge goes over the kept pulses of the other board. Those are the pulses
the board has sent, without the first ones, which fell four windows behind; what is outside
the window of an edge on either side does not change what the search finds.
-/

namespace EspClockSync

open Machine

namespace Meter

variable {checks : OverflowChecks} {root : U128 → U64} {settings : Settings}

/-! ## The search -/

/-- The difference between an edge and a pulse is an `i128` outside the window. -/
def Outside (checks : OverflowChecks) (settings : Settings) (rxSync txSync : U128) : Prop :=
  ∃ d, checks.i128 (rxSync.toInt - txSync.toInt) = .ok d ∧ settings.matchWindowNs < d.natAbs

/-- An empty history needs no case of its own. -/
theorem nearestTx_eq (rxSync : U128) (history : List U128) :
    nearestTx checks settings rxSync history = search checks settings rxSync none history := by
  cases history with
  | nil => rfl
  | cons txSync rest => rfl

/-- Pulses outside the window leave the search with what it has found. -/
theorem search_outside {rxSync : U128} (best : Option Int) {history : List U128}
    (outside : ∀ txSync ∈ history, Outside checks settings rxSync txSync) :
    search checks settings rxSync best history = .ok best := by
  induction history with
  | nil => rfl
  | cons txSync rest ih =>
    obtain ⟨d, difference, far⟩ := outside txSync List.mem_cons_self
    rw [search, difference, ok_bind]
    have skipped : ¬ (d.natAbs ≤ settings.matchWindowNs ∧ ∀ b ∈ best, d.natAbs < b.natAbs) :=
      fun closer => Nat.not_lt.mpr closer.1 far
    dsimp only
    rw [if_neg skipped]
    exact ih fun later member => outside later (List.mem_cons_of_mem _ member)

/-- The search goes through one part of the history and then the other. -/
theorem search_append (rxSync : U128) (best : Option Int) (history more : List U128) :
    search checks settings rxSync best (history ++ more) =
      search checks settings rxSync best history >>= fun found =>
        search checks settings rxSync found more := by
  induction history generalizing best with
  | nil => rfl
  | cons txSync rest ih =>
    rw [List.cons_append, search, search, bind_assoc]
    apply bind_congr
    intro d
    exact ih _

/-- Pulses outside the window around a history do not change what is found in it. -/
theorem nearestTx_between {rxSync : U128} {before history after : List U128}
    (first : ∀ txSync ∈ before, Outside checks settings rxSync txSync)
    (last : ∀ txSync ∈ after, Outside checks settings rxSync txSync) :
    nearestTx checks settings rxSync (before ++ history ++ after) =
      nearestTx checks settings rxSync history := by
  rw [nearestTx_eq, nearestTx_eq, search_append, search_append, search_outside none first, ok_bind]
  cases search checks settings rxSync none history with
  | error stop => rfl
  | ok found => exact search_outside found last

/-- A search that returns has subtracted every pulse, and keeps what it has found. -/
theorem search_ok {rxSync : U128} {history : List U128} {best found : Option Int}
    (returned : search checks settings rxSync best history = .ok found) :
    (best ≠ none → found ≠ none) ∧
      ∀ txSync ∈ history, found = none → Outside checks settings rxSync txSync := by
  induction history generalizing best with
  | nil =>
    obtain rfl := Except.ok.inj returned
    exact ⟨id, fun _ member => absurd member List.not_mem_nil⟩
  | cons txSync rest ih =>
    rw [search] at returned
    obtain ⟨d, difference, returned⟩ := bind_eq_ok returned
    obtain ⟨kept, later⟩ := ih returned
    have taken : d.natAbs ≤ settings.matchWindowNs → found ≠ none := by
      intro near
      apply kept
      split
      · simp
      · rename_i not_closer
        -- Within the window the search only passes over a pulse for one it already has.
        intro empty
        rw [empty] at not_closer
        exact not_closer ⟨near, by simp⟩
    constructor
    · intro had
      apply kept
      split
      · simp
      · exact had
    · intro other member nothing
      rcases List.mem_cons.mp member with rfl | behind
      · exact ⟨d, difference, Nat.lt_of_not_le fun near => taken near nothing⟩
      · exact later other behind nothing

/-! ## What the history keeps -/

/-- The board of an event. -/
def Event.device : Event → Device
  | .tx device _ _ _ => device
  | .rx device _ _ => device

/-- The time of an event. -/
def Event.syncedNs : Event → U128
  | .tx _ _ _ syncedNs => syncedNs
  | .rx _ _ syncedNs => syncedNs

/-- The times of the pulses of a board among these events. -/
def pulsesOf (device : Device) (events : List Event) : List U128 :=
  events.filterMap fun
    | .tx board _ _ syncedNs => if board = device then some syncedNs else none
    | .rx _ _ _ => none

theorem pulsesOf_append (device : Device) (events more : List Event) :
    pulsesOf device (events ++ more) = pulsesOf device events ++ pulsesOf device more :=
  List.filterMap_append

@[simp] theorem pulsesOf_concat_tx (device board : Device) (events : List Event) (mac : List Char)
    (seq : U32) (syncedNs : U128) :
    pulsesOf device (events ++ [.tx board mac seq syncedNs]) =
      pulsesOf device events ++ if board = device then [syncedNs] else [] := by
  rw [pulsesOf_append]
  by_cases same : board = device
  · simp [pulsesOf, same]
  · simp [pulsesOf, same]

@[simp] theorem pulsesOf_concat_rx (device board : Device) (events : List Event) (mac : List Char)
    (syncedNs : U128) :
    pulsesOf device (events ++ [.rx board mac syncedNs]) = pulsesOf device events := by
  rw [pulsesOf_append]
  exact List.append_nil _

/-- Where a pulse comes from. -/
theorem mem_pulsesOf {device : Device} {events : List Event} {txSync : U128} :
    txSync ∈ pulsesOf device events ↔ ∃ mac seq, .tx device mac seq txSync ∈ events := by
  unfold pulsesOf
  rw [List.mem_filterMap]
  constructor
  · rintro ⟨event, member, time⟩
    cases event with
    | rx board mac syncedNs => cases time
    | tx board mac seq syncedNs =>
      by_cases same : board = device
      · simp only [same, if_true, Option.some.injEq] at time
        subst same time
        exact ⟨mac, seq, member⟩
      · simp [same] at time
  · rintro ⟨mac, seq, member⟩
    exact ⟨_, member, by simp⟩

/-- The history of a board is what it has sent, without the first pulses, which are older
than another one by more than four windows. -/
def Kept (settings : Settings) (events : List Event) (meter : Matching) : Prop :=
  ∀ device, ∃ dropped, pulsesOf device events = dropped ++ meter.txHistory device ∧
    ∀ old ∈ dropped, ∃ recent ∈ pulsesOf device events,
      old.toNat < recent.toNat - settings.matchWindowNs * 4

/-- A pulse is kept at least until the next one. -/
theorem mem_pushTx_self (settings : Settings) (history : List U128) (syncedNs : U128) :
    syncedNs ∈ pushTx settings history syncedNs := by
  have kept : ¬ syncedNs.toNat < syncedNs.toNat - settings.matchWindowNs * 4 := by omega
  unfold pushTx
  dsimp only
  induction history with
  | nil => simp [kept]
  | cons first rest ih =>
    rw [List.cons_append, List.dropWhile_cons]
    split
    · exact ih
    · simp

/-- What a pulse drops from the history. -/
theorem pushTx_eq (settings : Settings) (history : List U128) (syncedNs : U128) :
    ∃ dropped, history ++ [syncedNs] = dropped ++ pushTx settings history syncedNs ∧
      ∀ old ∈ dropped, old.toNat < syncedNs.toNat - settings.matchWindowNs * 4 :=
  ⟨_, (List.takeWhile_append_dropWhile).symm, fun _ member => by
    simpa using List.mem_takeWhile_imp member⟩

/-- **Run.** The histories are what a run has kept. -/
theorem kept_of_run {events : List Event} {meter : Matching}
    (reached : (metering checks root settings).run events = .ok meter) :
    Kept settings events meter := by
  refine System.run_induction (motive := fun events meter => Kept settings events meter)
    (fun device => ⟨[], rfl, fun _ member => absurd member List.not_mem_nil⟩)
    (fun events before event after _ held stepped device => ?_) reached
  obtain ⟨dropped, whole, older⟩ := held device
  have still_older : ∀ old ∈ dropped, ∃ recent ∈ pulsesOf device (events ++ [event]),
      old.toNat < recent.toNat - settings.matchWindowNs * 4 := by
    intro old member
    obtain ⟨recent, sent, far⟩ := older old member
    rw [pulsesOf_append]
    exact ⟨recent, List.mem_append_left _ sent, far⟩
  cases received_of_receive stepped with
  | sent sender mac seq syncedNs =>
    by_cases same : sender = device
    · subst same
      obtain ⟨more, split, oldest⟩ := pushTx_eq settings (before.txHistory sender) syncedNs
      refine ⟨dropped ++ more, by simp [whole, split], fun old member => ?_⟩
      rcases List.mem_append.mp member with earlier | now
      · exact still_older old earlier
      · exact ⟨syncedNs, by simp, oldest old now⟩
    · have other : device ≠ sender := fun equal => same equal.symm
      exact ⟨dropped, by simp [whole, same, Function.update_of_ne other], still_older⟩
  | unmatched receiver mac syncedNs searched =>
    exact ⟨dropped, by simp [whole], still_older⟩
  | matched receiver mac syncedNs deltaNs stats searched recorded =>
    exact ⟨dropped, by simp [whole], still_older⟩

/-- A pulse that was dropped is outside the window. -/
theorem outside_of_dropped {rxSync old recent : U128} (rxRange : rxSync.toNat < 2 ^ 127)
    (older : old.toNat < recent.toNat - settings.matchWindowNs * 4)
    (early : recent.toNat ≤ rxSync.toNat + settings.matchWindowNs * 3) :
    Outside checks settings rxSync old := by
  have difference : rxSync.toInt - old.toInt = rxSync.toNat - old.toNat := by
    rw [toInt_of_lt rxSync (by omega), toInt_of_lt old (by omega)]
  refine ⟨rxSync.toNat - old.toNat, ?_, by omega⟩
  rw [difference]
  exact checks.i128_ok ⟨by omega, by omega⟩

/-- The pulses of a history have been sent. -/
theorem Kept.mem_of_mem {events : List Event} {meter : Matching} {device : Device} {txSync : U128}
    (kept : Kept settings events meter) (member : txSync ∈ meter.txHistory device) :
    txSync ∈ pulsesOf device events := by
  obtain ⟨dropped, whole, _⟩ := kept device
  rw [whole]
  exact List.mem_append_right _ member

end Meter

end EspClockSync
