import EspClockSync.Verif.CaptureUnwrap

/-!
# Interleaved software captures

A call reads the register before its loop, so calls may commit in another order than
they latched. A commit is exact when the timer has advanced by less than a wrap since
the latch of the call committed before it, and only then.
-/

namespace EspClockSync

open Machine

namespace McpwmCap

variable {κ : Type} [DecidableEq κ]

/-- The timing of a run: the timer never goes back, a latch follows the one before it, or
the start, within a wrap, and a commit follows its own latch within a wrap. -/
def Timely (state : Captures κ × CaptureHistory) : CaptureStep κ → Prop
  | .latch _ timer =>
    state.2.now ≤ timer.toNat ∧ state.2.lastLatch ≤ timer.toNat ∧
      timer.toNat < state.2.lastLatch + 2 ^ 32
  | .commit context timer =>
    state.2.now ≤ timer.toNat ∧
      ∀ latched ∈ state.1.latched context, timer.toNat < latched.toNat + 2 ^ 32

/-- A commit in order: its call has latched no earlier than the one committed before it,
and within a wrap of it. -/
def InOrder (state : Captures κ × CaptureHistory) : CaptureStep κ → Prop
  | .latch _ _ => True
  | .commit context _ =>
    ∀ latched ∈ state.1.latched context,
      state.2.lastCommitted ≤ latched.toNat ∧ latched.toNat < state.2.lastCommitted + 2 ^ 32

instance decidableTimely (state : Captures κ × CaptureHistory) :
    ∀ action, Decidable (Timely state action)
  | .latch _ _ => inferInstanceAs (Decidable (_ ∧ _ ∧ _))
  | .commit context _ => @instDecidableAnd _ _ inferInstance
      (Option.decidableForallMem (state.1.latched context))

instance decidableInOrder (state : Captures κ × CaptureHistory) :
    ∀ action, Decidable (InOrder state action)
  | .latch _ _ => inferInstanceAs (Decidable True)
  | .commit context _ => Option.decidableForallMem (state.1.latched context)

/-- Every call that returned has returned the timer it latched. -/
def ReturnOwn (history : CaptureHistory) : Prop :=
  ∀ call ∈ history.returned, call.2 = call.1

/-- The outcomes of a step. -/
inductive Stepped (before : Captures κ × CaptureHistory) :
    CaptureStep κ → Captures κ × CaptureHistory → Prop where
  /-- A call latches the timer. -/
  | latched (context : κ) (timer : U64) (idle : before.1.latched context = none) :
      Stepped before (.latch context timer)
        ({ before.1 with latched := Function.update before.1.latched context (some timer) },
          { before.2 with now := timer.toNat, lastLatch := timer.toNat })
  /-- A call commits what it latched. -/
  | committed (context : κ) (timer latched : U64) (pending : before.1.latched context = some latched) :
      Stepped before (.commit context timer)
        (⟨newPacked before.1.packed (rawOf latched), Function.update before.1.latched context none⟩,
          { before.2 with
            now := timer.toNat
            lastCommitted := latched.toNat
            returned := before.2.returned ++ [(latched, newPacked before.1.packed (rawOf latched))] })

/-- **Inversion.** A step latches or commits. -/
theorem stepped_of_step {before after : Captures κ × CaptureHistory} {action : CaptureStep κ}
    (returned : (capturing κ).step before action = .ok after) : Stepped before action after := by
  cases action with
  | latch context timer =>
    cases idle : before.1.latched context with
    | none =>
      simp only [capturing, idle, Option.isSome_none, Bool.false_eq_true, if_false] at returned
      rw [← Except.ok.inj returned]
      exact .latched context timer idle
    | some latched =>
      simp only [capturing, idle, Option.isSome_some, if_true] at returned
      contradiction
  | commit context timer =>
    cases pending : before.1.latched context with
    | none =>
      simp only [capturing, pending] at returned
      contradiction
    | some latched =>
      simp only [capturing, pending] at returned
      rw [← Except.ok.inj returned]
      exact .committed context timer latched pending

/-- **Simulation.** A round of the loop that succeeds is the commit of its call, whatever
word the call had loaded before, and what it stores is what the call returns. -/
theorem commit_of_exchange {before : Captures κ × CaptureHistory} {context : κ}
    {latched packed committed : U64} (timer : U64) (pending : before.1.latched context = some latched)
    (succeeds : exchange before.1.packed packed (rawOf latched) = some committed) :
    ∃ after, (capturing κ).step before (.commit context timer) = .ok after ∧
      after.1.packed = committed ∧
      after.2.returned = before.2.returned ++ [(latched, committed)] := by
  obtain ⟨_, rfl⟩ := exchange_eq_some_iff.mp succeeds
  simp [capturing, pending]

/-- Nothing latched or committed lies ahead of the timer. -/
structure Behind (state : Captures κ × CaptureHistory) : Prop where
  /-- The call committed last has latched before. -/
  committed : state.2.lastCommitted ≤ state.2.now
  /-- So have the calls under way. -/
  pending : ∀ context latched, state.1.latched context = some latched → latched.toNat ≤ state.2.now

/-- A timely step keeps everything behind the timer. -/
theorem Stepped.behind {before after : Captures κ × CaptureHistory} {action : CaptureStep κ}
    (stepped : Stepped before action after) (held : Behind before) (timely : Timely before action) :
    Behind after := by
  cases stepped with
  | latched context timer idle =>
    obtain ⟨forward, _⟩ := timely
    refine ⟨held.committed.trans forward, fun other latched pending => ?_⟩
    dsimp only at pending
    by_cases same : other = context
    · rw [same, Function.update_self] at pending
      rw [Option.some.inj pending]
    · rw [Function.update_of_ne same] at pending
      exact (held.pending other latched pending).trans forward
  | committed context timer latched pending =>
    obtain ⟨forward, _⟩ := timely
    refine ⟨(held.pending context latched pending).trans forward, fun other kept still => ?_⟩
    dsimp only at still
    by_cases same : other = context
    · rw [same, Function.update_self] at still
      contradiction
    · rw [Function.update_of_ne same] at still
      exact (held.pending other kept still).trans forward

/-- A capture against a word that is not ahead of the timer returns its own timer exactly
when it is in order with that word. -/
theorem newPacked_eq_iff {packed latched : U64} {now : Nat} (before : packed.toNat ≤ now)
    (recent : now < latched.toNat + 2 ^ 32) :
    newPacked packed (rawOf latched) = latched ↔
      packed.toNat ≤ latched.toNat ∧ latched.toNat < packed.toNat + 2 ^ 32 := by
  have range := packed.isLt
  rw [BitVec.toNat_eq, newPacked_toNat]
  split
  · omega
  · omega

/-- While every call has returned its own timer, the shared word is the timer committed last. -/
def Exact (state : Captures κ × CaptureHistory) : Prop :=
  ReturnOwn state.2 → state.1.packed.toNat = state.2.lastCommitted

/-- A timely step keeps the word exact, and returns own timers only in order. -/
theorem Stepped.returnOwn_iff {before after : Captures κ × CaptureHistory}
    {action : CaptureStep κ} (stepped : Stepped before action after) (behind : Behind before)
    (exact_word : Exact before) (timely : Timely before action) :
    Exact after ∧ (ReturnOwn after.2 ↔ ReturnOwn before.2 ∧ InOrder before action) := by
  cases stepped with
  | latched context timer idle => exact ⟨exact_word, by simp [ReturnOwn, InOrder]⟩
  | committed context timer latched pending =>
    obtain ⟨forward, recent⟩ := timely
    have within := recent latched pending
    have grown : ReturnOwn { before.2 with
          now := timer.toNat
          lastCommitted := latched.toNat
          returned := before.2.returned ++ [(latched, newPacked before.1.packed (rawOf latched))] } ↔
        ReturnOwn before.2 ∧ newPacked before.1.packed (rawOf latched) = latched := by
      simp [ReturnOwn, or_imp, forall_and]
    refine ⟨fun own => congrArg BitVec.toNat (grown.mp own).2, ?_⟩
    rw [grown]
    apply and_congr_right
    intro own
    have word := exact_word own
    have behind_word : before.1.packed.toNat ≤ timer.toNat :=
      word ▸ behind.committed.trans forward
    have ordered := newPacked_eq_iff behind_word within
    rw [ordered, word]
    simp [InOrder, pending]

/-- **Interleaved captures.** In every timely run of any number of contexts, all calls
return the timer they latched exactly when every commit is in order: no earlier than the
latch of the call committed before it, and less than a wrap after it. -/
theorem sw_captures_return_own_iff {events : List (CaptureStep κ)}
    {state : Captures κ × CaptureHistory} (reached : (capturing κ).run events = .ok state)
    (timely : (capturing κ).EachStep Timely events) :
    ReturnOwn state.2 ↔ (capturing κ).EachStep InOrder events := by
  suffices held : Behind state ∧ Exact state ∧
      (ReturnOwn state.2 ↔ (capturing κ).EachStep InOrder events) from held.2.2
  refine System.run_induction (motive := fun events state => (capturing κ).EachStep Timely events →
    Behind state ∧ Exact state ∧ (ReturnOwn state.2 ↔ (capturing κ).EachStep InOrder events))
    ?_ (fun events before action after ran held returned timely => ?_) reached timely
  · intro _
    refine ⟨⟨le_refl _, fun _ _ pending => ?_⟩, fun _ => rfl, ?_⟩
    · contradiction
    · exact iff_of_true (fun _ member => absurd member List.not_mem_nil)
        (System.eachStep_nil _ InOrder)
  · rw [System.eachStep_concat ran] at timely
    obtain ⟨behind, exact_word, own⟩ := held timely.1
    have stepped := stepped_of_step returned
    obtain ⟨exact_after, grown⟩ := stepped.returnOwn_iff behind exact_word timely.2
    refine ⟨stepped.behind behind timely.2, exact_after, ?_⟩
    rw [grown, own, System.eachStep_concat ran]

/-- The contexts of the test firmware that take software captures. -/
inductive Caller where
  /-- `sw_capture_ch2_pub`, the beacon hook. -/
  | beaconHook
  /-- The pulser. -/
  | pulser
  /-- `debug_dump`. -/
  | debugDump
  deriving DecidableEq

/-- Two calls that latch one after the other and commit in that order. -/
def inTurn : List (CaptureStep Caller) :=
  [.latch .beaconHook 10, .latch .pulser 20, .commit .beaconHook 21, .commit .pulser 22]

/-- The same two calls, the second of which commits first. -/
def overtaken : List (CaptureStep Caller) :=
  [.latch .beaconHook 10, .latch .pulser 20, .commit .pulser 21, .commit .beaconHook 22]

/-- In turn, both calls return their own timers. -/
theorem sw_captures_in_turn :
    ∃ state, (capturing Caller).run inTurn = .ok state ∧ ReturnOwn state.2 := by
  have timely : (capturing Caller).EachStep Timely inTurn :=
    System.eachStep_of_along (by decide +kernel)
  have ordered : (capturing Caller).EachStep InOrder inTurn :=
    System.eachStep_of_along (by decide +kernel)
  exact ⟨_, rfl, (sw_captures_return_own_iff rfl timely).mpr ordered⟩

/-- A call that latched first and commits last returns a timer one wrap ahead. -/
theorem sw_captures_overtaken :
    ∃ state, (capturing Caller).run overtaken = .ok state ∧
      (capturing Caller).EachStep Timely overtaken ∧
      state.2.returned = [(20, 20), (10, 4294967306)] ∧ ¬ ReturnOwn state.2 := by
  have timely : (capturing Caller).EachStep Timely overtaken :=
    System.eachStep_of_along (by decide +kernel)
  refine ⟨_, rfl, timely, by decide, fun own => ?_⟩
  exact absurd (own (10, 4294967306) (by decide)) (by decide)

end McpwmCap

end EspClockSync
