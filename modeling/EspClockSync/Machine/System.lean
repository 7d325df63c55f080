import EspClockSync.Machine.Checked

/-!
# Runs of stepwise systems

A system has an initial state and a step function that may stop instead of
returning a next state. A run is a list of actions all of whose steps return.
What holds at first and is kept by every step of a run holds after every run;
a system can be observed by a record that grows with every step without
changing its runs.
-/

namespace Machine

/-- A state machine whose steps may stop. -/
structure System (σ α ε : Type) where
  /-- The state before any action. -/
  start : σ
  /-- The state after one action. -/
  step : σ → α → Except ε σ

namespace System

variable {σ α ε : Type}

/-- The state after these actions, if none of them stops. -/
def run (system : System σ α ε) (actions : List α) : Except ε σ :=
  actions.foldlM system.step system.start

/-- No action leaves the initial state. -/
@[simp] theorem run_nil (system : System σ α ε) : system.run [] = .ok system.start := rfl

/-- A run with one more action is a run and then that action. -/
theorem run_concat (system : System σ α ε) (actions : List α) (action : α) :
    system.run (actions ++ [action]) =
      system.run actions >>= fun state => system.step state action :=
  foldlM_concat system.step system.start actions action

/-- A run with one more action went through the state before it. -/
theorem run_concat_ok {system : System σ α ε} {actions : List α} {action : α} {state : σ}
    (reached : system.run (actions ++ [action]) = .ok state) :
    ∃ before, system.run actions = .ok before ∧ system.step before action = .ok state :=
  foldlM_concat_ok reached

/-- A run with more actions has gone through the state before them. -/
theorem run_append_ok {system : System σ α ε} {actions more : List α} {state : σ}
    (reached : system.run (actions ++ more) = .ok state) :
    ∃ before, system.run actions = .ok before := by
  unfold run at reached ⊢
  rw [List.foldlM_append] at reached
  obtain ⟨before, earlier, _⟩ := bind_eq_ok reached
  exact ⟨before, earlier⟩

/-- Induction along a run: what holds initially and is kept by every step taken
from a reached state holds of every run. -/
theorem run_induction {system : System σ α ε} {motive : List α → σ → Prop}
    (start : motive [] system.start)
    (step : ∀ actions before action after, system.run actions = .ok before →
      motive actions before → system.step before action = .ok after →
      motive (actions ++ [action]) after)
    {actions : List α} {state : σ} (reached : system.run actions = .ok state) :
    motive actions state :=
  foldlM_induction start step reached

/-- A view under which every step is a step of another system turns runs into runs. -/
theorem run_of_simulation {τ : Type} {system : System σ α ε} (abstract : System τ α ε)
    (view : σ → τ) (start : view system.start = abstract.start)
    (step : ∀ before action after, system.step before action = .ok after →
      abstract.step (view before) action = .ok (view after))
    {actions : List α} {state : σ} (reached : system.run actions = .ok state) :
    abstract.run actions = .ok (view state) := by
  refine run_induction (motive := fun actions state => abstract.run actions = .ok (view state))
    (by rw [run_nil, start]) (fun actions before action after _ simulated stepped => ?_) reached
  rw [run_concat, simulated]
  exact step before action after stepped

/-- What holds of every action of a run at the state it is taken in. -/
def EachStep (system : System σ α ε) (holds : σ → α → Prop) (actions : List α) : Prop :=
  ∀ earlier action, earlier ++ [action] <+: actions →
    ∀ state, system.run earlier = .ok state → holds state action

/-- Nothing happens in an empty run. -/
theorem eachStep_nil (system : System σ α ε) (holds : σ → α → Prop) :
    system.EachStep holds [] := by
  intro earlier action part
  have empty := List.prefix_nil.mp part
  simp at empty

/-- A run with one more action adds that action at the state reached. -/
theorem eachStep_concat {system : System σ α ε} {holds : σ → α → Prop} {actions : List α}
    {action : α} {state : σ} (reached : system.run actions = .ok state) :
    system.EachStep holds (actions ++ [action]) ↔
      system.EachStep holds actions ∧ holds state action := by
  constructor
  · intro each
    exact ⟨fun earlier next part => each earlier next (part.trans (List.prefix_append _ _)),
      each actions action (List.prefix_refl _) state reached⟩
  · rintro ⟨each, last⟩ earlier next part before ran
    rcases List.prefix_concat_iff.mp part with same | part
    · obtain ⟨rfl, rfl⟩ := List.append_singleton_inj.mp same
      obtain rfl := Except.ok.inj (reached.symm.trans ran)
      exact last
    · exact each earlier next part before ran

/-- What holds of every action from this state on, computed step by step. -/
def Along (system : System σ α ε) (holds : σ → α → Prop) : σ → List α → Prop
  | _, [] => True
  | state, action :: rest =>
    holds state action ∧ match system.step state action with
      | .ok next => system.Along holds next rest
      | .error _ => True

instance decidableAlong (system : System σ α ε) (holds : σ → α → Prop)
    [∀ state action, Decidable (holds state action)] :
    ∀ state actions, Decidable (system.Along holds state actions)
  | _, [] => inferInstanceAs (Decidable True)
  | state, action :: rest =>
    let _after : Decidable (match system.step state action with
        | .ok next => system.Along holds next rest
        | .error _ => True) :=
      match system.step state action with
      | .ok next => system.decidableAlong holds next rest
      | .error _ => inferInstanceAs (Decidable True)
    inferInstanceAs (Decidable (_ ∧ _))

/-- What is computed from a state holds of an action after any steps from it. -/
theorem holds_of_along {system : System σ α ε} {holds : σ → α → Prop} {earlier rest : List α}
    {action : α} {first state : σ} (along : system.Along holds first (earlier ++ action :: rest))
    (ran : earlier.foldlM system.step first = .ok state) : holds state action := by
  induction earlier generalizing first with
  | nil =>
    obtain rfl := Except.ok.inj ran
    exact along.1
  | cons before between ih =>
    obtain ⟨next, stepped, ran⟩ := bind_eq_ok ran
    have after := along.2
    rw [stepped] at after
    exact ih after ran

/-- What is computed along the actions of a run holds of each of them. -/
theorem eachStep_of_along {system : System σ α ε} {holds : σ → α → Prop} {actions : List α}
    (along : system.Along holds system.start actions) : system.EachStep holds actions := by
  rintro earlier action ⟨rest, rfl⟩ state ran
  rw [List.append_assoc] at along
  exact holds_of_along along ran

/-! ## Observation -/

variable {η : Type}

/-- The system together with a log that every step extends by what it did. -/
def observed (system : System σ α ε) (effects : σ → α → List η) :
    System (σ × List η) α ε where
  start := (system.start, [])
  step state action :=
    (system.step state.1 action).map fun next => (next, state.2 ++ effects state.1 action)

/-- A step of the observed system is a step of the system and its effects. -/
theorem observed_step_ok {system : System σ α ε} {effects : σ → α → List η}
    {before after : σ × List η} {action : α}
    (stepped : (system.observed effects).step before action = .ok after) :
    system.step before.1 action = .ok after.1 ∧
      after.2 = before.2 ++ effects before.1 action := by
  cases next : system.step before.1 action with
  | error stop =>
    simp only [observed, next, Except.map] at stepped
    contradiction
  | ok state =>
    simp only [observed, next, Except.map, Except.ok.injEq] at stepped
    subst stepped
    exact ⟨rfl, rfl⟩

/-- Observation does not change which states are reached. -/
theorem run_of_observed {system : System σ α ε} {effects : σ → α → List η} {actions : List α}
    {state : σ × List η} (reached : (system.observed effects).run actions = .ok state) :
    system.run actions = .ok state.1 := by
  refine run_induction (motive := fun actions state => system.run actions = .ok state.1) rfl
    (fun actions before action after _ same stepped => ?_) reached
  rw [run_concat, same]
  exact (observed_step_ok stepped).1

/-- What a run has logged stays logged. -/
theorem log_prefix_of_append {system : System σ α ε} {effects : σ → α → List η}
    {actions more : List α} {state : σ × List η}
    (reached : (system.observed effects).run (actions ++ more) = .ok state) :
    ∃ before, (system.observed effects).run actions = .ok before ∧ before.2 <+: state.2 := by
  induction more using List.reverseRecOn generalizing state with
  | nil =>
    rw [List.append_nil] at reached
    exact ⟨state, reached, List.prefix_refl _⟩
  | append_singleton more action ih =>
    rw [← List.append_assoc] at reached
    obtain ⟨between, ran, stepped⟩ := run_concat_ok reached
    obtain ⟨before, earlier, logged⟩ := ih ran
    refine ⟨before, earlier, logged.trans ?_⟩
    rw [(observed_step_ok stepped).2]
    exact List.prefix_append _ _

/-- Every run has its log. -/
theorem observed_of_run {system : System σ α ε} (effects : σ → α → List η) {actions : List α}
    {state : σ} (reached : system.run actions = .ok state) :
    ∃ log, (system.observed effects).run actions = .ok (state, log) := by
  refine run_induction
    (motive := fun actions state => ∃ log, (system.observed effects).run actions = .ok (state, log))
    ⟨[], rfl⟩ (fun actions before action after _ logged stepped => ?_) reached
  obtain ⟨log, same⟩ := logged
  refine ⟨log ++ effects before action, ?_⟩
  rw [run_concat, same]
  change (system.step before action).map _ = _
  rw [stepped]
  rfl

/-- A log of what is made of other effects is made of their log. -/
theorem run_observed_map {κ : Type} {system : System σ α ε} {effects : σ → α → List η}
    {images : σ → α → List κ} (image : η → κ)
    (same : ∀ state action, images state action = (effects state action).map image)
    {actions : List α} {state : σ × List η}
    (reached : (system.observed effects).run actions = .ok state) :
    (system.observed images).run actions = .ok (state.1, state.2.map image) := by
  refine run_of_simulation (system.observed images) (fun state => (state.1, state.2.map image)) rfl
    (fun before action after stepped => ?_) reached
  obtain ⟨taken, logged⟩ := observed_step_ok stepped
  simp only [observed, taken, Except.map, same, logged, List.map_append]

/-! ## Refinement with stuttering -/

/-- What holds of every effect of every step holds of everything logged. -/
theorem forall_of_observed {system : System σ α ε} {effects : σ → α → List η} {holds : η → Prop}
    (each : ∀ state action, ∀ effect ∈ effects state action, holds effect) {actions : List α}
    {state : σ × List η} (reached : (system.observed effects).run actions = .ok state) :
    ∀ effect ∈ state.2, holds effect := by
  refine run_induction (motive := fun _ state => ∀ effect ∈ state.2, holds effect)
    (fun _ member => absurd member List.not_mem_nil)
    (fun _ before action after _ logged stepped effect member => ?_) reached
  rw [(observed_step_ok stepped).2] at member
  rcases List.mem_append.mp member with earlier | now
  · exact logged effect earlier
  · exact each before.1 action effect now

/-- A view under which every step is a run of an abstract system, of no step, one or several,
turns runs into runs of the actions that the log collects. -/
theorem run_of_stuttering {τ : Type} {system : System σ α ε} (abstract : System τ η ε)
    (view : σ → τ) (image : σ → α → List η) (start : view system.start = abstract.start)
    (step : ∀ before action after, system.step before action = .ok after →
      (image before action).foldlM abstract.step (view before) = .ok (view after))
    {actions : List α} {state : σ × List η}
    (reached : (system.observed image).run actions = .ok state) :
    abstract.run state.2 = .ok (view state.1) := by
  refine run_induction (motive := fun _ state => abstract.run state.2 = .ok (view state.1))
    (by exact congrArg Except.ok start.symm)
    (fun _ before action after _ simulated stepped => ?_) reached
  obtain ⟨taken, logged⟩ := observed_step_ok stepped
  unfold run at simulated ⊢
  rw [logged, List.foldlM_append, simulated]
  exact step before.1 action after.1 taken

end System

end Machine
