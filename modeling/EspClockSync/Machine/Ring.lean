import Mathlib

/-!
# Overwriting ring buffers

A ring of a fixed capacity overwrites its oldest element once it is full. The
abstract reading of a ring is the history of everything pushed into it: the
occupied slots are the last `capacity` elements of that history, rotated by the
write position. Every fold over the slots that does not depend on the order is
therefore a fold over the end of the history.
-/

namespace Machine

/-- A fixed number of slots with a write position and an occupancy count. -/
structure Ring (α : Type) (capacity : Nat) where
  /-- The slots, `none` until first written. -/
  samples : Vector (Option α) capacity
  /-- The slot the next push writes; never out of bounds. -/
  head : Fin capacity
  /-- The number of occupied slots. -/
  n : Nat

/-- The last `capacity` elements of a history, oldest first. -/
def window {α : Type} (capacity : Nat) (history : List α) : List α :=
  history.drop (history.length - capacity)

namespace Ring

variable {α : Type} {capacity : Nat}

/-- The ring nothing has been pushed into. -/
def empty (positive : 0 < capacity) : Ring α capacity where
  samples := Vector.replicate capacity none
  head := ⟨0, positive⟩
  n := 0

/-- Write at the head, advance it modulo the capacity, count until full. -/
def push (ring : Ring α capacity) (value : α) : Ring α capacity where
  samples := ring.samples.set ring.head (some value)
  head := ⟨(ring.head + 1) % capacity, Nat.mod_lt _ (Nat.zero_lt_of_lt ring.head.isLt)⟩
  n := if ring.n < capacity then ring.n + 1 else ring.n

/-- The values of the occupied slots in slot order: `samples.iter().flatten()`. -/
def occupied (ring : Ring α capacity) : List α := ring.samples.toList.reduceOption

/-- How a ring stores a history: the slots before the head hold the `recent` end,
the slots from the head on hold the `older` elements before it, and the rest are
free. Only a full ring holds older elements or has forgotten any. -/
structure Holds (ring : Ring α capacity) (history forgotten older recent : List α)
    (free : Nat) : Prop where
  /-- The history in order of arrival. -/
  arrival : history = forgotten ++ older ++ recent
  /-- The slots in order of position. -/
  slots : ring.samples.toList = (recent ++ older).map some ++ List.replicate free none
  /-- The head separates recent from older elements. -/
  head : (ring.head : Nat) = recent.length
  /-- The count is the number of stored elements. -/
  count : ring.n = recent.length + older.length
  /-- Every slot is accounted for. -/
  total : recent.length + older.length + free = capacity
  /-- A ring with a free slot has kept its whole history in order. -/
  filling : 0 < free → older = [] ∧ forgotten = []

/-- The empty ring holds the empty history. -/
theorem empty_holds (positive : 0 < capacity) :
    (empty positive : Ring α capacity).Holds [] [] [] [] capacity where
  arrival := rfl
  slots := by simp [empty]
  head := rfl
  count := rfl
  total := by simp
  filling _ := ⟨rfl, rfl⟩

/-- A ring never has its head past the last stored slot. -/
theorem Holds.head_lt {ring : Ring α capacity} {history forgotten older recent : List α}
    {free : Nat} (holds : ring.Holds history forgotten older recent free) :
    recent.length < capacity := holds.head ▸ ring.head.isLt

/-- A push advances the head, around the end. -/
theorem Holds.push_head {ring : Ring α capacity} {history forgotten older recent : List α}
    {free : Nat} (holds : ring.Holds history forgotten older recent free) (value : α) :
    ((ring.push value).head : Nat) = (recent.length + 1) % capacity := by
  simp [Ring.push, holds.head]

/-- A push writes the slot after the recent elements. -/
theorem Holds.push_slots {ring : Ring α capacity} {history forgotten older recent : List α}
    {free : Nat} (holds : ring.Holds history forgotten older recent free) (value : α) :
    (ring.push value).samples.toList =
      ((recent ++ older).map some ++ List.replicate free none).set recent.length (some value) := by
  simp only [Ring.push, Vector.toList_set, holds.slots, holds.head]

/-- A push into a ring with free slots fills one of them; when it was the last slot,
the head wraps and everything stored is older. -/
theorem Holds.push_filling {ring : Ring α capacity} {history forgotten recent : List α}
    {free : Nat} (holds : ring.Holds history forgotten [] recent (free + 1)) (value : α) :
    ∃ older' recent', (ring.push value).Holds (history ++ [value]) [] older' recent' free := by
  have inside := holds.head_lt
  have total := holds.total
  have headNext := holds.push_head value
  have nothing := (holds.filling (Nat.succ_pos free)).2
  simp only [List.length_nil, Nat.add_zero] at total
  have stored : (ring.push value).samples.toList =
      (recent ++ [value]).map some ++ List.replicate free none := by
    rw [holds.push_slots value]
    simp [List.replicate_succ]
  have counted : (ring.push value).n = recent.length + 1 := by
    simp only [Ring.push, holds.count, List.length_nil, Nat.add_zero]
    rw [if_pos inside]
  by_cases wraps : recent.length + 1 = capacity
  · refine ⟨recent ++ [value], [], ⟨?_, ?_, ?_, ?_, ?_, ?_⟩⟩
    · simp [holds.arrival, nothing]
    · simpa using stored
    · simp [headNext, wraps]
    · simp [counted]
    · simp only [List.length_nil, List.length_append, List.length_cons]
      omega
    · omega
  · refine ⟨[], recent ++ [value], ⟨?_, ?_, ?_, ?_, ?_, fun _ => ⟨rfl, rfl⟩⟩⟩
    · simp [holds.arrival, nothing]
    · simpa using stored
    · rw [headNext, Nat.mod_eq_of_lt (by omega)]
      simp
    · simp [counted]
    · simp only [List.length_nil, List.length_append, List.length_cons]
      omega

/-- A push into a full ring forgets the oldest element; when the last older element
goes, the head wraps and everything stored is older again. -/
theorem Holds.push_full {ring : Ring α capacity} {history forgotten older recent : List α}
    {oldest : α} (holds : ring.Holds history forgotten (oldest :: older) recent 0) (value : α) :
    ∃ older' recent',
      (ring.push value).Holds (history ++ [value]) (forgotten ++ [oldest]) older' recent' 0 := by
  have total := holds.total
  have headNext := holds.push_head value
  simp only [List.length_cons, Nat.add_zero] at total
  have stored : (ring.push value).samples.toList =
      (recent ++ [value] ++ older).map some := by
    rw [holds.push_slots value]
    simp
  have counted : (ring.push value).n = capacity := by
    simp only [Ring.push, holds.count, List.length_cons]
    rw [if_neg (by omega)]
    omega
  by_cases wraps : recent.length + 1 = capacity
  · have last : older = [] := List.eq_nil_of_length_eq_zero (by omega)
    subst last
    refine ⟨recent ++ [value], [], ⟨?_, ?_, ?_, ?_, ?_, ?_⟩⟩
    · simp [holds.arrival]
    · simpa using stored
    · simp [headNext, wraps]
    · simp only [counted, List.length_nil, List.length_append, List.length_cons]
      omega
    · simp only [List.length_nil, List.length_append, List.length_cons]
      omega
    · omega
  · refine ⟨older, recent ++ [value], ⟨?_, ?_, ?_, ?_, ?_, ?_⟩⟩
    · simp [holds.arrival]
    · simpa using stored
    · rw [headNext, Nat.mod_eq_of_lt (by omega)]
      simp
    · simp only [counted, List.length_append, List.length_cons, List.length_nil]
      omega
    · simp only [List.length_append, List.length_cons, List.length_nil]
      omega
    · omega

/-- One push is stored: into a free slot while filling, over the oldest element
when full. -/
theorem Holds.push {ring : Ring α capacity} {history forgotten older recent : List α}
    {free : Nat} (holds : ring.Holds history forgotten older recent free) (value : α) :
    ∃ forgotten' older' recent' free',
      (ring.push value).Holds (history ++ [value]) forgotten' older' recent' free' := by
  cases older with
  | nil =>
    cases free with
    | zero =>
      -- With nothing older, `recent` alone cannot fill the ring.
      have inside := holds.head_lt
      have total := holds.total
      simp only [List.length_nil, Nat.add_zero] at total
      omega
    | succ rest =>
      obtain ⟨older', recent', next⟩ := holds.push_filling value
      exact ⟨[], older', recent', rest, next⟩
  | cons oldest older =>
    cases free with
    | zero =>
      obtain ⟨older', recent', next⟩ := holds.push_full value
      exact ⟨forgotten ++ [oldest], older', recent', 0, next⟩
    | succ rest =>
      -- A ring with a free slot has nothing older.
      have nothing := (holds.filling (Nat.succ_pos rest)).1
      contradiction

/-- The ring after a whole history. -/
def ofHistory (positive : 0 < capacity) (history : List α) : Ring α capacity :=
  history.foldl push (empty positive)

/-- One more element is one more push. -/
theorem ofHistory_concat (positive : 0 < capacity) (history : List α) (value : α) :
    ofHistory positive (history ++ [value]) = (ofHistory positive history).push value := by
  simp [ofHistory]

/-- Every history is stored. -/
theorem ofHistory_holds (positive : 0 < capacity) (history : List α) :
    ∃ forgotten older recent free,
      (ofHistory positive history).Holds history forgotten older recent free := by
  induction history using List.reverseRecOn with
  | nil => exact ⟨_, _, _, _, empty_holds positive⟩
  | append_singleton history value ih =>
    obtain ⟨_, _, _, _, holds⟩ := ih
    rw [ofHistory_concat]
    exact holds.push value

/-- The occupied slots are the recent elements, then the older ones. -/
theorem Holds.occupied_eq {ring : Ring α capacity} {history forgotten older recent : List α}
    {free : Nat} (holds : ring.Holds history forgotten older recent free) :
    ring.occupied = recent ++ older := by
  unfold occupied
  rw [holds.slots]
  simp [List.reduceOption, List.filterMap_append, List.filterMap_map]

/-- The window of the history is the older elements, then the recent ones. -/
theorem Holds.window_eq {ring : Ring α capacity} {history forgotten older recent : List α}
    {free : Nat} (holds : ring.Holds history forgotten older recent free) :
    window capacity history = older ++ recent := by
  have total := holds.total
  by_cases full : free = 0
  · have size : history.length - capacity = forgotten.length := by
      rw [holds.arrival]
      simp only [List.length_append]
      omega
    rw [window, size, holds.arrival, List.append_assoc, List.drop_left]
  · obtain ⟨older', forgotten'⟩ := holds.filling (by omega)
    subst older' forgotten'
    have size : history.length - capacity = 0 := by
      rw [holds.arrival]
      simp only [List.nil_append]
      omega
    rw [window, size, holds.arrival]
    rfl

end Ring

/-- A window is as long as the history, up to the capacity. -/
theorem window_length {α : Type} (capacity : Nat) (history : List α) :
    (window capacity history).length = min history.length capacity := by
  simp only [window, List.length_drop]
  omega

/-- A window is no longer than the capacity. -/
theorem window_length_le {α : Type} (capacity : Nat) (history : List α) :
    (window capacity history).length ≤ capacity := by
  rw [window_length]
  exact Nat.min_le_right _ _

/-- A history within the capacity is its own window. -/
theorem window_of_length_le {α : Type} {capacity : Nat} {history : List α}
    (short : history.length ≤ capacity) : window capacity history = history := by
  simp [window, Nat.sub_eq_zero_of_le short]

/-- Enough later elements push everything earlier out of the window. -/
theorem window_append_of_le {α : Type} {capacity : Nat} (earlier : List α) {later : List α}
    (enough : capacity ≤ later.length) :
    window capacity (earlier ++ later) = window capacity later := by
  simp only [window, List.length_append]
  rw [List.drop_append, List.drop_eq_nil_of_le (by omega), List.nil_append]
  congr 1
  omega

/-- Elements of a window come from the history. -/
theorem mem_of_mem_window {α : Type} {capacity : Nat} {history : List α} {value : α}
    (member : value ∈ window capacity history) : value ∈ history :=
  List.mem_of_mem_drop member

/-- One more element is in the window. -/
theorem mem_window_concat_self {α : Type} {capacity : Nat} (positive : 0 < capacity)
    (history : List α) (value : α) : value ∈ window capacity (history ++ [value]) := by
  unfold window
  rw [List.drop_append_of_le_length (by
    rw [List.length_append, List.length_singleton]
    omega)]
  exact List.mem_append_right _ List.mem_cons_self

/-- The other elements of the window were in the window before. -/
theorem mem_window_of_mem_concat {α : Type} {capacity : Nat} {history : List α} {last value : α}
    (member : value ∈ window capacity (history ++ [last])) :
    value ∈ window capacity history ∨ value = last := by
  unfold window at member ⊢
  rw [List.drop_append] at member
  rcases List.mem_append.mp member with held | new
  · left
    refine List.drop_subset_drop_left history ?_ held
    rw [List.length_append]
    omega
  · right
    exact List.mem_singleton.mp (List.mem_of_mem_drop new)

/-- A full window gives up its oldest element for one more. -/
theorem window_concat {α : Type} {capacity : Nat} {history : List α} (value : α)
    (full : capacity ≤ history.length) (positive : 0 < capacity) :
    window capacity (history ++ [value]) = (window capacity history ++ [value]).drop 1 := by
  have behind : history.length - capacity + 1 = history.length + 1 - capacity := by omega
  unfold window
  rw [← List.drop_append_of_le_length (by omega), List.drop_drop, behind, List.length_append,
    List.length_singleton]

/-- Windows commute with a change of representation. -/
theorem window_map {α β : Type} (f : α → β) (capacity : Nat) (history : List α) :
    window capacity (history.map f) = (window capacity history).map f := by
  simp [window, List.map_drop]

namespace Ring

variable {α : Type} {capacity : Nat}

/-- The occupied slots are the window of the history, in another order. -/
theorem occupied_perm (positive : 0 < capacity) (history : List α) :
    (ofHistory positive history).occupied.Perm (window capacity history) := by
  obtain ⟨_, older, recent, _, holds⟩ := ofHistory_holds positive history
  rw [holds.occupied_eq, holds.window_eq]
  exact List.perm_append_comm

/-- Before the ring is full its slots are in order of arrival. -/
theorem occupied_of_length_lt (positive : 0 < capacity) {history : List α}
    (short : history.length < capacity) : (ofHistory positive history).occupied = history := by
  obtain ⟨forgotten, older, recent, free, holds⟩ := ofHistory_holds positive history
  have size := congrArg List.length holds.arrival
  simp only [List.length_append] at size
  have total := holds.total
  obtain ⟨rfl, rfl⟩ := holds.filling (by omega)
  rw [holds.occupied_eq, holds.arrival]
  simp

/-- The count is the length of the window. -/
theorem ofHistory_n (positive : 0 < capacity) (history : List α) :
    (ofHistory positive history).n = (window capacity history).length := by
  obtain ⟨_, older, recent, _, holds⟩ := ofHistory_holds positive history
  rw [holds.count, holds.window_eq, List.length_append]
  exact Nat.add_comm _ _

end Ring

end Machine
