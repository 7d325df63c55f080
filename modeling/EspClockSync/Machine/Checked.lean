import Mathlib

/-!
# Fixed-width integer arithmetic

Signed machine integers are mathematical integers kept in the range of their
width; unsigned ones are bit vectors when they are stored and naturals while an
expression is computed. A plain operator whose exact result leaves the range
either stops the program or wraps, as the build decides; every definition takes
that decision as a parameter, so a theorem about both decisions covers both
builds. Casts and saturating operators never stop.
-/

namespace Machine

/-- Why a computation stops without a result. -/
inductive Panic where
  /-- A checked operator left the range of its type. -/
  | overflow
  /-- A division by zero. -/
  | divideByZero
  /-- An index past the end of a slice. -/
  | outOfBounds
  /-- A branch the program declares impossible. -/
  | unreachable
  deriving DecidableEq, Repr

/-- Whether plain operators check their range, the `overflow-checks` of a build. -/
inductive OverflowChecks where
  /-- A result out of range stops the program. -/
  | enabled
  /-- A result out of range wraps. -/
  | disabled
  deriving DecidableEq, Repr

/-- A computation that returns a value or stops. -/
abbrev Checked (α : Type) := Except Panic α

/-- An unsigned 8-bit value. -/
abbrev U8 := BitVec 8
/-- An unsigned 16-bit value. -/
abbrev U16 := BitVec 16
/-- An unsigned 32-bit value. -/
abbrev U32 := BitVec 32
/-- An unsigned 64-bit value. -/
abbrev U64 := BitVec 64
/-- An unsigned 128-bit value. -/
abbrev U128 := BitVec 128

/-- The range of an `i64`. -/
def I64Fits (value : Int) : Prop := -2 ^ 63 ≤ value ∧ value < 2 ^ 63
/-- The range of an `i128`. -/
def I128Fits (value : Int) : Prop := -2 ^ 127 ≤ value ∧ value < 2 ^ 127

instance (value : Int) : Decidable (I64Fits value) :=
  inferInstanceAs (Decidable (_ ∧ _))
instance (value : Int) : Decidable (I128Fits value) :=
  inferInstanceAs (Decidable (_ ∧ _))

/-- Reduction to an `i64`: the cast `as i64` and the `i64` wrapping operators. -/
def wrapI64 (value : Int) : Int := value.bmod (2 ^ 64)
/-- Reduction to an `i128`. -/
def wrapI128 (value : Int) : Int := value.bmod (2 ^ 128)
/-- Saturation at the ends of the `i128` range. -/
def saturateI128 (value : Int) : Int := max (-2 ^ 127) (min value (2 ^ 127 - 1))

/-! ## Plain operators -/

namespace OverflowChecks

/-- The result of a plain `i64` operator with this exact value. -/
def i64 (checks : OverflowChecks) (value : Int) : Checked Int :=
  if I64Fits value then .ok value else
    match checks with
    | .enabled => .error .overflow
    | .disabled => .ok (wrapI64 value)

/-- The result of a plain `i128` operator with this exact value. -/
def i128 (checks : OverflowChecks) (value : Int) : Checked Int :=
  if I128Fits value then .ok value else
    match checks with
    | .enabled => .error .overflow
    | .disabled => .ok (wrapI128 value)

/-- The result of a plain unsigned operator of this width with this exact value. -/
def unsigned (checks : OverflowChecks) (width value : Nat) : Checked Nat :=
  if value < 2 ^ width then .ok value else
    match checks with
    | .enabled => .error .overflow
    | .disabled => .ok (value % 2 ^ width)

/-- The result of a plain unsigned subtraction of this width. -/
def unsignedSub (checks : OverflowChecks) (width left right : Nat) : Checked Nat :=
  if right ≤ left then .ok (left - right) else
    match checks with
    | .enabled => .error .overflow
    | .disabled => .ok (2 ^ width + left - right)

/-- A value in range is the result of its `i64` operator. -/
theorem i64_ok (checks : OverflowChecks) {value : Int} (fits : I64Fits value) :
    checks.i64 value = .ok value := if_pos fits

/-- A value in range is the result of its `i128` operator. -/
theorem i128_ok (checks : OverflowChecks) {value : Int} (fits : I128Fits value) :
    checks.i128 value = .ok value := if_pos fits

/-- A plain `i128` operator that returns has the reduction of its exact value. -/
theorem eq_wrapI128_of_i128_ok {checks : OverflowChecks} {value result : Int}
    (returned : checks.i128 value = .ok result) : result = wrapI128 value := by
  unfold i128 at returned
  split at returned
  · rename_i fits
    rw [← Except.ok.inj returned]
    exact (Int.bmod_eq_of_le (by have := fits.1; omega) (by have := fits.2; omega)).symm
  · cases checks with
    | enabled => contradiction
    | disabled => exact (Except.ok.inj returned).symm

/-- A value in range is the result of its unsigned operator. -/
theorem unsigned_ok (checks : OverflowChecks) {width value : Nat} (fits : value < 2 ^ width) :
    checks.unsigned width value = .ok value := if_pos fits

/-- A subtraction in order is exact. -/
theorem unsignedSub_ok (checks : OverflowChecks) {width left right : Nat}
    (order : right ≤ left) : checks.unsignedSub width left right = .ok (left - right) :=
  if_pos order

/-- A checked `i128` operator returns its exact value, and only in range. -/
theorem i128_enabled_iff {value result : Int} :
    OverflowChecks.enabled.i128 value = .ok result ↔ I128Fits value ∧ result = value := by
  unfold i128
  split
  · rename_i fits
    simp [fits, eq_comm]
  · rename_i escapes
    simp [escapes]

/-- A checked unsigned operator returns its exact value, and only in range. -/
theorem unsigned_enabled_iff {width value result : Nat} :
    OverflowChecks.enabled.unsigned width value = .ok result ↔
      value < 2 ^ width ∧ result = value := by
  unfold unsigned
  split
  · rename_i fits
    simp [fits, eq_comm]
  · rename_i escapes
    simp [escapes]

/-- Without checks an `i64` operator always has a result. -/
theorem i64_disabled (value : Int) : ∃ result, OverflowChecks.disabled.i64 value = .ok result := by
  unfold i64
  split
  · exact ⟨_, rfl⟩
  · exact ⟨_, rfl⟩

/-- So has an `i128` operator. -/
theorem i128_disabled (value : Int) :
    ∃ result, OverflowChecks.disabled.i128 value = .ok result := by
  unfold i128
  split
  · exact ⟨_, rfl⟩
  · exact ⟨_, rfl⟩

end OverflowChecks

/-- The `i128` quotient, truncated toward zero. Both failing divisions stop in every build. -/
def divI128 (dividend divisor : Int) : Checked Int :=
  if divisor = 0 then .error .divideByZero
  else if dividend = -2 ^ 127 ∧ divisor = -1 then .error .overflow
  else .ok (dividend.tdiv divisor)

/-- A division by a positive value has its truncated quotient. -/
theorem divI128_pos (dividend : Int) {divisor : Int} (positive : 0 < divisor) :
    divI128 dividend divisor = .ok (dividend.tdiv divisor) := by
  unfold divI128
  rw [if_neg (by omega), if_neg (by omega)]

/-- A division that returned had a divisor, and its result is the truncated quotient. -/
theorem divI128_ok {dividend divisor quotient : Int}
    (returned : divI128 dividend divisor = .ok quotient) :
    divisor ≠ 0 ∧ quotient = dividend.tdiv divisor := by
  unfold divI128 at returned
  split at returned
  · contradiction
  · rename_i nonzero
    split at returned
    · contradiction
    · exact ⟨nonzero, (Except.ok.inj returned).symm⟩

/-- The unsigned quotient. A division by zero stops in every build. -/
def divUnsigned (dividend divisor : Nat) : Checked Nat :=
  if divisor = 0 then .error .divideByZero else .ok (dividend / divisor)

/-- A division by a positive value has its quotient. -/
theorem divUnsigned_pos (dividend : Nat) {divisor : Nat} (positive : 0 < divisor) :
    divUnsigned dividend divisor = .ok (dividend / divisor) := by
  unfold divUnsigned
  rw [if_neg (by omega)]

/-! ## Ranges -/

/-- A value in range is its own `i64` reduction. -/
theorem wrapI64_of_fits {value : Int} (fits : I64Fits value) : wrapI64 value = value := by
  unfold wrapI64
  exact Int.bmod_eq_of_le (by have := fits.1; omega) (by have := fits.2; omega)

/-- A value in range is its own `i128` reduction. -/
theorem wrapI128_of_fits {value : Int} (fits : I128Fits value) : wrapI128 value = value := by
  obtain ⟨lower, upper⟩ := fits
  unfold wrapI128
  apply Int.bmod_eq_of_le
  · omega
  · omega

/-- Every reduction is an `i64`. -/
theorem wrapI64_fits (value : Int) : I64Fits (wrapI64 value) := by
  unfold I64Fits wrapI64
  have lower := Int.le_bmod (x := value) (m := 2 ^ 64) (by decide)
  have upper := Int.bmod_lt (x := value) (m := 2 ^ 64) (by decide)
  constructor
  · omega
  · omega

/-- A reduced subtrahend may be replaced by its exact value. -/
@[simp] theorem wrapI64_sub_wrapI64 (left right : Int) :
    wrapI64 (left - wrapI64 right) = wrapI64 (left - right) := Int.sub_bmod_bmod

/-- A reduced summand may be replaced by its exact value. -/
@[simp] theorem wrapI64_add_wrapI64 (left right : Int) :
    wrapI64 (left + wrapI64 right) = wrapI64 (left + right) := Int.add_bmod_bmod

/-- A value in range is its own saturation. -/
theorem saturateI128_of_fits {value : Int} (fits : I128Fits value) :
    saturateI128 value = value := by
  obtain ⟨lower, upper⟩ := fits
  unfold saturateI128
  omega

/-- Saturation never increases the magnitude. -/
theorem abs_saturateI128_le (value : Int) : |saturateI128 value| ≤ |value| := by
  have size := abs_le.mp (le_refl |value|)
  unfold saturateI128
  exact abs_le.mpr ⟨by omega, by omega⟩

/-- Every saturation is an `i128`. -/
theorem saturateI128_fits (value : Int) : I128Fits (saturateI128 value) := by
  unfold I128Fits saturateI128
  omega

/-- A signed reading of an unsigned value below the sign bit is the value itself. -/
theorem toInt_of_lt {width : Nat} (value : BitVec width) (small : 2 * value.toNat < 2 ^ width) :
    value.toInt = value.toNat := BitVec.toInt_eq_toNat_of_lt small

/-- A value without low bits and a value of low bits only add up when they are joined. -/
theorem or_toNat_of_aligned {width : Nat} (high low : BitVec width) (bits : Nat)
    (aligned : high.toNat % 2 ^ bits = 0) (small : low.toNat < 2 ^ bits) :
    (high ||| low).toNat = high.toNat + low.toNat := by
  obtain ⟨whole, same⟩ := Nat.dvd_of_mod_eq_zero aligned
  rw [BitVec.toNat_or, same, Nat.two_pow_add_eq_or_of_lt small]

/-- A mask of the high bits takes the low ones away. -/
theorem and_allOnes_shiftLeft_toNat {width : Nat} (value : BitVec width) (bits : Nat) :
    (value &&& BitVec.allOnes width <<< bits).toNat = value.toNat / 2 ^ bits * 2 ^ bits := by
  have shifted : value &&& BitVec.allOnes width <<< bits = (value >>> bits) <<< bits := by
    ext i inside
    by_cases low : i < bits
    · simp [low]
    · have index : bits + (i - bits) = i := Nat.add_sub_of_le (Nat.not_lt.mp low)
      simp [low, index, inside]
  have whole := Nat.div_mul_le_self value.toNat (2 ^ bits)
  rw [shifted, BitVec.toNat_shiftLeft, BitVec.toNat_ushiftRight, Nat.shiftLeft_eq,
    Nat.shiftRight_eq_div_pow, Nat.mod_eq_of_lt (whole.trans_lt value.isLt)]

/-- A clamp moves a value toward every target within the limit. -/
theorem abs_clamp_sub_le {K : Type} [Field K] [LinearOrder K] [IsStrictOrderedRing K]
    (value : K) {limit target : K} (within : |target| ≤ limit) :
    |max (-limit) (min value limit) - target| ≤ |value - target| := by
  have inside := abs_le.mp within
  have size := abs_le.mp (le_refl |value - target|)
  rcases le_total value limit with below | above
  · rw [min_eq_left below]
    rcases le_total (-limit) value with inner | outer
    · rw [max_eq_right inner]
    · rw [max_eq_left outer]
      exact abs_le.mpr ⟨by linarith, by linarith⟩
  · rw [min_eq_right above, max_eq_right (by linarith)]
    exact abs_le.mpr ⟨by linarith, by linarith⟩

/-! ## Steps that may stop -/

/-- A step after a value runs on that value. -/
@[simp] theorem ok_bind {ε α β : Type} (value : α) (next : α → Except ε β) :
    (Except.ok value >>= next) = next value := rfl

/-- A computation that returned went through the value of its first part. -/
theorem bind_eq_ok {ε α β : Type} {first : Except ε α} {next : α → Except ε β} {result : β}
    (returned : first >>= next = .ok result) :
    ∃ value, first = .ok value ∧ next value = .ok result := by
  cases first with
  | error stop => contradiction
  | ok value => exact ⟨value, rfl, returned⟩

/-- A computation returned when a view of its result is known. -/
theorem exists_of_map_eq_ok {ε α β : Type} {view : α → β} {computed : Except ε α} {seen : β}
    (same : computed.map view = .ok seen) : ∃ result, computed = .ok result ∧ view result = seen := by
  cases computed with
  | error stop => contradiction
  | ok result => exact ⟨result, rfl, Except.ok.inj same⟩

/-- A computation stopped when a view of its result stopped. -/
theorem eq_error_of_map_eq_error {ε α β : Type} {view : α → β} {computed : Except ε α} {stop : ε}
    (same : computed.map view = .error stop) : computed = .error stop := by
  cases computed with
  | error other => rw [Except.error.inj same]
  | ok result => contradiction

/-- A fold over one more element is the fold and then that element. -/
theorem foldlM_concat {σ α ε : Type} (f : σ → α → Except ε σ) (start : σ) (values : List α)
    (value : α) :
    (values ++ [value]).foldlM f start = values.foldlM f start >>= fun state => f state value := by
  simp

/-- A fold over one more element went through the state before it. -/
theorem foldlM_concat_ok {σ α ε : Type} {f : σ → α → Except ε σ} {start last : σ}
    {values : List α} {value : α} (folded : (values ++ [value]).foldlM f start = .ok last) :
    ∃ before, values.foldlM f start = .ok before ∧ f before value = .ok last := by
  rw [foldlM_concat] at folded
  exact bind_eq_ok folded

/-- Induction along a fold: what holds at its start and is kept by every step holds at its end. -/
theorem foldlM_induction {σ α ε : Type} {f : σ → α → Except ε σ} {start : σ}
    {motive : List α → σ → Prop} (nil : motive [] start)
    (step : ∀ values before value after, values.foldlM f start = .ok before →
      motive values before → f before value = .ok after → motive (values ++ [value]) after)
    {values : List α} {last : σ} (folded : values.foldlM f start = .ok last) :
    motive values last := by
  induction values using List.reverseRecOn generalizing last with
  | nil =>
    obtain rfl := Except.ok.inj folded
    exact nil
  | append_singleton values value ih =>
    obtain ⟨before, earlier, stepped⟩ := foldlM_concat_ok folded
    exact step values before value last earlier (ih earlier) stepped

/-! ## Truncated quotients -/

/-- The length of a nonempty list is a divisor. -/
theorem int_length_pos {α : Type} {values : List α} (nonempty : values ≠ []) :
    (0 : Int) < values.length := by
  have positive := List.length_pos_iff.mpr nonempty
  omega

/-- A truncated quotient by a positive divisor, as a bracket around the dividend. -/
theorem tdiv_bracket (dividend : Int) {divisor : Int} (positive : 0 < divisor) :
    dividend - divisor < divisor * dividend.tdiv divisor ∧
      divisor * dividend.tdiv divisor < dividend + divisor := by
  have split := Int.mul_tdiv_add_tmod dividend divisor
  have lower := Int.lt_tmod_of_pos dividend positive
  have upper := Int.tmod_lt_of_pos dividend positive
  constructor
  · omega
  · omega

/-- A truncated mean lies between integer bounds of the dividend. -/
theorem tdiv_between {dividend divisor low high : Int} (positive : 0 < divisor)
    (above : divisor * low ≤ dividend) (below : dividend ≤ divisor * high) :
    low ≤ dividend.tdiv divisor ∧ dividend.tdiv divisor ≤ high := by
  have first := Int.tdiv_le_tdiv positive above
  have second := Int.tdiv_le_tdiv positive below
  rw [Int.mul_tdiv_cancel_left _ (by omega)] at first second
  exact ⟨first, second⟩

/-- A sum of bounded terms is bounded by their number. -/
theorem sum_between {α : Type} {values : List α} {f : α → Int} {low high : Int}
    (within : ∀ value ∈ values, low ≤ f value ∧ f value ≤ high) :
    values.length * low ≤ (values.map f).sum ∧ (values.map f).sum ≤ values.length * high := by
  have lower := List.card_nsmul_le_sum (values.map f) low (by
    simpa using fun value member => (within value member).1)
  have upper := List.sum_le_card_nsmul (values.map f) high (by
    simpa using fun value member => (within value member).2)
  rw [List.length_map, nsmul_eq_mul] at lower upper
  exact ⟨lower, upper⟩

/-- Truncation divides the bound of a magnitude. -/
theorem abs_tdiv_le {dividend divisor bound : Int} (positive : 0 < divisor)
    (size : |dividend| ≤ bound) : |dividend.tdiv divisor| ≤ bound / divisor := by
  obtain ⟨lower, upper⟩ := abs_le.mp size
  have nonneg : 0 ≤ bound := by omega
  have first := Int.tdiv_le_tdiv positive lower
  have second := Int.tdiv_le_tdiv positive upper
  rw [Int.neg_tdiv, Int.tdiv_eq_ediv_of_nonneg nonneg] at first
  rw [Int.tdiv_eq_ediv_of_nonneg nonneg] at second
  exact abs_le.mpr ⟨first, second⟩

/-- The rest of a truncated quotient is smaller than the divisor. -/
theorem tmod_within (dividend : Int) {divisor : Int} (nonzero : divisor ≠ 0) :
    |dividend.tmod divisor| < |divisor| := by
  rw [← Int.natCast_natAbs, ← Int.natCast_natAbs, Int.natAbs_tmod]
  exact_mod_cast Nat.mod_lt _ (Int.natAbs_pos.mpr nonzero)

/-- Dividing a scaled value and multiplying it back, rounded down, gives the value or,
above zero, one less. -/
theorem tdiv_mul_ediv (value : Int) {divisor base : Int} (nonzero : divisor ≠ 0)
    (small : |divisor| ≤ base) :
    (value * base).tdiv divisor * divisor / base = value ∨
      0 < value ∧ (value * base).tdiv divisor * divisor / base = value - 1 := by
  have positive : 0 < base := (abs_pos.mpr nonzero).trans_le small
  have rest := abs_lt.mp ((tmod_within (value * base) nonzero).trans_le small)
  have back : (value * base).tdiv divisor * divisor =
      -(value * base).tmod divisor + value * base := by
    linarith [Int.tdiv_mul_add_tmod (value * base) divisor]
  rw [back, Int.add_mul_ediv_right _ _ positive.ne']
  by_cases above : 0 < value * base
  · have sign := Int.tmod_nonneg divisor above.le
    by_cases exact : (value * base).tmod divisor = 0
    · left
      rw [exact]
      simp
    · right
      have floor : -(value * base).tmod divisor / base = -1 := by
        apply Int.ediv_eq_neg_one_of_neg_of_le
        · omega
        · omega
      exact ⟨(mul_pos_iff_of_pos_right positive).mp above, by omega⟩
  · left
    have sign := Int.tmod_nonneg divisor (show 0 ≤ -(value * base) by omega)
    rw [Int.neg_tmod] at sign
    rw [Int.ediv_eq_zero_of_lt (by omega) (by omega), zero_add]

/-- Around their truncated mean integers add up to less than one each. -/
theorem abs_sum_sub_tdiv_le {α : Type} {values : List α} (nonempty : values ≠ []) (f : α → Int) :
    |(values.map fun value => f value - (values.map f).sum.tdiv values.length).sum| ≤
      values.length := by
  have count := int_length_pos nonempty
  have rest := (tmod_within (values.map f).sum count.ne').le
  have split := Int.mul_tdiv_add_tmod (values.map f).sum values.length
  have sum : (values.map fun value => f value - (values.map f).sum.tdiv values.length).sum =
      (values.map f).sum.tmod values.length := by
    simp only [sub_eq_add_neg]
    rw [List.sum_map_add, List.map_const', List.sum_replicate, nsmul_eq_mul]
    linarith
  rw [sum]
  exact rest.trans_eq (abs_of_nonneg (by omega))

/-- A truncated quotient is within a unit of a slope, apart from what the dividend misses. -/
theorem abs_tdiv_sub_le {K : Type} [Field K] [LinearOrder K] [IsStrictOrderedRing K]
    {dividend divisor : Int} {slope miss : K} (positive : 0 < divisor)
    (near : |(dividend : K) - slope * divisor| ≤ miss) :
    |(dividend.tdiv divisor : K) - slope| ≤ miss / divisor + 1 := by
  have divides : (0 : K) < divisor := by exact_mod_cast positive
  have bracket := tdiv_bracket dividend positive
  have above : ((divisor * dividend.tdiv divisor : Int) : K) < ((dividend + divisor : Int) : K) :=
    Int.cast_lt.mpr bracket.2
  have below : ((dividend - divisor : Int) : K) < ((divisor * dividend.tdiv divisor : Int) : K) :=
    Int.cast_lt.mpr bracket.1
  have close := abs_le.mp near
  generalize dividend.tdiv divisor = quotient at above below ⊢
  push_cast at above below
  have scaled : |(quotient : K) - slope| * divisor ≤ miss + divisor := by
    rw [← abs_of_pos divides, ← abs_mul, abs_of_pos divides]
    exact abs_le.mpr ⟨by linarith, by linarith⟩
  have widened : miss / divisor + 1 = (miss + divisor) / divisor := by
    rw [add_div, div_self divides.ne']
  rw [widened]
  exact (le_div_iff₀ divides).mpr scaled

end Machine
