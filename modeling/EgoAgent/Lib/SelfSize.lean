import Mathlib

/-!
Sizes that count their own digits.

`settle` iterates a step until it changes nothing.  For a size that is made of a fixed part and
of the digits of the size itself, four rounds from zero are enough, and what they reach is the
least size that has room for itself.
-/

namespace EgoAgent

/-! ### Iteration up to a fixed point -/

def settle (step : Nat → Nat) : Nat → Nat → Option Nat
  | 0, _ => none
  | fuel + 1, estimate =>
      if step estimate = estimate then some (step estimate) else settle step fuel (step estimate)

section Settle

variable {step : Nat → Nat}

theorem settle_succ_of_fixed {fuel estimate : Nat} (fixed : step (step estimate) = step estimate) :
    settle step (fuel + 2) estimate = some (step estimate) := by
  rw [settle]
  split
  · rfl
  · rw [settle, if_pos fixed, fixed]

end Settle

/-! ### Digits -/

def digitCount (number : Nat) : Nat := (Nat.toDigits 10 number).length

theorem digitCount_pos (number : Nat) : 0 < digitCount number := Nat.length_toDigits_pos

theorem digitCount_le_iff {number digits : Nat} (some : 0 < digits) :
    digitCount number ≤ digits ↔ number < 10 ^ digits :=
  Nat.length_toDigits_le_iff (by decide) some

theorem digitCount_mono {small large : Nat} (le : small ≤ large) :
    digitCount small ≤ digitCount large :=
  (digitCount_le_iff (digitCount_pos large)).mpr
    (Nat.lt_of_le_of_lt le ((digitCount_le_iff (digitCount_pos large)).mp (Nat.le_refl _)))

theorem lt_pow_digitCount (number : Nat) : number < 10 ^ digitCount number :=
  (digitCount_le_iff (digitCount_pos number)).mp (Nat.le_refl _)

/-! ### Sizes with their own digits -/

/-- One round of the estimate. -/
def withDigits (base size : Nat) : Nat := base + digitCount size

theorem withDigits_mono (base : Nat) {small large : Nat} (le : small ≤ large) :
    withDigits base small ≤ withDigits base large :=
  Nat.add_le_add_left (digitCount_mono le) base

/-- A number has at most one digit more when it grows by its number of digits. -/
theorem digitCount_add_le {base size : Nat} (le : base ≤ size) :
    digitCount (base + digitCount size) ≤ digitCount size + 1 := by
  have below := lt_pow_digitCount size
  have small : digitCount size < 10 ^ digitCount size := Nat.lt_pow_self (by decide)
  rw [digitCount_le_iff (Nat.succ_pos _), Nat.pow_succ]
  omega

/-- The third round is the last that changes anything. -/
theorem withDigits_fixed (base : Nat) :
    withDigits base (withDigits base (withDigits base (withDigits base 0))) =
      withDigits base (withDigits base (withDigits base 0)) := by
  have first : base ≤ withDigits base 0 := Nat.le_add_right _ _
  have grown := digitCount_add_le first
  have second : withDigits base 0 ≤ withDigits base (withDigits base 0) :=
    withDigits_mono base (Nat.zero_le _)
  have third := withDigits_mono base second
  have digits := digitCount_mono second
  have more := digitCount_mono third
  -- with the digits of the first round, or one digit more than those
  have last : digitCount (withDigits base (withDigits base (withDigits base 0))) ≤
      digitCount (withDigits base (withDigits base 0)) := by
    by_cases same : digitCount (withDigits base (withDigits base 0)) =
        digitCount (withDigits base 0)
    · have equal : withDigits base (withDigits base (withDigits base 0)) =
          withDigits base (withDigits base 0) := by
        unfold withDigits at same ⊢
        rw [same]
      exact Nat.le_of_eq (congrArg digitCount equal)
    · have below := lt_pow_digitCount (withDigits base 0)
      have small : digitCount (withDigits base 0) < 10 ^ digitCount (withDigits base 0) :=
        Nat.lt_pow_self (by decide)
      have longer : digitCount (withDigits base (withDigits base 0)) =
          digitCount (withDigits base 0) + 1 := by
        unfold withDigits at grown digits same ⊢
        omega
      rw [longer, digitCount_le_iff (Nat.succ_pos _), Nat.pow_succ]
      unfold withDigits at longer below small first ⊢
      rw [longer]
      omega
  have equal := Nat.le_antisymm last more
  exact congrArg (base + ·) equal

/-- From zero the estimate settles within four rounds. -/
theorem settle_withDigits (base fuel : Nat) :
    ∃ size, settle (withDigits base) (fuel + 4) 0 = some size := by
  rw [settle]
  split
  · exact ⟨_, rfl⟩
  rw [settle]
  split
  · exact ⟨_, rfl⟩
  exact ⟨_, settle_succ_of_fixed (withDigits_fixed base)⟩

end EgoAgent
