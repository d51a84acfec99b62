/-
# DualMagneticWheel.Foundation.Stamp — time stamps on a 64-bit microsecond clock

A stamp is a reading of a monotone `uint64_t` clock, and `0` stands for "never". The one question asked
of it is whether it is recent: not zero, not in the future, and at most `limit` microseconds old.
`freshWithin` is that test with the machine's wrapping subtraction; `freshWithin_iff` trades it for
plain inequalities of natural numbers.

A chain of stages, each of which believes the previous one for a while, adds its delays up. `Vouched`
is that bookkeeping: an instant is vouched for with some slack when a trusted instant is at most that
far back, and `Vouched.later` charges one stage's patience to the slack.
-/
import Mathlib.Data.Nat.Basic

namespace DualMagneticWheel.Foundation

/-- The stamp is set, not ahead of the clock, and at most `limit` old. The subtraction wraps, and is
reached only when `stamp ≤ now`. -/
def freshWithin (limit stamp now : UInt64) : Bool :=
  stamp != 0 && decide (stamp ≤ now) && decide (now - stamp ≤ limit)

theorem freshWithin_iff {limit stamp now : UInt64} :
    freshWithin limit stamp now = true ↔
      stamp ≠ 0 ∧ stamp.toNat ≤ now.toNat ∧ now.toNat ≤ stamp.toNat + limit.toNat := by
  simp only [freshWithin, Bool.and_eq_true, bne_iff_ne, decide_eq_true_eq, and_assoc]
  refine and_congr_right fun _ => ?_
  rw [UInt64.le_iff_toNat_le]
  refine and_congr_right fun hle => ?_
  rw [UInt64.le_iff_toNat_le, UInt64.toNat_sub_of_le _ _ (UInt64.le_iff_toNat_le.mpr hle)]
  omega

/-! ## Chains of stages -/

/-- Some trusted instant is at most `slack` before `t`. -/
def Vouched (trusted : Nat → Prop) (slack t : Nat) : Prop := ∃ x, trusted x ∧ t ≤ x + slack

theorem Vouched.later {trusted : Nat → Prop} {slack t d t' : Nat} (h : Vouched trusted slack t)
    (ht : t' ≤ t + d) : Vouched trusted (slack + d) t' := by
  obtain ⟨x, hx, hle⟩ := h
  exact ⟨x, hx, by omega⟩

theorem Vouched.mono {trusted trusted' : Nat → Prop} {slack t : Nat} (h : Vouched trusted slack t)
    (hsub : ∀ x, trusted x → trusted' x) : Vouched trusted' slack t := by
  obtain ⟨x, hx, hle⟩ := h
  exact ⟨x, hsub x hx, hle⟩

/-! ## The time an entry point works with -/

/-- An entry point that is passed its time explicitly, with `0` meaning "read the clock". -/
def effectiveNow (clock arg : UInt64) : UInt64 := if arg == 0 then clock else arg

@[simp] theorem effectiveNow_zero (clock : UInt64) : effectiveNow clock 0 = clock := rfl

theorem effectiveNow_of_ne {clock arg : UInt64} (h : arg ≠ 0) : effectiveNow clock arg = arg := by
  simp [effectiveNow, h]

end DualMagneticWheel.Foundation
