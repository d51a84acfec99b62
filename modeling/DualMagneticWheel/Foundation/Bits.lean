/-
# DualMagneticWheel.Foundation.Bits — single bits of machine words

A field that is packed into bytes is written bit by bit and read as a shifted word under a mask. Both
sides are said here in terms of `Nat.testBit`: setting a bit, testing a bit with a mask, and the bits of a
word put together from three bytes.
-/
import Mathlib.Data.Nat.Bitwise

namespace DualMagneticWheel.Foundation

theorem byte_testBit_high (b : UInt8) {j : Nat} (h : 8 ≤ j) : b.toNat.testBit j = false := by
  apply Nat.testBit_lt_two_pow
  exact Nat.lt_of_lt_of_le (UInt8.toNat_lt b) (Nat.pow_le_pow_right (by omega) h)

theorem toNat_one_shiftLeft {q : Nat} (h : q < 8) :
    ((1 : UInt8) <<< UInt8.ofNat q).toNat = 2 ^ q := by
  have hq : (UInt8.ofNat q).toNat % 8 = q := by
    rw [UInt8.toNat_ofNat']
    omega
  rw [UInt8.toNat_shiftLeft, hq, UInt8.toNat_one, Nat.one_shiftLeft]
  exact Nat.mod_eq_of_lt (Nat.pow_lt_pow_right (by omega) h)

/-- Setting a bit of a byte. -/
theorem testBit_setBit (b : UInt8) {q : Nat} (h : q < 8) (j : Nat) :
    (b ||| ((1 : UInt8) <<< UInt8.ofNat q)).toNat.testBit j =
      (b.toNat.testBit j || decide (q = j)) := by
  rw [UInt8.toNat_or, Nat.testBit_or, toNat_one_shiftLeft h, Nat.testBit_two_pow]

/-- A mask of one bit tests this bit. -/
theorem and_two_pow_ne_zero (n i : Nat) : (n &&& 2 ^ i ≠ 0) ↔ n.testBit i = true := by
  rw [Nat.and_two_pow]
  cases n.testBit i with
  | false => simp
  | true => simp

theorem byte_and_bne_zero (b : UInt8) {m : UInt8} {i : Nat} (h : m.toNat = 2 ^ i) :
    ((b &&& m) != 0) = b.toNat.testBit i := by
  have hzero : (b &&& m) = 0 ↔ b.toNat &&& 2 ^ i = 0 := by
    rw [← UInt8.toNat_inj, UInt8.toNat_and, h]
    rfl
  apply Bool.eq_iff_iff.mpr
  rw [bne_iff_ne, Ne, hzero]
  exact and_two_pow_ne_zero b.toNat i

theorem testBit_byte_shiftLeft (b : UInt8) {t : UInt32} {s : Nat} (ht : t.toNat = s) (hs : s ≤ 24)
    (j : Nat) :
    (b.toUInt32 <<< t).toNat.testBit j = (decide (s ≤ j) && b.toNat.testBit (j - s)) := by
  have hshift : t.toNat % 32 = s := by omega
  rw [UInt32.toNat_shiftLeft, hshift, UInt8.toNat_toUInt32, Nat.testBit_mod_two_pow,
    Nat.testBit_shiftLeft]
  by_cases hj : j < 32
  · simp [hj]
  · rw [byte_testBit_high b (show 8 ≤ j - s by omega), Bool.and_false, Bool.and_false]

/-- A field put above another one that fits below it. -/
theorem toNat_shiftLeft_or {hi lo t : UInt32} {s : Nat} (ht : t.toNat = s) (hs : s < 32)
    (hhi : hi.toNat < 2 ^ (32 - s)) (hlo : lo.toNat < 2 ^ s) :
    ((hi <<< t) ||| lo).toNat = hi.toNat * 2 ^ s + lo.toNat := by
  have hshift : t.toNat % 32 = s := by omega
  have hfits : hi.toNat * 2 ^ s < 2 ^ 32 := by
    calc hi.toNat * 2 ^ s < 2 ^ (32 - s) * 2 ^ s :=
          Nat.mul_lt_mul_of_pos_right hhi (Nat.two_pow_pos s)
      _ = 2 ^ 32 := by rw [← Nat.pow_add, Nat.sub_add_cancel hs.le]
  rw [UInt32.toNat_or, UInt32.toNat_shiftLeft, hshift, Nat.shiftLeft_eq, Nat.mod_eq_of_lt hfits,
    ← Nat.shiftLeft_eq, ← Nat.shiftLeft_add_eq_or_of_lt hlo, Nat.shiftLeft_eq]

/-- The bits of three bytes put together, the first lowest. -/
theorem testBit_threeBytes (a b c : UInt8) {j : Nat} (h : j < 24) :
    (a.toUInt32 ||| (b.toUInt32 <<< 8) ||| (c.toUInt32 <<< 16)).toNat.testBit j =
      (if j / 8 = 0 then a else if j / 8 = 1 then b else c).toNat.testBit (j % 8) := by
  rw [UInt32.toNat_or, UInt32.toNat_or, Nat.testBit_or, Nat.testBit_or, UInt8.toNat_toUInt32,
    testBit_byte_shiftLeft b (t := 8) (s := 8) rfl (by decide),
    testBit_byte_shiftLeft c (t := 16) (s := 16) rfl (by decide)]
  by_cases hlow : j < 8
  · have hdiv : j / 8 = 0 := by omega
    have hmod : j % 8 = j := by omega
    rw [if_pos hdiv, hmod, decide_eq_false (show ¬ 8 ≤ j by omega),
      decide_eq_false (show ¬ 16 ≤ j by omega)]
    simp
  · by_cases hmiddle : j < 16
    · have hdiv : j / 8 = 1 := by omega
      have hmod : j % 8 = j - 8 := by omega
      rw [if_neg (by omega), if_pos hdiv, hmod, byte_testBit_high a (show 8 ≤ j by omega),
        decide_eq_true (show 8 ≤ j by omega), decide_eq_false (show ¬ 16 ≤ j by omega)]
      simp
    · have hmod : j % 8 = j - 16 := by omega
      rw [if_neg (by omega), if_neg (by omega), hmod, byte_testBit_high a (show 8 ≤ j by omega),
        byte_testBit_high b (show 8 ≤ j - 8 by omega), decide_eq_true (show 16 ≤ j by omega)]
      simp

/-- A field of at most sixteen bits, shifted down and masked. -/
theorem testBit_field (packed : UInt32) {offset : Nat} (ho : offset < 32) {width : Nat}
    (hw : width ≤ 16) (mask : UInt32) (hmask : mask.toNat = 2 ^ width - 1) (j : Nat) :
    ((packed >>> UInt32.ofNat offset) &&& mask).toUInt16.toNat.testBit j =
      (decide (j < width) && packed.toNat.testBit (offset + j)) := by
  have hshift : (UInt32.ofNat offset).toNat % 32 = offset := by
    rw [UInt32.toNat_ofNat']
    omega
  rw [UInt32.toNat_toUInt16, Nat.testBit_mod_two_pow, UInt32.toNat_and, Nat.testBit_and, hmask,
    Nat.testBit_two_pow_sub_one, UInt32.toNat_shiftRight, hshift, Nat.testBit_shiftRight]
  by_cases hj : j < width
  · simp [hj, show j < 16 by omega]
  · simp [hj]

/-! ## Narrowing -/

/-- A cast to sixteen bits keeps the remainder. -/
theorem toNat_narrow (i : Int32) : (i.toUInt32.toUInt16.toNat : Int) = i.toInt % 2 ^ 16 := by
  have hsigned : i.toInt =
      if 2 * i.toUInt32.toNat < 2 ^ 32 then (i.toUInt32.toNat : Int)
      else (i.toUInt32.toNat : Int) - (2 ^ 32 : Nat) := BitVec.toInt_eq_toNat_cond i.toBitVec
  rw [UInt32.toNat_toUInt16, hsigned]
  split
  · omega
  · omega

/-- The cast keeps the number exactly where sixteen bits hold it. -/
theorem toNat_narrow_eq_iff (i : Int32) :
    (i.toUInt32.toUInt16.toNat : Int) = i.toInt ↔ 0 ≤ i.toInt ∧ i.toInt < 2 ^ 16 := by
  rw [toNat_narrow]
  omega

end DualMagneticWheel.Foundation
