/-
# DualMagneticWheel.Foundation.Binary32 — bit patterns and integer parts of single-precision numbers

A single-precision number is a sign bit, eight exponent bits and twenty-three mantissa bits. The first
half reads the three fields back: a finite number has exactly one bit pattern, so `toBits_ofBits` is the
identity on finite patterns, and its mantissa and exponent are `Canonical`.

The second half is about conversion to integers. `toInt` truncates, and because the exponent decides the
order of canonical numbers, a comparison with a power of two is a comparison of the truncated value
(`lt_two_pow_iff`, `neg_two_pow_lt_iff`).
-/
import DualMagneticWheel.Foundation.Scalar

namespace DualMagneticWheel.Foundation

open Float.Model (UnpackedFloat Format)
open Float.Model.UnpackedFloat

/-! ## The three fields -/

section Fields

variable (b : BitVec 32)

def signField : BitVec 1 := @unpackSign Format.binary32 b
def exponentField : BitVec 8 := @unpackExponent Format.binary32 b
def mantissaField : BitVec 23 := @unpackMantissa Format.binary32 b

/-- The fields, one after another, are the pattern. -/
theorem fields_append : signField b ++ exponentField b ++ mantissaField b = b := by
  apply BitVec.eq_of_getLsbD_eq
  intro i (hi : i < 32)
  simp only [signField, exponentField, mantissaField, unpackSign, unpackExponent, unpackMantissa,
    BitVec.getLsbD_append, BitVec.getLsbD_cast, BitVec.getLsbD_extractLsb]
  by_cases hmantissa : i < 23
  · simp [hmantissa]
  · by_cases hexponent : i - 23 < 8
    · have hindex : 23 + (i - 23) = i := by omega
      simp [hmantissa, hexponent, hindex]
    · obtain rfl : i = 31 := by
        change ¬ i - 23 < 8 at hexponent
        omega
      simp only [hmantissa, hexponent, decide_false]
      exact BitVec.getLsbD_eq_getElem hi

/-! ## What a pattern stands for -/

/-- All exponent bits: an infinity or a NaN. -/
theorem unpack_special (he : exponentField b = -1#8) :
    (unpack Format.binary32 b).isFinite = false := by
  unfold unpack
  dsimp only
  rw [if_pos (show @unpackExponent Format.binary32 b = -1#8 from he)]
  split <;> rfl

theorem unpack_zero (he : exponentField b = 0#8) (hm : mantissaField b = 0#23) :
    unpack Format.binary32 b = .zero (Sign.ofBitVec (signField b)) := by
  unfold unpack
  dsimp only
  have hne : @unpackExponent Format.binary32 b ≠ -1#8 := by
    change exponentField b ≠ _
    rw [he]
    decide
  rw [if_neg hne, if_pos (show @unpackExponent Format.binary32 b = 0#8 from he),
    dif_pos (show @unpackMantissa Format.binary32 b = 0#23 from hm)]
  rfl

theorem unpack_subnormal (he : exponentField b = 0#8) (hm : mantissaField b ≠ 0#23) :
    ∃ hpos, unpack Format.binary32 b =
      .finite (Sign.ofBitVec (signField b)) (mantissaField b).toNat (-149) hpos := by
  have hpos : 0 < (mantissaField b).toNat := by
    simpa [BitVec.toNat_pos, BitVec.pos_iff_ne_zero] using hm
  refine ⟨hpos, ?_⟩
  unfold unpack
  dsimp only
  have hne : @unpackExponent Format.binary32 b ≠ -1#8 := by
    change exponentField b ≠ _
    rw [he]
    decide
  have he' : @unpackExponent Format.binary32 b = 0#8 := he
  rw [if_neg hne, if_pos he', dif_neg (show ¬ @unpackMantissa Format.binary32 b = 0#23 from hm)]
  congr 1
  rw [he']
  rfl

theorem unpack_normal (hzero : exponentField b ≠ 0#8) (hones : exponentField b ≠ -1#8) :
    ∃ hpos, unpack Format.binary32 b =
      .finite (Sign.ofBitVec (signField b)) (2 ^ 23 + (mantissaField b).toNat)
        ((exponentField b).toNat - 150) hpos := by
  refine ⟨by omega, ?_⟩
  have hm : (1#1 ++ mantissaField b).toNat = 2 ^ 23 + (mantissaField b).toNat := by
    have hlt := (mantissaField b).isLt
    rw [BitVec.toNat_append, Nat.shiftLeft_eq, show (1#1).toNat = 1 from rfl, Nat.one_mul]
    have hor := Nat.two_pow_add_eq_or_of_lt hlt 1
    rw [Nat.mul_one] at hor
    exact hor.symm
  unfold unpack
  dsimp only
  rw [if_neg (show ¬ @unpackExponent Format.binary32 b = -1#8 from hones),
    if_neg (show ¬ @unpackExponent Format.binary32 b = 0#8 from hzero)]
  congr 1

end Fields

/-! ## A finite number has one pattern -/

theorem toBitVec_ofBitVec (s : BitVec 1) : (Sign.ofBitVec s).toBitVec = s := by
  revert s
  decide

theorem pack_zero (b : BitVec 32) (he : exponentField b = 0#8) (hm : mantissaField b = 0#23) :
    pack Format.binary32 (.zero (Sign.ofBitVec (signField b))) = b := by
  have hb := fields_append b
  rw [he, hm] at hb
  rw [pack, packedZero, packComponents, toBitVec_ofBitVec]
  exact hb

theorem pack_subnormal (b : BitVec 32) (he : exponentField b = 0#8) {hpos} :
    pack Format.binary32
      (.finite (Sign.ofBitVec (signField b)) (mantissaField b).toNat (-149) hpos) = b := by
  have hb := fields_append b
  rw [he] at hb
  rw [pack]
  dsimp only
  rw [if_neg (by decide), if_neg, packComponents, toBitVec_ofBitVec, BitVec.ofNat_toNat,
    BitVec.setWidth_eq]
  · exact hb
  · intro hlog
    have hlt : (mantissaField b).toNat.log2 < 23 := by
      rw [Nat.log2_lt (by omega)]
      exact (mantissaField b).isLt
    change _ + 1 = 24 at hlog
    omega

theorem pack_normal (b : BitVec 32) (hones : exponentField b ≠ -1#8) {hpos} :
    pack Format.binary32 (.finite (Sign.ofBitVec (signField b)) (2 ^ 23 + (mantissaField b).toNat)
      ((exponentField b).toNat - 150) hpos) = b := by
  have hm : (mantissaField b).toNat < 2 ^ 23 := (mantissaField b).isLt
  have he : (exponentField b).toNat < 255 := by
    have hlt : (exponentField b).toNat < 256 := (exponentField b).isLt
    have hne : (exponentField b).toNat ≠ 255 := fun h => hones (BitVec.eq_of_toNat_eq h)
    omega
  have hlog : (2 ^ 23 + (mantissaField b).toNat).log2 = 23 := by
    rw [Nat.log2_eq_iff] <;> omega
  have hmantissa : BitVec.ofNat 23 (2 ^ 23 + (mantissaField b).toNat) = mantissaField b := by
    apply BitVec.eq_of_toNat_eq
    rw [BitVec.toNat_ofNat, Nat.add_mod_left, Nat.mod_eq_of_lt hm]
  have hbias : (((exponentField b).toNat - 150 : Int) + Format.binary32.exponentBias +
      Format.binary32.mantissaBitsWithoutImplicit).toNat = (exponentField b).toNat := by
    change (((exponentField b).toNat - 150 : Int) + 127 + 23).toNat = _
    omega
  rw [pack]
  dsimp only
  rw [hbias, if_neg, if_pos, packComponents, toBitVec_ofBitVec, BitVec.ofNat_toNat,
    BitVec.setWidth_eq]
  · change signField b ++ exponentField b ++ BitVec.ofNat 23 _ = b
    rw [hmantissa]
    exact fields_append b
  · rw [hlog]
    rfl
  · change ¬ 256 ≤ _
    omega

/-- Packing undoes unpacking, except for the payload of a NaN. -/
theorem pack_unpack {b : BitVec 32} (h : (unpack Format.binary32 b).isFinite = true) :
    pack Format.binary32 (unpack Format.binary32 b) = b := by
  by_cases hones : exponentField b = -1#8
  · rw [unpack_special b hones] at h
    cases h
  · -- zeros and subnormal numbers have the exponent field 0, which stands for the same power as 1
    by_cases hzero : exponentField b = 0#8
    · by_cases hm : mantissaField b = 0#23
      · rw [unpack_zero b hzero hm]
        exact pack_zero b hzero hm
      · obtain ⟨hpos, hb⟩ := unpack_subnormal b hzero hm
        rw [hb]
        exact pack_subnormal b hzero
    · obtain ⟨hpos, hb⟩ := unpack_normal b hzero hones
      rw [hb]
      exact pack_normal b hones

/-- The patterns of finite numbers, as the tests of IEEE 754 read them. -/
def FinitePattern (bits : UInt32) : Prop := (unpack Format.binary32 bits.toBitVec).isFinite = true

instance : DecidablePred FinitePattern := fun _ => inferInstanceAs (Decidable (_ = true))

/-- Infinities and NaN stay what they are when a pattern is stored. -/
theorem finitePattern_of_isFinite {bits : UInt32} (h : (Float32.ofBits bits).isFinite = true) :
    FinitePattern bits := by
  change (unpack Format.binary32
    (pack Format.binary32 (unpack Format.binary32 bits.toBitVec))).isFinite = true at h
  cases hbits : unpack Format.binary32 bits.toBitVec with
  | infinity s =>
      rw [hbits] at h
      cases s <;> cases h
  | notANumber =>
      rw [hbits] at h
      cases h
  | zero s => rw [FinitePattern, hbits, UnpackedFloat.isFinite]
  | finite s m e hpos => rw [FinitePattern, hbits, UnpackedFloat.isFinite]

theorem toBits_ofBits {bits : UInt32} (h : FinitePattern bits) : (Float32.ofBits bits).toBits = bits := by
  change UInt32.ofBitVec (pack Format.binary32 (unpack Format.binary32 bits.toBitVec)) = bits
  rw [pack_unpack h]

/-- Nor does a finite number change on the way through its pattern. -/
theorem ofBits_toBits {v : Float32} (h : v.isFinite = true) : Float32.ofBits v.toBits = v := by
  obtain ⟨⟨bits, hvalid⟩⟩ := v
  have hfinite : (unpack Format.binary32 bits.toBitVec).isFinite = true := h
  have hbits : UInt32.ofBitVec (pack Format.binary32 (unpack Format.binary32 bits.toBitVec)) = bits := by
    rw [pack_unpack hfinite]
  exact congrArg Float32.ofModel (Float32.Model.mk.injEq .. ▸ hbits)

/-- A finite number equals itself. -/
theorem beq_self {v : Float32} (h : v.isFinite = true) : (v == v) = true := by
  change v.toModel.unpack.beq v.toModel.unpack = true
  have hfinite : v.toModel.unpack.isFinite = true := h
  cases hv : v.toModel.unpack with
  | infinity s =>
      rw [hv] at hfinite
      cases hfinite
  | notANumber =>
      rw [hv] at hfinite
      cases hfinite
  | zero s => rfl
  | finite s m e hm => cases s <;> simp [UnpackedFloat.beq, UnpackedFloat.compare]

/-! ## Canonical numbers -/

/-- Mantissa and exponent of an unpacked number: the exponent is as small as the format has it, or else
the leading bit of the mantissa is set. -/
structure Canonical (m : Nat) (e : Int) : Prop where
  mantissa_lt : m < 2 ^ 24
  leading : e = -149 ∨ 2 ^ 23 ≤ m

theorem canonical_of_unpack {b : BitVec 32} {s : Sign} {m : Nat} {e : Int} {hpos : 0 < m}
    (h : unpack Format.binary32 b = .finite s m e hpos) : Canonical m e := by
  have hlt : (mantissaField b).toNat < 2 ^ 23 := (mantissaField b).isLt
  by_cases hones : exponentField b = -1#8
  · have hnot := unpack_special b hones
    rw [h] at hnot
    cases hnot
  · by_cases hzero : exponentField b = 0#8
    · by_cases hm : mantissaField b = 0#23
      · rw [unpack_zero b hzero hm] at h
        cases h
      · obtain ⟨_, hb⟩ := unpack_subnormal b hzero hm
        rw [hb] at h
        injection h with _ hmantissa hexponent
        subst hmantissa hexponent
        exact ⟨by omega, .inl rfl⟩
    · obtain ⟨_, hb⟩ := unpack_normal b hzero hones
      rw [hb] at h
      injection h with _ hmantissa _
      subst hmantissa
      exact ⟨by omega, .inr (by omega)⟩

/-! ## Truncation -/

/-- The integer part of `m * 2 ^ e`. -/
def magnitude (m : Nat) (e : Int) : Nat := m * 2 ^ e.toNat / 2 ^ (-e).toNat

theorem shiftRight_mantissa (em : ExtendedMantissa) (n : Nat) :
    (em >>> n).mantissa = em.mantissa / 2 ^ n := by
  change (Nat.repeat ExtendedMantissa.shiftRightOne n em).mantissa = _
  induction n with
  | zero => simp [Nat.repeat]
  | succ n ih =>
      rw [Nat.repeat, ExtendedMantissa.shiftRightOne, ih, Nat.div_div_eq_div_mul, Nat.pow_succ]

/-- Conversion to an integer drops the fraction. -/
theorem roundToInt_eq (s : Sign) (m : Nat) (e : Int) :
    roundToInt s m e = s.apply (magnitude m e) := by
  unfold roundToInt decreaseExponent shiftToExponent
  dsimp only
  rw [shiftRight_mantissa]
  have hshift : (0 - (e - ((e - 0).toNat : Int))).toNat = (-e).toNat := by omega
  rw [hshift, Int.sub_zero]
  change s.apply ((m <<< e.toNat / 2 ^ (-e).toNat : Nat) : Int) = _
  rw [Nat.shiftLeft_eq, magnitude]

/-- The exponent decides: whether the integer part is below a power of two shows in the comparison of
exponents, then mantissas. -/
theorem magnitude_lt_two_pow {m : Nat} {e : Int} (h : Canonical m e) (k : Nat) :
    magnitude m e < 2 ^ k ↔ e < k - 23 ∨ (e = k - 23 ∧ m < 2 ^ 23) := by
  have hm := h.mantissa_lt
  rw [magnitude, Nat.div_lt_iff_lt_mul (Nat.two_pow_pos _), ← Nat.pow_add]
  constructor
  · -- an exponent too large makes the leading bit of the mantissa worth 2^k
    intro hlt
    by_contra hnot
    have hlead : 2 ^ 23 ≤ m := by
      rcases h.leading with he | hlead
      · omega
      · exact hlead
    have hexp : (k : Int) - 23 ≤ e := by omega
    have hle : 2 ^ (k + (-e).toNat) ≤ m * 2 ^ e.toNat := by
      calc 2 ^ (k + (-e).toNat) ≤ 2 ^ (23 + e.toNat) := Nat.pow_le_pow_right (by omega) (by omega)
        _ = 2 ^ 23 * 2 ^ e.toNat := Nat.pow_add ..
        _ ≤ m * 2 ^ e.toNat := Nat.mul_le_mul_right _ hlead
    omega
  · rintro (hlt | ⟨heq, hlt⟩)
    · calc m * 2 ^ e.toNat < 2 ^ 24 * 2 ^ e.toNat :=
            Nat.mul_lt_mul_of_pos_right hm (Nat.two_pow_pos _)
        _ = 2 ^ (24 + e.toNat) := (Nat.pow_add ..).symm
        _ ≤ 2 ^ (k + (-e).toNat) := Nat.pow_le_pow_right (by omega) (by omega)
    · calc m * 2 ^ e.toNat < 2 ^ 23 * 2 ^ e.toNat :=
            Nat.mul_lt_mul_of_pos_right hlt (Nat.two_pow_pos _)
        _ = 2 ^ (23 + e.toNat) := (Nat.pow_add ..).symm
        _ ≤ 2 ^ (k + (-e).toNat) := Nat.pow_le_pow_right (by omega) (by omega)

/-! ## Conversion to an integer type -/

/-- `v` with its fraction dropped; infinities and NaN have no such value. -/
def truncated? (v : Float32) : Option Int :=
  if v.isFinite then some (v.toModel.unpack.toInt 0 0) else none

/-- A conversion to a 16-bit unsigned type. The language defines it only where the truncated value is one
of that type. -/
def toUInt16? (v : Float32) : Option UInt16 := do
  let n ← truncated? v
  if 0 ≤ n ∧ n ≤ 65535 then some (UInt16.ofNat n.toNat) else none

/-- Below a power of two, for a positive number. -/
theorem lt_two_pow_iff {v t : Float32} {m : Nat} {e : Int} {hpos : 0 < m} {k : Nat} {ht : 0 < 2 ^ 23}
    (hv : v.toModel.unpack = .finite .positive m e hpos)
    (htwo : t.toModel.unpack = .finite .positive (2 ^ 23) (k - 23) ht) :
    v.lt t = true ↔ magnitude m e < 2 ^ k := by
  rw [lt_iff_compare, hv, htwo, magnitude_lt_two_pow (canonical_of_unpack hv)]
  simp only [UnpackedFloat.compare, Option.some.injEq, Ordering.then_eq_lt, compare_lt_iff_lt,
    compare_eq_iff_eq]

/-- Above the negative of a power of two, for a negative number. -/
theorem neg_two_pow_lt_iff {v t : Float32} {m : Nat} {e : Int} {hpos : 0 < m} {k : Nat} {ht : 0 < 2 ^ 23}
    (hv : v.toModel.unpack = .finite .negative m e hpos)
    (htwo : t.toModel.unpack = .finite .negative (2 ^ 23) (k - 23) ht) :
    t.lt v = true ↔ magnitude m e < 2 ^ k := by
  rw [lt_iff_compare, hv, htwo, magnitude_lt_two_pow (canonical_of_unpack hv)]
  simp only [UnpackedFloat.compare, Option.some.injEq, Ordering.swap_eq_lt, Ordering.then_eq_gt,
    compare_gt_iff_gt, compare_eq_iff_eq]
  constructor
  · rintro (h | ⟨h, hm⟩)
    · exact .inl h
    · exact .inr ⟨h.symm, hm⟩
  · rintro (h | ⟨h, hm⟩)
    · exact .inl h
    · exact .inr ⟨h.symm, hm⟩

theorem unpack_neg_one :
    (-1 : Float32).toModel.unpack = .finite .negative (2 ^ 23) ((0 : Nat) - 23) (by decide) := rfl

theorem unpack_65536 :
    (65536 : Float32).toModel.unpack = .finite .positive (2 ^ 23) ((16 : Nat) - 23) (by decide) := rfl

theorem toInt_finite (lo hi : Int) (s : Sign) (m : Nat) (e : Int) (hpos : 0 < m) :
    (UnpackedFloat.finite s m e hpos).toInt lo hi = s.apply (magnitude m e) := roundToInt_eq s m e

/-- The conversion is defined on the numbers between `-1` and `65536`, both excluded. -/
theorem toUInt16?_isSome_iff (v : Float32) :
    (toUInt16? v).isSome = true ↔ Float32.lt (-1) v = true ∧ v.lt 65536 = true := by
  have hfinite : v.isFinite = v.toModel.unpack.isFinite := rfl
  rw [toUInt16?, truncated?, hfinite]
  cases hv : v.toModel.unpack with
  | infinity s =>
      rw [lt_iff_compare, lt_iff_compare, unpack_neg_one, unpack_65536, hv]
      cases s <;> simp [UnpackedFloat.isFinite, UnpackedFloat.compare]
  | notANumber =>
      rw [lt_iff_compare, hv]
      simp [UnpackedFloat.isFinite, UnpackedFloat.compare, unpack_neg_one]
  | zero s =>
      rw [lt_iff_compare, lt_iff_compare, unpack_neg_one, unpack_65536, hv]
      simp [UnpackedFloat.isFinite, UnpackedFloat.compare, UnpackedFloat.toInt]
  | finite s m e hpos =>
      cases s with
      | positive =>
          have habove : Float32.lt (-1) v = true := by
            rw [lt_iff_compare, unpack_neg_one, hv]
            rfl
          rw [lt_two_pow_iff hv unpack_65536, toInt_finite]
          simp [UnpackedFloat.isFinite, habove, Sign.apply]
          omega
      | negative =>
          have hbelow : v.lt 65536 = true := by
            rw [lt_iff_compare, unpack_65536, hv]
            rfl
          rw [neg_two_pow_lt_iff hv unpack_neg_one, toInt_finite]
          simp [UnpackedFloat.isFinite, hbelow, Sign.apply]

/-- Where it is defined, it is the machine conversion, which saturates elsewhere. -/
theorem toUInt16_of_toUInt16? {v : Float32} {n : UInt16} (h : toUInt16? v = some n) :
    v.toUInt16 = n := by
  have hmachine : v.toUInt16 = UInt16.ofNatClamp (v.toModel.unpack.toInt 0 65535).toNat := rfl
  simp only [toUInt16?, truncated?, Option.bind_eq_bind, Option.bind_eq_some_iff,
    Option.ite_none_right_eq_some, Option.some.injEq] at h
  obtain ⟨i, ⟨hfinite, rfl⟩, ⟨hlo, hhi⟩, rfl⟩ := h
  have hbounds : v.toModel.unpack.toInt 0 65535 = v.toModel.unpack.toInt 0 0 := by
    change v.toModel.unpack.isFinite = true at hfinite
    revert hfinite
    cases v.toModel.unpack <;> simp [UnpackedFloat.isFinite, UnpackedFloat.toInt]
  rw [hmachine, hbounds, UInt16.ofNatClamp, dif_pos (show _ < 65536 by omega),
    UInt16.ofNatLT_eq_ofNat]

end DualMagneticWheel.Foundation
