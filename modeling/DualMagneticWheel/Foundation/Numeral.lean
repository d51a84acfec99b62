/-
# DualMagneticWheel.Foundation.Numeral — integers as C text

`Denotes` is the grammar of C integers, with white space in front, a sign, and the base in the first
characters. `readInteger` scans a text as far as it is such a number, and reads the whole of it exactly
when the grammar does (`readInteger_iff`). A number that is printed in decimal denotes itself
(`denotes_printInt`).
-/
import Mathlib.Data.List.TakeWhile
import Mathlib.Tactic.IntervalCases

namespace DualMagneticWheel.Foundation

/-! ## Digits -/

/-- What a character counts as a digit: `0` to `9`, then letters of either case. -/
def digitValue (c : UInt8) : Option Nat :=
  if 0x30 ≤ c ∧ c ≤ 0x39 then some (c.toNat - 0x30)
  else if 0x41 ≤ c ∧ c ≤ 0x5a then some (c.toNat - 0x41 + 10)
  else if 0x61 ≤ c ∧ c ≤ 0x7a then some (c.toNat - 0x61 + 10)
  else none

/-- A digit of the base. -/
def isDigit (base : Nat) (c : UInt8) : Bool := (digitValue c).any (· < base)

/-- The number that a row of digits stands for. -/
def numeral (base : Nat) (digits : List UInt8) : Nat :=
  digits.foldl (fun n c => base * n + (digitValue c).getD 0) 0

/-- White space in the C locale. -/
def isSpace (c : UInt8) : Bool := c == 0x20 || decide (0x09 ≤ c ∧ c ≤ 0x0d)

theorem numeral_concat (base : Nat) (digits : List UInt8) (c : UInt8) :
    numeral base (digits ++ [c]) = base * numeral base digits + (digitValue c).getD 0 := by
  rw [numeral, List.foldl_append]
  rfl

/-- A leading zero counts for nothing. -/
theorem numeral_zero (base : Nat) (digits : List UInt8) :
    numeral base (0x30 :: digits) = numeral base digits := by
  rw [numeral, List.foldl_cons, Nat.mul_zero]
  rfl

theorem not_isSpace_of_isDigit {base : Nat} {c : UInt8} (h : isDigit base c = true) :
    isSpace c = false := by
  unfold isDigit at h
  cases hvalue : digitValue c with
  | none =>
      rw [hvalue] at h
      cases h
  | some d =>
      rw [← Bool.not_eq_true, isSpace, Bool.or_eq_true, beq_iff_eq, decide_eq_true_eq]
      rintro (rfl | ⟨hlow, hhigh⟩)
      · cases hvalue
      · have hout : digitValue c = none := by
          unfold digitValue
          simp only [UInt8.le_iff_toNat_le, UInt8.reduceToNat] at hlow hhigh ⊢
          rw [if_neg (by omega), if_neg (by omega), if_neg (by omega)]
        rw [hout] at hvalue
        cases hvalue

/-! ## The grammar -/

/-- Integer constants: decimal without a leading zero, octal with one, hexadecimal after `0x`. -/
inductive Constant : List UInt8 → Nat → Prop
  | decimal {digits : List UInt8} : digits ≠ [] → digits.head? ≠ some 0x30 →
      (∀ c ∈ digits, isDigit 10 c = true) → Constant digits (numeral 10 digits)
  | octal {digits : List UInt8} : (∀ c ∈ digits, isDigit 8 c = true) →
      Constant (0x30 :: digits) (numeral 8 digits)
  | hexadecimal {x : UInt8} {digits : List UInt8} : x = 0x78 ∨ x = 0x58 → digits ≠ [] →
      (∀ c ∈ digits, isDigit 16 c = true) → Constant (0x30 :: x :: digits) (numeral 16 digits)

/-- A constant behind a sign. -/
inductive Signed : List UInt8 → Int → Prop
  | bare {text : List UInt8} {n : Nat} : Constant text n → Signed text n
  | plus {text : List UInt8} {n : Nat} : Constant text n → Signed (0x2b :: text) n
  | minus {text : List UInt8} {n : Nat} : Constant text n → Signed (0x2d :: text) (-n)

/-- A text denotes an integer: white space, then a signed constant. -/
def Denotes (text : List UInt8) (value : Int) : Prop :=
  ∃ spaces number, text = spaces ++ number ∧ (∀ c ∈ spaces, isSpace c = true) ∧ Signed number value

/-! ## The reader -/

/-- Whether a sign says minus, and what follows. -/
def readSign : List UInt8 → Bool × List UInt8
  | [] => (false, [])
  | c :: text => if c = 0x2d then (true, text) else if c = 0x2b then (false, text) else (false, c :: text)

/-- The base that the first characters give, and the digits. A prefix without a digit behind it is a
zero. -/
def readBase : List UInt8 → Nat × List UInt8
  | [] => (10, [])
  | c :: text =>
      if c = 0x30 then
        match text with
        | x :: d :: rest =>
            if (x = 0x78 ∨ x = 0x58) ∧ isDigit 16 d = true then (16, d :: rest) else (8, c :: text)
        | _ => (8, c :: text)
      else (10, c :: text)

/-- The integer at the front of a text and what is left, if there is one. -/
def readInteger (text : List UInt8) : Option (Int × List UInt8) :=
  let (negative, unsigned) := readSign (text.dropWhile isSpace)
  let (base, digits) := readBase unsigned
  match digits.takeWhile (isDigit base) with
  | [] => none
  | found => some (if negative then -numeral base found else numeral base found,
      digits.dropWhile (isDigit base))

/-- The digits of the base, up to the end. -/
theorem takeWhile_of_rest {base : Nat} {digits : List UInt8}
    (h : digits.dropWhile (isDigit base) = []) :
    digits.takeWhile (isDigit base) = digits ∧ ∀ c ∈ digits, isDigit base c = true := by
  have hall := List.dropWhile_eq_nil_iff.mp h
  exact ⟨List.takeWhile_eq_self_iff.mpr hall, hall⟩

/-- The base and the digits of a whole text give a constant. -/
theorem constant_of_readBase {text : List UInt8} (hfound : (readBase text).2 ≠ [])
    (hall : ∀ c ∈ (readBase text).2, isDigit (readBase text).1 c = true) :
    Constant text (numeral (readBase text).1 (readBase text).2) := by
  cases text with
  | nil => exact absurd rfl hfound
  | cons c text =>
      by_cases hzero : c = 0x30
      · subst hzero
        have hoctal : (∀ c ∈ 0x30 :: text, isDigit 8 c = true) →
            Constant (0x30 :: text) (numeral 8 (0x30 :: text)) := by
          intro hdigits
          rw [numeral_zero]
          exact .octal fun c hc => hdigits c (List.mem_cons_of_mem _ hc)
        rcases text with _ | ⟨x, _ | ⟨d, rest⟩⟩
        · exact hoctal hall
        · exact hoctal hall
        · by_cases hprefix : (x = 0x78 ∨ x = 0x58) ∧ isDigit 16 d = true
          · simp only [readBase, if_pos, if_pos hprefix] at hall ⊢
            exact .hexadecimal hprefix.1 (List.cons_ne_nil d rest) hall
          · simp only [readBase, if_pos, if_neg hprefix] at hall ⊢
            exact hoctal hall
      · simp only [readBase, if_neg hzero] at hall ⊢
        refine .decimal (List.cons_ne_nil c text) ?_ hall
        rw [List.head?_cons, Ne, Option.some_inj]
        exact hzero

/-- A constant gives its base and its digits. -/
theorem readBase_of_constant {text : List UInt8} {n : Nat} (h : Constant text n) :
    (readBase text).2 ≠ [] ∧ (∀ c ∈ (readBase text).2, isDigit (readBase text).1 c = true) ∧
      numeral (readBase text).1 (readBase text).2 = n := by
  cases h with
  | decimal hne hhead hall =>
      cases text with
      | nil => exact absurd rfl hne
      | cons c text =>
          rw [List.head?_cons, Ne, Option.some_inj] at hhead
          simp only [readBase, if_neg hhead]
          exact ⟨hne, hall, trivial⟩
  | @octal digits hall =>
      have hzero : isDigit 8 0x30 = true := rfl
      have hdigits : ∀ c ∈ 0x30 :: digits, isDigit 8 c = true :=
        List.forall_mem_cons.mpr ⟨hzero, hall⟩
      have hread : readBase (0x30 :: digits) = (8, 0x30 :: digits) := by
        rcases digits with _ | ⟨x, _ | ⟨d, rest⟩⟩
        · rfl
        · rfl
        · -- neither `x` nor `X` is an octal digit
          have hx := hall x List.mem_cons_self
          have hnot : ¬ ((x = 0x78 ∨ x = 0x58) ∧ isDigit 16 d = true) := by
            rintro ⟨rfl | rfl, -⟩ <;> cases hx
          simp only [readBase, if_pos, if_neg hnot]
      rw [hread]
      exact ⟨List.cons_ne_nil _ _, hdigits, numeral_zero 8 digits⟩
  | @hexadecimal x digits hx hne hall =>
      cases digits with
      | nil => exact absurd rfl hne
      | cons d rest =>
          have hprefix : (x = 0x78 ∨ x = 0x58) ∧ isDigit 16 d = true :=
            ⟨hx, hall d List.mem_cons_self⟩
          simp only [readBase, if_pos, if_pos hprefix]
          exact ⟨hne, hall, trivial⟩

/-- A constant starts with a digit. -/
theorem Constant.starts {text : List UInt8} {n : Nat} (h : Constant text n) :
    ∃ c rest, text = c :: rest ∧ isDigit 10 c = true := by
  cases h with
  | decimal hne _ hall =>
      obtain ⟨c, rest, rfl⟩ := List.exists_cons_of_ne_nil hne
      exact ⟨c, rest, rfl, hall c List.mem_cons_self⟩
  | octal _ => exact ⟨_, _, rfl, rfl⟩
  | hexadecimal _ _ _ => exact ⟨_, _, rfl, rfl⟩

/-- A digit is no sign. -/
theorem readSign_of_constant {text : List UInt8} {n : Nat} (h : Constant text n) :
    readSign text = (false, text) := by
  obtain ⟨c, rest, rfl, hc⟩ := h.starts
  have hminus : c ≠ 0x2d := by
    rintro rfl
    cases hc
  have hplus : c ≠ 0x2b := by
    rintro rfl
    cases hc
  rw [readSign, if_neg hminus, if_neg hplus]

/-- The sign and the constant behind it. -/
theorem signed_of_readSign {text : List UInt8} {n : Nat} (h : Constant (readSign text).2 n) :
    Signed text (if (readSign text).1 then -(n : Int) else n) := by
  cases text with
  | nil => exact .bare h
  | cons c rest =>
      by_cases hminus : c = 0x2d
      · have hread : readSign (c :: rest) = (true, rest) := by rw [readSign, if_pos hminus]
        rw [hread] at h ⊢
        rw [hminus]
        exact .minus h
      · by_cases hplus : c = 0x2b
        · have hread : readSign (c :: rest) = (false, rest) := by
            rw [readSign, if_neg hminus, if_pos hplus]
          rw [hread] at h ⊢
          rw [hplus]
          exact .plus h
        · have hread : readSign (c :: rest) = (false, c :: rest) := by
            rw [readSign, if_neg hminus, if_neg hplus]
          rw [hread] at h ⊢
          exact .bare h

/-- A signed constant does not start with white space. -/
theorem Signed.starts {text : List UInt8} {value : Int} (h : Signed text value) :
    ∃ c rest, text = c :: rest ∧ isSpace c = false := by
  cases h with
  | bare hn =>
      obtain ⟨c, rest, rfl, hc⟩ := hn.starts
      exact ⟨c, rest, rfl, not_isSpace_of_isDigit hc⟩
  | plus _ => exact ⟨_, _, rfl, rfl⟩
  | minus _ => exact ⟨_, _, rfl, rfl⟩

/-- Behind the sign: what the reader makes of a text that is used up. -/
theorem readInteger_eq_some {text : List UInt8} {value : Int} :
    readInteger text = some (value, []) ↔
      let signed := readSign (text.dropWhile isSpace)
      ∃ n : Nat, Constant signed.2 n ∧ value = if signed.1 then -(n : Int) else n := by
  unfold readInteger
  generalize readSign (text.dropWhile isSpace) = signed
  obtain ⟨negative, unsigned⟩ := signed
  dsimp only
  constructor
  · intro h
    split at h
    · cases h
    · rename_i found hfound
      rw [Option.some_inj, Prod.mk.injEq] at h
      obtain ⟨rfl, hrest⟩ := h
      obtain ⟨hwhole, hall⟩ := takeWhile_of_rest hrest
      rw [hwhole] at hfound ⊢
      refine ⟨_, constant_of_readBase ?_ hall, rfl⟩
      intro hnil
      exact hfound hnil
  · rintro ⟨n, hn, rfl⟩
    obtain ⟨hne, hall, hvalue⟩ := readBase_of_constant hn
    rw [List.takeWhile_eq_self_iff.mpr hall, List.dropWhile_eq_nil_iff.mpr hall]
    split
    · rename_i hnil
      exact absurd hnil hne
    · rw [hvalue]

/-- The reader uses up a text and gives a value exactly when the text denotes that value. -/
theorem readInteger_iff {text : List UInt8} {value : Int} :
    readInteger text = some (value, []) ↔ Denotes text value := by
  rw [readInteger_eq_some]
  constructor
  · rintro ⟨n, hn, rfl⟩
    refine ⟨text.takeWhile isSpace, text.dropWhile isSpace, List.takeWhile_append_dropWhile.symm,
      fun c hc => List.mem_takeWhile_imp hc, ?_⟩
    exact signed_of_readSign hn
  · rintro ⟨spaces, number, rfl, hspaces, hsigned⟩
    have hdrop : (spaces ++ number).dropWhile isSpace = number := by
      obtain ⟨c, rest, rfl, hc⟩ := hsigned.starts
      rw [List.dropWhile_append, List.dropWhile_eq_nil_iff.mpr hspaces]
      simp [hc]
    rw [hdrop]
    cases hsigned with
    | bare hn =>
        rw [readSign_of_constant hn]
        exact ⟨_, hn, rfl⟩
    | plus hn => exact ⟨_, hn, rfl⟩
    | minus hn => exact ⟨_, hn, rfl⟩

/-- A text denotes one integer at most. -/
theorem Denotes.unique {text : List UInt8} {v w : Int} (hv : Denotes text v) (hw : Denotes text w) :
    v = w := by
  rw [← readInteger_iff] at hv hw
  rw [hv, Option.some_inj, Prod.mk.injEq] at hw
  exact hw.1

/-! ## Printing -/

/-- The decimal digits of a number, as characters. -/
def printNat (n : Nat) : List UInt8 := (Nat.toDigits 10 n).map fun c => UInt8.ofNat c.toNat

/-- An integer in decimal. -/
def printInt (value : Int) : List UInt8 :=
  if value < 0 then 0x2d :: printNat value.natAbs else printNat value.natAbs

theorem printNat_small {n : Nat} (h : n < 10) : printNat n = [UInt8.ofNat (48 + n)] := by
  rw [printNat, Nat.toDigits_of_lt_base h]
  interval_cases n <;> rfl

theorem printNat_large {n : Nat} (h : 10 ≤ n) :
    printNat n = printNat (n / 10) ++ [UInt8.ofNat (48 + n % 10)] := by
  have hlast : n % 10 < 10 := Nat.mod_lt n (by omega)
  rw [← printNat_small hlast, printNat, printNat, printNat, Nat.toDigits_of_base_le (by omega) h,
    Nat.toDigits_of_lt_base hlast, List.map_append]

/-- A decimal digit. -/
theorem digitValue_ofNat {d : Nat} (h : d < 10) : digitValue (UInt8.ofNat (48 + d)) = some d := by
  interval_cases d <;> rfl

/-- What is printed consists of decimal digits, does not start with a zero unless it is one, and stands
for the number. -/
theorem printNat_spec (n : Nat) :
    (∀ c ∈ printNat n, isDigit 10 c = true) ∧ numeral 10 (printNat n) = n ∧
      ∃ c rest, printNat n = c :: rest ∧ (c = 0x30 → n = 0 ∧ rest = []) := by
  induction n using Nat.strong_induction_on with
  | _ n ih =>
      by_cases hsmall : n < 10
      · have hvalue := digitValue_ofNat hsmall
        rw [printNat_small hsmall]
        refine ⟨?_, ?_, _, [], rfl, ?_⟩
        · intro c hc
          rw [List.mem_singleton.mp hc, isDigit, hvalue, Option.any_some, decide_eq_true_eq]
          exact hsmall
        · rw [numeral, List.foldl_cons, List.foldl_nil, hvalue, Option.getD_some, Nat.mul_zero,
            Nat.zero_add]
        · intro hzero
          rw [hzero] at hvalue
          cases hvalue
          exact ⟨rfl, rfl⟩
      · have hlast := digitValue_ofNat (Nat.mod_lt n (by omega : 0 < 10))
        obtain ⟨hall, hnumeral, c, rest, hprinted, hzero⟩ := ih (n / 10) (by omega)
        rw [printNat_large (by omega)]
        refine ⟨?_, ?_, c, rest ++ [UInt8.ofNat (48 + n % 10)], ?_, ?_⟩
        · intro d hd
          rcases List.mem_append.mp hd with hd | hd
          · exact hall d hd
          · rw [List.mem_singleton.mp hd, isDigit, hlast, Option.any_some, decide_eq_true_eq]
            exact Nat.mod_lt n (by omega)
        · rw [numeral_concat, hnumeral, hlast, Option.getD_some]
          omega
        · rw [hprinted]
          rfl
        · intro hc
          have hnone := (hzero hc).1
          omega

theorem constant_printNat (n : Nat) : Constant (printNat n) n := by
  obtain ⟨hall, hnumeral, c, rest, hprinted, hzero⟩ := printNat_spec n
  by_cases hc : c = 0x30
  · obtain ⟨rfl, rfl⟩ := hzero hc
    rw [hprinted, hc]
    exact .octal fun c hc => by cases hc
  · have hdecimal : Constant (printNat n) (numeral 10 (printNat n)) := by
      refine .decimal ?_ ?_ hall
      · rw [hprinted]
        exact List.cons_ne_nil c rest
      · rw [hprinted, List.head?_cons, Ne, Option.some_inj]
        exact hc
    rw [hnumeral] at hdecimal
    exact hdecimal

/-- A printed integer denotes itself. -/
theorem denotes_printInt (value : Int) : Denotes (printInt value) value := by
  refine ⟨[], printInt value, rfl, (fun c hc => by cases hc), ?_⟩
  unfold printInt
  by_cases hneg : value < 0
  · have hsigned := Signed.minus (constant_printNat value.natAbs)
    rw [if_pos hneg]
    rwa [show -(value.natAbs : Int) = value by omega] at hsigned
  · have hsigned := Signed.bare (constant_printNat value.natAbs)
    rw [if_neg hneg]
    rwa [show (value.natAbs : Int) = value by omega] at hsigned

end DualMagneticWheel.Foundation
