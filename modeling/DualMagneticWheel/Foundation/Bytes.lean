/-
# DualMagneticWheel.Foundation.Bytes — numbers in little-endian bytes, and memory that is only programmed

`leBytes` and `leNat` are the memory image of a number. `takeWord` peels a word off the front of a byte
list, so that a record is read field by field; its `simp` lemmas make reading what was written a
computation.

The second half is a flash page: erasing sets every bit, programming only clears bits.
-/
import Mathlib.Algebra.Group.Nat.Defs
import Mathlib.Data.List.Basic

namespace DualMagneticWheel.Foundation

/-! ## Little-endian numbers -/

/-- The `n` low bytes of a number, lowest first. -/
def leBytes : Nat → Nat → List UInt8
  | 0, _ => []
  | n + 1, x => UInt8.ofNat x :: leBytes n (x / 256)

/-- The number behind bytes, lowest first. -/
def leNat : List UInt8 → Nat
  | [] => 0
  | b :: bs => b.toNat + 256 * leNat bs

@[simp] theorem leBytes_length (n x : Nat) : (leBytes n x).length = n := by
  induction n generalizing x with
  | zero => rfl
  | succ n ih => rw [leBytes, List.length_cons, ih]

theorem leNat_leBytes (n x : Nat) : leNat (leBytes n x) = x % 256 ^ n := by
  induction n generalizing x with
  | zero => simp [leBytes, leNat, Nat.mod_one]
  | succ n ih =>
      rw [leBytes, leNat, ih, Nat.pow_succ, Nat.mul_comm (256 ^ n), Nat.mod_mul,
        UInt8.toNat_ofNat']

/-- The memory image of a 32-bit and of a 16-bit word. -/
def bytes32 (x : UInt32) : List UInt8 := leBytes 4 x.toNat
def bytes16 (x : UInt16) : List UInt8 := leBytes 2 x.toNat

/-- A word off the front, and the rest. -/
def take32 (bytes : List UInt8) : UInt32 × List UInt8 :=
  (UInt32.ofNat (leNat (bytes.take 4)), bytes.drop 4)
def take16 (bytes : List UInt8) : UInt16 × List UInt8 :=
  (UInt16.ofNat (leNat (bytes.take 2)), bytes.drop 2)

@[simp] theorem bytes32_length (x : UInt32) : (bytes32 x).length = 4 := leBytes_length 4 _
@[simp] theorem bytes16_length (x : UInt16) : (bytes16 x).length = 2 := leBytes_length 2 _

@[simp] theorem take32_bytes32 (x : UInt32) (rest : List UInt8) :
    take32 (bytes32 x ++ rest) = (x, rest) := by
  have hword : UInt32.ofNat (leNat (bytes32 x)) = x := by
    have hlt : x.toNat < 256 ^ 4 := x.toNat_lt
    rw [bytes32, leNat_leBytes, Nat.mod_eq_of_lt hlt, UInt32.ofNat_toNat]
  rw [take32, List.take_left' (bytes32_length x), List.drop_left' (bytes32_length x), hword]

@[simp] theorem take16_bytes16 (x : UInt16) (rest : List UInt8) :
    take16 (bytes16 x ++ rest) = (x, rest) := by
  have hword : UInt16.ofNat (leNat (bytes16 x)) = x := by
    have hlt : x.toNat < 256 ^ 2 := x.toNat_lt
    rw [bytes16, leNat_leBytes, Nat.mod_eq_of_lt hlt, UInt16.ofNat_toNat]
  rw [take16, List.take_left' (bytes16_length x), List.drop_left' (bytes16_length x), hword]

/-- A word whose highest byte is `0xff` is a large number. -/
theorem le_take32_of_erased {bytes : List UInt8} (h : bytes[3]? = some 0xff) :
    0xff000000 ≤ (take32 bytes).1.toNat := by
  rcases bytes with _ | ⟨a, _ | ⟨b, _ | ⟨c, _ | ⟨d, rest⟩⟩⟩⟩ <;> simp at h
  have ha := a.toNat_lt
  have hb := b.toNat_lt
  have hc := c.toNat_lt
  subst h
  simp only [take32, List.take_succ_cons, List.take_zero, leNat, UInt32.toNat_ofNat']
  have hd : (0xff : UInt8).toNat = 255 := rfl
  omega

/-- Chunks of one size, laid one after another: reading the chunk at an index. -/
theorem take_drop_flatMap {β : Type*} {size : Nat} (f : β → List UInt8)
    (hsize : ∀ x, (f x).length = size) (xs : List β) (i : Nat) :
    ((xs.flatMap f).drop (size * i)).take size = (xs[i]?.map f).getD [] := by
  induction xs generalizing i with
  | nil => simp
  | cons x xs ih =>
      rw [List.flatMap_cons]
      cases i with
      | zero => rw [Nat.mul_zero, List.drop_zero, List.take_left' (hsize x)]; rfl
      | succ i =>
          rw [Nat.mul_succ, Nat.add_comm, ← List.drop_drop, List.drop_left' (hsize x), ih]
          rfl

theorem length_flatMap_chunks {β : Type*} {size : Nat} (f : β → List UInt8)
    (hsize : ∀ x, (f x).length = size) (xs : List β) :
    (xs.flatMap f).length = xs.length * size := by
  induction xs with
  | nil => simp
  | cons x xs ih =>
      rw [List.flatMap_cons, List.length_append, hsize, ih, List.length_cons, Nat.succ_mul,
        Nat.add_comm]

/-! ## Programmed memory -/

/-- A page of flash memory: the byte at every offset. -/
abbrev Page := Nat → UInt8

namespace Page

/-- A page right after it was erased. -/
def erased : Page := fun _ => 0xff

/-- Programming clears the bits that are zero in the data. -/
def program (page : Page) (offset : Nat) (data : List UInt8) : Page := fun i =>
  page i &&& (if offset ≤ i then data.getD (i - offset) 0xff else 0xff)

/-- Reading `n` bytes. -/
def read (page : Page) (offset n : Nat) : List UInt8 :=
  (List.range n).map fun i => page (offset + i)

@[simp] theorem read_length (page : Page) (offset n : Nat) : (page.read offset n).length = n := by
  simp [read]

theorem read_add (page : Page) (offset m n : Nat) :
    page.read offset (m + n) = page.read offset m ++ page.read (offset + m) n := by
  simp [read, List.range_add, Nat.add_assoc]

/-- Nothing changes outside the programmed bytes. -/
theorem program_of_outside (page : Page) {offset i : Nat} {data : List UInt8}
    (h : i < offset ∨ offset + data.length ≤ i) : page.program offset data i = page i := by
  have hmask : (if offset ≤ i then data.getD (i - offset) 0xff else 0xff) = 0xff := by
    split
    · rw [List.getD_eq_getElem?_getD, List.getElem?_eq_none (by omega), Option.getD_none]
    · rfl
  rw [program, hmask]
  exact UInt8.and_neg_one

/-- An erased byte takes the programmed one. -/
theorem program_of_erased (page : Page) {offset i : Nat} {data : List UInt8} (hi : i < data.length)
    (h : page (offset + i) = 0xff) : page.program offset data (offset + i) = data[i] := by
  have hmask : (if offset ≤ offset + i then data.getD (offset + i - offset) 0xff else 0xff) =
      data[i] := by
    rw [if_pos (by omega), Nat.add_sub_cancel_left, List.getD_eq_getElem?_getD,
      List.getElem?_eq_getElem hi, Option.getD_some]
  rw [program, hmask, h]
  exact UInt8.neg_one_and

/-- Reading back what was programmed into erased bytes. -/
theorem read_program (page : Page) (offset : Nat) (data : List UInt8)
    (h : ∀ i < data.length, page (offset + i) = 0xff) :
    (page.program offset data).read offset data.length = data := by
  apply List.ext_getElem
  · simp
  · intro i hi hdata
    simp only [read, List.getElem_map, List.getElem_range]
    exact page.program_of_erased hdata (h i hdata)

/-- Programming nothing. -/
@[simp] theorem program_nil (page : Page) (offset : Nat) : page.program offset [] = page := by
  funext i
  apply page.program_of_outside
  simp only [List.length_nil]
  omega

/-- Reading somewhere else. -/
theorem read_program_outside (page : Page) {offset n start : Nat} {data : List UInt8}
    (h : start + n ≤ offset ∨ offset + data.length ≤ start) :
    (page.program offset data).read start n = page.read start n := by
  apply List.map_congr_left
  intro i hi
  rw [List.mem_range] at hi
  exact page.program_of_outside (by omega)

end Page

end DualMagneticWheel.Foundation
