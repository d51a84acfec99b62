/-
# DualMagneticWheel.Foundation.Keyed — tables whose entries have distinct keys

In a table with distinct keys the first entry that matches a key is the only one, so that changing it is
a map over the table (`modify_findIdx?`), and a list of such changes can be followed entry by entry
(`foldl_map_comm`).
-/
import Mathlib.Data.List.Nodup

namespace DualMagneticWheel.Foundation

variable {α β κ : Type*}

/-- If at most one entry matches, changing the first match changes exactly the matching entries. -/
theorem modify_findIdx? (p : α → Bool) (f : α → α) {xs : List α}
    (h : xs.Pairwise fun x y => p x = true → p y = false) :
    (match xs.findIdx? p with
      | some i => xs.modify i f
      | none => xs) = xs.map fun x => if p x then f x else x := by
  induction xs with
  | nil => rfl
  | cons x xs ih =>
      rw [List.pairwise_cons] at h
      rw [List.findIdx?_cons, List.map_cons]
      cases hp : p x with
      | true =>
          have hrest : xs.map (fun y => if p y then f y else y) = xs := by
            rw [List.map_congr_left (g := id)]
            · exact List.map_id xs
            · intro y hy
              simp [h.1 y hy hp]
          simp [hrest]
      | false =>
          have hih := ih h.2
          cases hfind : xs.findIdx? p with
          | none =>
              rw [hfind] at hih
              simpa using hih
          | some i =>
              rw [hfind] at hih
              simpa using hih

/-- A change that a projection does not see. -/
theorem map_modify {f : α → β} {change : α → α} (h : ∀ x, f (change x) = f x) (xs : List α) (i : Nat) :
    (xs.modify i change).map f = xs.map f := by
  apply List.ext_getElem?
  intro j
  rw [List.getElem?_map, List.getElem?_map, List.getElem?_modify]
  cases xs[j]? with
  | none => rfl
  | some x =>
      show some (f (if i = j then change x else x)) = some (f x)
      by_cases hij : i = j
      · rw [if_pos hij, h]
      · rw [if_neg hij]

/-- Replacing an entry by one that looks the same. -/
theorem map_set {f : α → β} {xs : List α} {i : Nat} {x y : α} (hx : xs[i]? = some x)
    (h : f y = f x) : (xs.set i y).map f = xs.map f := by
  obtain ⟨hi, rfl⟩ := List.getElem?_eq_some_iff.mp hx
  rw [List.map_set, h, ← List.getElem_map f (h := by rwa [List.length_map]), List.set_getElem_self]

/-- Entries of a table with distinct keys are determined by their key. -/
theorem eq_of_key {key : α → κ} {xs : List α} (h : (xs.map key).Nodup) {x y : α} (hx : x ∈ xs)
    (hy : y ∈ xs) (hkey : key x = key y) : x = y := List.inj_on_of_nodup_map h hx hy hkey

/-- Changes that are maps over the table, one after another. -/
theorem foldl_map_comm (change : β → α → α) (bs : List β) (xs : List α) :
    bs.foldl (fun ys b => ys.map (change b)) xs = xs.map fun x => bs.foldl (fun y b => change b y) x := by
  induction bs generalizing xs with
  | nil => simp
  | cons b bs ih =>
      rw [List.foldl_cons, ih, List.map_map]
      rfl

end DualMagneticWheel.Foundation
