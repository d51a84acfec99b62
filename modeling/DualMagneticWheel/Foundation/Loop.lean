/-
# DualMagneticWheel.Foundation.Loop — counted loops and their invariants

A C loop `for (i = 0; i < n; ++i)` over a state is a fold over `List.range n`; one with an early return
is a fold in `Option`. The two rules below are the usual loop rule for each: an invariant that may
mention the counter, established before the loop and carried over one turn.
-/
import Mathlib.Data.List.Basic
import Mathlib.Data.List.Induction

namespace DualMagneticWheel.Foundation

variable {σ : Type*}

/-- The loop `for (i = 0; i < n; ++i) s = body(s, i)`. -/
def forRange (n : Nat) (body : σ → Nat → σ) (s : σ) : σ := (List.range n).foldl body s

/-- The same loop with an early return, which shows as `none`. -/
def forRange? (n : Nat) (body : σ → Nat → Option σ) (s : σ) : Option σ :=
  (List.range n).foldlM body s

@[simp] theorem forRange_zero (body : σ → Nat → σ) (s : σ) : forRange 0 body s = s := rfl

theorem forRange_succ (n : Nat) (body : σ → Nat → σ) (s : σ) :
    forRange (n + 1) body s = body (forRange n body s) n := by
  simp [forRange, List.range_succ]

@[simp] theorem forRange?_zero (body : σ → Nat → Option σ) (s : σ) :
    forRange? 0 body s = some s := rfl

theorem forRange?_succ (n : Nat) (body : σ → Nat → Option σ) (s : σ) :
    forRange? (n + 1) body s = (forRange? n body s).bind fun t => body t n := by
  simp only [forRange?, List.range_succ, List.foldlM_append, List.foldlM_cons, List.foldlM_nil]
  cases (List.range n).foldlM body s with
  | none => rfl
  | some t => simp

/-- The loop rule. -/
theorem forRange_invariant (I : Nat → σ → Prop) {body : σ → Nat → σ} {n : Nat} {s : σ}
    (hinit : I 0 s) (hstep : ∀ i t, i < n → I i t → I (i + 1) (body t i)) :
    I n (forRange n body s) := by
  induction n with
  | zero => exact hinit
  | succ n ih =>
      rw [forRange_succ]
      exact hstep n _ (by omega) (ih fun i t hi => hstep i t (by omega))

/-- The loop rule for a loop that was not left early. -/
theorem forRange?_invariant (I : Nat → σ → Prop) {body : σ → Nat → Option σ} {n : Nat} {s t : σ}
    (hinit : I 0 s) (hstep : ∀ i u v, i < n → I i u → body u i = some v → I (i + 1) v)
    (hrun : forRange? n body s = some t) : I n t := by
  induction n generalizing t with
  | zero =>
      rw [forRange?_zero, Option.some_inj] at hrun
      exact hrun ▸ hinit
  | succ n ih =>
      rw [forRange?_succ, Option.bind_eq_some_iff] at hrun
      obtain ⟨u, hu, hbody⟩ := hrun
      exact hstep n u t (by omega) (ih (fun i u v hi => hstep i u v (by omega)) hu) hbody

/-- A loop whose body never returns early. -/
theorem forRange?_eq_some {body? : σ → Nat → Option σ} {n : Nat} (body : σ → Nat → σ)
    (h : ∀ i s, i < n → body? s i = some (body s i)) (s : σ) :
    forRange? n body? s = some (forRange n body s) := by
  induction n with
  | zero => rfl
  | succ n ih =>
      rw [forRange?_succ, forRange_succ, ih fun i t hi => h i t (by omega)]
      exact h n _ (by omega)

/-- Which turns return early does not depend on the state: the loop ends when none of them does. -/
theorem forRange?_isSome_iff {body : σ → Nat → Option σ} {n : Nat} {P : Nat → Prop}
    (h : ∀ i s, (body s i).isSome ↔ P i) (s : σ) :
    (forRange? n body s).isSome ↔ ∀ i < n, P i := by
  induction n with
  | zero => simp
  | succ n ih =>
      rw [forRange?_succ]
      cases hloop : forRange? n body s with
      | none =>
          rw [hloop] at ih
          simp only [Option.bind_none, Option.isSome_none, Bool.false_eq_true, false_iff] at ih ⊢
          exact fun hall => ih fun i hi => hall i (by omega)
      | some t =>
          rw [hloop] at ih
          have hbefore := ih.mp rfl
          rw [Option.bind_some, h]
          constructor
          · intro hlast i hi
            rcases Nat.lt_succ_iff_lt_or_eq.mp hi with hlt | rfl
            · exact hbefore i hlt
            · exact hlast
          · intro hall
            exact hall n (by omega)

/-- The rule for a loop over a list: the invariant speaks about the part that was gone over. -/
theorem foldl_invariant {α : Type*} (I : List α → σ → Prop) {body : σ → α → σ} {xs : List α} {s : σ}
    (hinit : I [] s) (hstep : ∀ pre x t, pre ++ [x] <+: xs → I pre t → I (pre ++ [x]) (body t x)) :
    I xs (xs.foldl body s) := by
  induction xs using List.reverseRecOn with
  | nil => exact hinit
  | append_singleton xs x ih =>
      rw [List.foldl_append, List.foldl_cons, List.foldl_nil]
      apply hstep xs x _ List.prefix_rfl
      apply ih
      intro pre y t hpre
      exact hstep pre y t (hpre.trans (List.prefix_append xs [x]))

/-- A loop that returns the first thing it finds. -/
theorem findSome?_range {α : Type*} {f : Nat → Option α} {n : Nat} {a : α} :
    (List.range n).findSome? f = some a ↔ ∃ i < n, f i = some a ∧ ∀ j < i, f j = none := by
  induction n with
  | zero => simp
  | succ n ih =>
      rw [List.range_succ, List.findSome?_append, Option.or_eq_some_iff, ih,
        List.findSome?_eq_none_iff, List.findSome?_singleton]
      constructor
      · rintro (⟨i, hi, hfound⟩ | ⟨hnone, hlast⟩)
        · exact ⟨i, by omega, hfound⟩
        · exact ⟨n, by omega, hlast, fun j hj => hnone j (List.mem_range.mpr hj)⟩
      · rintro ⟨i, hi, hfound, hbefore⟩
        rcases Nat.lt_succ_iff_lt_or_eq.mp hi with hlt | rfl
        · exact Or.inl ⟨i, hlt, hfound, hbefore⟩
        · exact Or.inr ⟨fun j hj => hbefore j (List.mem_range.mp hj), hfound⟩

/-! ## Fixed arrays -/

variable {α : Type*} {n : Nat}

theorem getD_eq (v : Vector α n) (i : Nat) (d : α) : v.getD i d = v[i]?.getD d := by
  obtain ⟨a, rfl⟩ := v
  simp [Vector.getD, Array.getD_eq_getD_getElem?]

theorem getD_replicate (n i : Nat) (d : α) : (Vector.replicate n d).getD i d = d := by
  rw [getD_eq, Vector.getElem?_replicate]
  split <;> rfl

theorem getD_setIfInBounds (v : Vector α n) (i j : Nat) (x d : α) :
    (v.setIfInBounds i x).getD j d = if i = j ∧ i < n then x else v.getD j d := by
  rw [getD_eq, getD_eq, Vector.getElem?_setIfInBounds]
  by_cases hij : i = j
  · subst hij
    by_cases hi : i < n
    · simp [hi]
    · simp [hi]
  · simp [hij]

/-- A loop that writes one entry per turn has written exactly the entries it went over. -/
theorem getD_forRange_set (g : Nat → α) (v : Vector α n) (m j : Nat) (d : α) :
    (forRange m (fun w i => w.setIfInBounds i (g i)) v).getD j d =
      if j < m ∧ j < n then g j else v.getD j d := by
  induction m with
  | zero => simp
  | succ m ih =>
      rw [forRange_succ, getD_setIfInBounds, ih]
      by_cases hjm : m = j
      · subst hjm
        by_cases hjn : m < n <;> simp [hjn]
      · have hiff : j < m + 1 ↔ j < m := by omega
        simp [hjm, hiff]

/-- Two fixed arrays with the same entries are equal. -/
theorem ext_getD {v w : Vector α n} (d : α) (h : ∀ i, i < n → v.getD i d = w.getD i d) : v = w := by
  apply Vector.ext
  intro i hi
  have hentry := h i hi
  rw [getD_eq, getD_eq, Vector.getElem?_eq_getElem hi, Vector.getElem?_eq_getElem hi] at hentry
  exact hentry

/-- An entry inside the array. -/
theorem getElem?_eq_getD (v : Vector α n) {i : Nat} (h : i < n) (d : α) :
    v[i]? = some (v.getD i d) := by
  rw [getD_eq, Vector.getElem?_eq_getElem h, Option.getD_some]

/-! ## Fixed arrays as lists -/

theorem getD_toList (v : Vector α n) (i : Nat) (d : α) : v.getD i d = v.toList.getD i d := by
  rw [getD_eq]
  simp

/-- Reading a fixed array as a list and back. -/
theorem ofFn_toList (v : Vector α n) (d : α) :
    (Vector.ofFn fun i : Fin n => v.toList.getD i d) = v := by
  apply Vector.ext
  intro i hi
  simp

/-- Storing an entry right behind the filled part. -/
theorem take_setIfInBounds (v : Vector α n) (count : Nat) (x : α) (h : count < n) :
    (v.setIfInBounds count x).toList.take (count + 1) = v.toList.take count ++ [x] := by
  have hlen : count < v.toList.length := by simpa using h
  rw [Vector.toList_setIfInBounds, List.set_eq_take_append_cons_drop, if_pos hlen,
    ← List.singleton_append, ← List.append_assoc]
  apply List.take_left'
  simp only [List.length_append, List.length_take, List.length_singleton]
  omega

/-- A search by index finds where the rest of the list begins. Induction on that rest. -/
theorem dropWhile_eq_find? (p : α → Bool) (d : α) (whole xs : List α) (k : Nat)
    (h : whole.drop k = xs) :
    xs.dropWhile (fun x => !p x) =
      match (List.range' k xs.length).find? fun i => p (whole.getD i d) with
      | some i => whole.drop i
      | none => [] := by
  induction xs generalizing k with
  | nil => rfl
  | cons x xs ih =>
      have hx : whole.getD k d = x := by
        have hhead := congrArg (·[0]?) h
        simp only [List.getElem?_drop, Nat.add_zero, List.getElem?_cons_zero] at hhead
        rw [List.getD_eq_getElem?_getD, hhead, Option.getD_some]
      have htail : whole.drop (k + 1) = xs := by
        rw [← List.drop_drop, h]
        rfl
      rw [List.length_cons, List.range'_succ, List.find?_cons, hx, List.dropWhile_cons]
      cases hp : p x with
      | true => simpa using h.symm
      | false => simpa using ih (k + 1) htail

end DualMagneticWheel.Foundation
