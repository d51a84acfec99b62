/-
# DualMagneticWheel.Orb.CallbackTable — who is told about a publication

The eight callback slots of a topic, guarded by a lock of their own. Registering is idempotent and fails
when all slots are taken; the slots of a callback are cleared when it is unregistered. A publisher goes
over the slots while it holds the lock, so that the table cannot change under it.
-/
import DualMagneticWheel.Foundation.Loop

namespace DualMagneticWheel

/-- `_callbacks[8]`; a null pointer is `none`. -/
abbrev CallbackTable (Callback : Type) := Vector (Option Callback) 8

namespace CallbackTable

variable {Callback : Type} [DecidableEq Callback]

def empty : CallbackTable Callback := Vector.replicate 8 none

/-- `Topic::registerCallback`. -/
def register (callback : Callback) (t : CallbackTable Callback) : Bool × CallbackTable Callback :=
  if some callback ∈ t.toList then (true, t)
  else
    match t.toList.findIdx? (· == none) with
    | some i => (true, t.setIfInBounds i (some callback))
    | none => (false, t)

/-- `Topic::unregisterCallback`. -/
def unregister (callback : Callback) (t : CallbackTable Callback) : CallbackTable Callback :=
  t.map fun entry => if entry = some callback then none else entry

/-- The slot with this number holds the callback. -/
def At (t : CallbackTable Callback) (k : Nat) (c : Callback) : Prop := t.toList[k]? = some (some c)

omit [DecidableEq Callback] in
theorem At.lt {t : CallbackTable Callback} {k : Nat} {c : Callback} (h : t.At k c) : k < 8 := by
  have hlt := (List.getElem?_eq_some_iff.mp h).1
  rwa [Vector.length_toList] at hlt

omit [DecidableEq Callback] in
theorem not_at_empty (k : Nat) (c : Callback) : ¬ (empty : CallbackTable Callback).At k c := by
  intro h
  unfold At empty at h
  rw [Vector.toList_replicate, List.getElem?_replicate] at h
  split at h <;> cases h

/-- Registering fills one free slot, or the callback has one already, or there is none. -/
theorem register_cases (callback : Callback) (t : CallbackTable Callback) :
    (t.register callback = (true, t) ∧ ∃ k, t.At k callback) ∨
      (∃ i, t.toList[i]? = some none ∧ (∀ k, ¬ t.At k callback) ∧
        t.register callback = (true, t.setIfInBounds i (some callback))) ∨
      t.register callback = (false, t) := by
  unfold register
  split
  · rename_i hmem
    exact Or.inl ⟨rfl, List.mem_iff_getElem?.mp hmem⟩
  · rename_i hmem
    right
    split
    · rename_i i hfree
      obtain ⟨hi, hnone, -⟩ := List.findIdx?_eq_some_iff_getElem.mp hfree
      refine Or.inl ⟨i, ?_, ?_, rfl⟩
      · rw [List.getElem?_eq_getElem hi, beq_iff_eq.mp hnone]
      · intro k hk
        exact hmem (List.mem_iff_getElem?.mpr ⟨k, hk⟩)
    · exact Or.inr rfl

/-- Every callback keeps its slot, and the one that registers has one when the call succeeds. -/
theorem at_register {callback c : Callback} {t : CallbackTable Callback} {k : Nat} :
    (t.register callback).2.At k c → t.At k c ∨ c = callback ∧ (t.register callback).1 = true := by
  rcases register_cases callback t with ⟨heq, -⟩ | ⟨i, -, -, heq⟩ | heq
  · rw [heq]
    exact Or.inl
  · rw [heq]
    intro h
    unfold At at h ⊢
    rw [Vector.toList_setIfInBounds, List.getElem?_set] at h
    split at h
    · split at h
      · cases h
        exact Or.inr ⟨rfl, rfl⟩
      · cases h
    · exact Or.inl h
  · rw [heq]
    exact Or.inl

theorem At.register {callback c : Callback} {t : CallbackTable Callback} {k : Nat} (h : t.At k c) :
    (t.register callback).2.At k c := by
  rcases register_cases callback t with ⟨heq, -⟩ | ⟨i, hfree, -, heq⟩ | heq
  · rwa [heq]
  · rw [heq]
    unfold At at h ⊢
    have hne : i ≠ k := by
      rintro rfl
      rw [h] at hfree
      cases hfree
    rw [Vector.toList_setIfInBounds, List.getElem?_set_ne hne]
    exact h
  · rwa [heq]

theorem register_at {callback : Callback} {t : CallbackTable Callback}
    (hok : (t.register callback).1 = true) : ∃ k, (t.register callback).2.At k callback := by
  rcases register_cases callback t with ⟨heq, h⟩ | ⟨i, hfree, -, heq⟩ | heq
  · rwa [heq]
  · refine ⟨i, ?_⟩
    have hlt := (List.getElem?_eq_some_iff.mp hfree).1
    rw [heq]
    unfold At
    rw [Vector.toList_setIfInBounds, List.getElem?_set_self hlt]
  · rw [heq] at hok
    cases hok

/-- Unregistering clears the slots of the callback and no others. -/
theorem at_unregister {callback c : Callback} {t : CallbackTable Callback} {k : Nat} :
    (t.unregister callback).At k c ↔ t.At k c ∧ c ≠ callback := by
  unfold At unregister
  rw [Vector.toList_map, List.getElem?_map]
  cases hk : t.toList[k]? with
  | none => exact ⟨nofun, nofun⟩
  | some entry =>
      by_cases hentry : entry = some callback
      · rw [hentry, Option.map_some, if_pos rfl]
        refine ⟨nofun, ?_⟩
        rintro ⟨h, hne⟩
        exact absurd (Option.some.inj (Option.some.inj h)).symm hne
      · rw [Option.map_some, if_neg hentry]
        constructor
        · intro h
          refine ⟨h, ?_⟩
          rintro rfl
          exact hentry (Option.some.inj h)
        · exact And.left

/-- No callback has two slots. -/
def Once (t : CallbackTable Callback) : Prop := ∀ c k k', t.At k c → t.At k' c → k = k'

omit [DecidableEq Callback] in
theorem once_empty : (empty : CallbackTable Callback).Once :=
  fun c k _ hk _ => absurd hk (not_at_empty k c)

theorem Once.register {t : CallbackTable Callback} (h : t.Once) (callback : Callback) :
    (t.register callback).2.Once := by
  rcases register_cases callback t with ⟨heq, -⟩ | ⟨i, -, hfresh, heq⟩ | heq
  · rwa [heq]
  · rw [heq]
    -- The new callback sits in slot `i` and was in none before.
    have hback : ∀ k c, At (t.setIfInBounds i (some callback)) k c → k = i ∧ c = callback ∨
        k ≠ i ∧ t.At k c := by
      intro k c hk
      unfold At at hk
      rw [Vector.toList_setIfInBounds, List.getElem?_set] at hk
      split at hk
      · rename_i hik
        split at hk
        · exact Or.inl ⟨hik.symm, (Option.some.inj (Option.some.inj hk)).symm⟩
        · cases hk
      · rename_i hik
        exact Or.inr ⟨fun hki => hik hki.symm, hk⟩
    intro c k k' hk hk'
    rcases hback k c hk with ⟨rfl, rfl⟩ | ⟨hki, hold⟩
    · rcases hback k' c hk' with ⟨rfl, -⟩ | ⟨-, hold'⟩
      · rfl
      · exact absurd hold' (hfresh k')
    · rcases hback k' c hk' with ⟨rfl, rfl⟩ | ⟨-, hold'⟩
      · exact absurd hold (hfresh k)
      · exact h c k k' hold hold'
  · rwa [heq]

theorem Once.unregister {t : CallbackTable Callback} (h : t.Once) (callback : Callback) :
    (t.unregister callback).Once := by
  intro c k k' hk hk'
  exact h c k k' (at_unregister.mp hk).1 (at_unregister.mp hk').1

end CallbackTable

end DualMagneticWheel
