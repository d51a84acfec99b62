/-
# DualMagneticWheel.Foundation.IntrusiveList — linked lists whose links are fields of their members

Every owner has a pointer to the first member of its list and every member one to the next, so that an
item is on one list at most. An item is pushed at the front; it is removed by walking a pointer to the
pointer that leads to it (`removeLoop`).

`Chain` reads a list off the links: it is finite, so a chain has no duplicates. `Represents` is the
abstraction: the links hold, for each owner, exactly the items that a partial map assigns to it. Pushing
and removing update that map at one item, whatever lists share the link field.
-/
import Mathlib.Data.Finset.Basic
import Mathlib.Logic.Function.Basic

namespace DualMagneticWheel.Foundation

/-! ## Loops with fuel -/

/-- A computation by fuel ends with a value: enough fuel always gives it. -/
def Ends {α : Type*} (f : Nat → Option α) (a : α) : Prop := ∃ bound, ∀ fuel ≥ bound, f fuel = some a

namespace Ends

variable {α β : Type*} {f : Nat → Option α} {a b : α}

theorem unique (h : Ends f a) (h' : Ends f b) : a = b := by
  obtain ⟨m, hm⟩ := h
  obtain ⟨n, hn⟩ := h'
  have heq := hn (max m n) (le_max_right m n)
  rw [hm (max m n) (le_max_left m n)] at heq
  exact Option.some.inj heq

theorem map (h : Ends f a) (g : α → β) : Ends (fun fuel => (f fuel).map g) (g a) := by
  obtain ⟨m, hm⟩ := h
  refine ⟨m, fun fuel hfuel => ?_⟩
  show (f fuel).map g = some (g a)
  rw [hm fuel hfuel, Option.map_some]

/-- One computation after another, with the same fuel. -/
theorem bind {g : α → Nat → Option β} {c : β} (h : Ends f a) (h' : Ends (g a) c) :
    Ends (fun fuel => (f fuel).bind fun x => g x fuel) c := by
  obtain ⟨m, hm⟩ := h
  obtain ⟨n, hn⟩ := h'
  refine ⟨max m n, fun fuel hfuel => ?_⟩
  show (f fuel).bind (fun x => g x fuel) = some c
  rw [hm fuel (le_trans (le_max_left m n) hfuel), Option.bind_some]
  exact hn fuel (le_trans (le_max_right m n) hfuel)

/-- A turn costs one unit of fuel. -/
theorem succ (h : Ends (fun fuel => f (fuel + 1)) a) : Ends f a := by
  obtain ⟨m, hm⟩ := h
  refine ⟨m + 1, fun fuel hfuel => ?_⟩
  obtain ⟨fuel, rfl⟩ : ∃ n, fuel = n + 1 := ⟨fuel - 1, by omega⟩
  exact hm fuel (by omega)

end Ends

variable {Owner Item : Type*}

/-- The first item of each owner and the next item of each item. -/
structure Links (Owner Item : Type*) where
  first : Owner → Option Item
  next : Item → Option Item

/-! ## Chains -/

/-- Following the links from a pointer gives these items, and then the null pointer. -/
def Chain (next : Item → Option Item) : Option Item → List Item → Prop
  | pointer, [] => pointer = none
  | pointer, x :: xs => pointer = some x ∧ Chain next (next x) xs

namespace Chain

variable {next next' : Item → Option Item} {pointer : Option Item} {xs ys : List Item}

/-- The links determine the items. -/
theorem unique (h : Chain next pointer xs) (h' : Chain next pointer ys) : xs = ys := by
  induction xs generalizing pointer ys with
  | nil =>
      cases ys with
      | nil => rfl
      | cons y ys =>
          have hnull : pointer = none := h
          rw [hnull] at h'
          cases h'.1
  | cons x xs ih =>
      obtain ⟨rfl, hrest⟩ := h
      cases ys with
      | nil => cases (show some x = none from h')
      | cons y ys =>
          obtain ⟨hxy, hrest'⟩ := h'
          obtain rfl := Option.some.inj hxy
          rw [ih hrest hrest']

/-- From every item on the chain the rest of it follows. -/
theorem of_mem {x : Item} (h : Chain next pointer xs) (hx : x ∈ xs) :
    ∃ rest, Chain next (next x) rest ∧ rest.length < xs.length := by
  induction xs generalizing pointer with
  | nil => cases hx
  | cons y ys ih =>
      rcases List.mem_cons.mp hx with rfl | hx
      · exact ⟨ys, h.2, Nat.lt_succ_self _⟩
      · obtain ⟨rest, hrest, hlt⟩ := ih h.2 hx
        exact ⟨rest, hrest, Nat.lt_succ_of_lt hlt⟩

/-- A chain ends, so it never comes back to an item. -/
theorem nodup (h : Chain next pointer xs) : xs.Nodup := by
  induction xs generalizing pointer with
  | nil => exact .nil
  | cons x xs ih =>
      refine List.nodup_cons.mpr ⟨fun hx => ?_, ih h.2⟩
      obtain ⟨rest, hrest, hlt⟩ := h.2.of_mem hx
      rw [h.2.unique hrest] at hlt
      exact Nat.lt_irrefl _ hlt

/-- Only the links of its items matter. -/
theorem congr (h : Chain next pointer xs) (heq : ∀ x ∈ xs, next' x = next x) :
    Chain next' pointer xs := by
  induction xs generalizing pointer with
  | nil => exact h
  | cons x xs ih =>
      refine ⟨h.1, ?_⟩
      rw [heq x List.mem_cons_self]
      exact ih h.2 fun y hy => heq y (List.mem_cons_of_mem x hy)

end Chain

/-! ## The operations -/

/-- A pointer variable: the first pointer of an owner, or the next pointer of an item. -/
inductive Link (Owner Item : Type*) where
  | first (o : Owner)
  | next (x : Item)
  deriving DecidableEq

namespace Links

variable [DecidableEq Owner] [DecidableEq Item]

/-- Put an item in front. -/
def push (l : Links Owner Item) (o : Owner) (x : Item) : Links Owner Item where
  first := Function.update l.first o (some x)
  next := Function.update l.next x (l.first o)

/-- The item that a pointer variable points to. -/
def read (l : Links Owner Item) : Link Owner Item → Option Item
  | .first o => l.first o
  | .next x => l.next x

def write (l : Links Owner Item) (pointer : Option Item) : Link Owner Item → Links Owner Item
  | .first o => { l with first := Function.update l.first o pointer }
  | .next x => { l with next := Function.update l.next x pointer }

/-- The walk of a removal: `current` is the pointer variable under test. It ends at the item, which is
taken out and unlinked, or at the end of the list; `none` means that the fuel did not last. -/
def removeLoop (x : Item) : Nat → Link Owner Item → Links Owner Item → Option (Links Owner Item)
  | 0, _, _ => none
  | fuel + 1, current, l =>
      match l.read current with
      | none => some l
      | some y =>
          if y = x then some ((l.write (l.next x) current).write none (.next x))
          else removeLoop x fuel (.next y) l

/-- Take an item off the list of an owner. -/
def remove? (l : Links Owner Item) (fuel : Nat) (o : Owner) (x : Item) : Option (Links Owner Item) :=
  removeLoop x fuel (.first o) l

/-- Put an item in front of the list of its owner, if it has one. -/
def join (l : Links Owner Item) (o : Option Owner) (x : Item) : Links Owner Item :=
  match o with
  | some o => l.push o x
  | none => l

/-- Take an item off the list of its owner, if it has one. -/
def leave? (l : Links Owner Item) (fuel : Nat) (o : Option Owner) (x : Item) :
    Option (Links Owner Item) :=
  match o with
  | some o => l.remove? fuel o x
  | none => some l

/-- An owner with an empty list. -/
def clear (l : Links Owner Item) (o : Owner) : Links Owner Item :=
  { l with first := Function.update l.first o none }

/-- An item that is on no list. -/
def unlink (l : Links Owner Item) (x : Item) : Links Owner Item :=
  { l with next := Function.update l.next x none }

theorem read_write (l : Links Owner Item) (pointer : Option Item) (current : Link Owner Item) :
    (l.write pointer current).read current = pointer := by
  cases current with
  | first o => exact Function.update_self ..
  | next x => exact Function.update_self ..

theorem read_write_of_ne (l : Links Owner Item) (pointer : Option Item)
    {current other : Link Owner Item} (h : other ≠ current) :
    (l.write pointer current).read other = l.read other := by
  cases current with
  | first o =>
      cases other with
      | first o' => exact Function.update_of_ne (fun heq => h (by rw [heq])) _ _
      | next y => rfl
  | next x =>
      cases other with
      | first o' => rfl
      | next y => exact Function.update_of_ne (fun heq => h (by rw [heq])) _ _

/-- What a removal leaves behind a pointer variable: the chain without the item, and every variable outside
of the chain. -/
structure Removed (l l' : Links Owner Item) (current : Link Owner Item) (xs : List Item) (x : Item) :
    Prop where
  chain : Chain l'.next (l'.read current) (xs.erase x)
  frame : ∀ other, other ≠ current → (∀ y ∈ xs, other ≠ .next y) → l'.read other = l.read other

/-- The turn that finds the item. -/
theorem removed_head {l : Links Owner Item} {x : Item} {xs : List Item} {current : Link Owner Item}
    (h : Chain l.next (l.next x) xs) (hx : x ∉ xs) (hcurrent : ∀ y ∈ x :: xs, current ≠ .next y) :
    Removed l ((l.write (l.next x) current).write none (.next x)) current (x :: xs) x := by
  have hframe : ∀ other, other ≠ current → other ≠ .next x →
      ((l.write (l.next x) current).write none (.next x)).read other = l.read other := by
    intro other hother hlink
    rw [read_write_of_ne _ _ hlink, read_write_of_ne _ _ hother]
  refine ⟨?_, fun other hother hlinks => hframe other hother (hlinks x List.mem_cons_self)⟩
  rw [List.erase_cons_head, read_write_of_ne _ _ (hcurrent x List.mem_cons_self), read_write]
  apply h.congr
  intro y hy
  refine hframe (.next y) (hcurrent y (List.mem_cons_of_mem x hy)).symm fun heq => hx ?_
  rw [← Link.next.inj heq]
  exact hy

/-- The loop from a pointer variable that is not one of the chain it points to. The induction is on the
chain; each turn moves the variable to the link of the item it has passed. -/
theorem removeLoop_spec {l : Links Owner Item} {x : Item} {xs : List Item} {current : Link Owner Item}
    (h : Chain l.next (l.read current) xs) (hx : x ∈ xs) (hcurrent : ∀ y ∈ xs, current ≠ .next y) :
    ∃ l', Removed l l' current xs x ∧
      ∀ fuel, xs.length ≤ fuel → removeLoop x fuel current l = some l' := by
  induction xs generalizing current with
  | nil => cases hx
  | cons y ys ih =>
      obtain ⟨hread, hrest⟩ := h
      have hchain : Chain l.next (some y) (y :: ys) := ⟨rfl, hrest⟩
      have hnodup : y ∉ ys := (List.nodup_cons.mp hchain.nodup).1
      by_cases hxy : y = x
      · -- the walk has found the item
        subst hxy
        refine ⟨_, removed_head hrest hnodup hcurrent, fun fuel hfuel => ?_⟩
        cases fuel with
        | zero => cases hfuel
        | succ fuel =>
            rw [removeLoop, hread]
            exact if_pos rfl
      · -- the walk goes on from the link of `y`, which nothing further on the chain leads back to
        have hx' : x ∈ ys := (List.mem_cons.mp hx).resolve_left (Ne.symm hxy)
        have hself : current ≠ .next y := hcurrent y List.mem_cons_self
        have hlinks : ∀ z ∈ ys, (Link.next y : Link Owner Item) ≠ .next z :=
          fun z hz heq => hnodup (Link.next.inj heq ▸ hz)
        obtain ⟨l', hremoved, hloop⟩ := @ih (.next y) hrest hx' hlinks
        have hkept : l'.read current = l.read current :=
          hremoved.frame current hself fun z hz => hcurrent z (List.mem_cons_of_mem y hz)
        refine ⟨l', ⟨?_, fun other _ hother => ?_⟩, fun fuel hfuel => ?_⟩
        · rw [List.erase_cons_tail (by simpa using hxy)]
          exact ⟨hkept.trans hread, hremoved.chain⟩
        · exact hremoved.frame other (hother y List.mem_cons_self)
            fun z hz => hother z (List.mem_cons_of_mem y hz)
        · cases fuel with
          | zero => cases hfuel
          | succ fuel =>
              rw [removeLoop, hread]
              dsimp only
              rw [if_neg hxy]
              exact hloop fuel (Nat.le_of_succ_le_succ hfuel)

/-! ## The abstraction -/

/-- The lists of the given owners hold exactly the items that the map assigns to them. -/
def Represents (l : Links Owner Item) (owners : Finset Owner) (assigned : Item → Option Owner) : Prop :=
  ∀ o ∈ owners, ∃ xs, Chain l.next (l.first o) xs ∧ ∀ x, x ∈ xs ↔ assigned x = some o

/-- The owners of the items that are alive. -/
def assignment (live : Finset Item) (owner : Item → Option Owner) : Item → Option Owner := fun x =>
  if x ∈ live then owner x else none

section Assignment

variable {live : Finset Item} {owner : Item → Option Owner} {x : Item} {o : Option Owner}

omit [DecidableEq Owner] in
theorem assignment_eq_some {p : Owner} : assignment live owner x = some p ↔ x ∈ live ∧ owner x = some p :=
  Option.ite_none_right_eq_some

omit [DecidableEq Owner] in
theorem assignment_insert : assignment (insert x live) (Function.update owner x o) =
    Function.update (assignment live owner) x o := by
  funext y
  by_cases hy : y = x
  · rw [hy, Function.update_self, assignment, if_pos (Finset.mem_insert_self x live),
      Function.update_self]
  · rw [Function.update_of_ne hy, assignment, assignment, Function.update_of_ne hy]
    simp only [Finset.mem_insert, hy, false_or]

omit [DecidableEq Owner] in
theorem assignment_erase :
    assignment (live.erase x) owner = Function.update (assignment live owner) x none := by
  funext y
  by_cases hy : y = x
  · rw [hy, Function.update_self, assignment, if_neg (Finset.notMem_erase x live)]
  · rw [Function.update_of_ne hy, assignment, assignment]
    simp only [Finset.mem_erase, hy, ne_eq, not_false_eq_true, true_and]

omit [DecidableEq Owner] in
theorem assignment_update (hx : x ∈ live) :
    assignment live (Function.update owner x o) = Function.update (assignment live owner) x o := by
  rw [← assignment_insert, Finset.insert_eq_of_mem hx]

omit [DecidableEq Owner] in
/-- The owners of a map that is changed at one item. -/
theorem mem_of_update {owners : Finset Owner} {assigned : Item → Option Owner}
    (h : ∀ y p, assigned y = some p → p ∈ owners) (ho : ∀ p, o = some p → p ∈ owners) {y : Item}
    {p : Owner} (hy : Function.update assigned x o y = some p) : p ∈ owners := by
  by_cases heq : y = x
  · rw [heq, Function.update_self] at hy
    exact ho p hy
  · rw [Function.update_of_ne heq] at hy
    exact h y p hy

end Assignment

namespace Represents

variable {l : Links Owner Item} {owners : Finset Owner} {assigned : Item → Option Owner}

theorem push (h : l.Represents owners assigned) {o : Owner} {x : Item} (hx : assigned x = none) :
    (l.push o x).Represents owners (Function.update assigned x (some o)) := by
  intro o' ho'
  obtain ⟨xs, hchain, hmem⟩ := h o' ho'
  have hfresh : x ∉ xs := fun hin => by
    have hassigned := (hmem x).mp hin
    rw [hx] at hassigned
    cases hassigned
  -- the link that is written belongs to no item of a list
  have hrest : Chain (l.push o x).next (l.first o') xs := by
    apply hchain.congr
    intro y hy
    refine Function.update_of_ne (fun heq => hfresh ?_) _ _
    rw [← heq]
    exact hy
  by_cases ho : o' = o
  · subst ho
    refine ⟨x :: xs, ⟨Function.update_self .., ?_⟩, fun y => ?_⟩
    · show Chain _ (Function.update l.next x (l.first o') x) xs
      rw [Function.update_self]
      exact hrest
    · rw [List.mem_cons, hmem]
      by_cases hy : y = x
      · rw [hy, Function.update_self]
        simp
      · rw [Function.update_of_ne hy]
        simp [hy]
  · refine ⟨xs, ?_, fun y => ?_⟩
    · show Chain _ (Function.update l.first o (some x) o') xs
      rw [Function.update_of_ne ho]
      exact hrest
    · rw [hmem]
      by_cases hy : y = x
      · rw [hy, Function.update_self, hx]
        simp [Ne.symm ho]
      · rw [Function.update_of_ne hy]

/-- A removal ends, and takes the item out of the map. -/
theorem remove (h : l.Represents owners assigned) {o : Owner} {x : Item} (hx : assigned x = some o)
    (ho : o ∈ owners) :
    ∃ l', Ends (fun fuel => l.remove? fuel o x) l' ∧
      l'.Represents owners (Function.update assigned x none) := by
  obtain ⟨xs, hchain, hmem⟩ := h o ho
  have hin : x ∈ xs := (hmem x).mpr hx
  have hlinks : ∀ y ∈ xs, (Link.first o : Link Owner Item) ≠ .next y := fun _ _ heq => by cases heq
  obtain ⟨l', hremoved, hloop⟩ := @removeLoop_spec _ _ _ _ l x xs (.first o) hchain hin hlinks
  refine ⟨l', ⟨xs.length, hloop⟩, fun o' ho' => ?_⟩
  by_cases heq : o' = o
  · subst heq
    refine ⟨xs.erase x, hremoved.chain, fun y => ?_⟩
    rw [hchain.nodup.mem_erase_iff, hmem]
    by_cases hy : y = x
    · rw [hy, Function.update_self]
      simp
    · rw [Function.update_of_ne hy]
      simp [hy]
  · -- the list of another owner has none of the items that the walk went over
    obtain ⟨ys, hother, hmem'⟩ := h o' ho'
    have hdisjoint : ∀ y ∈ ys, y ∉ xs := by
      intro y hy hy'
      rw [hmem', (hmem y).mp hy'] at hy
      exact heq (Option.some.inj hy).symm
    have hfirst : l'.first o' = l.first o' :=
      hremoved.frame (.first o') (fun h => heq (Link.first.inj h)) fun _ _ h => by cases h
    refine ⟨ys, ?_, fun y => ?_⟩
    · rw [hfirst]
      apply hother.congr
      intro y hy
      refine hremoved.frame (.next y) (fun h => by cases h) fun z hz h => hdisjoint y hy ?_
      rw [Link.next.inj h]
      exact hz
    · rw [hmem']
      by_cases hy : y = x
      · rw [hy, Function.update_self, hx]
        simp [Ne.symm heq]
      · rw [Function.update_of_ne hy]

omit [DecidableEq Owner] in
theorem update_unassigned {x : Item} (hx : assigned x = none) :
    Function.update assigned x none = assigned := by
  rw [← hx]
  exact Function.update_eq_self x assigned

theorem join (h : l.Represents owners assigned) {x : Item} (hx : assigned x = none) (o : Option Owner) :
    (l.join o x).Represents owners (Function.update assigned x o) := by
  cases o with
  | some o => exact h.push hx
  | none =>
      rw [update_unassigned hx]
      exact h

theorem leave (h : l.Represents owners assigned) (x : Item) (hx : ∀ o, assigned x = some o → o ∈ owners) :
    ∃ l', Ends (fun fuel => l.leave? fuel (assigned x) x) l' ∧
      l'.Represents owners (Function.update assigned x none) := by
  cases hassigned : assigned x with
  | some o => exact h.remove hassigned (hx o hassigned)
  | none =>
      refine ⟨l, ⟨0, fun _ _ => rfl⟩, ?_⟩
      rw [update_unassigned hassigned]
      exact h

omit [DecidableEq Item] in
/-- A new owner has an empty list. -/
theorem clear (h : l.Represents owners assigned) {o : Owner} (ho : ∀ x, assigned x ≠ some o) :
    (l.clear o).Represents (insert o owners) assigned := by
  intro o' ho'
  by_cases heq : o' = o
  · subst heq
    refine ⟨[], Function.update_self .., fun x => ?_⟩
    simp [ho x]
  · obtain ⟨xs, hchain, hmem⟩ := h o' ((Finset.mem_insert.mp ho').resolve_left heq)
    refine ⟨xs, ?_, hmem⟩
    show Chain l.next (Function.update l.first o none o') xs
    rw [Function.update_of_ne heq]
    exact hchain

omit [DecidableEq Item] [DecidableEq Owner] in
theorem mono (h : l.Represents owners assigned) {fewer : Finset Owner} (hsub : fewer ⊆ owners) :
    l.Represents fewer assigned := fun o ho => h o (hsub ho)

omit [DecidableEq Owner] in
/-- The link of an item that is on no list may be written. -/
theorem unlink (h : l.Represents owners assigned) {x : Item} (hx : assigned x = none) :
    (l.unlink x).Represents owners assigned := by
  intro o ho
  obtain ⟨xs, hchain, hmem⟩ := h o ho
  refine ⟨xs, hchain.congr fun y hy => ?_, hmem⟩
  refine Function.update_of_ne (fun heq => ?_) _ _
  rw [heq, hmem, hx] at hy
  cases hy

end Represents

end Links

end DualMagneticWheel.Foundation
