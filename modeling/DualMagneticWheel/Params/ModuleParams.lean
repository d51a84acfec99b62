/-
# DualMagneticWheel.Params.ModuleParams — the links of the parameter tree

`ModuleParams` and `ParamBase` allocate nothing: a node points to its first child and its first parameter,
children and parameters point to the next one. `ParamHeap` has the link fields of all objects and the sets
of those that are alive. Constructors, destructors and `setParent` rewrite the links as the source does;
the loops of a removal run on fuel.

`Linked` says that the links hold the tree: the children of a node are the live nodes whose parent it is,
its parameters are the live ones that it owns. Every operation keeps it, and ends (`next_linked`), as long
as children and parameters are destroyed before their owner.
-/
import DualMagneticWheel.Foundation.Forest
import DualMagneticWheel.Foundation.IntrusiveList
import DualMagneticWheel.Foundation.Transition

namespace DualMagneticWheel

open Foundation

variable {Node Param : Type} [DecidableEq Node] [DecidableEq Param]

/-! ## The objects -/

/-- The fields of all `ModuleParams` (`parent`, `childLinks` with `_firstChild` and `_nextSibling`) and
`ParamBase` objects (`owner`, `paramLinks` with `_firstParam` and `_next`), by address. -/
structure ParamHeap (Node Param : Type) where
  nodes : Finset Node := ∅
  params : Finset Param := ∅
  parent : Node → Option Node := fun _ => none
  owner : Param → Option Node := fun _ => none
  childLinks : Links Node Node := ⟨fun _ => none, fun _ => none⟩
  paramLinks : Links Node Param := ⟨fun _ => none, fun _ => none⟩

namespace ParamHeap

/-- `ModuleParams::ModuleParams`; the fields of the object are initialised first. -/
def construct (h : ParamHeap Node Param) (n : Node) (parent : Option Node) : ParamHeap Node Param :=
  { h with
    nodes := insert n h.nodes
    parent := Function.update h.parent n parent
    childLinks := ((h.childLinks.unlink n).clear n).join parent n
    paramLinks := h.paramLinks.clear n }

/-- `ModuleParams::~ModuleParams`. -/
def destroy? (h : ParamHeap Node Param) (fuel : Nat) (n : Node) : Option (ParamHeap Node Param) :=
  (h.childLinks.leave? fuel (h.parent n) n).map fun childLinks =>
    { h with nodes := h.nodes.erase n, childLinks }

/-- `ModuleParams::setParent`. -/
def setParent? (h : ParamHeap Node Param) (fuel : Nat) (n : Node) (parent : Option Node) :
    Option (ParamHeap Node Param) :=
  if h.parent n = parent then some h
  else
    (h.childLinks.leave? fuel (h.parent n) n).map fun childLinks =>
      { h with parent := Function.update h.parent n parent, childLinks := childLinks.join parent n }

/-- `ParamBase::ParamBase`. -/
def constructParam (h : ParamHeap Node Param) (p : Param) (owner : Option Node) :
    ParamHeap Node Param :=
  { h with
    params := insert p h.params
    owner := Function.update h.owner p owner
    paramLinks := (h.paramLinks.unlink p).join owner p }

/-- `ParamBase::~ParamBase`. -/
def destroyParam? (h : ParamHeap Node Param) (fuel : Nat) (p : Param) : Option (ParamHeap Node Param) :=
  (h.paramLinks.leave? fuel (h.owner p) p).map fun paramLinks =>
    { h with params := h.params.erase p, paramLinks }

end ParamHeap

/-- A call of a constructor, a destructor or `setParent`. -/
inductive ParamAction (Node Param : Type) where
  | construct (n : Node) (parent : Option Node)
  | destroy (n : Node)
  | setParent (n : Node) (parent : Option Node)
  | constructParam (p : Param) (owner : Option Node)
  | destroyParam (p : Param)

namespace ParamHeap

/-- The call, with fuel for its loop. -/
def next? (h : ParamHeap Node Param) (fuel : Nat) : ParamAction Node Param → Option (ParamHeap Node Param)
  | .construct n parent => some (h.construct n parent)
  | .destroy n => h.destroy? fuel n
  | .setParent n parent => h.setParent? fuel n parent
  | .constructParam p owner => some (h.constructParam p owner)
  | .destroyParam p => h.destroyParam? fuel p

/-! ## The tree -/

/-- Where a live node is attached. -/
def placed (h : ParamHeap Node Param) : Node → Option Node := Links.assignment h.nodes h.parent

/-- Where a live parameter is registered. -/
def owned (h : ParamHeap Node Param) : Param → Option Node := Links.assignment h.params h.owner

/-- What a caller keeps to: objects are constructed where none is and under a live one, and destroyed after
their children and parameters. -/
def Enabled (h : ParamHeap Node Param) : ParamAction Node Param → Prop
  | .construct n parent => n ∉ h.nodes ∧ ∀ m, parent = some m → m ∈ h.nodes
  | .destroy n => n ∈ h.nodes ∧ (∀ m, h.placed m ≠ some n) ∧ ∀ p, h.owned p ≠ some n
  | .setParent n parent => n ∈ h.nodes ∧ ∀ m, parent = some m → m ∈ h.nodes
  | .constructParam p owner => p ∉ h.params ∧ ∀ m, owner = some m → m ∈ h.nodes
  | .destroyParam p => p ∈ h.params

/-- The links hold the tree, and every object hangs on a live node. -/
structure Linked (h : ParamHeap Node Param) : Prop where
  children : h.childLinks.Represents h.nodes h.placed
  params : h.paramLinks.Represents h.nodes h.owned
  placed_mem : ∀ n m, h.placed n = some m → m ∈ h.nodes
  owned_mem : ∀ p m, h.owned p = some m → m ∈ h.nodes

/-! ## Every operation keeps the tree -/

namespace Linked

variable {h : ParamHeap Node Param}

theorem construct (hlinked : h.Linked) {n : Node} {parent : Option Node} (hn : n ∉ h.nodes)
    (hparent : ∀ m, parent = some m → m ∈ h.nodes) : (h.construct n parent).Linked := by
  have hplaced : (h.construct n parent).placed = Function.update h.placed n parent :=
    Links.assignment_insert
  have hchildless : ∀ m, h.placed m ≠ some n := fun m hm => hn (hlinked.placed_mem m n hm)
  have hparamless : ∀ p, h.owned p ≠ some n := fun p hp => hn (hlinked.owned_mem p n hp)
  refine ⟨?_, hlinked.params.clear hparamless, fun m m' hm => ?_, fun p m hp => ?_⟩
  · have hnone : h.placed n = none := if_neg hn
    rw [hplaced]
    exact ((hlinked.children.unlink hnone).clear hchildless).join hnone parent
  · rw [hplaced] at hm
    exact Finset.mem_insert_of_mem (Links.mem_of_update hlinked.placed_mem hparent hm)
  · exact Finset.mem_insert_of_mem (hlinked.owned_mem p m hp)

theorem destroy (hlinked : h.Linked) {n : Node} (hn : n ∈ h.nodes) (hchildless : ∀ m, h.placed m ≠ some n)
    (hparamless : ∀ p, h.owned p ≠ some n) :
    ∃ t, Ends (fun fuel => h.destroy? fuel n) t ∧ t.Linked := by
  have hself : h.placed n = h.parent n := if_pos hn
  obtain ⟨links, hends, hrepresents⟩ := hlinked.children.leave n (hlinked.placed_mem n)
  rw [hself] at hends
  have hplaced : placed { h with nodes := h.nodes.erase n, childLinks := links } =
      Function.update h.placed n none := Links.assignment_erase
  have hsub := Finset.erase_subset n h.nodes
  refine ⟨_, hends.map _, ?_, hlinked.params.mono hsub, fun m m' hm => ?_, fun p m hp => ?_⟩
  · rw [hplaced]
    exact hrepresents.mono hsub
  · -- nothing hangs on the node that goes, so every other place is still a live node
    have hold : h.placed m = some m' := by
      rw [hplaced] at hm
      by_cases heq : m = n
      · rw [heq, Function.update_self] at hm
        cases hm
      · rwa [Function.update_of_ne heq] at hm
    refine Finset.mem_erase.mpr ⟨?_, hlinked.placed_mem m m' hold⟩
    rintro rfl
    exact hchildless m hold
  · refine Finset.mem_erase.mpr ⟨?_, hlinked.owned_mem p m hp⟩
    rintro rfl
    exact hparamless p hp

theorem setParent (hlinked : h.Linked) {n : Node} {parent : Option Node} (hn : n ∈ h.nodes)
    (hparent : ∀ m, parent = some m → m ∈ h.nodes) :
    ∃ t, Ends (fun fuel => h.setParent? fuel n parent) t ∧ t.Linked := by
  unfold setParent?
  by_cases hsame : h.parent n = parent
  · simp only [if_pos hsame]
    exact ⟨h, ⟨0, fun _ _ => rfl⟩, hlinked⟩
  · simp only [if_neg hsame]
    have hself : h.placed n = h.parent n := if_pos hn
    obtain ⟨links, hends, hrepresents⟩ := hlinked.children.leave n (hlinked.placed_mem n)
    rw [hself] at hends
    have hplaced : placed { h with
        parent := Function.update h.parent n parent, childLinks := links.join parent n } =
        Function.update h.placed n parent := Links.assignment_update hn
    have hjoined := hrepresents.join (Function.update_self n none h.placed) parent
    rw [Function.update_idem] at hjoined
    refine ⟨_, hends.map _, ?_, hlinked.params, fun m m' hm => ?_, hlinked.owned_mem⟩
    · rw [hplaced]
      exact hjoined
    · rw [hplaced] at hm
      exact Links.mem_of_update hlinked.placed_mem hparent hm

theorem constructParam (hlinked : h.Linked) {p : Param} {owner : Option Node} (hp : p ∉ h.params)
    (howner : ∀ m, owner = some m → m ∈ h.nodes) : (h.constructParam p owner).Linked := by
  have hnone : h.owned p = none := if_neg hp
  have howned : (h.constructParam p owner).owned = Function.update h.owned p owner :=
    Links.assignment_insert
  refine ⟨hlinked.children, ?_, hlinked.placed_mem, fun q m hq => ?_⟩
  · rw [howned]
    exact (hlinked.params.unlink hnone).join hnone owner
  · rw [howned] at hq
    exact Links.mem_of_update hlinked.owned_mem howner hq

theorem destroyParam (hlinked : h.Linked) {p : Param} (hp : p ∈ h.params) :
    ∃ t, Ends (fun fuel => h.destroyParam? fuel p) t ∧ t.Linked := by
  have hself : h.owned p = h.owner p := if_pos hp
  obtain ⟨links, hends, hrepresents⟩ := hlinked.params.leave p (hlinked.owned_mem p)
  rw [hself] at hends
  have howned : owned { h with params := h.params.erase p, paramLinks := links } =
      Function.update h.owned p none := Links.assignment_erase
  refine ⟨_, hends.map _, hlinked.children, ?_, hlinked.placed_mem, fun q m hq => ?_⟩
  · rw [howned]
    exact hrepresents
  · rw [howned] at hq
    exact Links.mem_of_update hlinked.owned_mem (by simp) hq

end Linked

/-- One call: it ends, and the links hold the tree again. -/
theorem next_linked {h : ParamHeap Node Param} (hlinked : h.Linked) {a : ParamAction Node Param}
    (henabled : h.Enabled a) : ∃ t, Ends (fun fuel => h.next? fuel a) t ∧ t.Linked := by
  cases a with
  | construct n parent =>
      exact ⟨_, ⟨0, fun _ _ => rfl⟩, hlinked.construct henabled.1 henabled.2⟩
  | destroy n => exact hlinked.destroy henabled.1 henabled.2.1 henabled.2.2
  | setParent n parent => exact hlinked.setParent henabled.1 henabled.2
  | constructParam p owner =>
      exact ⟨_, ⟨0, fun _ _ => rfl⟩, hlinked.constructParam henabled.1 henabled.2⟩
  | destroyParam p => exact hlinked.destroyParam henabled

/-! ## Runs -/

/-- The calls in any order, each run to its end, as long as the parents stay acyclic. -/
def system (Node Param : Type) [DecidableEq Node] [DecidableEq Param] :
    Transition (ParamHeap Node Param) (ParamAction Node Param) where
  init h := h = {}
  step h a t := h.Enabled a ∧ Ends (fun fuel => h.next? fuel a) t ∧ Acyclic t.placed

theorem reachable_linked {h : ParamHeap Node Param} (hreachable : (system Node Param).Reachable h) :
    h.Linked ∧ Acyclic h.placed := by
  refine hreachable.invariant (fun h => h.Linked ∧ Acyclic h.placed) ?_ ?_
  · rintro _ rfl
    have hplaced : ∀ n m : Node, ¬ placed ({} : ParamHeap Node Param) n = some m := fun n m hnm =>
      absurd (Links.assignment_eq_some.mp hnm).1 (Finset.notMem_empty n)
    refine ⟨⟨?_, ?_, fun n m hnm => absurd hnm (hplaced n m), fun p m hpm => ?_⟩, fun n hn => ?_⟩
    · exact fun n hn => absurd hn (Finset.notMem_empty n)
    · exact fun n hn => absurd hn (Finset.notMem_empty n)
    · exact absurd (Links.assignment_eq_some.mp hpm).1 (Finset.notMem_empty p)
    · obtain ⟨m, hnm, -⟩ := Relation.TransGen.head'_iff.mp hn
      exact hplaced n m hnm
  · rintro h a t _ ⟨hlinked, -⟩ ⟨henabled, hends, hacyclic⟩
    obtain ⟨t', hends', hlinked'⟩ := next_linked hlinked henabled
    obtain rfl := hends.unique hends'
    exact ⟨hlinked', hacyclic⟩

end ParamHeap

end DualMagneticWheel
