/-
# DualMagneticWheel.Foundation.Forest — trees given by a parent pointer

A partial map from nodes to their parents is a forest as soon as nobody is its own ancestor. Then the
subtrees of two siblings are disjoint, a node is in no subtree of a child, and, if finitely many nodes have
a parent, a recursion from parents to children ends.
-/
import Mathlib.Logic.Relation
import Mathlib.Order.WellFoundedSet

namespace DualMagneticWheel.Foundation

open Relation

variable {N : Type*} {parent : N → Option N}

/-- The first node is a child of the second. -/
def Edge (parent : N → Option N) (child node : N) : Prop := parent child = some node

/-- The first node is in the subtree of the second. -/
def Below (parent : N → Option N) : N → N → Prop := ReflTransGen (Edge parent)

/-- No node is its own ancestor. -/
def Acyclic (parent : N → Option N) : Prop := ∀ n, ¬ TransGen (Edge parent) n n

/-- A node has one parent. -/
theorem edge_rightUnique : Relator.RightUnique (Edge parent) := by
  intro child n m hn hm
  exact Option.some.inj (hn.symm.trans hm)

theorem below_iff {m n : N} : Below parent m n ↔ m = n ∨ ∃ c, Below parent m c ∧ Edge parent c n := by
  rw [Below, ReflTransGen.cases_tail_iff, eq_comm]

/-- A parent map whose nodes have a height that falls towards the root. -/
theorem acyclic_of_height (height : N → Nat)
    (h : ∀ child n, parent child = some n → height n < height child) : Acyclic parent := by
  have hfalls : ∀ m n, TransGen (Edge parent) m n → height n < height m := by
    intro m n hmn
    induction hmn with
    | single hedge => exact h _ _ hedge
    | tail _ hedge ih => exact (h _ _ hedge).trans ih
  exact fun n hn => Nat.lt_irrefl _ (hfalls n n hn)

namespace Acyclic

theorem not_below_child (h : Acyclic parent) {c n : N} (hc : Edge parent c n) : ¬ Below parent n c :=
  fun hn => h n (TransGen.tail' hn hc)

/-- The subtrees of siblings have no node in common. -/
theorem eq_of_below_siblings (h : Acyclic parent) {m c c' n : N} (hc : Edge parent c n)
    (hc' : Edge parent c' n) (hm : Below parent m c) (hm' : Below parent m c') : c = c' := by
  -- one sibling under another one would have their parent under itself
  have hunder : ∀ {a b : N}, Edge parent a n → Edge parent b n → Below parent a b → a = b := by
    intro a b ha hb hab
    rcases ReflTransGen.cases_head hab with heq | ⟨n', hn', hbelow⟩
    · exact heq
    · rw [edge_rightUnique hn' ha] at hbelow
      exact absurd hbelow (h.not_below_child hb)
  rcases ReflTransGen.total_of_right_unique edge_rightUnique hm hm' with hcc | hcc
  · exact hunder hc hc' hcc
  · exact (hunder hc' hc hcc).symm

/-- What holds of a node as soon as it holds of its children holds of every node. -/
theorem induction (h : Acyclic parent) {nodes : Finset N} (hnodes : ∀ c n, parent c = some n → c ∈ nodes)
    {P : N → Prop} (step : ∀ n ∈ nodes, (∀ c, Edge parent c n → P c) → P n) {n : N} (hn : n ∈ nodes) :
    P n := by
  have : IsStrictOrder N (TransGen (Edge parent)) := { irrefl := h, trans := fun _ _ _ => TransGen.trans }
  have hwf : (nodes : Set N).WellFoundedOn (TransGen (Edge parent)) :=
    Set.Finite.wellFoundedOn nodes.finite_toSet
  refine hwf.induction (Finset.mem_coe.mpr hn) fun m hm ih => step m hm fun c hc => ?_
  exact ih c (hnodes c m hc) (TransGen.single hc)

end Acyclic

end DualMagneticWheel.Foundation
