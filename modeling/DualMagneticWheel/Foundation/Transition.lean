/-
# DualMagneticWheel.Foundation.Transition — labelled transition systems and their two induction rules

A program that is entered again and again by other tasks is a transition system: what it remembers is
the state, and one atomic entry (one critical section, one call, one message) is a labelled step.
`Reachable` collects the states of all runs. Two rules carry every safety proof above this module:

* `Reachable.invariant` packages the induction once, so that a safety property costs one statement
  about the start and one statement about a single step;
* `restrict` cuts a system down to the runs whose steps all meet a condition, which is how a property
  that only holds under a discipline of its callers is stated.
-/
import Mathlib.Data.List.Induction
import Mathlib.Order.Basic

namespace DualMagneticWheel.Foundation

/-- A labelled transition system. The step relation is arbitrary, so a label may leave choices to
the environment. -/
structure Transition (State Label : Type*) where
  init : State → Prop
  step : State → Label → State → Prop

namespace Transition

variable {State Label : Type*} (T : Transition State Label)

/-- States that some run passes through. -/
inductive Reachable : State → Prop
  | start {s : State} : T.init s → Reachable s
  | next {s t : State} {a : Label} : Reachable s → T.step s a t → Reachable t

/-- Runs recorded with their labels, oldest label first. -/
inductive Run : List Label → State → Prop
  | start {s : State} : T.init s → Run [] s
  | next {as : List Label} {a : Label} {s t : State} :
      Run as s → T.step s a t → Run (as ++ [a]) t

variable {T}

/-- The invariant rule. The step premise may use that the source state is reachable, so an invariant
proved earlier is available in the proof of a later one. -/
theorem Reachable.invariant (P : State → Prop) (hinit : ∀ s, T.init s → P s)
    (hstep : ∀ s a t, T.Reachable s → P s → T.step s a t → P t) {s : State}
    (h : T.Reachable s) : P s := by
  induction h with
  | start h0 => exact hinit _ h0
  | next hs hst ih => exact hstep _ _ _ hs ih hst

theorem Run.reachable {as : List Label} {s : State} (h : T.Run as s) : T.Reachable s := by
  induction h with
  | start h0 => exact .start h0
  | next _ hst ih => exact .next ih hst

theorem Reachable.run {s : State} (h : T.Reachable s) : ∃ as, T.Run as s := by
  induction h with
  | start h0 => exact ⟨[], .start h0⟩
  | next _ hst ih =>
      obtain ⟨as, has⟩ := ih
      exact ⟨_, .next has hst⟩

/-- The runs of `T` in which every step is taken from a state that meets the condition. -/
def restrict (T : Transition State Label) (C : State → Label → Prop) : Transition State Label where
  init := T.init
  step s a t := C s a ∧ T.step s a t

theorem restrict_reachable {C : State → Label → Prop} {s : State}
    (h : (T.restrict C).Reachable s) : T.Reachable s := by
  induction h with
  | start h0 => exact .start h0
  | next _ hst ih => exact .next ih hst.2

/-! ## Deterministic systems -/

/-- The system whose steps are the graph of a function: all choices are in the label. -/
def ofFun (init : State → Prop) (next : State → Label → State) : Transition State Label where
  init := init
  step s a t := t = next s a

theorem Reachable.foldl {init : State → Prop} {next : State → Label → State} {s : State}
    (h : (ofFun init next).Reachable s) (as : List Label) :
    (ofFun init next).Reachable (as.foldl next s) := by
  induction as generalizing s with
  | nil => exact h
  | cons a as ih => exact ih (.next h rfl)

/-- The condition holds at every step of the given labels. -/
def Along (C : State → Label → Prop) (next : State → Label → State) : State → List Label → Prop
  | _, [] => True
  | s, a :: as => C s a ∧ Along C next (next s a) as

instance {C : State → Label → Prop} [∀ s a, Decidable (C s a)] {next : State → Label → State} :
    ∀ s as, Decidable (Along C next s as)
  | _, [] => inferInstanceAs (Decidable True)
  | s, a :: as =>
      have : Decidable (Along C next (next s a) as) := instDecidableAlong (next s a) as
      inferInstanceAs (Decidable (C s a ∧ Along C next (next s a) as))

theorem Reachable.foldl_restrict {init : State → Prop} {next : State → Label → State}
    {C : State → Label → Prop} {s : State} {as : List Label}
    (h : ((ofFun init next).restrict C).Reachable s) (has : Along C next s as) :
    ((ofFun init next).restrict C).Reachable (as.foldl next s) := by
  induction as generalizing s with
  | nil => exact h
  | cons a as ih => exact ih (.next h ⟨has.1, rfl⟩) has.2

/-! ## What was on the way -/

section OnTheWay

variable {C P : State → Label → Prop} {next : State → Label → State} {s : State} {as : List Label}

theorem along_append {bs : List Label} :
    Along C next s (as ++ bs) ↔ Along C next s as ∧ Along C next (as.foldl next s) bs := by
  induction as generalizing s with
  | nil => simp only [Along, true_and, List.nil_append, List.foldl_nil]
  | cons a as ih =>
      show C s a ∧ Along C next (next s a) (as ++ bs) ↔ (C s a ∧ Along C next (next s a) as) ∧ _
      rw [ih, and_assoc]
      rfl

/-- Every reachable state is at the end of some admitted labels. -/
theorem Reachable.along {init : State → Prop} (h : ((ofFun init next).restrict C).Reachable s) :
    ∃ s₀ as, init s₀ ∧ Along C next s₀ as ∧ as.foldl next s₀ = s := by
  induction h with
  | start h0 => exact ⟨_, [], h0, trivial, rfl⟩
  | @next s t a _ hstep ih =>
      obtain ⟨s₀, as, h0, has, rfl⟩ := ih
      obtain ⟨hC, rfl⟩ := hstep
      refine ⟨s₀, as ++ [a], h0, along_append.mpr ⟨has, hC, trivial⟩, ?_⟩
      rw [List.foldl_append]
      rfl

/-- The invariant rule for a property that also speaks about the labels so far. -/
theorem Along.history (Inv : List Label → State → Prop) (has : Along C next s as) (hstart : Inv [] s)
    (hstep : ∀ as a, C (as.foldl next s) a → Inv as (as.foldl next s) →
      Inv (as ++ [a]) (next (as.foldl next s) a)) : Inv as (as.foldl next s) := by
  induction as using List.reverseRecOn with
  | nil => exact hstart
  | append_singleton as a ih =>
      obtain ⟨hbefore, hC, -⟩ := along_append.mp has
      rw [List.foldl_append]
      exact hstep as a hC (ih hbefore)

/-- One of the labels was taken in a state where `P` held. -/
def Took (P : State → Label → Prop) (next : State → Label → State) (s : State) (as : List Label) : Prop :=
  ∃ before a after, as = before ++ a :: after ∧ P (before.foldl next s) a

theorem Took.append (h : Took P next s as) (bs : List Label) : Took P next s (as ++ bs) := by
  obtain ⟨before, a, after, rfl, hP⟩ := h
  exact ⟨before, a, after ++ bs, List.append_assoc _ _ _, hP⟩

theorem took_concat {a : Label} (h : P (as.foldl next s) a) : Took P next s (as ++ [a]) :=
  ⟨as, a, [], rfl, h⟩

end OnTheWay

end Transition

end DualMagneticWheel.Foundation
