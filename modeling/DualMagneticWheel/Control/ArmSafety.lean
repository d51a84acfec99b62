/-
# DualMagneticWheel.Control.ArmSafety — the arming interlock and the traces it accepts

`ArmSafety` is a machine of three states. After power-on it waits until the switch has been seen off;
then it follows the switch, and a lost signal leaves it where it is.

The machine is characterised by the history of what it was shown. An observation is a switch position or
nothing; `ArmedTrace` says in terms of observations alone when the robot may be armed, and
`run_armed_iff` says that the machine is armed exactly then.
-/
import DualMagneticWheel.Msg

namespace DualMagneticWheel

open ManualControlSwitches

/-- `ArmSafety::State`. -/
inductive ArmSafety.State where
  | waitForOff
  | readyForOn
  | armed
  deriving DecidableEq

/-- The one field of class `ArmSafety`; the constructor waits for the switch to be off. -/
structure ArmSafety where
  state : ArmSafety.State := .waitForOff
  deriving DecidableEq

namespace ArmSafety

/-- `ArmSafety::reset`. -/
def reset (_s : ArmSafety) : ArmSafety := {}

/-- `ArmSafety::update`. -/
def update (valid : Bool) (position : UInt8) (s : ArmSafety) : Bool × ArmSafety :=
  if !valid then (s.state == .armed, s)
  else
    match s.state with
    | .waitForOff => (false, if position = POSITION_OFF then ⟨.readyForOn⟩ else s)
    | .readyForOn => if position = POSITION_ON then (true, ⟨.armed⟩) else (false, s)
    | .armed => if position = POSITION_ON then (true, s) else (false, ⟨.readyForOn⟩)

/-- `ArmSafety::waitingForOff`. -/
def waitingForOff (s : ArmSafety) : Bool := s.state == .waitForOff

/-- The answer of an update is whether the machine is armed afterwards. -/
theorem update_answer (valid : Bool) (position : UInt8) (s : ArmSafety) :
    (s.update valid position).1 = ((s.update valid position).2.state == .armed) := by
  unfold update
  cases valid with
  | false => rfl
  | true =>
      rcases s with ⟨_ | _ | _⟩
      · by_cases h : position = POSITION_OFF <;> simp [h]
      · by_cases h : position = POSITION_ON <;> simp [h]
      · by_cases h : position = POSITION_ON <;> simp [h]

/-! ## Histories of observations -/

/-- One update with a switch position or without a usable signal. -/
def observe (s : ArmSafety) : Option UInt8 → ArmSafety
  | some position => (s.update true position).2
  | none => (s.update false POSITION_NONE).2

/-- The machine is armed after an observation: newly, or because nothing was observed. -/
theorem observe_armed (s : ArmSafety) (o : Option UInt8) :
    (s.observe o).state = .armed ↔
      (o = some POSITION_ON ∧ s.state ≠ .waitForOff) ∨ (o = none ∧ s.state = .armed) := by
  cases o with
  | none => simp [observe, update]
  | some position =>
      by_cases hon : position = POSITION_ON
      · rcases s with ⟨_ | _ | _⟩ <;> simp [observe, update, hon, POSITION_ON, POSITION_OFF]
      · rcases s with ⟨_ | _ | _⟩
        · by_cases hoff : position = POSITION_OFF <;> simp [observe, update, hon, hoff]
        · simp [observe, update, hon]
        · simp [observe, update, hon]

/-- Only an off switch ends the wait, and nothing but a reset starts it again. -/
theorem observe_waitForOff (s : ArmSafety) (o : Option UInt8) :
    (s.observe o).state = .waitForOff ↔ s.state = .waitForOff ∧ o ≠ some POSITION_OFF := by
  cases o with
  | none => simp [observe, update]
  | some position =>
      rcases s with ⟨_ | _ | _⟩
      · by_cases hoff : position = POSITION_OFF <;> simp [observe, update, hoff]
      · by_cases hon : position = POSITION_ON <;> simp [observe, update, hon]
      · by_cases hon : position = POSITION_ON <;> simp [observe, update, hon]

/-- The machine after a history of observations, newest first. -/
def run : List (Option UInt8) → ArmSafety
  | [] => {}
  | o :: before => (run before).observe o

/-- The switch was seen off, later on, and ever since on or not at all. Newest observation first. -/
def ArmedTrace (history : List (Option UInt8)) : Prop :=
  ∃ after before, history = after ++ some POSITION_ON :: before ∧ some POSITION_OFF ∈ before ∧
    ∀ o ∈ after, o = some POSITION_ON ∨ o = none

/-- The newest observation decides between starting a new armed stretch and continuing one. -/
theorem armedTrace_cons (o : Option UInt8) (before : List (Option UInt8)) :
    ArmedTrace (o :: before) ↔
      (o = some POSITION_ON ∧ some POSITION_OFF ∈ before) ∨
        ((o = some POSITION_ON ∨ o = none) ∧ ArmedTrace before) := by
  constructor
  · rintro ⟨after, rest, heq, hoff, hafter⟩
    cases after with
    | nil =>
        obtain ⟨rfl, rfl⟩ := List.cons.inj heq
        exact Or.inl ⟨rfl, hoff⟩
    | cons o' after =>
        obtain ⟨rfl, rfl⟩ := List.cons.inj heq
        refine Or.inr ⟨hafter o List.mem_cons_self, after, rest, rfl, hoff, ?_⟩
        intro x hx
        exact hafter x (List.mem_cons_of_mem o hx)
  · rintro (⟨rfl, hoff⟩ | ⟨ho, after, rest, rfl, hoff, hafter⟩)
    · exact ⟨[], before, rfl, hoff, fun _ hx => nomatch hx⟩
    · refine ⟨o :: after, rest, rfl, hoff, ?_⟩
      intro x hx
      rcases List.mem_cons.mp hx with rfl | hx
      · exact ho
      · exact hafter x hx

/-- An armed stretch has seen the switch off. -/
theorem ArmedTrace.off_mem {history : List (Option UInt8)} (h : ArmedTrace history) :
    some POSITION_OFF ∈ history := by
  obtain ⟨after, before, rfl, hoff, _⟩ := h
  exact List.mem_append_right after (List.mem_cons_of_mem _ hoff)

/-- The machine is determined by its history: armed on the armed traces, waiting until the switch has
been seen off. Induction on the history, one machine state at a time. -/
theorem run_state (history : List (Option UInt8)) :
    ((run history).state = .armed ↔ ArmedTrace history) ∧
      ((run history).state = .waitForOff ↔ some POSITION_OFF ∉ history) := by
  induction history with
  | nil =>
      constructor
      · constructor
        · intro h
          cases h
        · intro h
          cases h.off_mem
      · simp [run]
  | cons o before ih =>
      obtain ⟨harmed, hwait⟩ := ih
      have hseen : (run before).state ≠ .waitForOff ↔ some POSITION_OFF ∈ before := by
        rw [Ne, hwait, not_not]
      constructor
      · show ((run before).observe o).state = .armed ↔ _
        rw [observe_armed, armedTrace_cons, hseen, harmed]
        constructor
        · rintro (⟨hon, hoff⟩ | ⟨hnone, htrace⟩)
          · exact Or.inl ⟨hon, hoff⟩
          · exact Or.inr ⟨Or.inr hnone, htrace⟩
        · rintro (⟨hon, hoff⟩ | ⟨hon | hnone, htrace⟩)
          · exact Or.inl ⟨hon, hoff⟩
          · exact Or.inl ⟨hon, htrace.off_mem⟩
          · exact Or.inr ⟨hnone, htrace⟩
      · show ((run before).observe o).state = .waitForOff ↔ _
        rw [observe_waitForOff, hwait, List.mem_cons, not_or, and_comm, ne_comm]

/-- The interlock is armed exactly on the armed traces. -/
theorem run_armed_iff (history : List (Option UInt8)) :
    (run history).state = .armed ↔ ArmedTrace history := (run_state history).1

end ArmSafety

end DualMagneticWheel
