/-
# DualMagneticWheel.Foundation.Script — scripts of commands with a status

A command changes a state and returns a status. A script puts commands one after another and branches on
the status of a test. Where errors stop it, a script ends at its first failed command; a failed test only
chooses a branch. The outcome keeps which commands ran and with which status, so that a triple can say
more of a script than what its last command returned.
-/
import Mathlib.Tactic.TypeStar

namespace DualMagneticWheel.Foundation

/-- Scripts over a type of commands. -/
inductive Script (Command : Type*) where
  | done
  | run (command : Command)
  | seq (first second : Script Command)
  | branch (test : Command) (yes no : Script Command)

namespace Script

variable {Command State Status : Type*}

/-- What a script leaves: the state, the commands that ran with their statuses in order, and whether it
ran to its end. -/
structure Outcome (Command State Status : Type*) where
  state : State
  log : List (Command × Status)
  finished : Bool

/-- The outcome with what ran before it. -/
def Outcome.after (earlier : List (Command × Status)) (o : Outcome Command State Status) :
    Outcome Command State Status :=
  { o with log := earlier ++ o.log }

variable (exec : State → Command → State × Status) (ok : Status → Bool) (stopOnError : Bool)

/-- The outcome of a script; `ok` is how a status is read. -/
def eval : Script Command → State → Outcome Command State Status
  | done, s => ⟨s, [], true⟩
  | run command, s =>
      ⟨(exec s command).1, [(command, (exec s command).2)], ok (exec s command).2 || !stopOnError⟩
  | seq first second, s =>
      let before := first.eval s
      if before.finished then (second.eval before.state).after before.log else before
  | branch test yes no, s =>
      let tested := exec s test
      -- the status of a test is not an error, whatever it is
      (if ok tested.2 then yes.eval tested.1 else no.eval tested.1).after [(test, tested.2)]

/-- Commands one after another. -/
def lines : List Command → Script Command
  | [] => done
  | command :: rest => seq (run command) (lines rest)

/-- Whenever `P` holds before the script, `Q` holds of its outcome. -/
def Triple (P : State → Prop) (script : Script Command) (Q : Outcome Command State Status → Prop) : Prop :=
  ∀ s, P s → Q (script.eval exec ok stopOnError s)

variable {exec ok stopOnError}

/-- A command without an error lets the lines after it run. -/
theorem eval_lines_cons {command : Command} {rest : List Command} {s : State}
    (h : ok (exec s command).2 = true) :
    (lines (command :: rest)).eval exec ok stopOnError s =
      ((lines rest).eval exec ok stopOnError (exec s command).1).after [(command, (exec s command).2)] := by
  rw [lines, eval, eval]
  exact if_pos (by rw [h, Bool.true_or])

namespace Triple

variable {P : State → Prop} {Q : Outcome Command State Status → Prop}

/-- A branch starts from what the test leaves, with its verdict. -/
theorem branch {R : State → Status → Prop} {test : Command} {yes no : Script Command}
    (htest : ∀ s, P s → R (exec s test).1 (exec s test).2)
    (hyes : ∀ status, ok status = true →
      Triple exec ok stopOnError (fun s => R s status) yes fun o => Q (o.after [(test, status)]))
    (hno : ∀ status, ok status = false →
      Triple exec ok stopOnError (fun s => R s status) no fun o => Q (o.after [(test, status)])) :
    Triple exec ok stopOnError P (.branch test yes no) Q := by
  intro s hs
  rw [eval]
  split
  · rename_i hok
    exact hyes _ hok _ (htest s hs)
  · rename_i hok
    exact hno _ (Bool.eq_false_iff.mpr hok) _ (htest s hs)

/-- Every line keeps `I` and has no error: all of them run, in order. -/
theorem lines {I : State → Prop} {commands : List Command}
    (hstep : ∀ command ∈ commands, ∀ s, I s → I (exec s command).1 ∧ ok (exec s command).2 = true) :
    Triple exec ok stopOnError I (Script.lines commands) fun o =>
      o.finished = true ∧ I o.state ∧ o.log.map Prod.fst = commands ∧ ∀ entry ∈ o.log, ok entry.2 = true := by
  induction commands with
  | nil => exact fun s hs => ⟨rfl, hs, rfl, fun _ hmem => nomatch hmem⟩
  | cons command rest ih =>
      intro s hs
      obtain ⟨hkept, hok⟩ := hstep command List.mem_cons_self s hs
      obtain ⟨hfinished, hstate, hran, hstatus⟩ :=
        ih (fun later hmem => hstep later (List.mem_cons_of_mem command hmem)) _ hkept
      rw [eval_lines_cons hok]
      refine ⟨hfinished, hstate, congrArg (command :: ·) hran, ?_⟩
      intro entry hmem
      rcases List.mem_cons.mp hmem with rfl | hmem
      · exact hok
      · exact hstatus entry hmem

/-- Their effects follow one another. -/
theorem lines_state {I : State → Prop} {commands : List Command}
    (hstep : ∀ command ∈ commands, ∀ s, I s → I (exec s command).1 ∧ ok (exec s command).2 = true)
    {s : State} (hs : I s) :
    ((Script.lines commands).eval exec ok stopOnError s).state =
      commands.foldl (fun s command => (exec s command).1) s := by
  induction commands generalizing s with
  | nil => rfl
  | cons command rest ih =>
      obtain ⟨hkept, hok⟩ := hstep command List.mem_cons_self s hs
      rw [eval_lines_cons hok]
      exact ih (fun later hmem => hstep later (List.mem_cons_of_mem command hmem)) hkept

end Triple

end Script

end DualMagneticWheel.Foundation
