/-
# DualMagneticWheel.Orb.Topic — the latest-value topic and its subscriptions

`uorb::Topic` keeps one message and a 32-bit generation that counts publications; a
`uorb::Subscription` remembers the generation it read last and copies the message only when the two
differ. Both counters wrap, and they do so here. Everything under the data lock of a topic is one pure
step; the callback table has a lock of its own and is modelled with the work queues.

A property of messages travels through a topic unchanged: `Topic.Holds` says that whatever a reader
could obtain satisfies it, `publish` establishes it and `Subscription.update` transfers it to the copy
the reader keeps. `Subscription.Current` is what a reader keeps true about its copy, as long as no
publication brings the counter round to what it has seen; each reading then leaves the latest message.
-/
import DualMagneticWheel.Msg

namespace DualMagneticWheel

/-! ## Topic and subscription -/

/-- The part of `uorb::Topic` guarded by its data lock. -/
structure Topic (Message : Type) where
  message : Message
  generation : UInt32 := 0
  advertised : Bool := false

/-- The part of `uorb::Subscription` that changes: the generation it read last. -/
structure Subscription where
  generation : UInt32 := 0
  deriving DecidableEq

namespace Topic

variable {Message : Type}

/-- `Topic::publish` up to the release of the data lock. -/
def publish (_t : Topic Message) (message : Message) : Topic Message where
  message := message
  generation := _t.generation + 1
  advertised := true

/-- `Topic::update`: a copy of the message and the new reader generation, if there is news. -/
def update (t : Topic Message) (subscriberGeneration : UInt32) : Option (Message × UInt32) :=
  if !t.advertised || subscriberGeneration == t.generation then none
  else some (t.message, t.generation)

/-- `Topic::copy`: the latest message, whether or not it was read before. -/
def copy (t : Topic Message) : Option Message := if t.advertised then some t.message else none

@[simp] theorem publish_message (t : Topic Message) (m : Message) :
    (t.publish m).message = m := rfl

@[simp] theorem publish_generation (t : Topic Message) (m : Message) :
    (t.publish m).generation = t.generation + 1 := rfl

@[simp] theorem publish_advertised (t : Topic Message) (m : Message) :
    (t.publish m).advertised = true := rfl

/-- The generations of a topic and a reader count publications modulo 2^32. As long as the reader is less
than 2^32 publications behind, it finds news exactly when it is behind at all. -/
theorem update_of_counts {t : Topic Message} {seen published : Nat}
    (hgeneration : t.generation = UInt32.ofNat published)
    (hadvertised : t.advertised = true ↔ published ≠ 0) (hle : seen ≤ published)
    (htime : published < seen + 2 ^ 32) :
    t.update (UInt32.ofNat seen) =
      if seen = published then none else some (t.message, t.generation) := by
  unfold update
  by_cases hseen : seen = published
  · rw [if_pos hseen, if_pos]
    rw [hgeneration, hseen, Bool.or_eq_true_iff]
    exact Or.inr (beq_self_eq_true _)
  · rw [if_neg hseen, if_neg]
    rw [Bool.or_eq_true_iff, not_or]
    constructor
    · rw [hadvertised.mpr (by omega)]
      exact Bool.false_ne_true
    · intro hequal
      have hmod := congrArg UInt32.toNat (beq_iff_eq.mp hequal)
      rw [hgeneration, UInt32.toNat_ofNat', UInt32.toNat_ofNat'] at hmod
      omega

/-- Whatever a reader of the topic can obtain satisfies `P`. -/
def Holds (t : Topic Message) (P : Message → Prop) : Prop := t.advertised = true → P t.message

theorem holds_publish {P : Message → Prop} (t : Topic Message) {m : Message} (h : P m) :
    (t.publish m).Holds P := fun _ => h

theorem Holds.mono {P Q : Message → Prop} {t : Topic Message} (h : t.Holds P)
    (hPQ : ∀ m, P m → Q m) : t.Holds Q := fun ha => hPQ _ (h ha)

end Topic

namespace Subscription

variable {Message : Type}

/-- What `Subscription::update(held)` leaves behind: its result, the caller's variable and the
subscription itself. -/
structure Reading (Message : Type) where
  updated : Bool
  message : Message
  subscription : Subscription

/-- `Subscription::update`. The caller's variable is overwritten only on success. -/
def update (s : Subscription) (t : Topic Message) (held : Message) : Reading Message :=
  match t.update s.generation with
  | some (message, generation) => ⟨true, message, ⟨generation⟩⟩
  | none => ⟨false, held, s⟩

/-- Either there was no news and nothing changed, or the reader now holds the latest message. -/
theorem update_cases (s : Subscription) (t : Topic Message) (held : Message) :
    s.update t held = ⟨false, held, s⟩ ∨
      (t.advertised = true ∧ s.update t held = ⟨true, t.message, ⟨t.generation⟩⟩) := by
  unfold update Topic.update
  by_cases hadv : t.advertised = true
  · by_cases hgen : s.generation = t.generation
    · simp [hgen]
    · simp [hadv, hgen]
  · simp [hadv]

theorem update_holds {P : Message → Prop} {s : Subscription} {t : Topic Message} {held : Message}
    (ht : t.Holds P) (hheld : P held) : P (s.update t held).message := by
  rcases s.update_cases t held with h | ⟨hadv, h⟩
  · rw [h]
    exact hheld
  · rw [h]
    exact ht hadv

/-- A reader at the generation of the topic holds its message, and what it began with as long as there is
none. -/
structure Current (s : Subscription) (t : Topic Message) (initial held : Message) : Prop where
  read : t.advertised = true → s.generation = t.generation → held = t.message
  unread : t.advertised = false → held = initial

theorem current_publish {s : Subscription} {t : Topic Message} (initial held m : Message)
    (hnew : s.generation ≠ t.generation + 1) : s.Current (t.publish m) initial held where
  read _ hsame := absurd hsame hnew
  unread := nofun

/-- After a reading the copy is the latest message. -/
theorem Current.update {s : Subscription} {t : Topic Message} {initial held : Message}
    (h : s.Current t initial held) :
    (s.update t held).subscription.Current t initial (s.update t held).message ∧
      (s.update t held).message = t.copy.getD initial := by
  unfold Subscription.update Topic.update Topic.copy
  by_cases hadvertised : t.advertised = true
  · by_cases hsame : s.generation = t.generation
    · simp only [hadvertised, hsame, BEq.rfl, Bool.or_true, if_true]
      exact ⟨h, h.read hadvertised hsame⟩
    · simp only [hadvertised, Bool.not_true, Bool.false_or, beq_iff_eq, hsame, if_false, if_true]
      exact ⟨⟨fun _ _ => rfl, fun hnone => absurd (hadvertised.symm.trans hnone) nofun⟩, rfl⟩
  · simp only [hadvertised, Bool.not_false, Bool.true_or, if_true]
    exact ⟨h, h.unread (Bool.not_eq_true _ ▸ hadvertised)⟩

end Subscription

/-! ## The topics of the control chain -/

/-- `Topics.cpp`: the one instance of every topic that the control chain uses. -/
structure Topics where
  inputRc : Topic InputRc := ⟨{}, 0, false⟩
  rcChannels : Topic RcChannels := ⟨{}, 0, false⟩
  manualControl : Topic ManualControl := ⟨{}, 0, false⟩
  manualControlSwitches : Topic ManualControlSwitches := ⟨{}, 0, false⟩
  failsafeStatus : Topic FailsafeStatus := ⟨{}, 0, false⟩
  robotControlSetpoint : Topic RobotControlSetpoint := ⟨{}, 0, false⟩
  parameterUpdate : Topic ParameterUpdate := ⟨{}, 0, false⟩
  actuatorMotors : Topic ActuatorMotors := ⟨{}, 0, false⟩
  actuatorServos : Topic ActuatorServos := ⟨{}, 0, false⟩
  actuatorArmed : Topic ActuatorArmed := ⟨{}, 0, false⟩

end DualMagneticWheel
