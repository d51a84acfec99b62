/-
# DualMagneticWheel.Orb.TopicHistory — what the subscribers of a topic receive

Any number of publishers and subscribers use one topic, each entry into its data lock being one step. The
log records what the steps did, newest first. A subscription starts at generation 0 whenever it is
created, so one that has not read yet is no different from one that does not exist.

`Counted` relates the wrapping counters to the log; from it every step is `permitted` by the log before
it. The rest is about lawful logs alone: a reader is delivered publications of increasing index, and its
newest one is the newest there is.
-/
import DualMagneticWheel.Foundation.EventLog
import DualMagneticWheel.Foundation.Transition
import DualMagneticWheel.Orb.Topic

namespace DualMagneticWheel

open Foundation

variable {Publisher Reader Message : Type}

/-! ## Events -/

/-- What happened under the data lock. A read is a call of `Subscription::update`, with the message it
delivered if it returned true. -/
inductive TopicEvent (Publisher Reader Message : Type) where
  | stored (publisher : Publisher) (message : Message)
  | read (reader : Reader) (received : Option Message)
  | copied (reader : Reader) (message : Option Message)

namespace TopicEvent

def published : TopicEvent Publisher Reader Message → Option Message
  | stored _ message => some message
  | _ => none

/-- What a reader was delivered. -/
def received [DecidableEq Reader] (r : Reader) : TopicEvent Publisher Reader Message → Option Message
  | read r' received => if r' = r then received else none
  | _ => none

theorem received_eq_some [DecidableEq Reader] {r : Reader} {m : Message}
    {e : TopicEvent Publisher Reader Message} : e.received r = some m ↔ e = .read r (some m) := by
  constructor
  · intro h
    cases e with
    | stored p m' => cases h
    | read r' x =>
        obtain ⟨rfl, rfl⟩ := Option.ite_none_right_eq_some.mp h
        rfl
    | copied r' x => cases h
  · rintro rfl
    exact if_pos rfl

end TopicEvent

/-! ## Reading a log -/

abbrev TopicLog (Publisher Reader Message : Type) := List (TopicEvent Publisher Reader Message)

namespace TopicLog

open TopicEvent

/-- The stored messages, newest first. -/
def publications (log : TopicLog Publisher Reader Message) : List Message := log.filterMap published

theorem publications_of_none {e : TopicEvent Publisher Reader Message} (h : e.published = none)
    (older : TopicLog Publisher Reader Message) : publications (e :: older) = publications older :=
  List.filterMap_cons_none h

@[simp] theorem publications_stored (p : Publisher) (m : Message)
    (older : TopicLog Publisher Reader Message) :
    publications (.stored p m :: older) = m :: publications older := rfl

@[simp] theorem publications_read (r : Reader) (x : Option Message)
    (older : TopicLog Publisher Reader Message) :
    publications (.read r x :: older) = publications older := rfl

@[simp] theorem publications_copied (r : Reader) (x : Option Message)
    (older : TopicLog Publisher Reader Message) :
    publications (.copied r x :: older) = publications older := rfl

variable [DecidableEq Reader]

/-- The messages delivered to a reader, newest first. -/
def deliveries (r : Reader) (log : TopicLog Publisher Reader Message) : List Message :=
  log.filterMap (received r)

theorem deliveries_of_none {r : Reader} {e : TopicEvent Publisher Reader Message}
    (h : e.received r = none) (older : TopicLog Publisher Reader Message) :
    deliveries r (e :: older) = deliveries r older := List.filterMap_cons_none h

theorem deliveries_of_some {r : Reader} {e : TopicEvent Publisher Reader Message} {m : Message}
    (h : e.received r = some m) (older : TopicLog Publisher Reader Message) :
    deliveries r (e :: older) = m :: deliveries r older := List.filterMap_cons_some h

/-- The indices of the publications delivered to a reader, newest first: a read delivers the last of the
publications before it. -/
def indices (r : Reader) : TopicLog Publisher Reader Message → List Nat
  | [] => []
  | e :: older =>
      match e.received r with
      | some _ => ((publications older).length - 1) :: indices r older
      | none => indices r older

/-- How many publications there were at the last successful read. -/
def seen (r : Reader) : TopicLog Publisher Reader Message → Nat
  | [] => 0
  | e :: older =>
      match e.received r with
      | some _ => (publications older).length
      | none => seen r older

/-- How many publications there were since the last read, successful or not. -/
def sinceRead (r : Reader) : TopicLog Publisher Reader Message → Nat
  | [] => 0
  | .stored _ _ :: older => sinceRead r older + 1
  | .read r' _ :: older => if r' = r then 0 else sinceRead r older
  | .copied _ _ :: older => sinceRead r older

theorem seen_read (r r' : Reader) (x : Option Message) (older : TopicLog Publisher Reader Message) :
    seen r (.read r' x :: older) =
      if r' = r ∧ x.isSome then (publications older).length else seen r older := by
  rw [seen, TopicEvent.received]
  by_cases hr : r' = r
  · cases x with
    | none => simp
    | some m => simp [hr]
  · simp [hr]

/-- A message was stored and the reader has not been successful since. -/
def Fresh (r : Reader) (log : TopicLog Publisher Reader Message) : Prop :=
  Since (fun e => e.published.isSome) (fun e => (e.received r).isSome) log

instance (r : Reader) (log : TopicLog Publisher Reader Message) : Decidable (Fresh r log) :=
  inferInstanceAs (Decidable (Since _ _ _))

/-! ## Lawful logs -/

/-- What the log before an entry says about it. -/
def permitted (older : TopicLog Publisher Reader Message) : TopicEvent Publisher Reader Message → Prop
  | .stored _ _ => True
  | .read r received => (received.isSome ↔ Fresh r older) ∧
      ∀ m, received = some m → (publications older).head? = some m
  | .copied _ message => message = (publications older).head?

theorem seen_le (r : Reader) (log : TopicLog Publisher Reader Message) :
    seen r log ≤ (publications log).length := by
  induction log with
  | nil => exact Nat.le_refl 0
  | cons e older ih =>
      have hgrows : (publications older).length ≤ (publications (e :: older)).length := by
        cases e with
        | stored p m => simp
        | read r' x => simp
        | copied r' x => simp
      rw [seen]
      split
      · exact hgrows
      · exact ih.trans hgrows

/-- A reader has news to fetch exactly when it is behind. -/
theorem fresh_iff_seen_lt (r : Reader) (log : TopicLog Publisher Reader Message) :
    Fresh r log ↔ seen r log < (publications log).length := by
  induction log with
  | nil => simp [Fresh, publications]
  | cons e older ih =>
      have hle := seen_le r older
      unfold Fresh at ih ⊢
      rw [since_cons, ih, seen]
      cases e with
      | stored p m =>
          simp [TopicEvent.published, TopicEvent.received]
          omega
      | read r' x =>
          by_cases hr : r' = r
          · cases x with
            | none => simp [TopicEvent.published, TopicEvent.received]
            | some m => simp [TopicEvent.published, TopicEvent.received, hr]
          · simp [TopicEvent.published, TopicEvent.received, hr]
      | copied r' x => simp [TopicEvent.published, TopicEvent.received]

/-- A reader that is not behind was last delivered the newest publication. -/
theorem deliveries_head {r : Reader} {log : TopicLog Publisher Reader Message}
    (h : Lawful permitted log) (hfresh : ¬ Fresh r log) (hne : publications log ≠ []) :
    (deliveries r log).head? = (publications log).head? := by
  induction log with
  | nil => exact absurd rfl hne
  | cons e older ih =>
      obtain ⟨hpermitted, hlawful⟩ := h
      rw [Fresh, since_cons, not_or] at hfresh
      obtain ⟨hstored, hsince⟩ := hfresh
      rw [publications_of_none (Option.not_isSome_iff_eq_none.mp hstored)] at hne ⊢
      cases hreceived : e.received r with
      | some m =>
          obtain rfl := TopicEvent.received_eq_some.mp hreceived
          rw [deliveries_of_some hreceived, List.head?_cons, hpermitted.2 m rfl]
      | none =>
          rw [deliveries_of_none hreceived]
          refine ih hlawful (fun hold => hsince ⟨?_, hold⟩) hne
          rw [hreceived]
          exact Bool.false_ne_true

omit [DecidableEq Reader] in
/-- The publication of an index; publications keep theirs. -/
theorem publications_index {older : TopicLog Publisher Reader Message} {i : Nat}
    (hi : i < (publications older).length) (e : TopicEvent Publisher Reader Message) :
    (publications (e :: older)).reverse[i]? = (publications older).reverse[i]? := by
  cases e with
  | stored p m =>
      rw [publications_stored, List.reverse_cons, List.getElem?_append_left]
      rwa [List.length_reverse]
  | read r x => rw [publications_read]
  | copied r x => rw [publications_copied]

/-- What a reader is delivered is a subsequence of the publications: `indices` increases with time, and
each delivered message is the publication of its index. -/
structure Subsequence (r : Reader) (log : TopicLog Publisher Reader Message) : Prop where
  increasing : (indices r log).Pairwise (· > ·)
  lt_seen : ∀ i ∈ indices r log, i < seen r log
  messages : (deliveries r log).map some =
    (indices r log).map fun i => (publications log).reverse[i]?

theorem subsequence_of_lawful (r : Reader) {log : TopicLog Publisher Reader Message}
    (h : Lawful permitted log) : Subsequence r log := by
  induction log with
  | nil => exact ⟨.nil, by simp [indices], rfl⟩
  | cons e older ih =>
      obtain ⟨hpermitted, hlawful⟩ := h
      have hold := ih hlawful
      have hle := seen_le r older
      have hmessages : (deliveries r older).map some =
          (indices r older).map fun i => (publications (e :: older)).reverse[i]? := by
        rw [hold.messages]
        apply List.map_congr_left
        intro i hi
        exact (publications_index (Nat.lt_of_lt_of_le (hold.lt_seen i hi) hle) e).symm
      cases hreceived : e.received r with
      | none =>
          have hindices : indices r (e :: older) = indices r older := by rw [indices, hreceived]
          have hseen : seen r (e :: older) = seen r older := by rw [seen, hreceived]
          refine ⟨?_, ?_, ?_⟩
          · rw [hindices]
            exact hold.increasing
          · rw [hindices, hseen]
            exact hold.lt_seen
          · rw [hindices, deliveries_of_none hreceived]
            exact hmessages
      | some m =>
          obtain rfl := TopicEvent.received_eq_some.mp hreceived
          have hfresh := (fresh_iff_seen_lt r older).mp (hpermitted.1.mp rfl)
          have hnewest := hpermitted.2 m rfl
          have hindices : indices r (.read r (some m) :: older) =
              ((publications older).length - 1) :: indices r older := by rw [indices, hreceived]
          have hseen : seen r (.read r (some m) :: older) = (publications older).length := by
            rw [seen, hreceived]
          refine ⟨?_, ?_, ?_⟩
          · rw [hindices]
            refine List.Pairwise.cons (fun i hi => ?_) hold.increasing
            have := hold.lt_seen i hi
            omega
          · rw [hindices, hseen]
            intro i hi
            rcases List.mem_cons.mp hi with rfl | hi
            · omega
            · have := hold.lt_seen i hi
              omega
          · rw [hindices, deliveries_of_some hreceived, List.map_cons, List.map_cons, hmessages]
            congr 1
            rw [publications_read, ← hnewest, ← List.getLast?_reverse, List.getLast?_eq_getElem?,
              List.length_reverse]

end TopicLog

/-! ## The users of one topic -/

/-- A topic, its subscriptions and what has happened to it. -/
structure TopicUse (Publisher Reader Message : Type) where
  topic : Topic Message
  subscription : Reader → Subscription := fun _ => {}
  log : TopicLog Publisher Reader Message := []

/-- An entry into the data lock; `held` is the variable that an update may overwrite. -/
inductive TopicAction (Publisher Reader Message : Type) where
  | publish (publisher : Publisher) (message : Message)
  | update (reader : Reader) (held : Message)
  | copy (reader : Reader)
  deriving DecidableEq

namespace TopicUse

open TopicLog

variable [DecidableEq Reader]

def next (s : TopicUse Publisher Reader Message) :
    TopicAction Publisher Reader Message → TopicUse Publisher Reader Message
  | .publish p message => { s with topic := s.topic.publish message, log := .stored p message :: s.log }
  | .update r held =>
      let reading := (s.subscription r).update s.topic held
      { s with
        subscription := Function.update s.subscription r reading.subscription
        log := .read r (if reading.updated then some reading.message else none) :: s.log }
  | .copy r => { s with log := .copied r s.topic.copy :: s.log }

/-- Fewer than 2^32 publications before the first read of a subscription and between two of its reads. -/
def ReadsInTime (s : TopicUse Publisher Reader Message) : TopicAction Publisher Reader Message → Prop
  | .update r _ => sinceRead r s.log < 2 ^ 32
  | _ => True

instance (s : TopicUse Publisher Reader Message) :
    (a : TopicAction Publisher Reader Message) → Decidable (s.ReadsInTime a)
  | .update r _ => inferInstanceAs (Decidable (sinceRead r s.log < 2 ^ 32))
  | .publish _ _ | .copy _ => inferInstanceAs (Decidable True)

/-- A topic that nobody has published on. -/
def Unpublished (s : TopicUse Publisher Reader Message) : Prop :=
  ∃ message, s = { topic := { message } }

/-- All interleavings in which the readers read in time. -/
def system (Publisher Reader Message : Type) [DecidableEq Reader] :
    Transition (TopicUse Publisher Reader Message) (TopicAction Publisher Reader Message) :=
  (Transition.ofFun Unpublished next).restrict ReadsInTime

/-- The counters of the topic and its subscriptions are those of the log, modulo 2^32. -/
structure Counted (s : TopicUse Publisher Reader Message) : Prop where
  generation : s.topic.generation = UInt32.ofNat (publications s.log).length
  latest : s.topic.copy = (publications s.log).head?
  subscription : ∀ r, s.subscription r = ⟨UInt32.ofNat (seen r s.log)⟩
  elapsed : ∀ r, seen r s.log + sinceRead r s.log = (publications s.log).length
  lawful : Lawful permitted s.log

namespace Counted

variable {s : TopicUse Publisher Reader Message}

theorem advertised (h : Counted s) :
    s.topic.advertised = true ↔ (publications s.log).length ≠ 0 := by
  have hlatest := h.latest
  unfold Topic.copy at hlatest
  cases hadv : s.topic.advertised with
  | true =>
      rw [hadv, if_pos rfl] at hlatest
      cases hlog : publications s.log with
      | nil => rw [hlog] at hlatest; cases hlatest
      | cons m rest => simp
  | false =>
      rw [hadv, if_neg Bool.false_ne_true] at hlatest
      rw [List.head?_eq_none_iff.mp hlatest.symm]
      simp

/-- What an update in time delivers. -/
theorem topic_update (h : Counted s) {r : Reader} (htime : sinceRead r s.log < 2 ^ 32) :
    s.topic.update (s.subscription r).generation =
      if seen r s.log = (publications s.log).length then none
      else some (s.topic.message, s.topic.generation) := by
  have helapsed := h.elapsed r
  rw [h.subscription r]
  exact Topic.update_of_counts h.generation h.advertised (seen_le r s.log) (by omega)

theorem publish (h : Counted s) (p : Publisher) (m : Message) : Counted (s.next (.publish p m)) where
  generation := by
    show s.topic.generation + 1 = UInt32.ofNat ((publications s.log).length + 1)
    rw [h.generation, UInt32.ofNat_add]
    rfl
  latest := rfl
  subscription := h.subscription
  elapsed r := by
    show seen r s.log + (sinceRead r s.log + 1) = (publications s.log).length + 1
    rw [← Nat.add_assoc, h.elapsed r]
  lawful := ⟨trivial, h.lawful⟩

theorem copy (h : Counted s) (r : Reader) : Counted (s.next (.copy r)) :=
  ⟨h.generation, h.latest, h.subscription, h.elapsed, h.latest, h.lawful⟩

/-- After a read that ends with the counters equal, whatever it delivered. -/
theorem read (h : Counted s) {r : Reader} {subscription : Subscription} {x : Option Message}
    (hsubscription : subscription = ⟨UInt32.ofNat (publications s.log).length⟩)
    (hpermitted : permitted s.log (.read r x)) :
    Counted { s with
      subscription := Function.update s.subscription r subscription
      log := .read r x :: s.log } := by
  -- a read that delivers nothing finds the reader level already
  have hlevel : ∀ r', seen r' (.read r x :: s.log) =
      if r' = r then (publications s.log).length else seen r' s.log := by
    intro r'
    have hle := seen_le r' s.log
    have hfresh := fresh_iff_seen_lt r' s.log
    rw [seen_read]
    by_cases hr : r = r'
    · subst hr
      cases x with
      | none =>
          have hge : ¬ seen r s.log < (publications s.log).length := fun hlt =>
            Bool.false_ne_true (hpermitted.1.mpr (hfresh.mpr hlt))
          simp only [Option.isSome_none, Bool.false_eq_true, and_false, if_false, if_true]
          omega
      | some m => simp
    · rw [if_neg (fun hand => hr hand.1), if_neg (Ne.symm hr)]
  refine ⟨h.generation, h.latest, fun r' => ?_, fun r' => ?_, hpermitted, h.lawful⟩
  · rw [hlevel]
    show Function.update s.subscription r subscription r' = _
    by_cases hr : r' = r
    · rw [hr, Function.update_self, if_pos rfl, hsubscription]
    · rw [Function.update_of_ne hr, if_neg hr]
      exact h.subscription r'
  · rw [hlevel, publications_read, sinceRead]
    by_cases hr : r' = r
    · rw [if_pos hr, if_pos hr.symm, Nat.add_zero]
    · rw [if_neg hr, if_neg (Ne.symm hr)]
      exact h.elapsed r'

theorem update (h : Counted s) (r : Reader) (held : Message) (htime : sinceRead r s.log < 2 ^ 32) :
    Counted (s.next (.update r held)) := by
  have hupdate := h.topic_update htime
  have hfresh := fresh_iff_seen_lt r s.log
  have hle := seen_le r s.log
  unfold next
  dsimp only
  -- less than 2^32 publications apart, equal counters mean that the reader is level
  by_cases hseen : seen r s.log = (publications s.log).length
  · have hreading : (s.subscription r).update s.topic held = ⟨false, held, s.subscription r⟩ := by
      rw [Subscription.update, hupdate, if_pos hseen]
    rw [hreading]
    refine h.read ?_ ⟨⟨fun hx => absurd hx Bool.false_ne_true, fun hf => ?_⟩, by rintro _ ⟨⟩⟩
    · rw [h.subscription r, hseen]
    · have hlt := hfresh.mp hf
      omega
  · have hreading : (s.subscription r).update s.topic held =
        ⟨true, s.topic.message, ⟨s.topic.generation⟩⟩ := by
      rw [Subscription.update, hupdate, if_neg hseen]
    rw [hreading]
    refine h.read ?_ ⟨⟨fun _ => hfresh.mpr (by omega), fun _ => rfl⟩, ?_⟩
    · rw [h.generation]
    · rintro _ ⟨⟩
      rw [← h.latest, Topic.copy, if_pos (h.advertised.mpr (by omega))]

end Counted

theorem counted_of_reachable {s : TopicUse Publisher Reader Message}
    (h : (system Publisher Reader Message).Reachable s) : Counted s := by
  refine h.invariant Counted ?_ ?_
  · rintro _ ⟨message, rfl⟩
    exact ⟨rfl, rfl, fun _ => rfl, fun _ => rfl, lawful_nil⟩
  · rintro s a _ _ hs ⟨htime, rfl⟩
    cases a with
    | publish p m => exact hs.publish p m
    | update r held => exact hs.update r held htime
    | copy r => exact hs.copy r

/-- In every interleaving in time: an update returns true exactly when a message was stored since the last
successful update of its subscription and then delivers the newest one; what a subscription receives is a
subsequence of the publications, none of them twice; and after each update it has received the newest. -/
theorem reads_ordered_complete {s : TopicUse Publisher Reader Message}
    (h : (system Publisher Reader Message).Reachable s) :
    (∀ later r received earlier, s.log = later ++ .read r received :: earlier →
      (received.isSome ↔ Fresh r earlier) ∧
      (∀ m, received = some m → (publications earlier).head? = some m)) ∧
    (∀ r, Subsequence r s.log) ∧
    (∀ later r received earlier, s.log = later ++ .read r received :: earlier →
      publications earlier ≠ [] →
      (deliveries r (.read r received :: earlier)).head? = (publications earlier).head?) := by
  have hlawful := (counted_of_reachable h).lawful
  have hsplit := lawful_iff_forall_split.mp hlawful
  refine ⟨fun later r received earlier heq => hsplit later _ earlier heq,
    fun r => subsequence_of_lawful r hlawful, fun later r received earlier heq hne => ?_⟩
  obtain ⟨hiff, hmessage⟩ := hsplit later _ earlier heq
  cases received with
  | some m =>
      rw [deliveries_of_some (TopicEvent.received_eq_some.mpr rfl), List.head?_cons, hmessage m rfl]
  | none =>
      have hearlier : Lawful permitted earlier := by
        apply lawful_iff_forall_split.mpr
        intro later' e earlier' heq'
        apply hsplit (later ++ .read r none :: later') e earlier'
        rw [heq, heq', List.append_assoc, List.cons_append]
      rw [deliveries_of_none (by simp [TopicEvent.received])]
      exact deliveries_head hearlier (fun hf => Bool.false_ne_true (hiff.mpr hf)) hne

/-- Three publications; one subscriber reads after the first and twice after the third, another one only
copies and then reads. -/
def exchange : TopicUse Unit Bool Nat :=
  [.publish () 7, .update true 0, .publish () 8, .copy false, .publish () 9, .update true 7,
    .update true 9, .update false 0].foldl next { topic := { message := 0 } }

theorem reads_ordered_complete_exchange :
    Subsequence true exchange.log ∧ Subsequence false exchange.log ∧
      deliveries true exchange.log = [9, 7] ∧ deliveries false exchange.log = [9] := by
  have hreachable : (system Unit Bool Nat).Reachable exchange :=
    Transition.Reachable.foldl_restrict (.start ⟨0, rfl⟩) (by decide)
  have hsubsequence := (reads_ordered_complete hreachable).2.1
  exact ⟨hsubsequence true, hsubsequence false, by decide, by decide⟩

end TopicUse

end DualMagneticWheel
