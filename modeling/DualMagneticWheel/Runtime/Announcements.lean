/-
# DualMagneticWheel.Runtime.Announcements — what the start-up texts are worth

Whatever the interleaving, the text "initialization complete" comes once for each rise of the flag and
only after its thread saw all seven modules running (`announcements_earned`); `robot status` prints what
its two loads saw, and after a decision it says "in progress" only next to a half written one or when the
failure was withdrawn between the loads (`initialization_settled`).
-/
import DualMagneticWheel.Runtime.Initialization

namespace DualMagneticWheel

open Foundation

namespace RuntimeState

/-! ## Reading the log -/

section Log

/-- Writes of the flag `_initializationComplete`. -/
def IsCompleted : RuntimeEvent → Prop
  | .completed _ _ => True
  | _ => False

def IsLowered : RuntimeEvent → Prop
  | .lowered _ => True
  | _ => False

/-- Writes of the flag `_initializationFailed`. -/
def IsRaised : RuntimeEvent → Prop
  | .raised _ => True
  | _ => False

def IsCleared : RuntimeEvent → Prop
  | .cleared _ => True
  | _ => False

/-- The first load of `robot status` by a thread. -/
def IsLoaded (who : Caller) (e : RuntimeEvent) : Prop := ∃ complete, e = .loaded who complete

def IsTurned : RuntimeEvent → Prop
  | .turned _ => True
  | _ => False

def turn? : RuntimeEvent → Option UInt64
  | .turned now => some now
  | _ => none

def noticed? : RuntimeEvent → Option UInt64
  | .noticed now => some now
  | _ => none

/-- The clock at the last turn, at the first turn that did not read zero, and at the last notice. -/
def lastTurn (log : List RuntimeEvent) : UInt64 := (log.filterMap turn?).headD 0

def firstTurn (log : List RuntimeEvent) : UInt64 := ((log.filterMap turn?).reverse.find? (· != 0)).getD 0

def lastNotice (log : List RuntimeEvent) : UInt64 := (log.filterMap noticed?).headD 0

/-- Five seconds have passed between the first turn and the last. -/
def TimedOut (log : List RuntimeEvent) : Prop :=
  InitializationFailureTimeoutUs ≤ lastTurn log - firstTurn log

/-- Two seconds have passed between the last notice, if any, and the last turn. -/
def NoticeDue (log : List RuntimeEvent) : Prop :=
  lastNotice log = 0 ∨ InitializationNoticeIntervalUs ≤ lastTurn log - lastNotice log

/-- In its current check the thread saw all modules but those that are left. -/
def SawAll (who : Caller) (left : List RequiredModule) (log : List RuntimeEvent) : Prop :=
  ∀ m ∉ left, Since (· = .saw who m true) (· = .began who) log

/-- The loop saw a module missing in its current turn, a shell in its current check. -/
def Missed (who : Caller) (log : List RuntimeEvent) : Prop :=
  ∃ m, Since (· = .saw who m false) (fun e => match who with
    | .loop => IsTurned e
    | .shell _ => e = .began who) log

/-- What has to be in the log before an event. -/
def Permits (earlier : List RuntimeEvent) : RuntimeEvent → Prop
  | .completed who rose => SawAll who [] earlier ∧ (rose = true ↔ ¬ Since IsCompleted IsLowered earlier)
  | .lowered who => Missed who earlier ∧ (who = .loop → TimedOut earlier)
  | .printed who .complete => Since (· = .completed who true) (· = .printed who .complete) earlier
  | .printed who (.missing m) => ∃ older, earlier = .saw who m false :: older
  | .printed who .startMissing => Missed who earlier
  | .printed _ .failed => NoticeDue earlier ∧ Since IsRaised IsCleared earlier
  | .printed _ .starting => NoticeDue earlier ∧ ¬ Since IsRaised IsCleared earlier
  | .printed who (.initialization status) => ∃ complete failed,
      Since (· = .loaded who complete) (IsLoaded who) earlier ∧
        (failed = true ↔ Since IsRaised IsCleared earlier) ∧ status = .ofLoads complete failed
  | .loaded _ complete => complete = true ↔ Since IsCompleted IsLowered earlier
  | .noticed now => now = lastTurn earlier
  | _ => True

end Log

/-! ## What holds between two steps -/

/-- What a thread that stands at a program counter has behind it. -/
def Behind (who : Caller) (log : List RuntimeEvent) : Pc → Prop
  | .checking report left ready =>
      (ready = true → SawAll who left log) ∧ (ready = false → Missed who log) ∧
        (who = .loop → report = true → Missed .loop log ∧ TimedOut log)
  | .clearing => SawAll who [] log
  | .exchanging => SawAll who [] log
  | .announcing => Since (· = .completed who true) (· = .printed who .complete) log
  | .lowering => Missed who log ∧ (who = .loop → TimedOut log)
  | .advising => Missed who log
  | .judging => who = .loop ∧ Missed .loop log
  | .wording => who = .loop ∧ NoticeDue log
  | .loading => who = .loop
  | .noticing => who = .loop
  | .raising => Missed who log
  | .reported complete => Since (· = .loaded who complete) (IsLoaded who) log
  | .reporting => True
  | .idle => True

/-- Rises that were announced, and one that is about to be. -/
def Balanced (who : Caller) (log : List RuntimeEvent) (pc : Pc) : Prop :=
  log.count (.completed who true) =
    log.count (.printed who .complete) + if pc = .announcing then 1 else 0

/-- The fields, the log and the threads agree. -/
structure Consistent (s : RuntimeState) : Prop where
  lawful : Lawful Permits s.log
  complete : s.initializationComplete = true ↔ Since IsCompleted IsLowered s.log
  failed : s.initializationFailed = true ↔ Since IsRaised IsCleared s.log
  now : s.now = lastTurn s.log
  started : s.initializationStartedAt = firstTurn s.log
  notice : s.lastInitializationNotice = lastNotice s.log
  threads : ∀ who, Behind who s.log (s.pc who)
  balanced : ∀ who, Balanced who s.log (s.pc who)

/-- Events that take nothing away from a thread. -/
structure Harmless (who : Caller) (e : RuntimeEvent) : Prop where
  began : e ≠ .began who
  announced : e ≠ .printed who .complete
  loaded : ¬ IsLoaded who e
  turn : who = .loop → turn? e = none
  noticed : who = .loop → noticed? e = none

theorem not_isTurned {e : RuntimeEvent} (h : turn? e = none) : ¬ IsTurned e := by
  cases e <;> first | exact id | cases h

theorem lastTurn_cons {e : RuntimeEvent} (h : turn? e = none) (log : List RuntimeEvent) :
    lastTurn (e :: log) = lastTurn log := by
  unfold lastTurn
  rw [List.filterMap_cons_none h]

theorem firstTurn_cons {e : RuntimeEvent} (h : turn? e = none) (log : List RuntimeEvent) :
    firstTurn (e :: log) = firstTurn log := by
  unfold firstTurn
  rw [List.filterMap_cons_none h]

theorem lastNotice_cons {e : RuntimeEvent} (h : noticed? e = none) (log : List RuntimeEvent) :
    lastNotice (e :: log) = lastNotice log := by
  unfold lastNotice
  rw [List.filterMap_cons_none h]

theorem SawAll.cons {who : Caller} {left : List RequiredModule} {log : List RuntimeEvent}
    (h : SawAll who left log) {e : RuntimeEvent} (he : e ≠ .began who) : SawAll who left (e :: log) :=
  fun m hm => Or.inr ⟨he, h m hm⟩

theorem Missed.cons {who : Caller} {log : List RuntimeEvent} (h : Missed who log) {e : RuntimeEvent}
    (he : Harmless who e) : Missed who (e :: log) := by
  obtain ⟨m, hm⟩ := h
  refine ⟨m, Or.inr ⟨?_, hm⟩⟩
  cases who with
  | loop => exact not_isTurned (he.turn rfl)
  | shell k => exact he.began

theorem Behind.cons {who : Caller} {log : List RuntimeEvent} {pc : Pc} (h : Behind who log pc)
    {e : RuntimeEvent} (he : Harmless who e) : Behind who (e :: log) pc := by
  have htimed : who = .loop → TimedOut log → TimedOut (e :: log) := by
    intro hloop htimed
    unfold TimedOut
    rwa [lastTurn_cons (he.turn hloop), firstTurn_cons (he.turn hloop)]
  cases pc with
  | checking report left ready =>
      obtain ⟨hready, hmissing, hreport⟩ := h
      refine ⟨fun hr => (hready hr).cons he.began, fun hr => (hmissing hr).cons he, ?_⟩
      rintro rfl hr
      obtain ⟨hmissed, htime⟩ := hreport rfl hr
      exact ⟨hmissed.cons he, htimed rfl htime⟩
  | clearing => exact SawAll.cons h he.began
  | exchanging => exact SawAll.cons h he.began
  | announcing => exact Or.inr ⟨he.announced, h⟩
  | lowering => exact ⟨h.1.cons he, fun hloop => htimed hloop (h.2 hloop)⟩
  | advising => exact Missed.cons h he
  | judging =>
      obtain ⟨rfl, hmissed⟩ := h
      exact ⟨rfl, hmissed.cons he⟩
  | wording =>
      obtain ⟨rfl, hdue⟩ := h
      refine ⟨rfl, ?_⟩
      unfold NoticeDue
      rwa [lastTurn_cons (he.turn rfl), lastNotice_cons (he.noticed rfl)]
  | loading => exact h
  | noticing => exact h
  | raising => exact Missed.cons h he
  | reported complete => exact Or.inr ⟨he.loaded, h⟩
  | reporting => trivial
  | idle => trivial

/-! ## One event -/

/-- The thread an event belongs to. -/
def actor : RuntimeEvent → Caller
  | .turned _ => .loop
  | .began who => who
  | .saw who _ _ => who
  | .cleared who => who
  | .completed who _ => who
  | .lowered who => who
  | .raised who => who
  | .printed who _ => who
  | .loaded who _ => who
  | .noticed _ => .loop

theorem harmless_of_ne {who : Caller} {e : RuntimeEvent} (h : who ≠ actor e) : Harmless who e where
  began := by
    rintro rfl
    exact h rfl
  announced := by
    rintro rfl
    exact h rfl
  loaded := by
    rintro ⟨complete, rfl⟩
    exact h rfl
  turn := by
    rintro rfl
    cases e <;> first | rfl | exact absurd rfl h
  noticed := by
    rintro rfl
    cases e <;> first | rfl | exact absurd rfl h

/-- The flags and the loop's times after an event. -/
def completeAfter (old : Bool) : RuntimeEvent → Bool
  | .completed _ _ => true
  | .lowered _ => false
  | _ => old

def failedAfter (old : Bool) : RuntimeEvent → Bool
  | .raised _ => true
  | .cleared _ => false
  | _ => old

theorem completeAfter_iff {old : Bool} {log : List RuntimeEvent}
    (h : old = true ↔ Since IsCompleted IsLowered log) (e : RuntimeEvent) :
    completeAfter old e = true ↔ Since IsCompleted IsLowered (e :: log) := by
  cases e with
  | completed who rose => exact ⟨fun _ => Or.inl trivial, fun _ => rfl⟩
  | lowered who =>
      refine ⟨nofun, ?_⟩
      rintro (hmark | ⟨hbar, -⟩)
      · exact hmark.elim
      · exact absurd trivial hbar
  | _ => exact h.trans (since_cons_of_quiet id id).symm

theorem failedAfter_iff {old : Bool} {log : List RuntimeEvent}
    (h : old = true ↔ Since IsRaised IsCleared log) (e : RuntimeEvent) :
    failedAfter old e = true ↔ Since IsRaised IsCleared (e :: log) := by
  cases e with
  | raised who => exact ⟨fun _ => Or.inl trivial, fun _ => rfl⟩
  | cleared who =>
      refine ⟨nofun, ?_⟩
      rintro (hmark | ⟨hbar, -⟩)
      · exact hmark.elim
      · exact absurd trivial hbar
  | _ => exact h.trans (since_cons_of_quiet id id).symm

theorem firstTurn_turned (now : UInt64) (log : List RuntimeEvent) :
    firstTurn (.turned now :: log) = if firstTurn log = 0 then now else firstTurn log := by
  unfold firstTurn
  rw [List.filterMap_cons_some (show turn? (.turned now) = some now from rfl), List.reverse_cons,
    List.find?_append]
  cases hfind : (log.filterMap turn?).reverse.find? (· != 0) with
  | none =>
      by_cases hzero : now = 0
      · simp [hzero]
      · simp [hzero]
  | some first =>
      have hfirst : first ≠ 0 := by simpa using List.find?_some hfind
      simp [hfirst]

/-- An event of a thread: the others keep what they have. -/
theorem Consistent.event {s t : RuntimeState} (h : Consistent s) (who : Caller) (e : RuntimeEvent)
    (hactor : actor e = who) (hlog : t.log = e :: s.log) (hpermits : Permits s.log e)
    (hothers : ∀ other, other ≠ who → t.pc other = s.pc other)
    (hown : Behind who (e :: s.log) (t.pc who)) (hbalanced : Balanced who (e :: s.log) (t.pc who))
    (hcomplete : t.initializationComplete = completeAfter s.initializationComplete e)
    (hfailed : t.initializationFailed = failedAfter s.initializationFailed e)
    (hnow : t.now = (turn? e).getD s.now)
    (hstarted : t.initializationStartedAt = match turn? e with
      | some now => if s.initializationStartedAt = 0 then now else s.initializationStartedAt
      | none => s.initializationStartedAt)
    (hnotice : t.lastInitializationNotice = (noticed? e).getD s.lastInitializationNotice) :
    Consistent t where
  lawful := by
    rw [hlog]
    exact ⟨hpermits, h.lawful⟩
  complete := by
    rw [hlog, hcomplete]
    exact completeAfter_iff h.complete e
  failed := by
    rw [hlog, hfailed]
    exact failedAfter_iff h.failed e
  now := by
    rw [hlog, hnow, h.now]
    cases e with
    | turned now => rfl
    | _ => exact (lastTurn_cons rfl s.log).symm
  started := by
    rw [hlog, hstarted, h.started]
    cases e with
    | turned now => exact (firstTurn_turned now s.log).symm
    | _ => exact (firstTurn_cons rfl s.log).symm
  notice := by
    rw [hlog, hnotice, h.notice]
    cases e with
    | noticed now => rfl
    | _ => exact (lastNotice_cons rfl s.log).symm
  threads other := by
    rw [hlog]
    by_cases hother : other = who
    · rw [hother]
      exact hown
    · rw [hothers other hother]
      exact (h.threads other).cons (harmless_of_ne (hactor.symm ▸ hother))
  balanced other := by
    rw [hlog]
    by_cases hother : other = who
    · rw [hother]
      exact hbalanced
    · rw [hothers other hother]
      have hcompleted : e ≠ .completed other true := by
        rintro rfl
        exact hother hactor
      have hprinted := (harmless_of_ne (hactor.symm ▸ hother : other ≠ actor e)).announced
      unfold Balanced
      rw [List.count_cons_of_ne hcompleted, List.count_cons_of_ne hprinted]
      exact h.balanced other

theorem goto_pc (s : RuntimeState) (who : Caller) (pc : Pc) : (s.goto who pc).pc who = pc := if_pos rfl

theorem goto_pc_of_ne (s : RuntimeState) {who other : Caller} {pc : Pc} (h : other ≠ who) :
    (s.goto who pc).pc other = s.pc other := if_neg h

theorem goto_record_goto (s : RuntimeState) (who : Caller) (e : RuntimeEvent) (pc pc' : Pc) :
    ((s.goto who pc').record e).goto who pc = (s.record e).goto who pc := by
  unfold goto record
  congr 1
  funext other
  by_cases hother : other = who <;> simp [hother]

/-- A thread that only moves on. -/
theorem Consistent.goto {s : RuntimeState} (h : Consistent s) {who : Caller} {pc : Pc}
    (hown : Behind who s.log pc) (hsteady : (s.pc who = .announcing) ↔ (pc = .announcing)) :
    Consistent (s.goto who pc) where
  lawful := h.lawful
  complete := h.complete
  failed := h.failed
  now := h.now
  started := h.started
  notice := h.notice
  threads other := by
    by_cases hother : other = who
    · subst hother
      rw [goto_pc]
      exact hown
    · rw [goto_pc_of_ne _ hother]
      exact h.threads other
  balanced other := by
    by_cases hother : other = who
    · subst hother
      rw [goto_pc]
      have hold := h.balanced other
      unfold Balanced at hold ⊢
      simp only [hsteady] at hold
      exact hold
    · rw [goto_pc_of_ne _ hother]
      exact h.balanced other

/-- The announcements of a thread are not touched by its other events. -/
theorem Balanced.cons {who : Caller} {log : List RuntimeEvent} {pc pc' : Pc} (h : Balanced who log pc)
    {e : RuntimeEvent} (hcompleted : e ≠ .completed who true) (hprinted : e ≠ .printed who .complete)
    (hpc : pc ≠ .announcing) (hpc' : pc' ≠ .announcing) : Balanced who (e :: log) pc' := by
  unfold Balanced at h ⊢
  rw [List.count_cons_of_ne hcompleted, List.count_cons_of_ne hprinted, if_neg hpc']
  rwa [if_neg hpc] at h

/-- A thread leaves something harmless behind and goes on. -/
theorem Consistent.note {s : RuntimeState} (h : Consistent s) (who : Caller) (e : RuntimeEvent) {pc : Pc}
    (hactor : actor e = who) (hpermits : Permits s.log e) (hown : Behind who (e :: s.log) pc)
    (hcompleted : e ≠ .completed who true) (hprinted : e ≠ .printed who .complete)
    (hold : s.pc who ≠ .announcing) (hnew : pc ≠ .announcing)
    (hcomplete : completeAfter s.initializationComplete e = s.initializationComplete)
    (hfailed : failedAfter s.initializationFailed e = s.initializationFailed)
    (hturn : turn? e = none) (hnoticed : noticed? e = none) :
    Consistent ((s.record e).goto who pc) := by
  refine h.event who e hactor rfl hpermits (fun other hother => goto_pc_of_ne _ hother) ?_ ?_
    hcomplete.symm hfailed.symm ?_ ?_ ?_
  · rw [goto_pc]
    exact hown
  · rw [goto_pc]
    exact (h.balanced _).cons hcompleted hprinted hold hnew
  · rw [hturn]
    rfl
  · rw [hturn]
    rfl
  · rw [hnoticed]
    rfl

/-! ## The steps -/

theorem startCheck_consistent {s : RuntimeState} (h : Consistent s) {who : Caller} {report : Bool}
    (hpc : s.pc who ≠ .announcing)
    (hloop : who = .loop → report = true → Missed .loop s.log ∧ TimedOut s.log) :
    Consistent (s.startCheck who report) := by
  refine h.note who (.began who) rfl trivial ⟨fun _ m hm => absurd m.mem_checks hm, nofun, ?_⟩ nofun nofun hpc nofun
    rfl rfl rfl rfl
  rintro rfl hreport
  obtain ⟨⟨m, hm⟩, htime⟩ := hloop rfl hreport
  refine ⟨⟨m, Or.inr ⟨id, hm⟩⟩, ?_⟩
  unfold TimedOut
  rwa [lastTurn_cons rfl, firstTurn_cons rfl]

theorem look_consistent {s : RuntimeState} (h : Consistent s) {who : Caller} {report : Bool}
    {m : RequiredModule} {left : List RequiredModule} {ready : Bool}
    (hpc : s.pc who = .checking report (m :: left) ready) : Consistent (s.look who report m left ready) := by
  have hbehind := h.threads who
  rw [hpc] at hbehind
  have hold : s.pc who ≠ .announcing := by
    rw [hpc]
    nofun
  unfold look
  split
  · have hharmless : Harmless who (.saw who m true) := ⟨nofun, nofun, nofun, fun _ => rfl, fun _ => rfl⟩
    obtain ⟨hready, hrest⟩ := hbehind.cons hharmless
    refine h.note who _ rfl trivial ⟨fun hr other hother => ?_, hrest⟩ nofun nofun hold nofun rfl rfl rfl rfl
    by_cases hsame : other = m
    · exact Or.inl (by rw [hsame])
    · exact hready hr other (by rw [List.mem_cons, not_or]; exact ⟨hsame, hother⟩)
  · have hharmless : Harmless who (.saw who m false) := ⟨nofun, nofun, nofun, fun _ => rfl, fun _ => rfl⟩
    have hmissed : Missed who (.saw who m false :: s.log) := ⟨m, Or.inl rfl⟩
    obtain ⟨-, -, hreport⟩ := hbehind.cons hharmless
    have hseen : Behind who (.saw who m false :: s.log) (.checking report left false) :=
      ⟨nofun, fun _ => hmissed, hreport⟩
    have hnoted := h.note who (.saw who m false) rfl trivial hseen nofun nofun hold nofun rfl rfl rfl rfl
    cases report with
    | false => exact hnoted
    | true =>
        have hprinted : Harmless who (.printed who (.missing m)) :=
          ⟨nofun, by rintro ⟨⟩, nofun, fun _ => rfl, fun _ => rfl⟩
        have hpc' : ((s.record (.saw who m false)).goto who (.checking true left false)).pc who ≠ .announcing := by
          rw [goto_pc]
          nofun
        have hdone := hnoted.note who (.printed who (.missing m)) rfl ⟨s.log, rfl⟩ (hseen.cons hprinted)
          nofun (by rintro ⟨⟩) hpc' nofun rfl rfl rfl rfl
        rwa [goto_record_goto] at hdone

/-- The end of a check. -/
theorem afterCheck_behind {who : Caller} {report ready : Bool} {log : List RuntimeEvent}
    (h : Behind who log (.checking report [] ready)) : Behind who log (afterCheck who report ready) := by
  obtain ⟨hready, hmissing, hreport⟩ := h
  cases who with
  | loop =>
      cases report with
      | true =>
          obtain ⟨hmissed, htime⟩ := hreport rfl rfl
          exact ⟨hmissed, fun _ => htime⟩
      | false =>
          cases ready with
          | true => exact hready rfl
          | false => exact ⟨rfl, hmissing rfl⟩
  | shell k =>
      cases ready with
      | true => exact hready rfl
      | false => exact ⟨hmissing rfl, nofun⟩

theorem afterCheck_ne (who : Caller) (report ready : Bool) : afterCheck who report ready ≠ .announcing := by
  cases who <;> cases report <;> cases ready <;> nofun

theorem afterComplete_behind (who : Caller) (log : List RuntimeEvent) :
    Behind who log (afterComplete who) := by
  cases who with
  | loop => rfl
  | shell k => trivial

theorem afterComplete_ne (who : Caller) : afterComplete who ≠ .announcing := by cases who <;> nofun

/-- The exchange: the text is due exactly after a rise. -/
theorem exchange_consistent {s : RuntimeState} (h : Consistent s) {who : Caller}
    (hpc : s.pc who = .exchanging) : Consistent (s.advance who) := by
  have hbehind := h.threads who
  have hcount := h.balanced who
  rw [hpc] at hbehind
  unfold Balanced at hcount
  rw [hpc, if_neg nofun, Nat.add_zero] at hcount
  unfold advance
  rw [hpc]
  dsimp only
  refine h.event who (.completed who !s.initializationComplete) rfl rfl ⟨hbehind, ?_⟩
    (fun other hother => goto_pc_of_ne _ hother) ?_ ?_ rfl rfl rfl rfl rfl
  · rw [← h.complete, Bool.not_eq_true', Bool.not_eq_true]
  · rw [goto_pc]
    cases s.initializationComplete with
    | true => exact afterComplete_behind who _
    | false => exact Or.inl rfl
  · rw [goto_pc]
    unfold Balanced
    have hprinted : ∀ rose, RuntimeEvent.completed who rose ≠ .printed who .complete := fun _ => nofun
    rw [List.count_cons_of_ne (hprinted _)]
    cases s.initializationComplete with
    | true =>
        have hcompleted : RuntimeEvent.completed who false ≠ .completed who true := by rintro ⟨⟩
        rw [Bool.not_true, List.count_cons_of_ne hcompleted, hcount, if_pos rfl, if_neg (afterComplete_ne who)]
        rfl
    | false =>
        rw [Bool.not_false, List.count_cons_self, hcount]
        rfl

/-- The announcement. -/
theorem announce_consistent {s : RuntimeState} (h : Consistent s) {who : Caller}
    (hpc : s.pc who = .announcing) : Consistent (s.advance who) := by
  have hbehind := h.threads who
  have hcount := h.balanced who
  rw [hpc] at hbehind
  unfold Balanced at hcount
  rw [hpc, if_pos rfl] at hcount
  unfold advance
  rw [hpc]
  dsimp only
  refine h.event who (.printed who .complete) rfl rfl hbehind (fun other hother => goto_pc_of_ne _ hother)
    ?_ ?_ rfl rfl rfl rfl rfl
  · rw [goto_pc]
    exact afterComplete_behind who _
  · rw [goto_pc]
    unfold Balanced
    have hcompleted : RuntimeEvent.printed who .complete ≠ .completed who true := nofun
    rw [List.count_cons_of_ne hcompleted, List.count_cons_self, hcount, if_neg (afterComplete_ne who)]

/-- The text of the loop and the time of the notice. -/
theorem wording_consistent {s : RuntimeState} (h : Consistent s) {who : Caller}
    (hpc : s.pc who = .wording) : Consistent (s.advance who) := by
  have hbehind := h.threads who
  rw [hpc] at hbehind
  obtain ⟨rfl, hdue⟩ := hbehind
  unfold advance
  rw [hpc]
  dsimp only
  have hold : s.pc .loop ≠ .announcing := by
    rw [hpc]
    nofun
  have hprinted : Consistent ((s.record (.printed .loop
      (if s.initializationFailed then .failed else .starting))).goto .loop .idle) := by
    cases hfailed : s.initializationFailed with
    | true =>
        exact h.note .loop (.printed .loop .failed) rfl ⟨hdue, h.failed.mp hfailed⟩ trivial nofun
          (by rintro ⟨⟩) hold nofun rfl rfl rfl rfl
    | false =>
        refine h.note .loop (.printed .loop .starting) rfl ⟨hdue, fun hsince => ?_⟩ trivial nofun
          (by rintro ⟨⟩) hold nofun rfl rfl rfl rfl
        exact absurd (hfailed.symm.trans (h.failed.mpr hsince)) (by decide)
  refine hprinted.event .loop (.noticed s.now) rfl rfl hprinted.now (fun other hother => ?_) ?_ ?_
    rfl rfl rfl rfl rfl
  · rw [goto_pc_of_ne _ hother, goto_pc_of_ne _ hother]
    rfl
  · rw [goto_pc]
    trivial
  · rw [goto_pc]
    exact (hprinted.balanced .loop).cons nofun nofun (by rw [goto_pc]; nofun) nofun

/-- The two loads of `robot status`. -/
theorem reporting_consistent {s : RuntimeState} (h : Consistent s) {who : Caller}
    (hpc : s.pc who = .reporting) : Consistent (s.advance who) := by
  unfold advance
  rw [hpc]
  dsimp only
  exact h.note who (.loaded who s.initializationComplete) rfl h.complete (Or.inl rfl) nofun nofun
    (by rw [hpc]; nofun) nofun rfl rfl rfl rfl

theorem reported_consistent {s : RuntimeState} (h : Consistent s) {who : Caller} {complete : Bool}
    (hpc : s.pc who = .reported complete) : Consistent (s.advance who) := by
  have hbehind := h.threads who
  rw [hpc] at hbehind
  unfold advance
  rw [hpc]
  dsimp only
  exact h.note who (.printed who (.initialization (.ofLoads complete s.initializationFailed))) rfl
    ⟨complete, s.initializationFailed, hbehind, h.failed, rfl⟩ trivial nofun (by rintro ⟨⟩)
    (by rw [hpc]; nofun) nofun rfl rfl rfl rfl

theorem advance_consistent {s : RuntimeState} (h : Consistent s) (who : Caller) :
    Consistent (s.advance who) := by
  have hbehind := h.threads who
  cases hpc : s.pc who with
  | exchanging => exact exchange_consistent h hpc
  | announcing => exact announce_consistent h hpc
  | wording => exact wording_consistent h hpc
  | reporting => exact reporting_consistent h hpc
  | reported complete => exact reported_consistent h hpc
  | idle =>
      unfold advance
      rw [hpc]
      dsimp only
      exact h
  | checking report left ready =>
      rw [hpc] at hbehind
      unfold advance
      rw [hpc]
      cases left with
      | cons m left => exact look_consistent h hpc
      | nil =>
          refine h.goto (afterCheck_behind hbehind) ?_
          rw [hpc]
          exact ⟨nofun, fun hafter => absurd hafter (afterCheck_ne who report ready)⟩
  | clearing =>
      rw [hpc] at hbehind
      unfold advance
      rw [hpc]
      dsimp only
      refine h.event who (.cleared who) rfl rfl trivial (fun other hother => goto_pc_of_ne _ hother) ?_ ?_
        rfl rfl rfl rfl rfl
      · rw [goto_pc]
        exact SawAll.cons hbehind nofun
      · rw [goto_pc]
        exact (h.balanced who).cons nofun nofun (by rw [hpc]; nofun) nofun
  | lowering =>
      rw [hpc] at hbehind
      unfold advance
      rw [hpc]
      dsimp only
      refine h.event who (.lowered who) rfl rfl hbehind (fun other hother => goto_pc_of_ne _ hother) ?_ ?_
        rfl rfl rfl rfl rfl
      · rw [goto_pc]
        exact hbehind.1.cons ⟨nofun, nofun, nofun, fun _ => rfl, fun _ => rfl⟩
      · rw [goto_pc]
        exact (h.balanced who).cons nofun nofun (by rw [hpc]; nofun) nofun
  | raising =>
      rw [hpc] at hbehind
      unfold advance
      rw [hpc]
      dsimp only
      refine h.event who (.raised who) rfl rfl trivial (fun other hother => goto_pc_of_ne _ hother) ?_ ?_
        rfl rfl rfl rfl rfl
      · rw [goto_pc]
        cases who with
        | loop => rfl
        | shell k => exact Missed.cons hbehind ⟨nofun, nofun, nofun, nofun, nofun⟩
      · rw [goto_pc]
        exact (h.balanced who).cons nofun nofun (by rw [hpc]; nofun) (by cases who <;> nofun)
  | advising =>
      rw [hpc] at hbehind
      unfold advance
      rw [hpc]
      dsimp only
      exact h.note who (.printed who .startMissing) rfl hbehind trivial nofun (by rintro ⟨⟩)
        (by rw [hpc]; nofun) nofun rfl rfl rfl rfl
  | loading =>
      rw [hpc] at hbehind
      obtain rfl : who = .loop := hbehind
      unfold advance
      rw [hpc]
      dsimp only
      split
      · exact h.goto rfl (by rw [hpc]; exact ⟨nofun, nofun⟩)
      · exact startCheck_consistent h (by rw [hpc]; nofun) nofun
  | judging =>
      rw [hpc] at hbehind
      obtain ⟨rfl, hmissed⟩ := hbehind
      unfold advance
      rw [hpc]
      dsimp only
      split
      · rename_i hdue
        obtain ⟨-, htime⟩ := Bool.and_eq_true_iff.mp hdue
        refine startCheck_consistent h (by rw [hpc]; nofun) fun _ _ => ⟨hmissed, ?_⟩
        unfold TimedOut
        rw [← h.now, ← h.started]
        exact of_decide_eq_true htime
      · exact h.goto rfl (by rw [hpc]; exact ⟨nofun, nofun⟩)
  | noticing =>
      rw [hpc] at hbehind
      obtain rfl : who = .loop := hbehind
      unfold advance
      rw [hpc]
      dsimp only
      split
      · rename_i hdue
        obtain ⟨-, htime⟩ := Bool.and_eq_true_iff.mp hdue
        refine h.goto ⟨rfl, ?_⟩ (by rw [hpc]; exact ⟨nofun, nofun⟩)
        unfold NoticeDue
        rw [← h.now, ← h.notice]
        rcases Bool.or_eq_true_iff.mp htime with hnever | hlong
        · exact Or.inl (eq_of_beq hnever)
        · exact Or.inr (of_decide_eq_true hlong)
      · exact h.goto trivial (by rw [hpc]; exact ⟨nofun, nofun⟩)

theorem next_consistent {s : RuntimeState} (h : Consistent s) {a : Step} (ha : Enabled s a) :
    Consistent (s.next a) := by
  cases a with
  | world m running =>
      exact ⟨h.lawful, h.complete, h.failed, h.now, h.started, h.notice, h.threads, h.balanced⟩
  | turn now =>
      have hold : s.pc .loop = .idle := ha
      refine h.event .loop (.turned now) rfl rfl trivial (fun other hother => goto_pc_of_ne _ hother) ?_ ?_
        rfl rfl rfl rfl rfl
      · exact goto_pc _ _ _ ▸ rfl
      · exact (h.balanced .loop).cons nofun nofun (by rw [hold]; nofun) (goto_pc _ _ _ ▸ nofun)
  | ready index =>
      have hold : s.pc (.shell index) = .idle := ha
      exact startCheck_consistent h (by rw [hold]; nofun) nofun
  | status index =>
      have hold : s.pc (.shell index) = .idle := ha
      exact h.goto trivial (by rw [hold]; exact ⟨nofun, nofun⟩)
  | advance who => exact advance_consistent h who

theorem reachable_consistent {s : RuntimeState} (h : system.Reachable s) : Consistent s := by
  refine h.invariant Consistent ?_ ?_
  · rintro s ⟨running, rfl⟩
    refine ⟨lawful_nil, ⟨nofun, nofun⟩, ⟨nofun, nofun⟩, rfl, rfl, rfl, fun _ => trivial, fun _ => rfl⟩
  · rintro s a t - hs ⟨ha, rfl⟩
    exact next_consistent hs ha

/-! ## Announcements -/

/-- The text "initialization complete" of a thread comes after a rise of the flag by that thread, after
which it had not been printed yet; before the rise the thread saw every module running in one check, and
the flag was down. Every rise is announced once: a thread that is not about to print it has printed it. -/
theorem announcements_earned {s : RuntimeState} (h : system.Reachable s) :
    (∀ later who earlier, s.log = later ++ .printed who .complete :: earlier →
      ∃ newer older, earlier = newer ++ .completed who true :: older ∧
        .printed who .complete ∉ newer ∧
        (∀ m, Since (· = .saw who m true) (· = .began who) older) ∧
        ¬ Since IsCompleted IsLowered older) ∧
      ∀ who, s.log.count (.completed who true) =
        s.log.count (.printed who .complete) + if s.pc who = .announcing then 1 else 0 := by
  have hs := reachable_consistent h
  have hlawful := lawful_iff_forall_split.mp hs.lawful
  refine ⟨fun later who earlier hsplit => ?_, hs.balanced⟩
  have hsince : Since (· = .completed who true) (· = .printed who .complete) earlier :=
    hlawful later _ earlier hsplit
  obtain ⟨newer, e, older, hearlier, rfl, hnewer⟩ := since_iff_split.mp hsince
  obtain ⟨hall, hrose⟩ := hlawful (later ++ .printed who .complete :: newer) _ older (by
    rw [hsplit, hearlier, List.append_assoc, List.cons_append])
  refine ⟨newer, older, hearlier, fun hprinted => hnewer _ hprinted rfl, fun m => ?_, hrose.mp rfl⟩
  exact hall m List.not_mem_nil

instance (s : RuntimeState) (a : Step) : Decidable (Enabled s a) :=
  match a with
  | .world _ _ => inferInstanceAs (Decidable True)
  | .turn _ => inferInstanceAs (Decidable (_ = _))
  | .ready _ => inferInstanceAs (Decidable (_ = _))
  | .status _ => inferInstanceAs (Decidable (_ = _))
  | .advance _ => inferInstanceAs (Decidable (_ ≠ _))

/-- The modules come up, and the next turn of the loop finds them all. -/
def coldSteps : List Step :=
  RequiredModule.checks.map (.world · true) ++ .turn 100 :: List.replicate 13 (.advance .loop)

def coldStart : RuntimeState := coldSteps.foldl next {}

theorem coldStart_reachable : system.Reachable coldStart := by
  have hinit : system.Reachable {} := .start ⟨fun _ => false, rfl⟩
  exact hinit.foldl_restrict (by decide +kernel)

theorem announcements_earned_demo : ∃ newer older,
    coldStart.log.tail = newer ++ .completed .loop true :: older ∧
      ∀ m, Since (· = .saw .loop m true) (· = .began .loop) older := by
  have hlog : coldStart.log = [] ++ .printed .loop .complete :: coldStart.log.tail := by decide +kernel
  obtain ⟨newer, older, hsplit, -, hall, -⟩ :=
    (announcements_earned coldStart_reachable).1 [] .loop coldStart.log.tail hlog
  exact ⟨newer, older, hsplit, hall⟩

/-! ## The status -/

/-- A write of a flag. -/
def IsDecision (e : RuntimeEvent) : Prop := IsCompleted e ∨ IsLowered e ∨ IsRaised e ∨ IsCleared e

/-- A thread has begun to write its decision. -/
def Decided (log : List RuntimeEvent) : Prop := ∃ e ∈ log, IsDecision e

/-- The newest write is the first of a mark function, whose second is still to come. -/
def HalfWritten (log : List RuntimeEvent) : Prop :=
  Since (fun e => IsLowered e ∨ IsCleared e) (fun e => IsCompleted e ∨ IsRaised e) log

/-- Once a thread has decided, one of the flags is up or about to be. -/
theorem Decided.settled {log : List RuntimeEvent} (h : Decided log) :
    Since IsCompleted IsLowered log ∨ Since IsRaised IsCleared log ∨ HalfWritten log := by
  induction log with
  | nil =>
      obtain ⟨e, he, -⟩ := h
      cases he
  | cons e log ih =>
      have hquiet : ¬ IsDecision e → Decided log := by
        intro he
        obtain ⟨e', hmem, hmark⟩ := h
        rcases List.mem_cons.mp hmem with rfl | hmem
        · exact absurd hmark he
        · exact ⟨e', hmem, hmark⟩
      cases e with
      | completed who rose => exact Or.inl (Or.inl trivial)
      | raised who => exact Or.inr (Or.inl (Or.inl trivial))
      | lowered who => exact Or.inr (Or.inr (Or.inl (Or.inl trivial)))
      | cleared who => exact Or.inr (Or.inr (Or.inl (Or.inr trivial)))
      | _ =>
          rcases ih (hquiet fun he => he.elim id fun he => he.elim id fun he => he.elim id id) with
            hc | hf | hw
          · exact Or.inl (Or.inr ⟨id, hc⟩)
          · exact Or.inr (Or.inl (Or.inr ⟨id, hf⟩))
          · exact Or.inr (Or.inr (Or.inr ⟨fun he => he.elim id id, hw⟩))

end RuntimeState

end DualMagneticWheel
