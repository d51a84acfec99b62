/-
# DualMagneticWheel.Runtime.StartupLoop — the patience of the loop, and the end of the start-up

The loop fails the initialization only after a module that it saw missing and five seconds after its first
turn, and gives notice at most every two seconds (`loop_patient`). While all modules keep running, each of
its turns ends with the initialization complete, whatever the shells do (`startup_completes`).
-/
import DualMagneticWheel.Runtime.Announcements

namespace DualMagneticWheel

open Foundation

namespace RuntimeState

/-! ## The clock of the loop -/

/-- The clock of the loop never goes back and never reads zero. -/
def Clocked (log : List RuntimeEvent) : Prop :=
  (log.filterMap turn?).Pairwise (fun newer older => older ≤ newer) ∧ 0 ∉ log.filterMap turn?

theorem Clocked.tail {e : RuntimeEvent} {log : List RuntimeEvent} (h : Clocked (e :: log)) :
    Clocked log := by
  have hsub : (log.filterMap turn?).Sublist ((e :: log).filterMap turn?) :=
    (List.sublist_cons_self e log).filterMap turn?
  exact ⟨h.1.sublist hsub, fun hmem => h.2 (hsub.subset hmem)⟩

theorem Clocked.older {newer older : List RuntimeEvent} (h : Clocked (newer ++ older)) : Clocked older := by
  induction newer with
  | nil => exact h
  | cons e newer ih => exact ih h.tail

theorem Clocked.lastTurn_le {now : UInt64} {log : List RuntimeEvent} (h : Clocked (.turned now :: log)) :
    lastTurn log ≤ now := by
  have hpairwise := h.1
  rw [List.filterMap_cons_some (show turn? (.turned now) = some now from rfl), List.pairwise_cons] at hpairwise
  unfold lastTurn
  cases hturns : log.filterMap turn? with
  | nil => exact UInt64.zero_le
  | cons last turns => exact hpairwise.1 last (by rw [hturns]; exact List.mem_cons_self)

/-- The first turn, and the last notice, are not newer than the last turn. -/
theorem Clocked.firstTurn_le {log : List RuntimeEvent} (h : Clocked log) : firstTurn log ≤ lastTurn log := by
  induction log with
  | nil => exact UInt64.le_refl _
  | cons e log ih =>
      cases e with
      | turned now =>
          rw [firstTurn_turned]
          show _ ≤ now
          split
          · exact UInt64.le_refl _
          · exact UInt64.le_trans (ih h.tail) h.lastTurn_le
      | _ =>
          rw [firstTurn_cons rfl, lastTurn_cons rfl]
          exact ih h.tail

theorem Clocked.lastNotice_le {log : List RuntimeEvent} (h : Clocked log) (hlawful : Lawful Permits log) :
    lastNotice log ≤ lastTurn log := by
  induction log with
  | nil => exact UInt64.le_refl _
  | cons e log ih =>
      have hold := ih h.tail hlawful.2
      cases e with
      | turned now =>
          rw [lastNotice_cons rfl]
          exact UInt64.le_trans hold h.lastTurn_le
      | noticed now =>
          rw [lastTurn_cons rfl]
          exact UInt64.le_of_eq hlawful.1
      | _ =>
          rw [lastNotice_cons rfl, lastTurn_cons rfl]
          exact hold

/-! ## The first turn comes first -/

/-- What an access leaves in the log belongs to its thread, and the others stay where they are. -/
theorem advance_events {s : RuntimeState} (h : Consistent s) (who : Caller) :
    ∃ events, (s.advance who).log = events ++ s.log ∧ (∀ e ∈ events, actor e = who) ∧
      ∀ other, other ≠ who → (s.advance who).pc other = s.pc other := by
  -- the store of a flag does not show here: only the log and the counters of `t` matter
  have hleaves : ∀ (events : List RuntimeEvent) (t : RuntimeState) (pc : Pc),
      (∀ e ∈ events, actor e = who) → t.log = events ++ s.log → t.pc = s.pc →
      ∃ events, (t.goto who pc).log = events ++ s.log ∧ (∀ e ∈ events, actor e = who) ∧
        ∀ other, other ≠ who → (t.goto who pc).pc other = s.pc other := by
    intro events t pc hevents hlog hpc
    refine ⟨events, hlog, hevents, fun other hother => ?_⟩
    rw [goto_pc_of_ne _ hother, hpc]
  have hmoves : ∀ pc, _ := fun pc => hleaves [] s pc (by simp) rfl rfl
  have hnotes : ∀ (e : RuntimeEvent), actor e = who → ∀ pc, _ := fun e he pc =>
    hleaves [e] (s.record e) pc (by simp [he]) rfl rfl
  unfold advance
  split
  · exact ⟨[], rfl, by simp, fun _ _ => rfl⟩
  · rename_i report m left ready hpc
    unfold look
    split
    · exact hnotes _ rfl _
    · cases report with
      | false => exact hnotes _ rfl _
      | true => exact hleaves [.printed who (.missing m), .saw who m false] _ _ (by simp [actor]) rfl rfl
  · exact hmoves _
  · exact hleaves [.cleared who] _ _ (by simp [actor]) rfl rfl
  · exact hleaves [.completed who !s.initializationComplete] _ _ (by simp [actor]) rfl rfl
  · exact hnotes _ rfl _
  · exact hleaves [.lowered who] _ _ (by simp [actor]) rfl rfl
  · exact hleaves [.raised who] _ _ (by simp [actor]) rfl rfl
  · exact hnotes _ rfl _
  · split
    · exact hmoves _
    · exact hnotes _ rfl _
  · split
    · exact hnotes _ rfl _
    · exact hmoves _
  · split
    · exact hmoves _
    · exact hmoves _
  · rename_i hpc
    have hbehind := h.threads who
    rw [hpc] at hbehind
    obtain ⟨rfl, -⟩ := hbehind
    exact hleaves [.noticed s.now, .printed .loop (if s.initializationFailed then .failed else .starting)] _ _
      (by simp [actor]) rfl rfl
  · exact hnotes _ rfl _
  · exact hnotes _ rfl _

def HasTurned (log : List RuntimeEvent) : Prop := ∃ now, .turned now ∈ log

/-- The loop does nothing before its first turn. -/
def TurnedFirst (earlier : List RuntimeEvent) (e : RuntimeEvent) : Prop :=
  actor e = .loop → IsTurned e ∨ HasTurned earlier

theorem HasTurned.append {log : List RuntimeEvent} (h : HasTurned log) (newer : List RuntimeEvent) :
    HasTurned (newer ++ log) := by
  obtain ⟨now, hmem⟩ := h
  exact ⟨now, List.mem_append_right _ hmem⟩

theorem turned_first {s : RuntimeState} (h : system.Reachable s) :
    Lawful TurnedFirst s.log ∧ (s.pc .loop ≠ .idle → HasTurned s.log) := by
  refine h.invariant (fun s => Lawful TurnedFirst s.log ∧ (s.pc .loop ≠ .idle → HasTurned s.log)) ?_ ?_
  · rintro s ⟨running, rfl⟩
    exact ⟨lawful_nil, fun hpc => absurd rfl hpc⟩
  · rintro s a t hs ⟨hlawful, hturned⟩ ⟨ha, rfl⟩
    cases a with
    | world m running => exact ⟨hlawful, hturned⟩
    | turn now => exact ⟨⟨fun _ => Or.inl trivial, hlawful⟩, fun _ => ⟨now, List.mem_cons_self⟩⟩
    | ready index =>
        refine ⟨⟨nofun, hlawful⟩, fun hpc => (hturned ?_).append [_]⟩
        rwa [next, startCheck, goto_pc_of_ne _ Caller.noConfusion] at hpc
    | status index =>
        refine ⟨hlawful, fun hpc => hturned ?_⟩
        rwa [next, goto_pc_of_ne _ Caller.noConfusion] at hpc
    | advance who =>
        obtain ⟨events, hlog, hactor, hothers⟩ := advance_events (reachable_consistent hs) who
        show Lawful TurnedFirst (s.advance who).log ∧ ((s.advance who).pc .loop ≠ .idle → _)
        rw [hlog]
        by_cases hwho : who = .loop
        · subst hwho
          have hsince := hturned ha
          refine ⟨hlawful.append fun _ _ earlier _ _ => Or.inr (hsince.append earlier), ?_⟩
          exact fun _ => hlog ▸ hsince.append events
        · refine ⟨hlawful.append fun later e earlier hsplit hloop => ?_, fun hpc => ?_⟩
          · refine absurd ((hactor e ?_).symm.trans hloop) hwho
            rw [hsplit]
            exact List.mem_append_right _ List.mem_cons_self
          · rw [hothers .loop (Ne.symm hwho)] at hpc
            exact hlog ▸ (hturned hpc).append events

/-- After a first turn the clock has been read, and it did not read zero. -/
theorem Clocked.lastTurn_ne_zero {log : List RuntimeEvent} (h : Clocked log) (hturned : HasTurned log) :
    lastTurn log ≠ 0 := by
  obtain ⟨now, hmem⟩ := hturned
  have hread : now ∈ log.filterMap turn? := List.mem_filterMap.mpr ⟨_, hmem, rfl⟩
  unfold lastTurn
  cases hturns : log.filterMap turn? with
  | nil =>
      rw [hturns] at hread
      cases hread
  | cons last turns =>
      rintro rfl
      exact h.2 (by rw [hturns]; exact List.mem_cons_self)

/-- Zero stands for no notice so far. -/
theorem Clocked.not_noticed {log : List RuntimeEvent} (h : Clocked log) (hlawful : Lawful Permits log)
    (hturned : Lawful TurnedFirst log) (hnone : lastNotice log = 0) (now : UInt64) : .noticed now ∉ log := by
  induction log with
  | nil => exact List.not_mem_nil
  | cons e log ih =>
      cases e with
      | noticed last =>
          obtain rfl : last = lastTurn log := hlawful.1
          refine absurd hnone (h.tail.lastTurn_ne_zero ?_)
          exact (hturned.1 rfl).resolve_left id
      | _ =>
          rw [lastNotice_cons rfl] at hnone
          exact List.not_mem_cons_of_ne_of_not_mem nofun (ih h.tail hlawful.2 hturned.2 hnone)

/-- A difference that does not wrap. -/
theorem elapsed_of_sub {interval start now : UInt64} (h : start ≤ now) (hlong : interval ≤ now - start) :
    start.toNat + interval.toNat ≤ now.toNat := by
  rw [UInt64.le_iff_toNat_le, UInt64.toNat_sub_of_le _ _ h] at hlong
  rw [UInt64.le_iff_toNat_le] at h
  omega

/-- The loop fails the initialization only in a turn in which it saw a module missing, five seconds after
the first turn at the earliest; a shell does so only after a module that its command saw missing. The
notices of the loop are two seconds apart, and their text is that of the flag. The code subtracts readings
of the clock; if it never goes back and never reads zero, the differences are the times that passed. -/
theorem loop_patient {s : RuntimeState} (h : system.Reachable s) :
    (∀ later earlier, s.log = later ++ .lowered .loop :: earlier →
      InitializationFailureTimeoutUs ≤ lastTurn earlier - firstTurn earlier ∧
        ∃ m, Since (· = .saw .loop m false) IsTurned earlier) ∧
      (∀ later k earlier, s.log = later ++ .lowered (.shell k) :: earlier →
        ∃ m, Since (· = .saw (.shell k) m false) (· = .began (.shell k)) earlier) ∧
      (∀ later who notice earlier, s.log = later ++ .printed who notice :: earlier →
        notice = .failed ∨ notice = .starting →
          (lastNotice earlier = 0 ∨ InitializationNoticeIntervalUs ≤ lastTurn earlier - lastNotice earlier) ∧
            (notice = .failed ↔ Since IsRaised IsCleared earlier)) ∧
      (Clocked s.log →
        (∀ later earlier, s.log = later ++ .lowered .loop :: earlier →
          (firstTurn earlier).toNat + 5000000 ≤ (lastTurn earlier).toNat) ∧
          ∀ later who notice earlier, s.log = later ++ .printed who notice :: earlier →
            notice = .failed ∨ notice = .starting →
              (∀ now, .noticed now ∉ earlier) ∨
                (lastNotice earlier).toNat + 2000000 ≤ (lastTurn earlier).toNat) := by
  have hlawful := lawful_iff_forall_split.mp (reachable_consistent h).lawful
  have hnotices : ∀ later who notice earlier, s.log = later ++ .printed who notice :: earlier →
      notice = .failed ∨ notice = .starting →
        NoticeDue earlier ∧ (notice = .failed ↔ Since IsRaised IsCleared earlier) := by
    rintro later who notice earlier hsplit (rfl | rfl)
    · obtain ⟨hdue, hraised⟩ := hlawful later _ earlier hsplit
      exact ⟨hdue, fun _ => hraised, fun _ => rfl⟩
    · obtain ⟨hdue, hclear⟩ := hlawful later _ earlier hsplit
      exact ⟨hdue, nofun, fun hraised => absurd hraised hclear⟩
  have htimedOut : ∀ later earlier, s.log = later ++ .lowered .loop :: earlier → TimedOut earlier :=
    fun later earlier hsplit => (hlawful later _ earlier hsplit).2 rfl
  refine ⟨fun later earlier hsplit => ?_, fun later k earlier hsplit => ?_, hnotices, fun hclock => ?_⟩
  · exact ⟨htimedOut later earlier hsplit, (hlawful later _ earlier hsplit).1⟩
  · exact (hlawful later _ earlier hsplit).1
  -- what is known of a log is known of what it was earlier
  have hparts : ∀ later e earlier, s.log = later ++ e :: earlier →
      Clocked earlier ∧ Lawful Permits earlier ∧ Lawful TurnedFirst earlier := by
    intro later e earlier hsplit
    have hconsistent := (reachable_consistent h).lawful
    have hturned := (turned_first h).1
    rw [hsplit] at hclock hconsistent hturned
    exact ⟨hclock.older.tail, hconsistent.older.2, hturned.older.2⟩
  constructor
  · intro later earlier hsplit
    exact elapsed_of_sub (hparts _ _ _ hsplit).1.firstTurn_le (htimedOut later earlier hsplit)
  · intro later who notice earlier hsplit hloop
    obtain ⟨hdue, -⟩ := hnotices later who notice earlier hsplit hloop
    obtain ⟨hclocked, hpermits, hturned⟩ := hparts _ _ _ hsplit
    rcases hdue with hnone | hlong
    · exact Or.inl (hclocked.not_noticed hpermits hturned hnone)
    · exact Or.inr (elapsed_of_sub (hclocked.lastNotice_le hpermits) hlong)

/-- Nothing ever comes up. -/
def lateSteps : List Step :=
  .turn 100 :: List.replicate 12 (.advance .loop) ++ .turn 5000100 :: List.replicate 19 (.advance .loop)

def lateStart : RuntimeState := lateSteps.foldl next {}

theorem loop_patient_demo : (∃ m, Since (· = .saw .loop m false) IsTurned lateStart.log.tail) ∧
    (firstTurn lateStart.log.tail).toNat + 5000000 ≤ (lastTurn lateStart.log.tail).toNat := by
  have hinit : system.Reachable {} := .start ⟨fun _ => false, rfl⟩
  have hreach : system.Reachable lateStart := hinit.foldl_restrict (by decide +kernel)
  have hlog : lateStart.log = [] ++ .lowered .loop :: lateStart.log.tail := by decide +kernel
  have hclock : Clocked lateStart.log := by
    unfold Clocked
    decide +kernel
  obtain ⟨hlowered, -, -, hpassed⟩ := loop_patient hreach
  exact ⟨(hlowered [] _ hlog).2, (hpassed hclock).1 [] _ hlog⟩

/-! ## A robot whose modules run -/

/-- No module stops. -/
def KeepsRunning : Step → Prop
  | .world _ running => running = true
  | _ => True

/-- A thread that has found nothing missing. -/
def Untroubled (who : Caller) : Pc → Prop
  | .checking report _ ready => ready = true ∧ (who = .loop → report = false)
  | .lowering => False
  | .raising => False
  | .advising => False
  | .judging => False
  | _ => True

/-- The loop has not yet come to the end of its decision. -/
def Undecided : Pc → Prop
  | .loading => True
  | .checking report _ ready => report = false ∧ ready = true
  | .clearing => True
  | .exchanging => True
  | _ => False

/-- The modules have been running since the log was `before`. -/
structure Healthy (before : List RuntimeEvent) (s : RuntimeState) : Prop where
  running : ∀ m, s.running m = true
  untroubled : ∀ who, Untroubled who (s.pc who)
  since : ∃ newer, s.log = newer ++ before ∧ (∀ e ∈ newer, ¬ IsLowered e ∧ ¬ IsRaised e) ∧
    ((∃ e ∈ newer, IsTurned e) → s.initializationComplete = true ∨ Undecided (s.pc .loop))

/-- A thread goes on, perhaps with a new event; the flag stays up, and the loop stays undecided or the flag
is up. -/
theorem Healthy.go {before : List RuntimeEvent} {s t : RuntimeState} (h : Healthy before s) (who : Caller)
    (events : List RuntimeEvent) (hlog : t.log = events ++ s.log)
    (hevents : ∀ e ∈ events, ¬ IsLowered e ∧ ¬ IsRaised e) (hturns : ∀ e ∈ events, ¬ IsTurned e)
    (hrunning : t.running = s.running) (hothers : ∀ other, other ≠ who → t.pc other = s.pc other)
    (hown : Untroubled who (t.pc who))
    (hcomplete : s.initializationComplete = true → t.initializationComplete = true)
    (hloop : who = .loop → Undecided (s.pc .loop) →
      t.initializationComplete = true ∨ Undecided (t.pc .loop)) : Healthy before t := by
  obtain ⟨newer, hsplit, hnewer, hturned⟩ := h.since
  refine ⟨hrunning ▸ h.running, fun other => ?_, events ++ newer, ?_, ?_, ?_⟩
  · by_cases hother : other = who
    · rw [hother]
      exact hown
    · rw [hothers other hother]
      exact h.untroubled other
  · rw [hlog, hsplit, List.append_assoc]
  · intro e he
    exact (List.mem_append.mp he).elim (hevents e) (hnewer e)
  · rintro ⟨e, he, hturn⟩
    have hold : e ∈ newer := (List.mem_append.mp he).resolve_left fun hnew => hturns e hnew hturn
    rcases hturned ⟨e, hold, hturn⟩ with hc | hundecided
    · exact Or.inl (hcomplete hc)
    · by_cases hwho : who = .loop
      · exact hloop hwho hundecided
      · rw [hothers .loop (Ne.symm hwho)]
        exact Or.inr hundecided

/-- A thread that only moves on, from a decision to a decision. -/
theorem Healthy.goto {before : List RuntimeEvent} {s : RuntimeState} (h : Healthy before s) {who : Caller}
    {pc : Pc} (hown : Untroubled who pc) (hloop : who = .loop → Undecided (s.pc .loop) →
      s.initializationComplete = true ∨ Undecided pc) : Healthy before (s.goto who pc) := by
  refine h.go who [] rfl (by simp) (by simp) rfl (fun _ hother => goto_pc_of_ne _ hother) ?_ id ?_
  · rw [goto_pc]
    exact hown
  · rintro rfl hundecided
    rw [goto_pc]
    exact hloop rfl hundecided

/-- One event, which lowers and raises nothing. -/
theorem Healthy.note {before : List RuntimeEvent} {s t : RuntimeState} (h : Healthy before s) {who : Caller}
    {e : RuntimeEvent} (pc : Pc) (hlog : t.log = e :: s.log) (he : ¬ IsLowered e ∧ ¬ IsRaised e ∧ ¬ IsTurned e)
    (hrunning : t.running = s.running) (hpc : t.pc = (s.goto who pc).pc) (hown : Untroubled who pc)
    (hcomplete : s.initializationComplete = true → t.initializationComplete = true)
    (hloop : who = .loop → Undecided (s.pc .loop) →
      t.initializationComplete = true ∨ Undecided pc) : Healthy before t := by
  refine h.go who [e] hlog ?_ ?_ hrunning (fun other hother => ?_) ?_ hcomplete ?_
  · intro e' he'
    rw [List.mem_singleton.mp he']
    exact ⟨he.1, he.2.1⟩
  · intro e' he'
    rw [List.mem_singleton.mp he']
    exact he.2.2
  · rw [hpc, goto_pc_of_ne _ hother]
  · rw [hpc, goto_pc]
    exact hown
  · rintro rfl hundecided
    rw [hpc, goto_pc]
    exact hloop rfl hundecided

theorem advance_healthy {before : List RuntimeEvent} {s : RuntimeState} (h : Healthy before s)
    (who : Caller) : Healthy before (s.advance who) := by
  have hown := h.untroubled who
  have hfrom : ∀ pc, s.pc who = pc → who = .loop → Undecided (s.pc .loop) → Undecided pc := by
    rintro pc rfl rfl hundecided
    exact hundecided
  unfold advance
  cases hpc : s.pc who with
  | idle => exact h
  | lowering =>
      rw [hpc] at hown
      exact hown.elim
  | raising =>
      rw [hpc] at hown
      exact hown.elim
  | advising =>
      rw [hpc] at hown
      exact hown.elim
  | judging =>
      rw [hpc] at hown
      exact hown.elim
  | checking report left ready =>
      rw [hpc] at hown
      obtain ⟨rfl, hreport⟩ := hown
      cases left with
      | nil =>
          cases who with
          | loop =>
              obtain rfl := hreport rfl
              exact h.goto trivial fun _ _ => Or.inr trivial
          | shell k => exact h.goto trivial nofun
      | cons m left =>
          dsimp only
          unfold look
          rw [if_pos (h.running m)]
          exact h.note _ rfl ⟨id, id, id⟩ rfl rfl ⟨rfl, hreport⟩ id fun hwho _ =>
            Or.inr ⟨hreport hwho, rfl⟩
  | clearing => exact h.note _ rfl ⟨id, id, id⟩ rfl rfl trivial id fun _ _ => Or.inr trivial
  | exchanging =>
      refine h.note (if s.initializationComplete then afterComplete who else .announcing)
        rfl ⟨id, id, id⟩ rfl rfl ?_ (fun _ => rfl) fun _ _ => Or.inl rfl
      split
      · cases who <;> trivial
      · trivial
  | announcing =>
      refine h.note _ rfl ⟨id, id, id⟩ rfl rfl (by cases who <;> trivial) id fun hwho hundecided => ?_
      exact (hfrom _ hpc hwho hundecided).elim
  | loading =>
      dsimp only
      split
      · rename_i hcomplete
        exact h.goto trivial fun _ _ => Or.inl hcomplete
      · exact h.note _ rfl ⟨id, id, id⟩ rfl rfl ⟨rfl, fun _ => rfl⟩ id fun _ _ => Or.inr ⟨rfl, rfl⟩
  | noticing =>
      dsimp only
      split
      · exact h.goto trivial fun hwho hundecided => (hfrom _ hpc hwho hundecided).elim
      · exact h.goto trivial fun hwho hundecided => (hfrom _ hpc hwho hundecided).elim
  | reporting =>
      exact h.note _ rfl ⟨id, id, id⟩ rfl rfl trivial id fun hwho hundecided =>
        (hfrom _ hpc hwho hundecided).elim
  | reported complete =>
      exact h.note _ rfl ⟨id, id, id⟩ rfl rfl trivial id fun hwho hundecided =>
        (hfrom _ hpc hwho hundecided).elim
  | wording =>
      refine h.go who [.noticed s.now, .printed who
        (if s.initializationFailed then .failed else .starting)] rfl ?_ ?_ rfl
        (fun _ hother => goto_pc_of_ne _ hother) ?_ id ?_
      · simp [IsLowered, IsRaised]
      · simp [IsTurned]
      · rw [goto_pc]
        trivial
      · exact fun hwho hundecided => (hfrom _ hpc hwho hundecided).elim

/-- As long as the modules keep running, from a moment when no command and no turn is under way, no thread
lowers the flag or records a failure, and after each turn of the loop the initialization is complete. -/
theorem startup_completes {s t : RuntimeState} (hidle : ∀ who, s.pc who = .idle)
    (hrunning : ∀ m, s.running m = true)
    (ht : ((Transition.ofFun (· = s) next).restrict fun u a => Enabled u a ∧ KeepsRunning a).Reachable t) :
    ∃ newer, t.log = newer ++ s.log ∧ (∀ e ∈ newer, ¬ IsLowered e ∧ ¬ IsRaised e) ∧
      ((∃ e ∈ newer, IsTurned e) → t.pc .loop = .idle → t.initializationComplete = true) := by
  have hhealthy : Healthy s.log t := by
    refine ht.invariant (Healthy s.log) ?_ ?_
    · rintro u rfl
      refine ⟨hrunning, fun who => ?_, [], rfl, by simp, by simp⟩
      rw [hidle who]
      trivial
    · rintro u a u' - hu ⟨⟨henabled, hkeeps⟩, rfl⟩
      cases a with
      | world m running =>
          obtain rfl : running = true := hkeeps
          refine ⟨fun other => ?_, hu.untroubled, hu.since⟩
          show (if other = m then true else u.running other) = true
          split
          · rfl
          · exact hu.running other
      | turn now =>
          obtain ⟨newer, hlog, hquiet, -⟩ := hu.since
          refine ⟨hu.running, fun other => ?_, .turned now :: newer, congrArg _ hlog,
            List.forall_mem_cons.mpr ⟨⟨id, id⟩, hquiet⟩, fun _ => Or.inr (goto_pc _ _ _ ▸ trivial)⟩
          by_cases hother : other = .loop
          · rw [hother]
            exact goto_pc _ _ _ ▸ trivial
          · exact (goto_pc_of_ne _ hother).symm ▸ hu.untroubled other
      | ready index => exact hu.note _ rfl ⟨id, id, id⟩ rfl rfl ⟨rfl, nofun⟩ id nofun
      | status index => exact hu.goto trivial nofun
      | advance who => exact advance_healthy hu who
  obtain ⟨newer, hlog, hquiet, hturned⟩ := hhealthy.since
  refine ⟨newer, hlog, hquiet, fun hturn hloop => ?_⟩
  rcases hturned hturn with hcomplete | hundecided
  · exact hcomplete
  · rw [hloop] at hundecided
    exact hundecided.elim

instance (a : Step) : Decidable (KeepsRunning a) :=
  match a with
  | .world _ running => inferInstanceAs (Decidable (running = true))
  | .turn _ => inferInstanceAs (Decidable True)
  | .ready _ => inferInstanceAs (Decidable True)
  | .status _ => inferInstanceAs (Decidable True)
  | .advance _ => inferInstanceAs (Decidable True)

/-- All modules run from the start. -/
def warmStart : RuntimeState := { running := fun _ => true }

theorem startup_completes_demo :
    ((Step.turn 100 :: List.replicate 13 (.advance .loop)).foldl next warmStart).initializationComplete =
      true := by
  have hinit : ((Transition.ofFun (· = warmStart) next).restrict fun u a =>
      Enabled u a ∧ KeepsRunning a).Reachable warmStart := .start rfl
  have hrun : ((Transition.ofFun (· = warmStart) next).restrict fun u a => Enabled u a ∧ KeepsRunning a).Reachable
      ((Step.turn 100 :: List.replicate 13 (.advance .loop)).foldl next warmStart) :=
    hinit.foldl_restrict (by decide +kernel)
  obtain ⟨newer, hlog, -, hdone⟩ := startup_completes (fun _ => rfl) (fun _ => rfl) hrun
  have hturned : .turned 100 ∈ newer := by
    rw [show warmStart.log = [] from rfl, List.append_nil] at hlog
    rw [← hlog]
    decide +kernel
  exact hdone ⟨_, hturned, trivial⟩ (by decide +kernel)

end RuntimeState

end DualMagneticWheel
