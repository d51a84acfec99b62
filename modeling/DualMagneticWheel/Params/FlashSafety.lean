/-
# DualMagneticWheel.Params.FlashSafety — power loss and write failures over whole histories

A history boots, loads and saves. Any save may be refused, may fail, or may lose power in any of its
operations; a boot may come at any time and loads. The sequence number of a save follows the one that was
last loaded or successfully saved.

What may be loaded is kept beside the memory: the promised snapshot (the last save that returned true, or
before that the page of the first load), and the attempts since then whose commit word was completely
programmed. `current` and `recent` say the same about the last successful load or save, so that a load
within them is never older than what was loaded before.

A page that was completed by a save which reported failure is not protected: the next save erases it, and
if there was nothing before it, nothing is left (`failure_after_valid`). Once a load has succeeded or a
save has returned true, every load succeeds (`load_recovers`).
-/
import DualMagneticWheel.Params.Flash
import DualMagneticWheel.Foundation.Transition

namespace DualMagneticWheel

open Foundation

/-! ## Choosing a page -/

theorem sequenceNewer_succ (sequence : UInt32) : sequenceNewer (sequence + 1) sequence = true := by
  rw [sequenceNewer, UInt32.add_comm, UInt32.add_sub_cancel]
  decide

theorem sequenceNewer_pred (sequence : UInt32) : sequenceNewer sequence (sequence + 1) = false := by
  have hdiff : sequence - (sequence + 1) = -1 := by grind
  rw [sequenceNewer, hdiff]
  decide

namespace FlashParamStorage

/-- The page `load` chooses. -/
def chosenOn (valid : Slot → Option ParamStorageSnapshot) : Option Slot :=
  chosen (valid .a) (valid .b)

variable {valid : Slot → Option ParamStorageSnapshot} {slot : Slot}

/-- A chosen page holds a snapshot. -/
theorem isSome_of_chosenOn (h : chosenOn valid = some slot) : ∃ snap, valid slot = some snap := by
  unfold chosenOn chosen at h
  split at h
  · cases h
  · cases h
    exact ⟨_, by assumption⟩
  · cases h
    exact ⟨_, by assumption⟩
  · split at h <;> cases h <;> exact ⟨_, by assumption⟩

/-- No page is chosen only if both are empty. -/
theorem eq_none_of_chosenOn (h : chosenOn valid = none) : valid slot = none := by
  unfold chosenOn chosen at h
  split at h
  · cases slot <;> assumption
  · cases h
  · cases h
  · split at h <;> cases h

/-- The only page that holds a snapshot is chosen. -/
theorem chosenOn_alone {snap : ParamStorageSnapshot} (h : valid slot = some snap)
    (hother : valid slot.other = none) : chosenOn valid = some slot := by
  cases slot <;> simp only [Slot.other] at hother <;> simp [chosenOn, chosen, h, hother]

/-- The next sequence number wins, on either page. -/
theorem chosenOn_next {snap next : ParamStorageSnapshot} (h : valid slot = some snap)
    (hother : valid slot.other = some next) (hnext : next.sequence = snap.sequence + 1) :
    chosenOn valid = some slot.other := by
  cases slot with
  | a =>
      simp only [Slot.other] at hother ⊢
      simp [chosenOn, chosen, h, hother, hnext, sequenceNewer_pred]
  | b =>
      simp only [Slot.other] at hother ⊢
      simp [chosenOn, chosen, h, hother, hnext, sequenceNewer_succ]

end FlashParamStorage

/-! ## Histories -/

/-- The memory, the storage object while there is power, and what may be loaded. -/
structure FlashRun where
  slotSize : Nat
  flash : Flash
  storage : Option FlashParamStorage := none
  booted : Bool := false
  wasValid : Bool
  promised : Option ParamStorageSnapshot := none
  attempts : List ParamStorageSnapshot := []
  current : Option ParamStorageSnapshot := none
  recent : List ParamStorageSnapshot := []

/-- A boot, a further load, or an attempt to save. -/
inductive FlashEvent where
  | reboot
  | load
  | save (snapshot : ParamStorageSnapshot) (outcome : SaveOutcome)

namespace FlashRun

/-- What the pages hold. -/
def valid (s : FlashRun) (slot : Slot) : Option ParamStorageSnapshot :=
  validate s.slotSize (s.flash slot)

/-- What `load` would return now. -/
def loadResult (s : FlashRun) : Option ParamStorageSnapshot :=
  ((⟨s.slotSize, none⟩ : FlashParamStorage).load s.flash).2

/-- `load` on a storage object. -/
def loadWith (s : FlashRun) (storage : FlashParamStorage) : FlashRun :=
  let (storage, result) := storage.load s.flash
  { s with
    storage := some storage
    booted := true
    promised := if s.booted then s.promised else result
    current := result.or s.current
    recent := if result.isSome then [] else s.recent }

/-- After a save that did not return true; `completed` is its snapshot if its page is complete. -/
def unsaved (s : FlashRun) (flash : Flash) (wasValid : Bool) (storage : Option FlashParamStorage)
    (completed : List ParamStorageSnapshot) : FlashRun :=
  { s with
    flash, wasValid, storage
    attempts := completed ++ s.attempts, recent := completed ++ s.recent }

/-- `save` on a storage object. -/
def saveWith (s : FlashRun) (storage : FlashParamStorage) (snapshot : ParamStorageSnapshot)
    (outcome : SaveOutcome) : FlashRun :=
  let completed := if storage.Completes snapshot outcome then [snapshot.stored] else []
  let (flash, after, result) := storage.save s.flash snapshot outcome
  let wasValid := s.wasValid || (validate s.slotSize (flash .a)).isSome ||
    (validate s.slotSize (flash .b)).isSome
  match result with
  | .returned true =>
      { s with
        flash, wasValid
        storage := some after
        promised := some snapshot.stored, attempts := []
        current := some snapshot.stored, recent := [] }
  | .returned false => s.unsaved flash wasValid (some after) completed
  | .powerLost => s.unsaved flash wasValid none completed

/-- One event. -/
def next (s : FlashRun) : FlashEvent → FlashRun
  | .reboot => s.loadWith ⟨s.slotSize, none⟩
  | .load =>
      match s.storage with
      | some storage => s.loadWith storage
      | none => s
  | .save snapshot outcome =>
      match s.storage with
      | some storage => s.saveWith storage snapshot outcome
      | none => s

/-- What the callers and the memory guarantee. -/
def Admits (s : FlashRun) : FlashEvent → Prop
  | .reboot => True
  | .load => s.storage ≠ none
  | .save snapshot outcome => ∃ storage, s.storage = some storage ∧
      snapshot.count.toNat ≤ ParamMaxCount ∧
      (∀ last ∈ s.current, snapshot.sequence = last.sequence + 1) ∧
      outcome.erase.Keeps s.slotSize (s.flash storage.target)

/-- All histories, from any content of the memory. -/
def system : Transition FlashRun FlashEvent where
  init s := ∃ slotSize flash, s =
    { slotSize, flash
      wasValid := (validate slotSize (flash .a)).isSome || (validate slotSize (flash .b)).isSome }
  step s e t := s.Admits e ∧ t = s.next e

/-- The promised snapshot or a later attempt. -/
def Allowed (s : FlashRun) (snap : ParamStorageSnapshot) : Prop :=
  s.promised = some snap ∨ snap ∈ s.attempts

/-- What was last loaded or saved, or a later attempt. -/
def Recent (s : FlashRun) (snap : ParamStorageSnapshot) : Prop :=
  s.current = some snap ∨ snap ∈ s.recent

/-- Every load after the first is allowed, and fails only if no page was ever valid. -/
def LoadsAlways (s : FlashRun) : Prop :=
  s.booted = true →
    match s.loadResult with
    | some snap => s.Allowed snap
    | none => s.wasValid = false

/-- Every load after the first is allowed and not older than what was loaded before, and fails only if
no load has succeeded and no save has returned true. -/
def Recovers (s : FlashRun) : Prop :=
  s.booted = true →
    match s.loadResult with
    | some snap => s.Allowed snap ∧ s.Recent snap
    | none => s.current = none ∧ s.promised = none

theorem reachable_next {s : FlashRun} (h : system.Reachable s) {e : FlashEvent}
    (hadmits : s.Admits e) : system.Reachable (s.next e) := .next h ⟨hadmits, rfl⟩

/-! ## A page that is not protected -/

/-- An erased memory. -/
def blank : FlashRun where
  slotSize := 131072
  flash := fun _ => Page.erased
  wasValid := false

theorem blank_reachable : system.Reachable blank := .start ⟨131072, fun _ => Page.erased, rfl⟩

/-- The first save completes its page but is told that the last program operation failed; the second
erases that page again and loses power. -/
def unprotected : FlashRun :=
  ((blank.next .reboot).next (.save { sequence := 1 } { commit := .failed 4 })).next
    (.save { sequence := 1 } { erase := .powerLoss Page.erased })

theorem unprotected_reachable : system.Reachable unprotected := by
  have hboot := reachable_next blank_reachable (e := .reboot) trivial
  have hfirst := reachable_next hboot (e := .save { sequence := 1 } { commit := .failed 4 })
    ⟨_, rfl, by decide, (by intro last hlast; cases hlast), trivial⟩
  exact reachable_next hfirst (e := .save { sequence := 1 } { erase := .powerLoss Page.erased })
    ⟨_, rfl, by decide, (by intro last hlast; cases hlast), Or.inl rfl⟩

/-- A page was valid, and loading fails. -/
theorem failure_after_valid : ¬ ∀ s, system.Reachable s → LoadsAlways s := by
  intro h
  have hloads := h _ unprotected_reachable
  have hnone : unprotected.loadResult = none := by decide +kernel
  have hvalid : unprotected.wasValid = true := by decide +kernel
  rw [LoadsAlways, hnone] at hloads
  exact absurd (hloads (by decide +kernel)) (by simp [hvalid])

/-! ## What every history keeps -/

/-- A storage object protects the page of what was last loaded or saved. -/
structure Protects (s : FlashRun) (storage : FlashParamStorage) : Prop where
  size : storage.slotSize = s.slotSize
  active : ∀ slot, storage.activeSlot = some slot →
    ∃ snap, s.valid slot = some snap ∧ s.current = some snap
  inactive : storage.activeSlot = none → s.current = none ∧ s.valid .b = none

/-- The invariant. -/
structure Recoverable (s : FlashRun) : Prop where
  tracked : ∀ snap, s.Recent snap → s.Allowed snap
  promised : s.promised ≠ none → s.current ≠ none
  loads : s.booted = true → ∀ slot snap, FlashParamStorage.chosenOn s.valid = some slot →
    s.valid slot = some snap → s.Recent snap
  fails : s.booted = true → FlashParamStorage.chosenOn s.valid = none → s.current = none
  unbooted : s.booted = false →
    s.storage = none ∧ s.promised = none ∧ s.current = none ∧ s.recent = []
  protects : ∀ storage, s.storage = some storage → s.Protects storage

theorem load_eq {s : FlashRun} {storage : FlashParamStorage} (h : storage.slotSize = s.slotSize) :
    storage.load s.flash =
      match FlashParamStorage.chosenOn s.valid with
      | none => ({ storage with activeSlot := none }, none)
      | some slot => ({ storage with activeSlot := some slot }, s.valid slot) := by
  rw [FlashParamStorage.load, h]
  rfl

/-- Loading, at a boot or later. -/
theorem Recoverable.loadWith {s : FlashRun} (hs : s.Recoverable) {storage : FlashParamStorage}
    (hsize : storage.slotSize = s.slotSize) : (s.loadWith storage).Recoverable := by
  rw [FlashRun.loadWith, load_eq hsize]
  cases hchosen : FlashParamStorage.chosenOn s.valid with
  | none =>
      -- no page is valid, which is possible only while nothing was saved
      have hcurrent : s.current = none := by
        cases hbooted : s.booted with
        | true => exact hs.fails hbooted hchosen
        | false => exact (hs.unbooted hbooted).2.2.1
      refine ⟨?_, ?_, ?_, ?_, ?_, ?_⟩
      · intro snap hrecent
        cases hbooted : s.booted with
        | true => simpa [Allowed, hbooted] using hs.tracked snap hrecent
        | false =>
            obtain ⟨_, _, _, hnone⟩ := hs.unbooted hbooted
            simp [Recent, hcurrent, hnone] at hrecent
      · intro hpromised
        cases hbooted : s.booted with
        | true => exact hs.promised (by simpa [hbooted] using hpromised)
        | false => simp [hbooted] at hpromised
      · intro _ slot snap hslot
        exact absurd (hchosen.symm.trans hslot) (by simp)
      · intro _ _
        exact hcurrent
      · intro hbooted
        cases hbooted
      · rintro _ ⟨⟩
        refine ⟨hsize, ?_, fun _ => ⟨hcurrent, FlashParamStorage.eq_none_of_chosenOn hchosen⟩⟩
        intro slot hslot
        cases hslot
  | some slot =>
      obtain ⟨snap, hsnap⟩ := FlashParamStorage.isSome_of_chosenOn hchosen
      simp only [hsnap]
      refine ⟨?_, ?_, ?_, ?_, ?_, ?_⟩
      · intro loaded hrecent
        obtain rfl : snap = loaded := by simpa [Recent] using hrecent
        cases hbooted : s.booted with
        | true => simpa [Allowed, hbooted] using hs.tracked _ (hs.loads hbooted _ _ hchosen hsnap)
        | false => simp [Allowed]
      · intro _
        simp
      · intro _ slot' snap' hslot' hsnap'
        obtain rfl : slot = slot' := Option.some_inj.mp (hchosen.symm.trans hslot')
        exact Or.inl (hsnap.symm.trans hsnap')
      · intro _ hnone
        exact absurd (hchosen.symm.trans hnone) (by simp)
      · intro hbooted
        cases hbooted
      · rintro _ ⟨⟩
        refine ⟨hsize, ?_, ?_⟩
        · rintro _ ⟨⟩
          exact ⟨snap, hsnap, rfl⟩
        · intro hslot
          cases hslot

/-- The target of a save is not the protected page. -/
theorem target_other {storage : FlashParamStorage} {slot : Slot}
    (h : storage.activeSlot = some slot) : storage.target = slot.other := by
  cases slot <;> simp [FlashParamStorage.target, h, Slot.other]

theorem target_none {storage : FlashParamStorage} (h : storage.activeSlot = none) :
    storage.target = .a := by
  simp [FlashParamStorage.target, h]

/-- There is power only after a boot. -/
theorem Recoverable.booted {s : FlashRun} (hs : s.Recoverable) {storage : FlashParamStorage}
    (hstorage : s.storage = some storage) : s.booted = true := by
  by_contra hnot
  have hnone := (hs.unbooted (by simpa using hnot)).1
  rw [hstorage] at hnone
  cases hnone

/-- What a write to one page does to the contents. -/
theorem valid_update (s : FlashRun) (target : Slot) (page : Page) :
    (fun slot => validate s.slotSize (Function.update s.flash target page slot)) =
      Function.update s.valid target (validate s.slotSize page) := by
  funext slot
  by_cases h : slot = target
  · rw [h, Function.update_self, Function.update_self]
  · rw [Function.update_of_ne h, Function.update_of_ne h]
    rfl

theorem other_ne (slot : Slot) : slot ≠ slot.other := by cases slot <;> decide

/-- The protected page survives a write to the target. -/
theorem valid_active (s : FlashRun) {storage : FlashParamStorage} {slot : Slot}
    (hslot : storage.activeSlot = some slot) (written : Option ParamStorageSnapshot) :
    Function.update s.valid storage.target written slot = s.valid slot := by
  rw [target_other hslot, Function.update_of_ne (other_ne slot)]

/-- A write that leaves a page without a snapshot on the target: the protected page is chosen. -/
theorem Protects.chosen_invalid {s : FlashRun} {storage : FlashParamStorage}
    (h : s.Protects storage) :
    FlashParamStorage.chosenOn (Function.update s.valid storage.target none) =
      storage.activeSlot := by
  cases hactive : storage.activeSlot with
  | none =>
      simp [FlashParamStorage.chosenOn, FlashParamStorage.chosen, target_none hactive,
        (h.inactive hactive).2]
  | some slot =>
      obtain ⟨snap, hsnap, _⟩ := h.active slot hactive
      apply FlashParamStorage.chosenOn_alone ((s.valid_active hactive none).trans hsnap)
      rw [target_other hactive, Function.update_self]

/-- A snapshot with the next sequence number on the target is chosen. -/
theorem Protects.chosen_next {s : FlashRun} {storage : FlashParamStorage} (h : s.Protects storage)
    {snap : ParamStorageSnapshot} (hnext : ∀ last ∈ s.current, snap.sequence = last.sequence + 1) :
    FlashParamStorage.chosenOn (Function.update s.valid storage.target (some snap)) =
      some storage.target := by
  cases hactive : storage.activeSlot with
  | none =>
      simp [FlashParamStorage.chosenOn, FlashParamStorage.chosen, target_none hactive,
        (h.inactive hactive).2]
  | some slot =>
      obtain ⟨last, hlast, hcurrent⟩ := h.active slot hactive
      have hold : Function.update s.valid slot.other (some snap) slot = some last := by
        rw [Function.update_of_ne (other_ne slot), hlast]
      rw [target_other hactive]
      exact FlashParamStorage.chosenOn_next hold (Function.update_self _ _ _) (hnext last hcurrent)

/-- A save that does not return true. What is on the target afterwards is nothing, or what was there
before, or the attempted snapshot, which then is a completed attempt. -/
theorem Recoverable.unsaved {s : FlashRun} (hs : s.Recoverable) {storage : FlashParamStorage}
    (hstorage : s.storage = some storage) (page : Page) (completed : List ParamStorageSnapshot)
    (hpage : completed = [] ∧ (validate s.slotSize page = none ∨
        validate s.slotSize page = s.valid storage.target) ∨
      ∃ snap, completed = [snap] ∧ validate s.slotSize page = some snap ∧
        ∀ last ∈ s.current, snap.sequence = last.sequence + 1)
    (wasValid : Bool) {after : Option FlashParamStorage} (hafter : after = some storage ∨ after = none) :
    (s.unsaved (Function.update s.flash storage.target page) wasValid after completed).Recoverable := by
  have hprotects := hs.protects storage hstorage
  have hbooted := hs.booted hstorage
  have hvalid : (s.unsaved (Function.update s.flash storage.target page) wasValid after
      completed).valid = Function.update s.valid storage.target (validate s.slotSize page) :=
    s.valid_update storage.target page
  -- what was a recent snapshot still is one
  have hrecent : ∀ snap, s.Recent snap → (s.unsaved (Function.update s.flash storage.target page)
      wasValid after completed).Recent snap := by
    intro snap hsnap
    rcases hsnap with hsnap | hsnap
    · exact Or.inl hsnap
    · exact Or.inr (List.mem_append_right _ hsnap)
  refine ⟨?_, hs.promised, ?_, ?_, ?_, ?_⟩
  · intro snap hsnap
    rcases hsnap with hsnap | hsnap
    · rcases hs.tracked snap (Or.inl hsnap) with hallowed | hallowed
      · exact Or.inl hallowed
      · exact Or.inr (List.mem_append_right _ hallowed)
    · rcases List.mem_append.mp hsnap with hnew | hold
      · exact Or.inr (List.mem_append_left _ hnew)
      · rcases hs.tracked snap (Or.inr hold) with hallowed | hallowed
        · exact Or.inl hallowed
        · exact Or.inr (List.mem_append_right _ hallowed)
  · intro _ slot snap hslot hsnap
    rw [hvalid] at hslot hsnap
    rcases hpage with ⟨_, hnone | hsame⟩ | ⟨next, rfl, hnext, hsequence⟩
    · -- the protected page is loaded
      rw [hnone, hprotects.chosen_invalid] at hslot
      rw [s.valid_active hslot] at hsnap
      obtain ⟨last, hlast, hcurrent⟩ := hprotects.active slot hslot
      exact Or.inl (hcurrent.trans (hlast.symm.trans hsnap))
    · -- nothing has changed
      rw [hsame, Function.update_eq_self] at hslot hsnap
      exact hrecent snap (hs.loads hbooted slot snap hslot hsnap)
    · -- the attempt is loaded
      rw [hnext, hprotects.chosen_next hsequence, Option.some_inj] at hslot
      rw [← hslot, Function.update_self, hnext, Option.some_inj] at hsnap
      exact Or.inr (List.mem_append_left _ (hsnap ▸ List.mem_singleton_self next))
  · intro _ hchosen
    rw [hvalid] at hchosen
    rcases hpage with ⟨_, hnone | hsame⟩ | ⟨next, rfl, hnext, hsequence⟩
    · rw [hnone, hprotects.chosen_invalid] at hchosen
      exact (hprotects.inactive hchosen).1
    · rw [hsame, Function.update_eq_self] at hchosen
      exact hs.fails hbooted hchosen
    · rw [hnext, hprotects.chosen_next hsequence] at hchosen
      cases hchosen
  · intro hnot
    exact absurd (hbooted.symm.trans hnot) (by decide)
  · intro kept hkept
    have hsame : kept = storage := by
      rcases hafter with hafter | hafter
      · exact (Option.some_inj.mp (hafter.symm.trans hkept)).symm
      · exact absurd (hafter.symm.trans hkept) (by simp)
    subst hsame
    refine ⟨hprotects.size, ?_, ?_⟩
    · intro slot hslot
      rw [hvalid, s.valid_active hslot]
      exact hprotects.active slot hslot
    · intro hslot
      rw [hvalid, target_none hslot, Function.update_of_ne (by decide)]
      exact hprotects.inactive hslot

/-- A save that returns true. -/
theorem Recoverable.saved {s : FlashRun} {storage : FlashParamStorage}
    (hprotects : s.Protects storage) (hbooted : s.booted = true) {page : Page}
    {snap : ParamStorageSnapshot} (hpage : validate s.slotSize page = some snap)
    (hnext : ∀ last ∈ s.current, snap.sequence = last.sequence + 1) (wasValid : Bool) :
    Recoverable
      { s with
        flash := Function.update s.flash storage.target page, wasValid
        storage := some { storage with activeSlot := some storage.target }
        promised := some snap, attempts := [], current := some snap, recent := [] } := by
  have hvalid := s.valid_update storage.target page
  rw [hpage] at hvalid
  refine ⟨?_, ?_, ?_, ?_, ?_, ?_⟩
  · intro loaded hloaded
    exact Or.inl (by simpa [Recent] using hloaded)
  · intro _
    simp
  · intro _ slot loaded hslot hloaded
    change FlashParamStorage.chosenOn (fun slot => validate _ _) = some slot at hslot
    change (fun slot => validate s.slotSize (Function.update s.flash storage.target page slot)) slot =
      some loaded at hloaded
    rw [hvalid, hprotects.chosen_next hnext, Option.some_inj] at hslot
    rw [hvalid, ← hslot, Function.update_self] at hloaded
    exact Or.inl hloaded
  · intro _ hchosen
    change FlashParamStorage.chosenOn (fun slot => validate _ _) = none at hchosen
    rw [hvalid, hprotects.chosen_next hnext] at hchosen
    cases hchosen
  · intro hnot
    exact absurd (hbooted.symm.trans hnot) (by decide)
  · rintro _ ⟨⟩
    refine ⟨hprotects.size, ?_, ?_⟩
    · rintro _ ⟨⟩
      refine ⟨snap, ?_, rfl⟩
      exact (congrFun hvalid storage.target).trans (Function.update_self _ _ _)
    · intro hslot
      cases hslot

/-- Any attempt to save. -/
theorem Recoverable.saveWith {s : FlashRun} (hs : s.Recoverable) {storage : FlashParamStorage}
    (hstorage : s.storage = some storage) {snapshot : ParamStorageSnapshot}
    (hnext : ∀ last ∈ s.current, snapshot.sequence = last.sequence + 1) {outcome : SaveOutcome}
    (hkeeps : outcome.erase.Keeps s.slotSize (s.flash storage.target)) :
    (s.saveWith storage snapshot outcome).Recoverable := by
  have hprotects := hs.protects storage hstorage
  have hbooted := hs.booted hstorage
  have hsize := hprotects.size
  rw [← hsize] at hkeeps
  have hsaved := storage.save_saved s.flash snapshot hkeeps
  rw [FlashRun.saveWith]
  generalize storage.save s.flash snapshot outcome = result at hsaved ⊢
  cases hsaved with
  | refused hnot =>
      have hsame := hs.unsaved hstorage (s.flash storage.target) []
        (Or.inl ⟨rfl, Or.inr rfl⟩)
      rw [Function.update_eq_self] at hsame
      simp only [if_neg hnot]
      exact hsame _ (Or.inl rfl)
  | @broken page result hnot hresult hpage =>
      have hbroken := hs.unsaved hstorage page []
        (Or.inl ⟨rfl, by rw [hsize] at hpage; exact hpage⟩)
      simp only [if_neg hnot]
      match result, hresult with
      | .returned false, _ => exact hbroken _ (Or.inl rfl)
      | .powerLost, _ => exact hbroken _ (Or.inr rfl)
      | .returned true, hresult => exact absurd rfl hresult
  | @unreported page result hcompletes hresult hpage =>
      rw [hsize] at hpage
      have hunreported := hs.unsaved hstorage page [snapshot.stored]
        (Or.inr ⟨_, rfl, hpage, hnext⟩)
      simp only [if_pos hcompletes]
      match result, hresult with
      | .returned false, _ => exact hunreported _ (Or.inl rfl)
      | .powerLost, _ => exact hunreported _ (Or.inr rfl)
      | .returned true, hresult => exact absurd rfl hresult
  | succeeded _ hpage =>
      rw [hsize] at hpage
      exact Recoverable.saved hprotects hbooted hpage hnext _

/-! ## Loads and saves one by one -/

theorem loadWith_spec {s : FlashRun} {storage : FlashParamStorage}
    (hsize : storage.slotSize = s.slotSize) :
    (s.loadWith storage).loadResult = s.loadResult ∧
      (s.loadWith storage).current = s.loadResult.or s.current ∧
      ∃ after, (s.loadWith storage).storage = some after := by
  have hresult : (storage.load s.flash).2 = s.loadResult := by
    rw [loadResult, load_eq hsize, load_eq rfl]
    cases FlashParamStorage.chosenOn s.valid <;> rfl
  exact ⟨rfl, by rw [FlashRun.loadWith, ← hresult], _, rfl⟩

/-- What was last loaded or saved is what a load returns, if nothing was attempted since. -/
theorem Recoverable.loadResult_eq {s : FlashRun} (hs : s.Recoverable) (hbooted : s.booted = true)
    (hrecent : s.recent = []) : s.loadResult = s.current := by
  rw [loadResult, load_eq rfl]
  cases hchosen : FlashParamStorage.chosenOn s.valid with
  | none => exact (hs.fails hbooted hchosen).symm
  | some slot =>
      obtain ⟨snap, hsnap⟩ := FlashParamStorage.isSome_of_chosenOn hchosen
      rcases hs.loads hbooted slot snap hchosen hsnap with hcurrent | hmem
      · exact hsnap.trans hcurrent.symm
      · rw [hrecent] at hmem
        cases hmem

theorem saveWith_true {s : FlashRun} {storage : FlashParamStorage} {snapshot : ParamStorageSnapshot}
    {outcome : SaveOutcome}
    (h : (storage.save s.flash snapshot outcome).2.2 = .returned true) :
    (s.saveWith storage snapshot outcome).current = some snapshot.stored ∧
      (s.saveWith storage snapshot outcome).recent = [] ∧
      (s.saveWith storage snapshot outcome).booted = s.booted ∧
      ∃ after, (s.saveWith storage snapshot outcome).storage = some after := by
  rw [FlashRun.saveWith]
  generalize storage.save s.flash snapshot outcome = saved at h ⊢
  obtain ⟨flash, after, result⟩ := saved
  obtain rfl : result = .returned true := h
  exact ⟨rfl, rfl, rfl, after, rfl⟩

theorem saveWith_false {s : FlashRun} {storage : FlashParamStorage} {snapshot : ParamStorageSnapshot}
    {outcome : SaveOutcome}
    (h : (storage.save s.flash snapshot outcome).2.2 = .returned false) :
    (s.saveWith storage snapshot outcome).current = s.current ∧
      ∃ after, (s.saveWith storage snapshot outcome).storage = some after := by
  rw [FlashRun.saveWith]
  generalize storage.save s.flash snapshot outcome = saved at h ⊢
  obtain ⟨flash, after, result⟩ := saved
  obtain rfl : result = .returned false := h
  exact ⟨rfl, after, rfl⟩

/-! ## Whole histories -/

theorem recoverable_init {s : FlashRun} (h : system.init s) : s.Recoverable := by
  obtain ⟨slotSize, flash, rfl⟩ := h
  refine ⟨?_, ?_, ?_, ?_, fun _ => ⟨rfl, rfl, rfl, rfl⟩, ?_⟩
  · intro snap hsnap
    simp [Recent] at hsnap
  · intro hpromised
    exact absurd rfl hpromised
  · intro hbooted
    cases hbooted
  · intro hbooted
    cases hbooted
  · intro storage hstorage
    cases hstorage

/-- Every load after the first returns the promised snapshot or a later attempt whose commit word was
complete, never one older than what was loaded or saved before, and it fails only if no load has
succeeded and no save has returned true. -/
theorem load_recovers {s : FlashRun} (h : system.Reachable s) : s.Recovers := by
  have hs : s.Recoverable := by
    refine h.invariant Recoverable (fun s hs => recoverable_init hs) ?_
    rintro s e t - hs ⟨hadmits, rfl⟩
    cases e with
    | reboot => exact hs.loadWith rfl
    | load =>
        cases hstorage : s.storage with
        | none => exact absurd hstorage hadmits
        | some storage =>
            simp only [next, hstorage]
            exact hs.loadWith (hs.protects storage hstorage).size
    | save snapshot outcome =>
        obtain ⟨storage, hstorage, _, hnext, hkeeps⟩ := hadmits
        simp only [next, hstorage]
        exact hs.saveWith hstorage hnext hkeeps
  intro hbooted
  rw [loadResult, load_eq rfl]
  cases hchosen : FlashParamStorage.chosenOn s.valid with
  | none =>
      have hcurrent := hs.fails hbooted hchosen
      refine ⟨hcurrent, ?_⟩
      by_contra hpromised
      exact hs.promised hpromised hcurrent
  | some slot =>
      obtain ⟨snap, hsnap⟩ := FlashParamStorage.isSome_of_chosenOn hchosen
      have hrecent := hs.loads hbooted slot snap hchosen hsnap
      simp only [hsnap]
      exact ⟨hs.tracked snap hrecent, hrecent⟩

/-- A saved snapshot, and an attempt that loses power inside the commit word. -/
theorem load_recovers_power_loss :
    (((blank.next .reboot).next (.save { sequence := 1 } {})).next
      (.save { sequence := 2 } { commit := .powerLoss 3 })).Recovers := by
  have hboot := reachable_next blank_reachable (e := .reboot) trivial
  have hsave := reachable_next hboot (e := .save { sequence := 1 } {})
    ⟨_, rfl, by decide, (by intro last hlast; cases hlast), trivial⟩
  have hcurrent : ((blank.next .reboot).next (.save { sequence := 1 } {})).current =
      some { sequence := 1 } := by decide +kernel
  have hstorage : ((blank.next .reboot).next (.save { sequence := 1 } {})).storage =
      some ⟨131072, some .a⟩ := by decide +kernel
  refine load_recovers (reachable_next hsave (e := .save { sequence := 2 } { commit := .powerLoss 3 })
    ⟨_, hstorage, by decide, ?_, trivial⟩)
  intro last hlast
  rw [hcurrent] at hlast
  cases hlast
  rfl

end FlashRun

end DualMagneticWheel
