/-
# DualMagneticWheel.Foundation.EventLog — the latest value of a key, and logs that grow by permission

An event log is a list with the newest event first. Some events write a value under a key; `latest` is
the value a key holds after the log. A discipline is a relation between a log and the next event:
`Lawful` says that every event of a log was permitted by what was there before it. Its two readings are
`Lawful.append`, which extends a log by a block of events, and `lawful_iff_forall_split`, which is what a
property of finished logs looks like.

`Since mark bar` is the past operator: a marked event lies in the log and no barred one is newer. It
turns an account of what happened ("enabled after the last attach, and not stopped since") into a fact
about a log that one event extends or ends.
-/
import Mathlib.Data.List.Infix

namespace DualMagneticWheel.Foundation

variable {Event Key Value : Type*}

/-! ## The latest value of a key -/

/-- The value that the newest event on a key has written; `read` is what an event writes. -/
def latest [DecidableEq Key] (read : Event → Option (Key × Value)) : List Event → Key → Option Value
  | [], _ => none
  | event :: older, key =>
      match read event with
      | some (written, value) => if written = key then some value else latest read older key
      | none => latest read older key

section Latest

variable [DecidableEq Key] {read : Event → Option (Key × Value)}

@[simp] theorem latest_nil (key : Key) : latest read [] key = none := rfl

theorem latest_cons_of_none {event : Event} (h : read event = none) (older : List Event)
    (key : Key) : latest read (event :: older) key = latest read older key := by
  simp only [latest, h]

theorem latest_cons_of_some {event : Event} {written : Key} {value : Value}
    (h : read event = some (written, value)) (older : List Event) (key : Key) :
    latest read (event :: older) key =
      if written = key then some value else latest read older key := by
  simp only [latest, h]

/-- Events that write nothing are not seen. -/
theorem latest_append_of_none {newer : List Event} (h : ∀ e ∈ newer, read e = none)
    (older : List Event) (key : Key) :
    latest read (newer ++ older) key = latest read older key := by
  induction newer with
  | nil => rfl
  | cons e newer ih =>
      rw [List.cons_append, latest_cons_of_none (h e List.mem_cons_self)]
      exact ih fun e' he' => h e' (List.mem_cons_of_mem e he')

/-- A block of events that all write one value: the keys it writes hold that value, the others keep
theirs. -/
theorem latest_append_of_value {newer : List Event} {value : Value}
    (h : ∀ e ∈ newer, ∃ written, read e = some (written, value)) (older : List Event) (key : Key) :
    ((∃ e ∈ newer, read e = some (key, value)) ∧ latest read (newer ++ older) key = some value) ∨
      ((∀ e ∈ newer, read e ≠ some (key, value)) ∧
        latest read (newer ++ older) key = latest read older key) := by
  induction newer with
  | nil => exact Or.inr ⟨by simp, rfl⟩
  | cons e newer ih =>
      obtain ⟨written, hread⟩ := h e List.mem_cons_self
      rw [List.cons_append, latest_cons_of_some hread]
      by_cases hkey : written = key
      · subst hkey
        exact Or.inl ⟨⟨e, List.mem_cons_self, hread⟩, if_pos rfl⟩
      · rw [if_neg hkey]
        rcases ih fun e' he' => h e' (List.mem_cons_of_mem e he') with
          ⟨⟨e', he', hread'⟩, hnew⟩ | ⟨hnone, hold⟩
        · exact Or.inl ⟨⟨e', List.mem_cons_of_mem e he', hread'⟩, hnew⟩
        · refine Or.inr ⟨?_, hold⟩
          intro e' he'
          rcases List.mem_cons.mp he' with rfl | he'
          · rw [hread]
            intro heq
            cases heq
            exact hkey rfl
          · exact hnone e' he'

/-- A key that the block writes holds the block's value. -/
theorem latest_append_of_mem {newer : List Event} {value : Value}
    (h : ∀ e ∈ newer, ∃ written, read e = some (written, value)) {e : Event} (he : e ∈ newer)
    {key : Key} (hkey : read e = some (key, value)) (older : List Event) :
    latest read (newer ++ older) key = some value := by
  rcases latest_append_of_value h older key with ⟨-, hnew⟩ | ⟨hnone, -⟩
  · exact hnew
  · exact absurd hkey (hnone e he)

/-- A value that a key holds was written by an event of the log. -/
theorem exists_of_latest {log : List Event} {key : Key} {value : Value}
    (h : latest read log key = some value) : ∃ e ∈ log, read e = some (key, value) := by
  induction log with
  | nil => cases h
  | cons e log ih =>
      have hrest : latest read log key = some value → ∃ e' ∈ e :: log, read e' = some (key, value) := by
        intro hold
        obtain ⟨e', he', hread⟩ := ih hold
        exact ⟨e', List.mem_cons_of_mem e he', hread⟩
      cases hread : read e with
      | none => exact hrest (latest_cons_of_none hread log key ▸ h)
      | some entry =>
          obtain ⟨written, value'⟩ := entry
          rw [latest_cons_of_some hread] at h
          by_cases hkey : written = key
          · rw [if_pos hkey, Option.some_inj] at h
            exact ⟨e, List.mem_cons_self, by rw [hread, hkey, h]⟩
          · exact hrest (by rwa [if_neg hkey] at h)

/-- A key that was written holds the value of an event at least as new. -/
theorem exists_latest_of_mem {log : List Event} {e : Event} {key : Key} {value : Value} (he : e ∈ log)
    (hread : read e = some (key, value)) :
    ∃ newer e' older value', log = newer ++ e' :: older ∧ read e' = some (key, value') ∧
      latest read log key = some value' ∧ e ∈ e' :: older := by
  induction log with
  | nil => cases he
  | cons first log ih =>
      by_cases hfirst : ∃ value', read first = some (key, value')
      · obtain ⟨value', hvalue⟩ := hfirst
        refine ⟨[], first, log, value', rfl, hvalue, ?_, he⟩
        rw [latest_cons_of_some hvalue, if_pos rfl]
      · have hin : e ∈ log := by
          rcases List.mem_cons.mp he with rfl | hin
          · exact absurd ⟨value, hread⟩ hfirst
          · exact hin
        obtain ⟨newer, e', older, value', hsplit, hvalue, hlatest, hmem⟩ := ih hin
        refine ⟨first :: newer, e', older, value', by rw [hsplit, List.cons_append], hvalue, ?_, hmem⟩
        cases hread' : read first with
        | none => rw [latest_cons_of_none hread', hlatest]
        | some entry =>
            obtain ⟨written, other⟩ := entry
            have hkey : written ≠ key := by
              rintro rfl
              exact hfirst ⟨other, hread'⟩
            rw [latest_cons_of_some hread', if_neg hkey, hlatest]

end Latest

/-! ## Logs that grow by permission -/

/-- Every event of the log was permitted by the log before it. -/
def Lawful (permits : List Event → Event → Prop) : List Event → Prop
  | [] => True
  | event :: older => permits older event ∧ Lawful permits older

section Lawful

variable {permits : List Event → Event → Prop}

theorem lawful_nil : Lawful permits [] := trivial

/-- A block of events, each permitted whatever part of the block came before it. -/
theorem Lawful.append {newer older : List Event} (holder : Lawful permits older)
    (h : ∀ later e earlier, newer = later ++ e :: earlier → permits (earlier ++ older) e) :
    Lawful permits (newer ++ older) := by
  induction newer with
  | nil => exact holder
  | cons e newer ih =>
      refine ⟨h [] e newer rfl, ih ?_⟩
      intro later e' earlier hsplit
      exact h (e :: later) e' earlier (by rw [hsplit, List.cons_append])

theorem Lawful.older {newer older : List Event} (h : Lawful permits (newer ++ older)) :
    Lawful permits older := by
  induction newer with
  | nil => exact h
  | cons e newer ih => exact ih h.2

theorem lawful_iff_forall_split {log : List Event} :
    Lawful permits log ↔ ∀ later e earlier, log = later ++ e :: earlier → permits earlier e := by
  constructor
  · intro h later
    induction later generalizing log with
    | nil =>
        rintro e earlier rfl
        exact h.1
    | cons l later ih =>
        rintro e earlier rfl
        exact ih h.2 e earlier rfl
  · intro h
    have hall : Lawful permits (log ++ []) := Lawful.append lawful_nil (by simpa using h)
    rwa [List.append_nil] at hall

end Lawful

/-! ## What has happened since -/

/-- A marked event is in the log and no event newer than it is barred. -/
def Since (mark bar : Event → Prop) : List Event → Prop
  | [] => False
  | event :: older => mark event ∨ ¬ bar event ∧ Since mark bar older

instance {mark bar : Event → Prop} [DecidablePred mark] [DecidablePred bar] :
    DecidablePred (Since mark bar)
  | [] => inferInstanceAs (Decidable False)
  | event :: older =>
      have : Decidable (Since mark bar older) := instDecidablePredListSince older
      inferInstanceAs (Decidable (mark event ∨ ¬ bar event ∧ Since mark bar older))

section Since

variable {mark bar : Event → Prop}

@[simp] theorem since_nil : ¬ Since mark bar [] := id

theorem since_cons {event : Event} {older : List Event} :
    Since mark bar (event :: older) ↔ mark event ∨ ¬ bar event ∧ Since mark bar older :=
  Iff.rfl

/-- An event that is neither marked nor barred changes nothing. -/
theorem since_cons_of_quiet {event : Event} (hmark : ¬ mark event) (hbar : ¬ bar event)
    {older : List Event} : Since mark bar (event :: older) ↔ Since mark bar older := by
  rw [since_cons, or_iff_right hmark, and_iff_right hbar]

/-- The marked event and what is newer. -/
theorem since_iff_split {log : List Event} : Since mark bar log ↔
    ∃ newer e older, log = newer ++ e :: older ∧ mark e ∧ ∀ e' ∈ newer, ¬ bar e' := by
  constructor
  · intro h
    induction log with
    | nil => exact h.elim
    | cons e log ih =>
        rcases h with hmark | ⟨hopen, hbefore⟩
        · exact ⟨[], e, log, rfl, hmark, by simp⟩
        · obtain ⟨newer, e', older, rfl, hmark, hnewer⟩ := ih hbefore
          exact ⟨e :: newer, e', older, rfl, hmark, List.forall_mem_cons.mpr ⟨hopen, hnewer⟩⟩
  · rintro ⟨newer, e, older, rfl, hmark, hnewer⟩
    induction newer with
    | nil => exact Or.inl hmark
    | cons e' newer ih =>
        rw [List.forall_mem_cons] at hnewer
        exact Or.inr ⟨hnewer.1, ih hnewer.2⟩

/-- Events that are not barred leave what has happened. -/
theorem Since.append {newer log : List Event} (h : Since mark bar log) (hopen : ∀ e ∈ newer, ¬ bar e) :
    Since mark bar (newer ++ log) := by
  induction newer with
  | nil => exact h
  | cons e newer ih =>
      refine Or.inr ⟨hopen e List.mem_cons_self, ih ?_⟩
      intro e' he'
      exact hopen e' (List.mem_cons_of_mem e he')

/-- What has happened was there before the newest events if none of these is marked. -/
theorem Since.of_append {newer log : List Event} (h : Since mark bar (newer ++ log))
    (hnewer : ∀ e ∈ newer, ¬ mark e) : Since mark bar log := by
  induction newer with
  | nil => exact h
  | cons e newer ih =>
      rcases h with hnow | ⟨-, hbefore⟩
      · exact absurd hnow (hnewer e List.mem_cons_self)
      · exact ih hbefore fun e' he' => hnewer e' (List.mem_cons_of_mem e he')

/-- Up to a barred event: it is the marked one and nothing newer is barred, if nothing newer is marked. -/
theorem Since.at_barred {newer older : List Event} {e : Event}
    (h : Since mark bar (newer ++ e :: older)) (hnewer : ∀ e' ∈ newer, ¬ mark e') (hbar : bar e) :
    mark e ∧ ∀ e' ∈ newer, ¬ bar e' := by
  induction newer with
  | nil =>
      rcases h with hmark | ⟨hopen, -⟩
      · exact ⟨hmark, by simp⟩
      · exact absurd hbar hopen
  | cons e' newer ih =>
      rcases h with hmark | ⟨hopen, hbefore⟩
      · exact absurd hmark (hnewer e' List.mem_cons_self)
      · obtain ⟨hmark, hrest⟩ := ih hbefore fun e'' he => hnewer e'' (List.mem_cons_of_mem e' he)
        exact ⟨hmark, List.forall_mem_cons.mpr ⟨hopen, hrest⟩⟩

/-- A barred event that is not marked hides what came before it. -/
theorem Since.mem_newer {newer older : List Event} {e : Event}
    (h : Since mark bar (newer ++ e :: older)) (hbar : bar e) (hmark : ¬ mark e) :
    ∃ e' ∈ newer, mark e' := by
  by_contra hnone
  exact hmark (h.at_barred (fun e' he' hm => hnone ⟨e', he', hm⟩) hbar).1

end Since

end DualMagneticWheel.Foundation
