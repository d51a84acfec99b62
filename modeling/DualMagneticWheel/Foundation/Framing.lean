/-
# DualMagneticWheel.Foundation.Framing — cutting a symbol stream into windows of fixed size

A framer collects symbols from a start symbol on. When its window is full it reports the window if the
last symbol is an end symbol; otherwise it looks for the next start symbol inside the window and goes on
from there. Frames of the right size, with a start symbol in front and an end symbol at the back, are
what it is meant to find.

If it enters the stream in the middle of a frame, its pending window lags behind the frame boundaries.
The lag never grows (`feed_frame_lag`), and it stays the same over a frame only if that frame shows an
end symbol followed by a start symbol exactly where the lag would need it. A stream in which no offset
does so for `M` frames on end therefore loses its lag within `(size - 1) · M` frames (`lag_eq_nil`), and from
then on every frame is reported at its own boundaries (`feed_frame`).
-/
import Mathlib.Data.List.Basic

namespace DualMagneticWheel.Foundation

/-- A window size of at least two, and the symbols that may open and close a window. -/
structure Framing (α : Type*) where
  size : Nat
  isStart : α → Bool
  isEnd : α → Bool
  one_lt_size : 1 < size

namespace Framing

variable {α : Type*} (F : Framing α)

/-! ## The framer -/

/-- Forget everything before the next start symbol. -/
def resync (xs : List α) : List α := xs.dropWhile fun x => !F.isStart x

/-- One symbol: the new pending window, and a full window if one is reported. -/
def push (pending : List α) (x : α) : List α × Option (List α) :=
  if pending = [] then (if F.isStart x then [x] else [], none)
  else if (pending ++ [x]).length < F.size then (pending ++ [x], none)
  else if F.isEnd x then ([], some (pending ++ [x]))
  else (F.resync (pending ++ [x]).tail, none)

/-- Many symbols, with the report after each. -/
def feed : List α → List α → List α × List (Option (List α))
  | pending, [] => (pending, [])
  | pending, x :: xs =>
      ((feed (F.push pending x).1 xs).1, (F.push pending x).2 :: (feed (F.push pending x).1 xs).2)

theorem feed_append (pending xs ys : List α) :
    F.feed pending (xs ++ ys) =
      ((F.feed (F.feed pending xs).1 ys).1,
        (F.feed pending xs).2 ++ (F.feed (F.feed pending xs).1 ys).2) := by
  induction xs generalizing pending with
  | nil => rfl
  | cons x xs ih => simp only [List.cons_append, feed, ih]

theorem feed_length (pending xs : List α) : (F.feed pending xs).2.length = xs.length := by
  induction xs generalizing pending with
  | nil => rfl
  | cons x xs ih => rw [feed, List.length_cons, ih, List.length_cons]

variable {F}

theorem resync_suffix (xs : List α) : F.resync xs <:+ xs := List.dropWhile_suffix _

theorem resync_length (xs : List α) : (F.resync xs).length ≤ xs.length :=
  (resync_suffix xs).length_le

theorem resync_of_start {x : α} (h : F.isStart x = true) (xs : List α) :
    F.resync (x :: xs) = x :: xs := by
  rw [resync, List.dropWhile_cons_of_neg (by simpa using h)]

theorem resync_of_not_start {x : α} (h : F.isStart x = false) (xs : List α) :
    F.resync (x :: xs) = F.resync xs := by
  rw [resync, List.dropWhile_cons_of_pos (by simpa using h), resync]

theorem resync_eq_self {xs : List α} (h : ∀ x ∈ xs.head?, F.isStart x = true) :
    F.resync xs = xs := by
  cases xs with
  | nil => rfl
  | cons x xs => exact resync_of_start (h x rfl) xs

/-- What is found begins with a start symbol. -/
theorem resync_head (xs : List α) : ∀ x ∈ (F.resync xs).head?, F.isStart x = true := by
  induction xs with
  | nil =>
      intro x hx
      cases hx
  | cons y ys ih =>
      cases hstart : F.isStart y with
      | true =>
          intro x hx
          rw [resync_of_start hstart] at hx
          cases hx
          exact hstart
      | false =>
          rw [resync_of_not_start hstart]
          exact ih

/-- Nothing is forgotten once a start symbol is reached. -/
theorem resync_append (xs : List α) {ys : List α} (h : ∀ y ∈ ys.head?, F.isStart y = true) :
    F.resync (xs ++ ys) = F.resync xs ++ ys := by
  induction xs with
  | nil => exact resync_eq_self h
  | cons x xs ih =>
      cases hstart : F.isStart x with
      | true => rw [List.cons_append, resync_of_start hstart, resync_of_start hstart, List.cons_append]
      | false => rw [List.cons_append, resync_of_not_start hstart, ih, resync_of_not_start hstart]

/-- A window that does not fill up collects the symbols. -/
theorem feed_fill {pending xs : List α} (hne : pending ≠ [])
    (hlen : pending.length + xs.length < F.size) :
    F.feed pending xs = (pending ++ xs, List.replicate xs.length none) := by
  induction xs generalizing pending with
  | nil => simp [feed]
  | cons x xs ih =>
      rw [List.length_cons] at hlen
      have hpush : F.push pending x = (pending ++ [x], none) := by
        rw [push, if_neg hne, if_pos (by simp only [List.length_append, List.length_singleton]; omega)]
      have hrest : (pending ++ [x]).length + xs.length < F.size := by
        simp only [List.length_append, List.length_singleton]
        omega
      rw [feed, hpush, ih (by simp) hrest]
      simp [List.replicate_succ]

/-- The symbol that fills the window decides between a report and a new start. -/
theorem feed_complete {pending : List α} (xs : List α) (x : α) (hne : pending ≠ [])
    (hlen : pending.length + xs.length + 1 = F.size) :
    F.feed pending (xs ++ [x]) =
      (if F.isEnd x then [] else F.resync (pending ++ xs ++ [x]).tail,
        List.replicate xs.length none ++
          [if F.isEnd x then some (pending ++ xs ++ [x]) else none]) := by
  have hfull : ¬ (pending ++ xs ++ [x]).length < F.size := by
    simp only [List.length_append, List.length_singleton]
    omega
  rw [feed_append, feed_fill hne (by omega)]
  simp only [feed, push, if_neg hfull, List.append_eq_nil_iff, hne, false_and, if_false]
  split <;> rfl

/-- From nothing, fewer symbols than a window leave what follows the first start symbol. -/
theorem feed_nil {xs : List α} (hlen : xs.length < F.size) :
    F.feed [] xs = (F.resync xs, List.replicate xs.length none) := by
  induction xs with
  | nil => rfl
  | cons x xs ih =>
      rw [List.length_cons] at hlen
      cases hstart : F.isStart x with
      | true =>
          have hpush : F.push [] x = ([x], none) := by simp [push, hstart]
          rw [feed, hpush, feed_fill (by simp) (by simpa [Nat.add_comm] using hlen),
            resync_of_start hstart]
          rfl
      | false =>
          have hpush : F.push [] x = ([], none) := by simp [push, hstart]
          rw [feed, hpush, ih (by omega), resync_of_not_start hstart]
          rfl

/-! ## Frames -/

/-- A frame: the right size, a start symbol in front, an end symbol at the back. -/
structure WellFormed (F : Framing α) (frame : List α) : Prop where
  length : frame.length = F.size
  start : ∀ x ∈ frame.head?, F.isStart x = true
  finish : ∀ x ∈ frame.getLast?, F.isEnd x = true

/-- An end symbol followed by a start symbol: at offset `k` the frame looks like a boundary. -/
def Imitates (F : Framing α) (frame : List α) (k : Nat) : Prop :=
  ∃ front e s back, frame = front ++ e :: s :: back ∧ front.length + 1 = k ∧
    F.isEnd e = true ∧ F.isStart s = true

/-- Without lag a frame is reported at its end, and there is no lag afterwards. -/
theorem feed_frame {frame : List α} (h : F.WellFormed frame) :
    F.feed [] frame = ([], List.replicate (F.size - 1) none ++ [some frame]) := by
  obtain ⟨hlen, hstart, hfinish⟩ := h
  have hsize := F.one_lt_size
  obtain ⟨x, middle, e, rfl⟩ : ∃ x middle e, frame = x :: (middle ++ [e]) := by
    rcases frame with _ | ⟨x, rest⟩
    · simp only [List.length_nil] at hlen
      omega
    · rcases List.eq_nil_or_concat rest with rfl | ⟨middle, e, rfl⟩
      · simp only [List.length_singleton] at hlen
        omega
      · exact ⟨x, middle, e, by simp⟩
  simp only [List.length_cons, List.length_append, List.length_nil] at hlen
  have hpush : F.push [] x = ([x], none) := by simp [push, hstart x (by simp)]
  have hend : F.isEnd e = true := hfinish e (by simp [List.getLast?_cons])
  have hcomplete := feed_complete (F := F) middle e (List.cons_ne_nil x [])
    (by simp only [List.length_singleton]; omega)
  rw [feed, hpush, hcomplete, if_pos hend, if_pos hend, ← hlen]
  simp [List.replicate_succ]

/-- A list cut at two places. -/
theorem split_frame (frame : List α) (i n : Nat) (hin : i ≤ n) (hn : n < frame.length) :
    ∃ seen front x rest, frame = seen ++ (front ++ [x]) ++ rest ∧ seen.length = i ∧
      front.length = n - i ∧ rest.length = frame.length - (n + 1) := by
  refine ⟨frame.take i, (frame.take n).drop i, frame[n], frame.drop (n + 1), ?_, ?_, ?_, ?_⟩
  · have htake : frame.take i ++ (frame.take n).drop i = frame.take n := by
      have := List.take_append_drop i (frame.take n)
      rwa [List.take_take, Nat.min_eq_left hin] at this
    rw [← List.append_assoc, htake, List.append_assoc, List.singleton_append,
      ← List.drop_eq_getElem_cons hn, List.take_append_drop]
  · rw [List.length_take]
    omega
  · rw [List.length_drop, List.length_take]
    omega
  · rw [List.length_drop]

/-- The lag of a pending window over a frame that was entered `i` symbols ago. Strong induction on the
lag: when the window fills up inside the frame, either it is reported and the rest of the frame is
searched, or it is given up for one with a smaller lag. -/
theorem feed_lag {frame : List α} (h : F.WellFormed frame) (l : Nat) :
    ∀ (q : List α) (i : Nat), q.length = l → l + i < F.size →
      (F.feed (q ++ frame.take i) (frame.drop i)).1.length ≤ l ∧
        (0 < l → (F.feed (q ++ frame.take i) (frame.drop i)).1.length = l →
          F.Imitates frame (F.size - l)) := by
  induction l using Nat.strongRecOn with
  | ind l ih =>
      intro q i hq hi
      have hlen := h.length
      have hhead : ∀ n, ∀ y ∈ (frame.take n).head?, F.isStart y = true := by
        intro n y hy
        apply h.start
        cases frame with
        | nil => simp at hy
        | cons z zs =>
            cases n with
            | zero => simp at hy
            | succ n => simpa using hy
      rcases Nat.eq_zero_or_pos l with rfl | hpos
      · -- no lag: the same as entering the frame from nothing
        obtain rfl := List.eq_nil_of_length_eq_zero hq
        have hfrom : F.feed [] (frame.take i) = (frame.take i, List.replicate (frame.take i).length none) := by
          rw [feed_nil (by rw [List.length_take]; omega)]
          have hkeep := F.resync_append [] (hhead i)
          rw [List.nil_append] at hkeep
          rw [hkeep]
          rfl
        have hwhole := congrArg (fun r => r.1.length) (feed_frame h)
        rw [← List.take_append_drop i frame, feed_append, hfrom] at hwhole
        rw [List.nil_append]
        exact ⟨Nat.le_of_eq hwhole, fun hlt => absurd hlt (Nat.lt_irrefl 0)⟩
      · -- the window fills up `l` symbols before the end of the frame
        obtain ⟨seen, front, x, rest, rfl, hseen, hfront, hrest⟩ :=
          split_frame frame i (F.size - l - 1) (by omega) (by omega)
        have htake : (seen ++ (front ++ [x]) ++ rest).take i = seen := by
          rw [List.append_assoc, List.take_left' hseen]
        have hdrop : (seen ++ (front ++ [x]) ++ rest).drop i = front ++ [x] ++ rest := by
          rw [List.append_assoc, List.drop_left' hseen]
        have hrest' : rest.length = l := by
          simp only [List.length_append, List.length_singleton] at hlen
          omega
        have hne : q ++ seen ≠ [] := by
          apply List.append_ne_nil_of_left_ne_nil
          exact List.ne_nil_of_length_pos (by omega)
        have hfull := feed_complete (F := F) front x hne
          (by rw [List.length_append]; omega)
        rw [htake, hdrop, feed_append, hfull]
        by_cases hend : F.isEnd x = true
        · rw [if_pos hend, feed_nil (by omega)]
          refine ⟨hrest' ▸ resync_length rest, fun _ hsame => ?_⟩
          -- nothing was skipped, so the rest begins with a start symbol
          cases rest with
          | nil => simp at hrest'; omega
          | cons y back =>
              have hstart : F.isStart y = true := by
                by_contra hbad
                have hshort := resync_length (F := F) back
                simp only [resync_of_not_start (Bool.eq_false_iff.mpr hbad)] at hsame
                rw [List.length_cons] at hrest'
                omega
              refine ⟨seen ++ front, x, y, back, by simp, ?_, hend, hstart⟩
              rw [List.length_append]
              omega
        · rw [if_neg hend]
          -- the window is given up, and its tail is what remains to be searched
          obtain ⟨z, zs, rfl⟩ : ∃ z zs, q = z :: zs := by
            cases q with
            | nil => simp at hq; omega
            | cons z zs => exact ⟨z, zs, rfl⟩
          have hfront : (seen ++ (front ++ [x]) ++ rest).take (F.size - l) =
              seen ++ (front ++ [x]) := by
            apply List.take_left'
            simp only [List.length_append, List.length_singleton]
            omega
          have hsuffix : (seen ++ (front ++ [x]) ++ rest).drop (F.size - l) = rest := by
            apply List.drop_left'
            simp only [List.length_append, List.length_singleton]
            omega
          have hhead' := hhead (F.size - l)
          rw [hfront] at hhead'
          have hpending : F.resync (z :: zs ++ seen ++ front ++ [x]).tail =
              F.resync zs ++ (seen ++ (front ++ [x])) := by
            rw [← resync_append zs hhead']
            simp
          have hless : (F.resync zs).length < l := by
            have := resync_length (F := F) zs
            simp only [List.length_cons] at hq
            omega
          have hrec := (ih _ hless (F.resync zs) (F.size - l) rfl (by omega)).1
          rw [hfront, hsuffix, ← hpending] at hrec
          exact ⟨Nat.le_of_lt (Nat.lt_of_le_of_lt hrec hless), fun _ hsame => absurd hsame (by dsimp only; omega)⟩

/-- Over a frame the lag does not grow, and it stays only if the frame imitates a boundary there. -/
theorem feed_frame_lag {frame pending : List α} (h : F.WellFormed frame)
    (hpos : pending ≠ []) (hlt : pending.length < F.size) :
    (F.feed pending frame).1.length ≤ pending.length ∧
      ((F.feed pending frame).1.length = pending.length →
        F.Imitates frame (F.size - pending.length)) := by
  have hlag := feed_lag h pending.length pending 0 rfl (by omega)
  simp only [List.take_zero, List.append_nil, List.drop_zero] at hlag
  exact ⟨hlag.1, hlag.2 (List.length_pos_of_ne_nil hpos)⟩

/-! ## Frames one after another -/

variable (F)

/-- The reports that belong to the frames: each frame at its own last symbol, and nothing else. -/
def ownReports (frames : List (List α)) : List (Option (List α)) :=
  frames.flatMap fun frame => List.replicate (F.size - 1) none ++ [some frame]

/-- At every offset some frame among any `M` consecutive ones does not look like a boundary. -/
def Distinguished (M : Nat) (frames : List (List α)) : Prop :=
  ∀ i, i + M ≤ frames.length → ∀ k, 0 < k → k < F.size →
    ∃ frame ∈ (frames.drop i).take M, ¬ F.Imitates frame k

variable {F}

theorem push_length_lt {pending : List α} (h : pending.length < F.size) (x : α) :
    (F.push pending x).1.length < F.size := by
  have hsize := F.one_lt_size
  rw [push]
  split
  · split
    · exact hsize
    · exact Nat.lt_trans Nat.zero_lt_one hsize
  · split
    · assumption
    · split
      · exact Nat.lt_trans Nat.zero_lt_one hsize
      · have hshort := F.resync_length (pending ++ [x]).tail
        simp only [List.length_tail, List.length_append, List.length_singleton] at hshort
        dsimp only
        omega

/-- The pending window never fills up. -/
theorem feed_length_lt {pending : List α} (h : pending.length < F.size) (xs : List α) :
    (F.feed pending xs).1.length < F.size := by
  induction xs generalizing pending with
  | nil => exact h
  | cons x xs ih => exact ih (push_length_lt h x)

/-- Without lag all frames are reported at their own boundaries. -/
theorem feed_frames {frames : List (List α)} (h : ∀ frame ∈ frames, F.WellFormed frame) :
    F.feed [] frames.flatten = ([], F.ownReports frames) := by
  induction frames with
  | nil => rfl
  | cons frame frames ih =>
      rw [List.forall_mem_cons] at h
      rw [List.flatten_cons, feed_append, feed_frame h.1, ih h.2]
      rfl

/-- The lag over several frames does not grow, and it stays only if all of them imitate a boundary at
the same offset. -/
theorem feed_frames_lag {frames : List (List α)} (h : ∀ frame ∈ frames, F.WellFormed frame)
    {pending : List α} (hlt : pending.length < F.size) :
    (F.feed pending frames.flatten).1.length ≤ pending.length ∧
      (pending ≠ [] → (F.feed pending frames.flatten).1.length = pending.length →
        ∀ frame ∈ frames, F.Imitates frame (F.size - pending.length)) := by
  induction frames generalizing pending with
  | nil =>
      refine ⟨Nat.le_refl _, fun _ _ frame hmem => ?_⟩
      cases hmem
  | cons frame frames ih =>
      rw [List.forall_mem_cons] at h
      by_cases hnil : pending = []
      · subst hnil
        rw [feed_frames (List.forall_mem_cons.mpr h)]
        exact ⟨Nat.le_refl _, fun hne => absurd rfl hne⟩
      · have hhead := feed_frame_lag h.1 hnil hlt
        have htail := ih h.2 (Nat.lt_of_le_of_lt hhead.1 hlt)
        rw [List.flatten_cons, feed_append]
        refine ⟨Nat.le_trans htail.1 hhead.1, fun _ hsame => ?_⟩
        have hfirst : (F.feed pending frame).1.length = pending.length := by
          have hle := htail.1
          dsimp only at hsame
          omega
        have hnext : (F.feed pending frame).1 ≠ [] := by
          intro hempty
          rw [hempty] at hfirst
          exact hnil (List.eq_nil_of_length_eq_zero hfirst.symm)
        rw [List.forall_mem_cons, ← hfirst]
        exact ⟨hfirst.symm ▸ hhead.2 hfirst, htail.2 hnext (hsame.trans hfirst.symm)⟩

/-- A distinguished block of frames lowers the lag. -/
theorem feed_block {M : Nat} {frames : List (List α)} (hM : M ≤ frames.length)
    (hframes : ∀ frame ∈ frames, F.WellFormed frame) (hdist : F.Distinguished M frames)
    {pending : List α} (hlt : pending.length < F.size) :
    (F.feed pending (frames.take M).flatten).1.length ≤ pending.length - 1 := by
  have hfront : ∀ frame ∈ frames.take M, F.WellFormed frame := by
    intro frame hmem
    exact hframes frame (List.mem_of_mem_take hmem)
  have hblock := feed_frames_lag hfront hlt
  by_cases hnil : pending = []
  · rw [hnil] at hblock ⊢
    exact hblock.1
  · have hpos := List.length_pos_of_ne_nil hnil
    have hne : (F.feed pending (frames.take M).flatten).1.length ≠ pending.length := by
      intro hsame
      obtain ⟨frame, hmem, hnot⟩ :=
        hdist 0 (by omega) (F.size - pending.length) (by omega) (by omega)
      exact hnot (hblock.2 hnil hsame frame hmem)
    omega

theorem Distinguished.drop {M : Nat} {frames : List (List α)} (h : F.Distinguished M frames)
    (n : Nat) : F.Distinguished M (frames.drop n) := by
  intro i hi k hpos hk
  rw [List.length_drop] at hi
  rw [List.drop_drop]
  rcases Nat.eq_zero_or_pos M with rfl | hM
  · have hnone := h 0 (Nat.zero_le _) k hpos hk
    simp at hnone
  · exact h (n + i) (by omega) k hpos hk

/-- After `l` distinguished blocks a lag of at most `l` is gone. -/
theorem lag_eq_nil {M : Nat} (l : Nat) {frames : List (List α)} (hM : l * M ≤ frames.length)
    (hframes : ∀ frame ∈ frames, F.WellFormed frame) (hdist : F.Distinguished M frames)
    {pending : List α} (hlt : pending.length < F.size) (hl : pending.length ≤ l) :
    (F.feed pending (frames.take (l * M)).flatten).1 = [] := by
  induction l generalizing frames pending with
  | zero =>
      rw [Nat.zero_mul, List.take_zero]
      exact List.eq_nil_of_length_eq_zero (Nat.le_zero.mp hl)
  | succ l ih =>
      rw [Nat.succ_mul] at hM
      have hblock := feed_block (by omega) hframes hdist hlt
      rw [Nat.succ_mul, Nat.add_comm, List.take_add, List.flatten_append, feed_append]
      apply ih
      · rw [List.length_drop]
        omega
      · exact fun frame hmem => hframes frame (List.mem_of_mem_drop hmem)
      · exact hdist.drop M
      · omega
      · omega

/-- Whatever came before: after `size - 1` distinguished blocks the reports are the frames' own. -/
theorem feed_synchronises {M : Nat} {frames : List (List α)}
    (hframes : ∀ frame ∈ frames, F.WellFormed frame) (hdist : F.Distinguished M frames)
    {pending : List α} (hlt : pending.length < F.size) :
    (F.feed (F.feed pending (frames.take ((F.size - 1) * M)).flatten).1
        (frames.drop ((F.size - 1) * M)).flatten).2 =
      F.ownReports (frames.drop ((F.size - 1) * M)) := by
  by_cases hM : (F.size - 1) * M ≤ frames.length
  · rw [lag_eq_nil (F.size - 1) hM hframes hdist hlt (by omega),
      feed_frames fun frame hmem => hframes frame (List.mem_of_mem_drop hmem)]
  · rw [List.drop_eq_nil_of_le (by omega)]
    rfl

end Framing

end DualMagneticWheel.Foundation
