/-
# DualMagneticWheel.Foundation.Scanner — scanning a whole stream for windows

The scanner has all symbols at once. From a position it goes to the first start symbol; if a whole window
is there and ends well it reports the window and goes on behind it, if the window ends badly it goes on
right behind the start symbol, and if the window is not complete it waits.

`feed_eq_scan` says that the framer of `Foundation.Framing`, which gets one symbol at a time and keeps
only a pending window, reports the same windows at the same places, gives up as many, and waits with the
same symbols.
-/
import DualMagneticWheel.Foundation.Framing

namespace DualMagneticWheel.Foundation

namespace Framing

variable {α β : Type*}

/-! ## The scanner -/

/-- The windows with the positions of their start symbols, how many windows ended badly, and the symbols
that wait for more. -/
structure Scan (α : Type*) where
  windows : List (Nat × List α) := []
  rejected : Nat := 0
  waiting : List α := []

variable (F : Framing α)

/-- The window in front ends with an end symbol. -/
def endsWell (xs : List α) : Bool := ((xs.take F.size).getLast?).any F.isEnd

/-- The scanner at position `p`, with all symbols from there on. -/
def scan (p : Nat) (xs : List α) : Scan α :=
  if (F.resync xs).length < F.size then { waiting := F.resync xs }
  else
    let start := p + (xs.length - (F.resync xs).length)
    if F.endsWell (F.resync xs) then
      let later := scan (start + F.size) ((F.resync xs).drop F.size)
      { later with windows := (start, (F.resync xs).take F.size) :: later.windows }
    else
      let later := scan (start + 1) (F.resync xs).tail
      { later with rejected := later.rejected + 1 }
  termination_by xs.length
  decreasing_by
    · have hsize := F.one_lt_size
      have hle := F.resync_length xs
      simp only [List.length_drop]
      omega
    · have hsize := F.one_lt_size
      have hle := F.resync_length xs
      simp only [List.length_tail]
      omega

variable {F}

/-! ## What the scanner does with its next window -/

theorem scan_wait {p : Nat} {xs : List α} (h : (F.resync xs).length < F.size) :
    F.scan p xs = { waiting := F.resync xs } := by
  rw [scan, if_pos h]

/-- A symbol that does not start a window is passed over. -/
theorem scan_skip (p : Nat) {x : α} (h : F.isStart x = false) (xs : List α) :
    F.scan p (x :: xs) = F.scan (p + 1) xs := by
  have hle := F.resync_length xs
  have hstart : p + (xs.length + 1 - (F.resync xs).length) =
      p + 1 + (xs.length - (F.resync xs).length) := by omega
  rw [scan, scan, resync_of_not_start h, List.length_cons, hstart]

theorem scan_window {p : Nat} {window xs : List α} (hstart : ∀ x ∈ window.head?, F.isStart x = true)
    (hsize : window.length = F.size) :
    F.scan p (window ++ xs) =
      if (window.getLast?).any F.isEnd then
        { F.scan (p + F.size) xs with windows := (p, window) :: (F.scan (p + F.size) xs).windows }
      else
        { F.scan (p + 1) (window.tail ++ xs) with
          rejected := (F.scan (p + 1) (window.tail ++ xs)).rejected + 1 } := by
  have hpos := F.one_lt_size
  have hne : window ≠ [] := by
    intro hnil
    rw [hnil, List.length_nil] at hsize
    omega
  have hself : F.resync (window ++ xs) = window ++ xs := by
    refine resync_eq_self ?_
    rw [List.head?_append_of_ne_nil _ hne]
    exact hstart
  have hlong : ¬ (window ++ xs).length < F.size := by
    rw [List.length_append]
    omega
  rw [scan, hself, if_neg hlong, endsWell, List.take_left' hsize, List.drop_left' hsize,
    Nat.sub_self, Nat.add_zero, List.tail_append_of_ne_nil hne]

/-- Passing over everything before the next start symbol. -/
theorem scan_resync (p : Nat) (front xs : List α) :
    F.scan p (front ++ xs) =
      F.scan (p + (front.length - (F.resync front).length)) (F.resync front ++ xs) := by
  induction front generalizing p with
  | nil => rfl
  | cons x front ih =>
      cases hstart : F.isStart x with
      | true => rw [resync_of_start hstart, Nat.sub_self, Nat.add_zero]
      | false =>
          have hle := F.resync_length front
          rw [List.cons_append, scan_skip p hstart, ih, resync_of_not_start hstart, List.length_cons]
          congr 1
          omega

/-- It waits with the last symbols of the stream. -/
theorem scan_waiting_suffix (p : Nat) (xs : List α) : (F.scan p xs).waiting <:+ xs := by
  induction p, xs using Framing.scan.induct F with
  | case1 p xs h =>
      rw [scan, if_pos h]
      exact F.resync_suffix xs
  | case2 p xs h start hend ih =>
      rw [scan, if_neg h, if_pos hend]
      exact ih.trans ((List.drop_suffix _ _).trans (F.resync_suffix xs))
  | case3 p xs h start hend ih =>
      rw [scan, if_neg h, if_neg hend]
      exact ih.trans ((List.tail_suffix _).trans (F.resync_suffix xs))

/-! ## The framer does what the scanner does -/

/-- What is in a list of results, each with its position, counted from `n`. -/
def located : Nat → List (Option β) → List (Nat × β)
  | _, [] => []
  | n, none :: results => located (n + 1) results
  | n, some b :: results => (n, b) :: located (n + 1) results

theorem located_map {γ : Type*} (f : β → γ) (n : Nat) (results : List (Option β)) :
    located n (results.map (Option.map f)) = (located n results).map (Prod.map id f) := by
  induction results generalizing n with
  | nil => rfl
  | cons result results ih =>
      cases result with
      | none => exact ih (n + 1)
      | some b => exact congrArg ((n, f b) :: ·) (ih (n + 1))

theorem located_concat (n : Nat) (results : List (Option β)) (result : Option β) :
    located n (results ++ [result]) =
      located n results ++ (result.map fun b => (n + results.length, b)).toList := by
  induction results generalizing n with
  | nil => cases result <;> rfl
  | cons first results ih =>
      have hplace : n + 1 + results.length = n + (results.length + 1) := by omega
      cases first with
      | none => rw [List.cons_append, located, located, ih, List.length_cons, hplace]
      | some b => rw [List.cons_append, located, located, ih, List.length_cons, hplace, List.cons_append]

/-- Nothing is found behind the end. -/
theorem located_lt {n : Nat} {results : List (Option β)} {found : Nat × β}
    (h : found ∈ located n results) : found.1 < n + results.length := by
  induction results generalizing n with
  | nil => cases h
  | cons first results ih =>
      rw [List.length_cons]
      cases first with
      | none =>
          have hlt := ih h
          omega
      | some b =>
          rcases List.mem_cons.mp h with rfl | hmem
          · show n < n + (results.length + 1)
            omega
          · have hlt := ih hmem
            omega

variable (F)

/-- The symbol fills the window and is no end symbol. -/
def rejects (pending : List α) (x : α) : Bool :=
  !pending.isEmpty && decide (F.size ≤ (pending ++ [x]).length) && !F.isEnd x

/-- How many windows the framer gives up. -/
def rejections : List α → List α → Nat
  | _, [] => 0
  | pending, x :: xs =>
      rejections (F.push pending x).1 xs + if F.rejects pending x then 1 else 0

variable {F}

/-- The framer with a pending window that starts at position `p` does what the scanner does from there:
the reports come with the last symbol of each window. Induction on the symbols; in each case of `push` the
scanner takes the same branch. -/
theorem feed_eq_scan (pending : List α) (hstart : ∀ x ∈ pending.head?, F.isStart x = true)
    (hshort : pending.length < F.size) (p : Nat) (xs : List α) :
    located (p + pending.length) (F.feed pending xs).2 =
        (F.scan p (pending ++ xs)).windows.map (fun w => (w.1 + F.size - 1, w.2)) ∧
      F.rejections pending xs = (F.scan p (pending ++ xs)).rejected ∧
      (F.feed pending xs).1 = (F.scan p (pending ++ xs)).waiting := by
  have hsize := F.one_lt_size
  induction xs generalizing pending p with
  | nil =>
      have hself := resync_eq_self hstart
      rw [List.append_nil, scan_wait (by rwa [hself]), hself]
      exact ⟨rfl, rfl, rfl⟩
  | cons x xs ih =>
      by_cases hnil : pending = []
      · subst hnil
        cases hx : F.isStart x with
        | false =>
            have hpush : F.push [] x = ([], none) := by simp [push, hx]
            have hrest := ih [] hstart hshort (p + 1)
            rw [feed, rejections, hpush, List.nil_append, scan_skip p hx]
            exact hrest
        | true =>
            have hpush : F.push [] x = ([x], none) := by simp [push, hx]
            have hrest := ih [x] (by simpa using hx) (by simpa using hsize) p
            rw [feed, rejections, hpush]
            exact hrest
      · have hlength : (pending ++ [x]).length = pending.length + 1 := by simp
        have hcons : pending ++ x :: xs = pending ++ [x] ++ xs := by simp
        have hhead : ∀ y ∈ (pending ++ [x]).head?, F.isStart y = true := by
          rw [List.head?_append_of_ne_nil _ hnil]
          exact hstart
        by_cases hlt : (pending ++ [x]).length < F.size
        · have hpush : F.push pending x = (pending ++ [x], none) := by
            rw [push, if_neg hnil, if_pos hlt]
          have hno : F.rejects pending x = false := by
            rw [rejects, decide_eq_false (by omega)]
            simp
          have hrest := ih (pending ++ [x]) hhead hlt p
          rw [hlength, ← Nat.add_assoc] at hrest
          rw [feed, rejections, hpush, hno, hcons]
          exact hrest
        · have hfull : (pending ++ [x]).length = F.size := by omega
          have hlast : (pending ++ [x]).getLast? = some x := by simp
          rw [hcons, scan_window hhead hfull, hlast, Option.any_some]
          cases hend : F.isEnd x with
          | true =>
              -- the window is reported
              have hpush : F.push pending x = ([], some (pending ++ [x])) := by
                rw [push, if_neg hnil, if_neg hlt, if_pos hend]
              have hno : F.rejects pending x = false := by
                rw [rejects, hend]
                simp
              obtain ⟨hreports, hrejections, hwaiting⟩ :=
                ih [] (by simp) (by simpa using Nat.lt_trans Nat.zero_lt_one hsize)
                  (p + F.size)
              rw [List.nil_append] at hreports hrejections hwaiting
              rw [feed, rejections, hpush, hno, if_pos rfl]
              refine ⟨?_, hrejections, hwaiting⟩
              have hlater : p + pending.length + 1 = p + F.size := by omega
              have hplace : p + pending.length = p + F.size - 1 := by omega
              rw [located, hlater, List.map_cons, hplace]
              exact congrArg _ hreports
          | false =>
              -- the window is given up
              have hpush : F.push pending x = (F.resync (pending ++ [x]).tail, none) := by
                rw [push, if_neg hnil, if_neg hlt, hend]
                rfl
              have hyes : F.rejects pending x = true := by
                rw [rejects, hend, decide_eq_true (by omega)]
                simp [hnil]
              have hle := F.resync_length (pending ++ [x]).tail
              rw [List.length_tail] at hle
              obtain ⟨hreports, hrejections, hwaiting⟩ :=
                ih (F.resync (pending ++ [x]).tail) (resync_head _) (by omega)
                  (p + 1 + ((pending ++ [x]).tail.length - (F.resync (pending ++ [x]).tail).length))
              rw [← scan_resync] at hreports hrejections hwaiting
              rw [feed, rejections, hpush, hyes]
              refine ⟨?_, congrArg (· + 1) hrejections, hwaiting⟩
              have hplace : p + 1 + ((pending ++ [x]).tail.length -
                  (F.resync (pending ++ [x]).tail).length) + (F.resync (pending ++ [x]).tail).length =
                  p + pending.length + 1 := by
                rw [List.length_tail]
                omega
              rw [hplace] at hreports
              exact hreports

/-- Frames one after another: nothing is rejected. -/
theorem rejections_frames {frames : List (List α)} (h : ∀ frame ∈ frames, F.WellFormed frame) :
    F.rejections [] frames.flatten = 0 := by
  have hscan : ∀ p, (F.scan p frames.flatten).rejected = 0 := by
    induction frames with
    | nil =>
        intro p
        rw [List.flatten_nil, scan_wait (Nat.lt_trans Nat.zero_lt_one F.one_lt_size)]
    | cons frame frames ih =>
        intro p
        rw [List.forall_mem_cons] at h
        obtain ⟨hlength, hstart, hfinish⟩ := h.1
        have hend : (frame.getLast?).any F.isEnd = true := by
          cases hlast : frame.getLast? with
          | none =>
              rw [List.getLast?_eq_none_iff.mp hlast, List.length_nil] at hlength
              have hsize := F.one_lt_size
              omega
          | some x => exact hfinish x hlast
        rw [List.flatten_cons, scan_window hstart hlength, if_pos hend]
        exact ih h.2 (p + F.size)
  have hsame := (feed_eq_scan (F := F) [] nofun
    (Nat.lt_trans Nat.zero_lt_one F.one_lt_size) 0 frames.flatten).2.1
  rw [hsame]
  exact hscan 0

end Framing

end DualMagneticWheel.Foundation
