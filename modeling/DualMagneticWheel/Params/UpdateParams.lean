/-
# DualMagneticWheel.Params.UpdateParams — one call of everything in a subtree

`ModuleParams::updateParams` walks its parameters, calls the virtual `updateParamsImpl` and recurses into
its children, collecting whether all of it succeeded. What the calls do is left open: `env` gives each of
them a result and a new state of the outside world.

On a tree whose links are sound the recursion ends, and it is the execution of one list of calls
(`Calls`), fixed by the links: every call of the subtree once, none left out after a failure.
-/
import DualMagneticWheel.Params.ModuleParams

namespace DualMagneticWheel

open Foundation

variable {Node Param : Type}

/-! ## The recursion -/

/-- A virtual call: `update` of a parameter, `updateParamsImpl` of a node. -/
inductive ParamCall (Node Param : Type) where
  | update (p : Param)
  | impl (n : Node)
  deriving DecidableEq

namespace ParamCall

variable {σ : Type} (env : ParamCall Node Param → σ → Bool × σ)

/-- `valid = call() && valid`: the call is made first. -/
def thenCall (r : Bool × σ) (c : ParamCall Node Param) : Bool × σ :=
  let (ok, s) := env c r.2
  (ok && r.1, s)

/-- The calls of a list, one after another. -/
def execute (calls : List (ParamCall Node Param)) (r : Bool × σ) : Bool × σ := calls.foldl (thenCall env) r

/-- The result of each call, and the state after the last one. -/
def outcomes : List (ParamCall Node Param) → σ → List Bool × σ
  | [], s => ([], s)
  | c :: calls, s =>
      let (ok, s) := env c s
      let (rest, s) := outcomes calls s
      (ok :: rest, s)

/-- The flag of a call sequence is a conjunct of its own. -/
theorem execute_flag (calls : List (ParamCall Node Param)) (valid : Bool) (s : σ) :
    execute env calls (valid, s) =
      ((execute env calls (true, s)).1 && valid, (execute env calls (true, s)).2) := by
  induction calls generalizing valid s with
  | nil => simp [execute]
  | cons c calls ih =>
      have hcons : ∀ r, execute env (c :: calls) r = execute env calls (thenCall env r c) := fun _ => rfl
      rw [hcons, hcons, thenCall, thenCall, ih, ih ((env c s).1 && true), Bool.and_true, Bool.and_assoc]

/-- Every call is made, and the flag says whether all of them succeeded. -/
theorem execute_eq_outcomes (calls : List (ParamCall Node Param)) (s : σ) :
    execute env calls (true, s) = ((outcomes env calls s).1.all id, (outcomes env calls s).2) := by
  induction calls generalizing s with
  | nil => rfl
  | cons c calls ih =>
      have hcons : execute env (c :: calls) (true, s) =
          execute env calls ((env c s).1 && true, (env c s).2) := rfl
      rw [hcons, execute_flag, ih, Bool.and_true, Bool.and_comm]
      rfl

end ParamCall

namespace ParamHeap

section Update

variable {σ : Type} (env : ParamCall Node Param → σ → Bool × σ) (h : ParamHeap Node Param)

/-- The loop over the parameters of a node. -/
def paramLoop? : Nat → Option Param → Bool × σ → Option (Bool × σ)
  | _, none, r => some r
  | 0, some _, _ => none
  | fuel + 1, some p, r => paramLoop? fuel (h.paramLinks.next p) (ParamCall.thenCall env r (.update p))

mutual

/-- `ModuleParams::updateParams`. -/
def updateParams? : Nat → Node → σ → Option (Bool × σ)
  | 0, _, _ => none
  | fuel + 1, n, s =>
      (h.paramLoop? env fuel (h.paramLinks.first n) (true, s)).bind fun r =>
        childLoop? fuel (h.childLinks.first n) (ParamCall.thenCall env r (.impl n))

/-- The loop over the children of a node. -/
def childLoop? : Nat → Option Node → Bool × σ → Option (Bool × σ)
  | _, none, r => some r
  | 0, some _, _ => none
  | fuel + 1, some c, (valid, s) =>
      (updateParams? fuel c s).bind fun (ok, s) =>
        childLoop? fuel (h.childLinks.next c) (ok && valid, s)

end

/-! ## The recursion executes a list of calls -/

variable {env h}

theorem paramLoop?_spec {pointer : Option Param} {ps : List Param}
    (hchain : Chain h.paramLinks.next pointer ps) (r : Bool × σ) :
    Ends (fun fuel => h.paramLoop? env fuel pointer r) (ParamCall.execute env (ps.map .update) r) := by
  induction ps generalizing pointer r with
  | nil =>
      obtain rfl : pointer = none := hchain
      exact ⟨0, fun fuel _ => by cases fuel <;> rfl⟩
  | cons p ps ih =>
      obtain ⟨rfl, hrest⟩ := hchain
      apply Ends.succ
      exact ih hrest (ParamCall.thenCall env r (.update p))

/-- The loop over the children, when each of them executes its own list. -/
theorem childLoop?_spec {pointer : Option Node} {cs : List Node}
    (hchain : Chain h.childLinks.next pointer cs) {calls : Node → List (ParamCall Node Param)}
    (hcalls : ∀ c ∈ cs, ∀ s, Ends (fun fuel => h.updateParams? env fuel c s)
      (ParamCall.execute env (calls c) (true, s))) (r : Bool × σ) :
    Ends (fun fuel => h.childLoop? env fuel pointer r)
      (ParamCall.execute env (cs.flatMap calls) r) := by
  induction cs generalizing pointer r with
  | nil =>
      obtain rfl : pointer = none := hchain
      exact ⟨0, fun fuel _ => by cases fuel <;> rfl⟩
  | cons c cs ih =>
      obtain ⟨rfl, hrest⟩ := hchain
      obtain ⟨valid, s⟩ := r
      have hfirst : ParamCall.execute env ((c :: cs).flatMap calls) (valid, s) =
          ParamCall.execute env (cs.flatMap calls)
            ((ParamCall.execute env (calls c) (true, s)).1 && valid,
              (ParamCall.execute env (calls c) (true, s)).2) := by
        rw [← ParamCall.execute_flag, List.flatMap_cons]
        exact List.foldl_append
      rw [hfirst]
      apply Ends.succ
      exact (hcalls c List.mem_cons_self s).bind
        (ih hrest (fun c' hc' => hcalls c' (List.mem_cons_of_mem c hc')) _)

theorem updateParams?_spec {n : Node} {ps : List Param} {cs : List Node}
    (hparams : Chain h.paramLinks.next (h.paramLinks.first n) ps)
    (hchildren : Chain h.childLinks.next (h.childLinks.first n) cs)
    {calls : Node → List (ParamCall Node Param)}
    (hcalls : ∀ c ∈ cs, ∀ s, Ends (fun fuel => h.updateParams? env fuel c s)
      (ParamCall.execute env (calls c) (true, s))) (s : σ) :
    Ends (fun fuel => h.updateParams? env fuel n s)
      (ParamCall.execute env (ps.map .update ++ .impl n :: cs.flatMap calls) (true, s)) := by
  have hsplit : ParamCall.execute env (ps.map .update ++ .impl n :: cs.flatMap calls) (true, s) =
      ParamCall.execute env (cs.flatMap calls)
        (ParamCall.thenCall env (ParamCall.execute env (ps.map .update) (true, s)) (.impl n)) :=
    List.foldl_append
  rw [hsplit]
  apply Ends.succ
  exact (paramLoop?_spec hparams _).bind (childLoop?_spec hchildren hcalls _)

end Update

/-! ## The calls of a subtree -/

variable [DecidableEq Node] [DecidableEq Param]

/-- The node that a call belongs to. -/
def site (h : ParamHeap Node Param) : ParamCall Node Param → Option Node
  | .update p => h.owned p
  | .impl n => if n ∈ h.nodes then some n else none

/-- A list with every call of the subtree of a node, once. -/
structure Visits (h : ParamHeap Node Param) (n : Node) (calls : List (ParamCall Node Param)) : Prop where
  nodup : calls.Nodup
  mem : ∀ c, c ∈ calls ↔ ∃ m, h.site c = some m ∧ Below h.placed m n

/-- The calls of one node. -/
theorem mem_own {h : ParamHeap Node Param} {n : Node} (hn : n ∈ h.nodes) {ps : List Param}
    (hps : ∀ p, p ∈ ps ↔ h.owned p = some n) (c : ParamCall Node Param) :
    c ∈ ps.map ParamCall.update ++ [.impl n] ↔ h.site c = some n := by
  cases c with
  | update p => simp [site, hps]
  | impl m =>
      simp only [site, List.mem_append, List.mem_map, reduceCtorEq, and_false, exists_false, false_or,
        List.mem_singleton, ParamCall.impl.injEq, Option.ite_none_right_eq_some, Option.some.injEq]
      constructor
      · rintro rfl
        exact ⟨hn, rfl⟩
      · exact fun hm => hm.2

omit [DecidableEq Node] [DecidableEq Param] in
theorem own_nodup (n : Node) {ps : List Param} (hps : ps.Nodup) :
    (ps.map ParamCall.update ++ [ParamCall.impl n]).Nodup := by
  refine List.nodup_append.mpr ⟨hps.map fun p q hpq => ParamCall.update.inj hpq, by simp, ?_⟩
  rintro c hc c' hc' rfl
  obtain ⟨p, -, rfl⟩ := List.mem_map.mp hc
  cases List.mem_singleton.mp hc'

/-- The calls of a node and those of the subtrees of its children. -/
theorem visits_node {h : ParamHeap Node Param} (hacyclic : Acyclic h.placed) {n : Node}
    (hn : n ∈ h.nodes) {ps : List Param} (hps : ∀ p, p ∈ ps ↔ h.owned p = some n) (hpsNodup : ps.Nodup)
    {cs : List Node} (hcs : ∀ c, c ∈ cs ↔ h.placed c = some n) (hcsNodup : cs.Nodup)
    {calls : Node → List (ParamCall Node Param)} (hcalls : ∀ c ∈ cs, h.Visits c (calls c)) :
    h.Visits n (ps.map .update ++ .impl n :: cs.flatMap calls) := by
  have hmemChild : ∀ c, c ∈ cs.flatMap calls ↔
      ∃ child ∈ cs, ∃ m, h.site c = some m ∧ Below h.placed m child := by
    intro c
    rw [List.mem_flatMap]
    constructor
    · rintro ⟨child, hchild, hc⟩
      exact ⟨child, hchild, ((hcalls child hchild).mem c).mp hc⟩
    · rintro ⟨child, hchild, hc⟩
      exact ⟨child, hchild, ((hcalls child hchild).mem c).mpr hc⟩
  rw [List.append_cons]
  refine ⟨List.nodup_append.mpr ⟨own_nodup n hpsNodup, ?_, ?_⟩, fun c => ?_⟩
  · -- a call belongs to one node, and no node is below two children
    refine List.nodup_flatMap.mpr ⟨fun child hchild => (hcalls child hchild).nodup, ?_⟩
    refine hcsNodup.imp_of_mem fun {a b} ha hb hne => ?_
    intro c hca hcb
    obtain ⟨m, hm, hma⟩ := ((hcalls a ha).mem c).mp hca
    obtain ⟨m', hm', hmb⟩ := ((hcalls b hb).mem c).mp hcb
    obtain rfl := Option.some.inj (hm.symm.trans hm')
    exact hne (hacyclic.eq_of_below_siblings ((hcs a).mp ha) ((hcs b).mp hb) hma hmb)
  · -- no call of the node itself is repeated in the subtree of a child
    rintro c hc _ hc' rfl
    obtain ⟨child, hchild, m, hm, hbelow⟩ := (hmemChild c).mp hc'
    rw [mem_own hn hps] at hc
    obtain rfl := Option.some.inj (hc.symm.trans hm)
    exact hacyclic.not_below_child ((hcs child).mp hchild) hbelow
  · rw [List.mem_append, mem_own hn hps, hmemChild]
    constructor
    · rintro (hc | ⟨child, hchild, m, hm, hbelow⟩)
      · exact ⟨n, hc, Relation.ReflTransGen.refl⟩
      · exact ⟨m, hm, hbelow.tail ((hcs child).mp hchild)⟩
    · rintro ⟨m, hm, hbelow⟩
      rcases below_iff.mp hbelow with rfl | ⟨child, hunder, hchild⟩
      · exact .inl hm
      · exact .inr ⟨child, (hcs child).mpr hchild, m, hm, hunder⟩

/-- `updateParams` of a node ends, and makes these calls in this order whatever they do. -/
def Executes (h : ParamHeap Node Param) (n : Node) (calls : List (ParamCall Node Param)) : Prop :=
  ∀ (σ : Type) (env : ParamCall Node Param → σ → Bool × σ) (s : σ),
    Ends (fun fuel => h.updateParams? env fuel n s) (ParamCall.execute env calls (true, s))

/-- On a sound tree `updateParams` is the execution of one list. -/
theorem exists_calls {h : ParamHeap Node Param} (hlinked : h.Linked) (hacyclic : Acyclic h.placed)
    {n : Node} (hn : n ∈ h.nodes) : ∃ calls, h.Visits n calls ∧ h.Executes n calls := by
  have hnodes : ∀ c m, h.placed c = some m → c ∈ h.nodes := fun c m hcm =>
    (Links.assignment_eq_some.mp hcm).1
  refine hacyclic.induction (P := fun m => ∃ calls, h.Visits m calls ∧ h.Executes m calls) hnodes
    (fun m hm ih => ?_) hn
  obtain ⟨cs, hchildren, hcs⟩ := hlinked.children m hm
  obtain ⟨ps, hparams, hps⟩ := hlinked.params m hm
  -- the list of each child; a node that is no child gets any
  have hchoice : ∀ c, ∃ calls, c ∈ cs → h.Visits c calls ∧ h.Executes c calls := by
    intro c
    by_cases hc : c ∈ cs
    · obtain ⟨calls, hcalls⟩ := ih c ((hcs c).mp hc)
      exact ⟨calls, fun _ => hcalls⟩
    · exact ⟨[], fun hc' => absurd hc' hc⟩
  choose calls hcalls using hchoice
  refine ⟨_, visits_node hacyclic hm hps hparams.nodup hcs hchildren.nodup
    (fun c hc => (hcalls c hc).1), fun σ env s => ?_⟩
  exact updateParams?_spec hparams hchildren (fun c hc s => (hcalls c hc).2 σ env s) s

/-- The lists of a node are the objects that hang on it. -/
theorem lists_of_linked {h : ParamHeap Node Param} (hlinked : h.Linked) {n : Node} (hn : n ∈ h.nodes) :
    (∃ cs, Chain h.childLinks.next (h.childLinks.first n) cs ∧ cs.Nodup ∧
      ∀ c, c ∈ cs ↔ c ∈ h.nodes ∧ h.parent c = some n) ∧
    (∃ ps, Chain h.paramLinks.next (h.paramLinks.first n) ps ∧ ps.Nodup ∧
      ∀ p, p ∈ ps ↔ p ∈ h.params ∧ h.owner p = some n) := by
  obtain ⟨cs, hchildren, hcs⟩ := hlinked.children n hn
  obtain ⟨ps, hparams, hps⟩ := hlinked.params n hn
  exact ⟨⟨cs, hchildren, hchildren.nodup, fun c => (hcs c).trans Links.assignment_eq_some⟩,
    ⟨ps, hparams, hparams.nodup, fun p => (hps p).trans Links.assignment_eq_some⟩⟩

/-- After any calls of constructors, destructors and `setParent`: the lists of a live node are its live
children and parameters, each once, and `updateParams` ends, makes every call of the subtree exactly once
and returns whether all of them returned true. -/
theorem tree_integrity {h : ParamHeap Node Param} (hreachable : (system Node Param).Reachable h) {n : Node}
    (hn : n ∈ h.nodes) :
    ((∃ cs, Chain h.childLinks.next (h.childLinks.first n) cs ∧ cs.Nodup ∧
        ∀ c, c ∈ cs ↔ c ∈ h.nodes ∧ h.parent c = some n) ∧
      (∃ ps, Chain h.paramLinks.next (h.paramLinks.first n) ps ∧ ps.Nodup ∧
        ∀ p, p ∈ ps ↔ p ∈ h.params ∧ h.owner p = some n)) ∧
    ∃ calls : List (ParamCall Node Param), calls.Nodup ∧
      (∀ m, .impl m ∈ calls ↔ m ∈ h.nodes ∧ Below h.placed m n) ∧
      (∀ p, .update p ∈ calls ↔ p ∈ h.params ∧ ∃ m, h.owner p = some m ∧ Below h.placed m n) ∧
      ∀ (σ : Type) (env : ParamCall Node Param → σ → Bool × σ) (s : σ),
        Ends (fun fuel => h.updateParams? env fuel n s)
          ((ParamCall.outcomes env calls s).1.all id, (ParamCall.outcomes env calls s).2) := by
  obtain ⟨hlinked, hacyclic⟩ := reachable_linked hreachable
  refine ⟨lists_of_linked hlinked hn, ?_⟩
  obtain ⟨calls, hvisits, hexecutes⟩ := exists_calls hlinked hacyclic hn
  refine ⟨calls, hvisits.nodup, fun m => ?_, fun p => ?_, fun σ env s => ?_⟩
  · rw [hvisits.mem]
    simp only [site, Option.ite_none_right_eq_some, Option.some.injEq]
    constructor
    · rintro ⟨_, ⟨hm, rfl⟩, hbelow⟩
      exact ⟨hm, hbelow⟩
    · rintro ⟨hm, hbelow⟩
      exact ⟨m, ⟨hm, rfl⟩, hbelow⟩
  · rw [hvisits.mem]
    constructor
    · rintro ⟨m, howned, hbelow⟩
      obtain ⟨hp, howner⟩ := Links.assignment_eq_some.mp howned
      exact ⟨hp, m, howner, hbelow⟩
    · rintro ⟨hp, m, howner, hbelow⟩
      exact ⟨m, Links.assignment_eq_some.mpr ⟨hp, howner⟩, hbelow⟩
  · rw [← ParamCall.execute_eq_outcomes]
    exact hexecutes σ env s

/-! ## A small tree -/

/-- Two nodes, `false` and `true`; the second one gets two parameters, loses the first and then becomes
a child of the first one. -/
def built : ParamHeap Bool Nat :=
  ((((({} : ParamHeap Bool Nat).construct false none).construct true none).constructParam 7
    (some true)).constructParam 8 (some true))

def trimmed : ParamHeap Bool Nat := (built.destroyParam? 2 7).getD {}

def attached : ParamHeap Bool Nat := (trimmed.setParent? 0 true (some false)).getD {}

theorem reachable_attached : (system Bool Nat).Reachable attached := by
  have hnext : ∀ {h t : ParamHeap Bool Nat} (a : ParamAction Bool Nat),
      (system Bool Nat).Reachable h → h.Enabled a → Ends (fun fuel => h.next? fuel a) t →
      (∀ child n, t.placed child = some n → n.toNat < child.toNat) → (system Bool Nat).Reachable t :=
    fun a hh henabled hends hheight => hh.next ⟨henabled, hends, acyclic_of_height Bool.toNat hheight⟩
  have hroot := hnext (.construct false none) (.start rfl) ⟨by decide, by decide⟩ ⟨0, fun _ _ => rfl⟩
    (by decide)
  have hsecond := hnext (.construct true none) hroot ⟨by decide, by decide⟩ ⟨0, fun _ _ => rfl⟩ (by decide)
  have hseven := hnext (.constructParam 7 (some true)) hsecond ⟨by decide, by decide⟩
    ⟨0, fun _ _ => rfl⟩ (by decide)
  have hbuilt : (system Bool Nat).Reachable built :=
    hnext (.constructParam 8 (some true)) hseven ⟨by decide, by decide⟩ ⟨0, fun _ _ => rfl⟩ (by decide)
  have hmem : 7 ∈ built.params := by decide
  have htrimmed : (system Bool Nat).Reachable trimmed :=
    hnext (.destroyParam 7) hbuilt hmem (.succ (.succ ⟨0, fun _ _ => rfl⟩)) (by decide)
  exact hnext (.setParent true (some false)) htrimmed ⟨by decide, by decide⟩ ⟨0, fun _ _ => rfl⟩ (by decide)

theorem tree_integrity_attached :
    ∃ calls : List (ParamCall Bool Nat), calls.Nodup ∧ .impl false ∈ calls ∧ .impl true ∈ calls ∧
      .update 8 ∈ calls ∧ .update 7 ∉ calls := by
  obtain ⟨-, calls, hnodup, himpl, hupdate, -⟩ :=
    tree_integrity reachable_attached (show false ∈ attached.nodes by decide)
  have hbelow : Below attached.placed true false :=
    Relation.ReflTransGen.single (show attached.placed true = some false by decide)
  refine ⟨calls, hnodup, (himpl false).mpr ⟨by decide, .refl⟩, (himpl true).mpr ⟨by decide, hbelow⟩,
    (hupdate 8).mpr ⟨by decide, true, by decide, hbelow⟩, fun hgone => ?_⟩
  exact absurd ((hupdate 7).mp hgone).1 (by decide)

end ParamHeap

end DualMagneticWheel
