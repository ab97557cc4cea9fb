import Mathlib.Logic.Function.Iterate
import TritPuzzle.Proofs.Overwriting

/-!
# Cycling through the contents

A player need not name a content: cycling a slot brings the next one that fits there.  That
is enough to play.  Cycling is never refused, it goes round through all contents that fit,
and a few events on every slot bring any contents to any slots that are not locked.

## Main definitions

* `NodeId.cycle` — the event that cycles the slot at an address.
* `Operator.countOf` — how many operators have an arity.
* `Template.Suits` — new operators fit the inner nodes that they are for.

## Main results

* `Trit.exists_iterate_next`, `Operator.exists_iterate_nextOf` — going round meets every
  content that fits.
* `exists_iterate_refilled` — **cycling a slot brings any content that fits there.**
* `node?_afterEvents_of_cycles` — what a node comes to depends on how often it is cycled.
* `cycling_of_inPlay` — **cycling is never refused, goes round, and reaches every fill.**
-/

namespace TritPuzzle

/-! ### Going round -/

/-- **Every value is met within three steps from every other.** -/
theorem Trit.exists_iterate_next (x y : Trit) : ∃ k < 3, next^[k] x = y := by
  cases x <;> cases y <;> decide

/-- The number of operators that take so many operands. -/
def Operator.countOf (arity : Arity) : Nat := all.countP (·.arity = arity)

theorem Operator.countOf_le (arity : Arity) : countOf arity ≤ 4 := by
  cases arity <;> decide

/-- As many steps as there are operators of the arity come back to the start. -/
theorem Operator.iterate_nextOf_countOf {op : Operator} {arity : Arity} (h : op.arity = arity) :
    (nextOf arity)^[countOf arity] op = op := by
  subst h
  cases op <;> decide

/-- **Every operator is met from every other of the same arity** within as many steps as
there are such operators. -/
theorem Operator.exists_iterate_nextOf {op op' : Operator} {arity : Arity}
    (h : op.arity = arity) (h' : op'.arity = arity) :
    ∃ k < countOf arity, (nextOf arity)^[k] op = op' := by
  subst h
  cases op <;> cases op' <;> first | decide | simp [arity] at h'

/-! ### One slot -/

/-- The event that cycles the slot at an address. -/
def NodeId.cycle : NodeId → SlotEvent
  | .value i => .cycleValue i
  | .operator i => .cycleOperator i

@[simp] theorem NodeId.target_cycle (c : NodeId) : c.cycle.target = c := by
  cases c <;> rfl

theorem NodeId.cycle_injective {c d : NodeId} (h : c.cycle = d.cycle) : c = d := by
  rw [← c.target_cycle, h, target_cycle]

/-- So many events bring any content that fits to a slot of this kind. -/
def NodeId.cycleBound : NodeId → Nat
  | .value _ => 3
  | .operator _ => 4

/-- A new content leaves the slot as it is, or the slot is not locked and holds it. -/
theorem Slot.overwritten_eq_or {α : Type} (s : Slot α) (x : Option α) :
    s.overwritten x = s ∨
      s.isLocked = false ∧ ∃ y, x = some y ∧ s.overwritten x = .opened y := by
  cases x with
  | none => exact Or.inl s.overwritten_none
  | some y =>
    cases s with
    | locked x => exact Or.inl rfl
    | unset | opened x => exact Or.inr ⟨rfl, y, rfl, rfl⟩

namespace SlotEvent

theorem refilled_cycleValue (i : Nat) (s : Slot Trit) :
    (cycleValue i).refilled (.leaf s) = .leaf (s.overwritten (some (Template.nextValue s))) :=
  refilled_setValue i _ s

theorem refilled_cycleOperator (i : Nat) (n : OperatorNode) :
    (cycleOperator i).refilled (.inner n) =
      .inner { n with slot := n.slot.overwritten (some (Template.nextOperator n)) } :=
  refilled_setOperator i fun _ => n.arity_nextOperator

/-- Cycling a leaf that has a content goes round with the content. -/
theorem iterate_refilled_opened (i k : Nat) (x : Trit) :
    (cycleValue i).refilled^[k] (.leaf (.opened x)) = .leaf (.opened (Trit.next^[k] x)) := by
  have hstep : Function.Semiconj (fun x : Trit => Node.leaf (.opened x)) Trit.next
      (cycleValue i).refilled := fun x => (refilled_cycleValue i (.opened x)).symm
  exact (hstep.iterate_right k x).symm

/-- Cycling an inner node that has an operator goes round with the operator. -/
theorem iterate_refilled_inner (i k : Nat) (n : OperatorNode) (op : Operator) :
    (cycleOperator i).refilled^[k] (.inner { n with slot := .opened op }) =
      .inner { n with slot := .opened ((Operator.nextOf n.arity)^[k] op) } := by
  have hstep : Function.Semiconj (fun op => Node.inner { n with slot := .opened op })
      (Operator.nextOf n.arity) (cycleOperator i).refilled :=
    fun op => (refilled_cycleOperator i { n with slot := .opened op }).symm
  exact (hstep.iterate_right k op).symm

/-- **Cycling a leaf brings any trit to it**, unless it is locked. -/
theorem exists_iterate_leaf (i : Nat) {s : Slot Trit} (hopen : s.isLocked = false) (y : Trit) :
    ∃ k ≤ 3, (cycleValue i).refilled^[k] (.leaf s) = .leaf (.opened y) := by
  cases s with
  | locked x => simp [Slot.isLocked] at hopen
  | opened x =>
    obtain ⟨k, hk, rfl⟩ := x.exists_iterate_next y
    exact ⟨k, hk.le, iterate_refilled_opened i k x⟩
  | unset =>
    -- the first event brings the first value
    obtain ⟨k, hk, rfl⟩ := Trit.false.exists_iterate_next y
    refine ⟨k + 1, hk, ?_⟩
    rw [Function.iterate_succ_apply, refilled_cycleValue]
    exact iterate_refilled_opened i k .false

/-- **Cycling an inner node brings any operator to it that fits**, unless it is locked. -/
theorem exists_iterate_inner (i : Nat) {n : OperatorNode} (hfits : n.Fits)
    (hopen : n.slot.isLocked = false) {op : Operator} (hop : op.arity = n.arity) :
    ∃ k ≤ Operator.countOf n.arity, (cycleOperator i).refilled^[k] (.inner n) =
      .inner { n with slot := .opened op } := by
  obtain ⟨slot, left, right⟩ := n
  cases slot with
  | locked op' => simp [Slot.isLocked] at hopen
  | opened op' =>
    obtain ⟨k, hk, rfl⟩ := Operator.exists_iterate_nextOf (hfits op' rfl) hop
    exact ⟨k, hk.le, iterate_refilled_inner i k { slot := .unset, left, right } op'⟩
  | unset =>
    -- the first event brings the first operator of the arity
    obtain ⟨k, hk, rfl⟩ := Operator.exists_iterate_nextOf (Operator.arity_firstOf _) hop
    refine ⟨k + 1, hk, ?_⟩
    rw [Function.iterate_succ_apply, refilled_cycleOperator]
    exact iterate_refilled_inner i k { slot := .unset, left, right } _

end SlotEvent

namespace Template

variable {t : Template} {c : NodeId} {es : List SlotEvent}

/-- An event that cycles a slot is no error if the slot is there. -/
theorem outcome_cycle (hc : t.Has c) :
    t.outcome c.cycle = .ok (if t.isLockedAt c then .ignored c else .applied c) := by
  have hfit (err : SlotError) : ¬ c.cycle.Misfits t err := by
    rintro ⟨i, op, n, he, -⟩
    cases c <;> simp [NodeId.cycle] at he
  rw [outcome_eq_ok_iff, c.target_cycle]
  cases hlocked : t.isLockedAt c with
  | true => exact Or.inl ⟨rfl, by simp⟩
  | false => exact Or.inr ⟨hc, rfl, hfit, by simp⟩

/-! ### Lists of events -/

/-- **What a node comes to depends on how often it is cycled**, and not on what happens
between. -/
theorem node?_afterEvents_of_cycles (hes : ∀ e ∈ es, ∃ c, e = NodeId.cycle c) (c : NodeId) :
    (t.afterEvents es).node? c = (t.node? c).map c.cycle.refilled^[es.count c.cycle] := by
  induction es generalizing t with
  | nil => simp [afterEvents]
  | cons e es ih =>
    obtain ⟨d, rfl⟩ := hes e List.mem_cons_self
    rw [afterEvents_cons, ih fun f hf => hes f (List.mem_cons_of_mem _ hf)]
    by_cases hcd : c = d
    · subst hcd
      have hnode := t.node?_afterEvent c.cycle
      rw [c.target_cycle] at hnode
      rw [hnode, Option.map_map, List.count_cons_self, Function.iterate_succ]
    · have hne : c ≠ d.cycle.target := by rwa [d.target_cycle]
      have hcycle : d.cycle ≠ c.cycle := fun h => hcd (NodeId.cycle_injective h).symm
      rw [node?_afterEvent_of_ne hne, List.count_cons_of_ne hcycle]

/-- Cycling slots that are there and not locked is applied every time. -/
theorem outcomes_of_cycles
    (hes : ∀ e ∈ es, ∃ c, e = NodeId.cycle c ∧ t.Has c ∧ t.isLockedAt c = false) :
    t.outcomes es = es.map fun e => (e, .ok (.applied e.target)) := by
  induction es generalizing t with
  | nil => rfl
  | cons e es ih =>
    obtain ⟨c, rfl, hc, hopen⟩ := hes e List.mem_cons_self
    have hframe : t.SameFrame (t.afterEvent c.cycle) := t.sameFrame_afterEvents [c.cycle]
    rw [outcomes_cons, List.map_cons, outcome_cycle hc, hopen, ih, c.target_cycle]
    · rfl
    · intro f hf
      obtain ⟨d, rfl, hd, hdopen⟩ := hes f (List.mem_cons_of_mem _ hf)
      refine ⟨d, rfl, hframe.has_iff.mpr hd, ?_⟩
      rwa [isLockedAt_afterEvent]

theorem count_replicate_cycle_of_ne {d : NodeId} (h : c ≠ d) (m : Nat) :
    (List.replicate m d.cycle).count c.cycle = 0 :=
  List.count_eq_zero.mpr fun hmem => h (NodeId.cycle_injective (List.eq_of_mem_replicate hmem))

/-- The slots of a list of addresses cycled one after the other, each of them a number of
times of its own. -/
def rounds (k : NodeId → Nat) (cs : List NodeId) : List SlotEvent :=
  cs.flatMap fun c => List.replicate (k c) c.cycle

variable {k : NodeId → Nat} {cs : List NodeId}

theorem mem_rounds {e : SlotEvent} :
    e ∈ rounds k cs ↔ ∃ c ∈ cs, k c ≠ 0 ∧ e = c.cycle := by
  simp only [rounds, List.mem_flatMap, List.mem_replicate]

theorem count_rounds (hcs : cs.Nodup) (c : NodeId) :
    (rounds k cs).count c.cycle = if c ∈ cs then k c else 0 := by
  induction cs with
  | nil => rfl
  | cons d cs ih =>
    obtain ⟨hd, hcs⟩ := List.nodup_cons.mp hcs
    have hsplit : rounds k (d :: cs) = List.replicate (k d) d.cycle ++ rounds k cs := rfl
    rw [hsplit, List.count_append, ih hcs]
    by_cases hcd : c = d
    · subst hcd
      rw [List.count_replicate_self, if_neg hd, if_pos List.mem_cons_self, Nat.add_zero]
    · rw [count_replicate_cycle_of_ne hcd, Nat.zero_add]
      simp only [List.mem_cons, hcd, false_or]

/-! ### Every fill -/

/-- Do new operators fit the inner nodes that they are for, locked ones apart? -/
def Suits (t : Template) (operators : Nat → Option Operator) : Prop :=
  ∀ i n op, t.operators[i]? = some n → n.slot.isLocked = false → operators i = some op →
    op.arity = n.arity

variable (values : Nat → Option Trit) {operators : Nat → Option Operator}

/-- **At every address some number of events brings the new content**, or none are needed. -/
theorem exists_iterate_refilled (hfits : t.Fits) (hops : t.Suits operators) (c : NodeId) :
    ∃ k ≤ c.cycleBound, (k ≠ 0 → t.Has c ∧ t.isLockedAt c = false) ∧
      (t.overwritten values operators).node? c = (t.node? c).map c.cycle.refilled^[k] := by
  -- without a change at the address no event is needed
  by_cases hsame : (t.overwritten values operators).node? c = t.node? c
  · exact ⟨0, Nat.zero_le _, fun h => absurd rfl h, by simpa using hsame⟩
  · cases c with
    | value i =>
      rw [node?_overwritten_value, node?] at hsame ⊢
      cases hs : t.values[i]? with
      | none => simp [hs] at hsame
      | some s =>
        rcases s.overwritten_eq_or (values i) with hkeep | ⟨hopen, y, -, hnew⟩
        · simp [hs, hkeep] at hsame
        · obtain ⟨k, hk, hiter⟩ := SlotEvent.exists_iterate_leaf i hopen y
          have hhas : t.Has (.value i) := (List.getElem?_eq_some_iff.mp hs).1
          refine ⟨k, hk, fun _ => ⟨hhas, (isLockedAt_value hs).trans hopen⟩, ?_⟩
          rw [Option.map_some, Option.map_some, Option.map_some, hnew, ← hiter]
          rfl
    | operator i =>
      rw [node?_overwritten_operator, node?] at hsame ⊢
      cases hn : t.operators[i]? with
      | none => simp [hn] at hsame
      | some n =>
        rcases n.slot.overwritten_eq_or (operators i) with hkeep | ⟨hopen, op, hop, hnew⟩
        · simp [hn, hkeep] at hsame
        · obtain ⟨k, hk, hiter⟩ := SlotEvent.exists_iterate_inner i
            (hfits n (List.mem_of_getElem? hn)) hopen (hops i n op hn hopen hop)
          have hhas : t.Has (.operator i) := (List.getElem?_eq_some_iff.mp hn).1
          refine ⟨k, hk.trans (Operator.countOf_le _),
            fun _ => ⟨hhas, (isLockedAt_operator hn).trans hopen⟩, ?_⟩
          rw [Option.map_some, Option.map_some, Option.map_some, hnew, ← hiter]
          rfl

/-- **Every fill is reached by cycling**, with few events on every slot. -/
theorem exists_cycles (hfits : t.Fits) (hops : t.Suits operators) :
    ∃ es : List SlotEvent,
      (∀ e ∈ es, ∃ c, e = NodeId.cycle c ∧ t.Has c ∧ t.isLockedAt c = false) ∧
      (∀ c : NodeId, es.count c.cycle ≤ c.cycleBound) ∧
      t.afterEvents es = t.overwritten values operators := by
  choose k hbound hopen hnode using exists_iterate_refilled values hfits hops
  let cs := addresses t.values.length t.operators.length
  have hcount (c : NodeId) : (rounds k cs).count c.cycle = k c := by
    rw [count_rounds (nodup_addresses _ _)]
    by_cases hc : c ∈ cs
    · rw [if_pos hc]
    · have hzero : k c = 0 := by
        by_contra hne
        exact hc (mem_addresses.mpr (hopen c hne).1)
      rw [if_neg hc, hzero]
  have hcycles (e : SlotEvent) (he : e ∈ rounds k cs) :
      ∃ c, e = NodeId.cycle c ∧ t.Has c ∧ t.isLockedAt c = false := by
    obtain ⟨c, -, hc, rfl⟩ := mem_rounds.mp he
    exact ⟨c, rfl, hopen c hc⟩
  refine ⟨rounds k cs, hcycles, fun c => (hcount c).trans_le (hbound c), ?_⟩
  have hframe := t.sameFrame_afterEvents (rounds k cs)
  refine ext_node? hframe.root hframe.answer fun c => ?_
  rw [node?_afterEvents_of_cycles (fun e he => (hcycles e he).imp fun _ h => h.1), hcount, hnode]

/-! ### Going round a slot -/

/-- Cycling a slot changes nothing in the end if it goes round at the node there. -/
theorem afterEvents_replicate_cycle {m : Nat}
    (hround : ∀ n, t.node? c = some n → c.cycle.refilled^[m] n = n) :
    t.afterEvents (List.replicate m c.cycle) = t := by
  have hframe := t.sameFrame_afterEvents (List.replicate m c.cycle)
  refine ext_node? hframe.root hframe.answer fun d => ?_
  rw [node?_afterEvents_of_cycles fun e he => ⟨c, List.eq_of_mem_replicate he⟩]
  by_cases hdc : d = c
  · subst hdc
    rw [List.count_replicate_self]
    cases hn : t.node? d with
    | none => rfl
    | some n => rw [Option.map_some, hround n hn]
  · rw [count_replicate_cycle_of_ne hdc, Function.iterate_zero, Option.map_id_fun, id]

/-- Three events on a leaf that has a content and is not locked bring the same content
back. -/
theorem afterEvents_cycleValue {i : Nat} {s : Slot Trit} (hs : t.values[i]? = some s)
    (hopen : s.isLocked = false) (hassigned : s.isAssigned = true) :
    t.afterEvents (List.replicate 3 (.cycleValue i)) = t := by
  refine afterEvents_replicate_cycle (c := .value i) fun n hn => ?_
  rw [node?, hs, Option.map_some] at hn
  obtain rfl := Option.some.inj hn
  cases s with
  | unset => simp [Slot.isAssigned] at hassigned
  | locked x => simp [Slot.isLocked] at hopen
  | opened x =>
    have hback : Trit.next^[3] x = x := x.next_next_next
    exact (SlotEvent.iterate_refilled_opened i 3 x).trans (by rw [hback])

/-- As many events as operators fit, on an inner node that has an operator and is not locked,
bring the same operator back. -/
theorem afterEvents_cycleOperator (hfits : t.Fits) {i : Nat} {n : OperatorNode}
    (hn : t.operators[i]? = some n) (hopen : n.slot.isLocked = false)
    (hassigned : n.slot.isAssigned = true) :
    t.afterEvents (List.replicate (Operator.countOf n.arity) (.cycleOperator i)) = t := by
  refine afterEvents_replicate_cycle (c := .operator i) fun m hm => ?_
  rw [node?, hn, Option.map_some] at hm
  obtain rfl := Option.some.inj hm
  have hfit : n.Fits := hfits n (List.mem_of_getElem? hn)
  obtain ⟨slot, left, right⟩ := n
  cases slot with
  | unset => simp [Slot.isAssigned] at hassigned
  | locked op => simp [Slot.isLocked] at hopen
  | opened op =>
    refine (SlotEvent.iterate_refilled_inner i _ { slot := .opened op, left, right } op).trans ?_
    rw [Operator.iterate_nextOf_countOf (hfit op rfl)]

/-- **Cycling is never refused, goes round, and reaches every fill.**  In every puzzle in
play an event that cycles a slot is ignored if the slot is locked, and applied otherwise.
Whatever contents are chosen for some of the slots that are not locked, trits for leaves and
operators that fit for inner nodes, a list of such events brings exactly these contents and
changes nothing else; it needs at most three events on each leaf and four on each inner node.
And a slot that has a content gets it back after three events on a leaf, after four on a
binary node, and after one on a unary node. -/
theorem cycling_of_inPlay {t : Template} (h : t.InPlay) :
    (∀ c, t.Has c →
      t.outcome c.cycle = .ok (if t.isLockedAt c then .ignored c else .applied c)) ∧
    (∀ (values : Nat → Option Trit) (operators : Nat → Option Operator), t.Suits operators →
      ∃ es : List SlotEvent, (∀ e ∈ es, ∃ c, e = NodeId.cycle c) ∧
        (∀ i, es.count (.cycleValue i) ≤ 3) ∧ (∀ i, es.count (.cycleOperator i) ≤ 4) ∧
        (t.outcomes es = es.map fun e => (e, .ok (.applied e.target))) ∧
        t.afterEvents es = t.overwritten values operators) ∧
    (∀ i s, t.values[i]? = some s → s.isLocked = false → s.isAssigned = true →
      t.afterEvents (List.replicate 3 (.cycleValue i)) = t) ∧
    ∀ i n, t.operators[i]? = some n → n.slot.isLocked = false → n.slot.isAssigned = true →
      (n.right ≠ none → t.afterEvents (List.replicate 4 (.cycleOperator i)) = t) ∧
      (n.right = none → t.afterEvent (.cycleOperator i) = t) := by
  refine ⟨fun c hc => outcome_cycle hc, fun values operators hops => ?_,
    fun i s => afterEvents_cycleValue, fun i n hn hopen hassigned => ?_⟩
  · obtain ⟨es, hcycles, hcount, hafter⟩ := exists_cycles values h.fits hops
    exact ⟨es, fun e he => (hcycles e he).imp fun _ hc => hc.1, fun i => hcount (.value i),
      fun i => hcount (.operator i), outcomes_of_cycles hcycles, hafter⟩
  · have hround := afterEvents_cycleOperator h.fits hn hopen hassigned
    constructor
    · intro hright
      have harity : n.arity = .binary := if_pos (Option.isSome_iff_ne_none.mpr hright)
      rwa [harity] at hround
    · intro hright
      have harity : n.arity = .unary := if_neg (by simp [hright])
      rwa [harity] at hround

/-- An empty negation over an empty leaf, beside a locked leaf under an implication: the
negation, the leaf and an exclusive disjunction are brought by cycling, the locked leaf is
kept, and each slot that has a content gets it back by going round. -/
theorem cycling_of_inPlay_implication :
    let steps : List AssemblyStep := [.openValue, .lockedValue .neutral,
      .operator .unset (.value 0) none,
      .operator (.opened .imply) (.operator 0) (some (.value 1))]
    let t : Template := {
      root := .operator 1
      answer := .true
      values := [.unset, .locked .neutral]
      operators := [{ slot := .unset, left := .value 0, right := none },
        { slot := .opened .imply, left := .operator 0, right := some (.value 1) }] }
    let filled : Template := {
      root := .operator 1
      answer := .true
      values := [.opened .true, .locked .neutral]
      operators := [{ slot := .opened .not, left := .value 0, right := none },
        { slot := .opened .xor, left := .operator 0, right := some (.value 1) }] }
    (Assembly.run steps).finish (.operator 1) .true = .ok t ∧
      t.outcome (.cycleValue 1) = .ok (.ignored (.value 1)) ∧
      t.outcome (.cycleOperator 0) = .ok (.applied (.operator 0)) ∧
      (∃ es : List SlotEvent, (∀ e ∈ es, ∃ c, e = NodeId.cycle c) ∧
        (∀ i, es.count (.cycleValue i) ≤ 3) ∧ (∀ i, es.count (.cycleOperator i) ≤ 4) ∧
        (t.outcomes es = es.map fun e => (e, .ok (.applied e.target))) ∧
        t.afterEvents es = filled) ∧
      t.play [.event (.setValue 0 .true), .event (.setOperator 0 .not),
        .event (.setOperator 1 .xor)] = filled ∧
      filled.afterEvents (List.replicate 3 (.cycleValue 0)) = filled ∧
      filled.afterEvents (List.replicate 4 (.cycleOperator 1)) = filled ∧
      filled.afterEvent (.cycleOperator 0) = filled := by
  intro steps t filled
  have hbuilt : (Assembly.run steps).finish (.operator 1) .true = .ok t := by decide
  have hplay : t.play [.event (.setValue 0 .true), .event (.setOperator 0 .not),
      .event (.setOperator 1 .xor)] = filled := by decide
  let operators : Nat → Option Operator := fun i => if i = 0 then some .not else some .xor
  have hops : t.Suits operators := by
    intro i n op hn _ hop
    match i with
    | 0 =>
      obtain rfl := Option.some.inj hn
      obtain rfl := Option.some.inj hop
      rfl
    | 1 =>
      obtain rfl := Option.some.inj hn
      obtain rfl := Option.some.inj hop
      rfl
    | i + 2 => simp [t] at hn
  obtain ⟨hnever, hfill, -, -⟩ := cycling_of_inPlay ((Built.finish hbuilt).inPlay [])
  have hinPlay : filled.InPlay := hplay ▸ (Built.finish hbuilt).inPlay _
  obtain ⟨-, -, hvalue, hoperator⟩ := cycling_of_inPlay hinPlay
  exact ⟨hbuilt, hnever (.value 1) (show 1 < 2 by decide),
    hnever (.operator 0) (show 0 < 2 by decide), hfill (fun _ => some .true) operators hops, hplay,
    hvalue 0 _ rfl rfl rfl, (hoperator 1 _ rfl rfl rfl).1 (by decide),
    (hoperator 0 _ rfl rfl rfl).2 rfl⟩

end Template

end TritPuzzle
