import Mathlib.Data.List.Perm.Basic
import TritPuzzle.Proofs.Completeness
import TritPuzzle.Proofs.Histories

/-!
# Input on different slots

An event reads the node at its target and changes that node alone.  What becomes of it is
therefore settled by that node, and events on different slots do not notice each other.  A
list of events with one event for each slot can be received in any order: the puzzle that
it leaves and what becomes of each event are the same, and so is all that is computed from
the puzzle.

## Main definitions

* `SlotEvent.refill?` — what an event makes of the node at its target.
* `Template.put` — a puzzle with one node replaced.
* `Template.outcome`, `Template.afterEvents`, `Template.outcomes` — what becomes of an event
  and of a list of events.

## Main results

* `change?_eq_refill?` — an event looks at the node at its target, and changes it alone.
* `node?_afterEvent`, `node?_afterEvent_of_ne` — the node at the target and the others
  after an event.
* `afterEvent_comm` — **events on different slots commute.**
* `outcomes_eq_map`, `node?_afterEvents` — in a list of events on different slots each one
  fares as if it were alone.
* `afterEvents_perm` — **such a list can be received in any order.**
-/

namespace TritPuzzle

/-- What an event makes of the node at its target: the node with its new content, or the
reason why it is refused.  An event makes nothing of a node of the other kind. -/
def SlotEvent.refill? : SlotEvent → Node → Option (Except SlotError Node)
  | .setValue _ x, .leaf s => some ((s.set x).map .leaf)
  | .cycleValue _, .leaf s => some ((s.set (Template.nextValue s)).map .leaf)
  | .setOperator _ op, .inner n => some ((n.set op).map .inner)
  | .cycleOperator _, .inner n => some ((n.set (Template.nextOperator n)).map .inner)
  | _, _ => none

/-- The node that an event leaves at its target: the one that was there if it is refused. -/
def SlotEvent.refilled (e : SlotEvent) (n : Node) : Node :=
  match e.refill? n with
  | some (.ok m) => m
  | _ => n

/-- Is the node a leaf? -/
def Node.isLeaf : Node → Bool
  | .leaf _ => true
  | .inner _ => false

/-- A computation that is mapped succeeds with the image of a result. -/
private theorem exists_of_map_eq_ok {α β ε : Type} {x : Except ε α} {g : α → β} {b : β}
    (h : x.map g = .ok b) : ∃ a, b = g a := by
  cases x with
  | error err => simp [Except.map] at h
  | ok a => exact ⟨a, (Except.ok.inj h).symm⟩

/-- An event makes a leaf of a leaf, and an inner node of an inner node. -/
theorem SlotEvent.isLeaf_refill? {e : SlotEvent} {n m : Node} (h : e.refill? n = some (.ok m)) :
    m.isLeaf = n.isLeaf := by
  cases n with
  | leaf s =>
    cases e with
    | setValue i x | cycleValue i =>
      obtain ⟨s', rfl⟩ := exists_of_map_eq_ok (Option.some.inj h)
      rfl
    | setOperator i op | cycleOperator i => simp [refill?] at h
  | inner k =>
    cases e with
    | setValue i x | cycleValue i => simp [refill?] at h
    | setOperator i op | cycleOperator i =>
      obtain ⟨k', rfl⟩ := exists_of_map_eq_ok (Option.some.inj h)
      rfl

namespace Template

/-! ### One node -/

/-- The puzzle with the node at an address replaced by one of the same kind. -/
def put (t : Template) : NodeId → Node → Template
  | .value i, .leaf s => { t with values := t.values.set i s }
  | .operator i, .inner n => { t with operators := t.operators.set i n }
  | _, _ => t

/-- Replacing a node puts the new one in its place. -/
theorem node?_put_self {t : Template} {id : NodeId} {n m : Node} (hn : t.node? id = some n)
    (hm : m.isLeaf = n.isLeaf) : (t.put id m).node? id = some m := by
  cases id with
  | value i =>
    obtain ⟨s, hs, rfl⟩ := Option.map_eq_some_iff.mp hn
    cases m with
    | leaf s' =>
      rw [put, node?, List.getElem?_set_self (List.getElem?_eq_some_iff.mp hs).1, Option.map_some]
    | inner k => simp [Node.isLeaf] at hm
  | operator i =>
    obtain ⟨k, hk, rfl⟩ := Option.map_eq_some_iff.mp hn
    cases m with
    | leaf s' => simp [Node.isLeaf] at hm
    | inner k' =>
      rw [put, node?, List.getElem?_set_self (List.getElem?_eq_some_iff.mp hk).1, Option.map_some]

/-- Replacing a node leaves the other nodes as they were. -/
theorem node?_put_of_ne (t : Template) {id c : NodeId} (h : c ≠ id) (n : Node) :
    (t.put id n).node? c = t.node? c := by
  cases id with
  | value i =>
    cases n with
    | inner m => rfl
    | leaf s =>
      cases c with
      | operator j => rfl
      | value j =>
        have hij : i ≠ j := fun hij => h (by rw [hij])
        rw [put, node?, node?, List.getElem?_set_ne hij]
  | operator i =>
    cases n with
    | leaf s => rfl
    | inner m =>
      cases c with
      | value j => rfl
      | operator j =>
        have hij : i ≠ j := fun hij => h (by rw [hij])
        rw [put, node?, node?, List.getElem?_set_ne hij]

/-- Two nodes can be replaced in either order. -/
theorem put_comm (t : Template) {id c : NodeId} (h : c ≠ id) (n m : Node) :
    (t.put id n).put c m = (t.put c m).put id n := by
  cases id with
  | value i =>
    cases n with
    | inner k => cases c <;> cases m <;> rfl
    | leaf s =>
      cases c with
      | operator j => cases m <;> rfl
      | value j =>
        cases m with
        | inner k => rfl
        | leaf u =>
          have hij : i ≠ j := fun hij => h (by rw [hij])
          simp only [put, List.set_comm _ _ hij]
  | operator i =>
    cases n with
    | leaf s => cases c <;> cases m <;> rfl
    | inner k =>
      cases c with
      | value j => cases m <;> rfl
      | operator j =>
        cases m with
        | leaf u => rfl
        | inner l =>
          have hij : i ≠ j := fun hij => h (by rw [hij])
          simp only [put, List.set_comm _ _ hij]

/-- A puzzle is known by its root, its answer and its nodes. -/
theorem ext_node? {t u : Template} (hroot : t.root = u.root) (hanswer : t.answer = u.answer)
    (hnode : ∀ id, t.node? id = u.node? id) : t = u := by
  have hvalues : t.values = u.values := by
    apply List.ext_getElem?
    intro i
    have h := hnode (.value i)
    exact Option.map_injective (fun _ _ => Node.leaf.inj) h
  have hoperators : t.operators = u.operators := by
    apply List.ext_getElem?
    intro i
    have h := hnode (.operator i)
    exact Option.map_injective (fun _ _ => Node.inner.inj) h
  cases t
  cases u
  rw [Template.mk.injEq]
  exact ⟨hroot, hanswer, hvalues, hoperators⟩

/-! ### One event -/

variable {t u : Template} {e f : SlotEvent}

/-- What an event makes of the node at its target, if there is one. -/
def reply? (t : Template) (e : SlotEvent) : Option (Except SlotError Node) :=
  (t.node? e.target).bind e.refill?

/-- What becomes of an event. -/
def outcome (t : Template) (e : SlotEvent) : Except InputError Outcome := (t.apply e).map (·.1)

/-- **An event looks at the node at its target, and changes it alone.** -/
theorem change?_eq_refill? (t : Template) (e : SlotEvent) :
    t.change? e = (t.reply? e).map fun r => r.map (t.put e.target) := by
  cases e with
  | setValue i x =>
    cases hs : t.values[i]? with
    | none => simp [reply?, change?, setValue?, SlotEvent.target, node?, hs]
    | some s =>
      simp only [reply?, change?, setValue?, SlotEvent.target, node?, hs, Option.map_some,
        Option.bind_some, SlotEvent.refill?]
      cases s.set x <;> rfl
  | cycleValue i =>
    cases hs : t.values[i]? with
    | none => simp [reply?, change?, SlotEvent.target, node?, hs]
    | some s =>
      simp only [reply?, change?, setValue?, SlotEvent.target, node?, hs, Option.map_some,
        Option.bind_some, SlotEvent.refill?]
      cases s.set (nextValue s) <;> rfl
  | setOperator i op =>
    cases hn : t.operators[i]? with
    | none => simp [reply?, change?, setOperator?, SlotEvent.target, node?, hn]
    | some n =>
      simp only [reply?, change?, setOperator?, SlotEvent.target, node?, hn, Option.map_some,
        Option.bind_some, SlotEvent.refill?]
      cases n.set op <;> rfl
  | cycleOperator i =>
    cases hn : t.operators[i]? with
    | none => simp [reply?, change?, SlotEvent.target, node?, hn]
    | some n =>
      simp only [reply?, change?, setOperator?, SlotEvent.target, node?, hn, Option.map_some,
        Option.bind_some, SlotEvent.refill?]
      cases n.set (nextOperator n) <;> rfl

/-- The puzzle with the node at an address replaced by what an event has made of it. -/
def putReply (t : Template) (id : NodeId) : Option (Except SlotError Node) → Template
  | some (.ok n) => t.put id n
  | _ => t

theorem afterEvent_eq_putReply (t : Template) (e : SlotEvent) :
    t.afterEvent e = t.putReply e.target (t.reply? e) := by
  rw [afterEvent_eq, change?_eq_refill?]
  cases t.reply? e with
  | none => rfl
  | some r => cases r <;> rfl

/-- **What becomes of an event is settled by the node at its target.** -/
theorem outcome_congr (h : t.node? e.target = u.node? e.target) : t.outcome e = u.outcome e := by
  unfold outcome apply
  rw [change?_eq_refill?, change?_eq_refill?, reply?, reply?, h]
  cases (u.node? e.target).bind e.refill? with
  | none => rfl
  | some r =>
    cases r with
    | ok n => rfl
    | error err => cases err <;> rfl

/-- An event leaves the other nodes as they were. -/
theorem node?_afterEvent_of_ne {id : NodeId} (h : id ≠ e.target) :
    (t.afterEvent e).node? id = t.node? id := by
  rw [afterEvent_eq_putReply]
  unfold putReply
  split
  · exact t.node?_put_of_ne h _
  · rfl

/-- An event leaves at its target what it makes of the node there. -/
theorem node?_afterEvent (t : Template) (e : SlotEvent) :
    (t.afterEvent e).node? e.target = (t.node? e.target).map e.refilled := by
  rw [afterEvent_eq_putReply, reply?]
  cases hn : t.node? e.target with
  | none => exact hn
  | some n =>
    rw [Option.bind_some, Option.map_some, SlotEvent.refilled]
    cases hr : e.refill? n with
    | none => exact hn
    | some r =>
      cases r with
      | error err => exact hn
      | ok m => exact node?_put_self hn (SlotEvent.isLeaf_refill? hr)

/-- **Events on different slots commute.** -/
theorem afterEvent_comm (h : e.target ≠ f.target) :
    (t.afterEvent e).afterEvent f = (t.afterEvent f).afterEvent e := by
  have hf : (t.afterEvent e).reply? f = t.reply? f := by
    rw [reply?, node?_afterEvent_of_ne h.symm, reply?]
  have he : (t.afterEvent f).reply? e = t.reply? e := by
    rw [reply?, node?_afterEvent_of_ne h, reply?]
  rw [afterEvent_eq_putReply (t.afterEvent e), hf, afterEvent_eq_putReply (t.afterEvent f), he,
    afterEvent_eq_putReply t e, afterEvent_eq_putReply t f]
  generalize t.reply? e = r
  generalize t.reply? f = q
  unfold putReply
  split
  · split
    · exact t.put_comm h.symm _ _
    · rfl
  · rfl

/-! ### Lists of events -/

/-- The puzzle after a list of events.  An event that fails changes nothing. -/
def afterEvents (t : Template) (es : List SlotEvent) : Template := es.foldl afterEvent t

/-- The events of a list, each with what becomes of it. -/
def outcomes (t : Template) (es : List SlotEvent) :
    List (SlotEvent × Except InputError Outcome) :=
  (history afterEvent t es).map fun x => (x.2, x.1.outcome x.2)

@[simp] theorem afterEvents_cons (t : Template) (e : SlotEvent) (es : List SlotEvent) :
    t.afterEvents (e :: es) = (t.afterEvent e).afterEvents es := rfl

@[simp] theorem outcomes_cons (t : Template) (e : SlotEvent) (es : List SlotEvent) :
    t.outcomes (e :: es) = (e, t.outcome e) :: (t.afterEvent e).outcomes es := rfl

/-- A list of events is a run of moves. -/
theorem afterEvents_eq_play (t : Template) (es : List SlotEvent) :
    t.afterEvents es = t.play (es.map .event) := by
  rw [afterEvents, play, List.foldl_map]
  rfl

/-- A list of events changes nothing but the contents of slots. -/
theorem sameFrame_afterEvents (t : Template) (es : List SlotEvent) :
    t.SameFrame (t.afterEvents es) := by
  rw [afterEvents_eq_play]
  exact t.sameFrame_play _

/-- The first of several events on different slots is on another one than the others. -/
theorem target_ne_of_nodup {es : List SlotEvent} (hnodup : ((e :: es).map SlotEvent.target).Nodup)
    (hf : f ∈ es) : f.target ≠ e.target := by
  rw [List.map_cons, List.nodup_cons] at hnodup
  intro heq
  exact hnodup.1 (heq ▸ List.mem_map_of_mem hf)

/-- The first of several events on different slots does not change what becomes of the
others. -/
theorem outcome_afterEvent_of_nodup {es : List SlotEvent}
    (hnodup : ((e :: es).map SlotEvent.target).Nodup) (hf : f ∈ es) :
    (t.afterEvent e).outcome f = t.outcome f :=
  outcome_congr (node?_afterEvent_of_ne (target_ne_of_nodup hnodup hf))

/-- A list of events leaves the nodes as they were that none of them is for. -/
theorem node?_afterEvents_of_notMem {es : List SlotEvent} {id : NodeId}
    (h : id ∉ es.map SlotEvent.target) : (t.afterEvents es).node? id = t.node? id := by
  induction es generalizing t with
  | nil => rfl
  | cons e es ih =>
    rw [List.map_cons, List.mem_cons, not_or] at h
    rw [afterEvents_cons, ih h.2, node?_afterEvent_of_ne h.1]

/-- **In a list of events on different slots each one changes its node as if it were
alone.** -/
theorem node?_afterEvents {es : List SlotEvent} (hnodup : (es.map SlotEvent.target).Nodup)
    (he : e ∈ es) : (t.afterEvents es).node? e.target = (t.node? e.target).map e.refilled := by
  induction es generalizing t with
  | nil => simp at he
  | cons f es ih =>
    obtain ⟨hfirst, hrest⟩ := List.nodup_cons.mp hnodup
    rw [afterEvents_cons]
    rcases List.mem_cons.mp he with rfl | he
    · rw [node?_afterEvents_of_notMem hfirst, node?_afterEvent]
    · rw [ih hrest he, node?_afterEvent_of_ne (target_ne_of_nodup hnodup he)]

/-- **In a list of events on different slots each one comes to what it would come to if it
were alone.** -/
theorem outcomes_eq_map {es : List SlotEvent} (hnodup : (es.map SlotEvent.target).Nodup) :
    t.outcomes es = es.map fun e => (e, t.outcome e) := by
  induction es generalizing t with
  | nil => rfl
  | cons f es ih =>
    rw [outcomes_cons, List.map_cons, ih (List.nodup_cons.mp hnodup).2]
    congr 1
    refine List.map_congr_left fun e he => ?_
    rw [outcome_afterEvent_of_nodup hnodup he]

/-- Events on different slots leave the same puzzle in every order. -/
theorem afterEvents_eq_of_perm {es fs : List SlotEvent} (hperm : es.Perm fs)
    (hnodup : (es.map SlotEvent.target).Nodup) : t.afterEvents es = t.afterEvents fs := by
  refine hperm.foldl_eq' (fun e he f hf u => ?_) t
  by_cases hef : e = f
  · rw [hef]
  · exact afterEvent_comm fun htarget => hef (List.inj_on_of_nodup_map hnodup he hf htarget)

/-- **Input on different slots commutes.**  Two events on different slots leave the same
puzzle in either order, and each of them comes to the same whether the other one came first.
A list of events on different slots can therefore be received in any order: each event comes
to what it would come to if it were alone, and the puzzle that is left is the same, with its
value, its verdict and its written form. -/
theorem afterEvents_perm (t : Template) :
    (∀ e f : SlotEvent, e.target ≠ f.target →
      (t.afterEvent e).afterEvent f = (t.afterEvent f).afterEvent e ∧
      (t.afterEvent f).outcome e = t.outcome e ∧ (t.afterEvent e).outcome f = t.outcome f) ∧
    ∀ es fs : List SlotEvent, es.Perm fs → (es.map SlotEvent.target).Nodup →
      t.afterEvents es = t.afterEvents fs ∧
      (t.outcomes es = es.map fun e => (e, t.outcome e)) ∧
      (t.outcomes fs = fs.map fun e => (e, t.outcome e)) ∧
      (t.afterEvents es).eval = (t.afterEvents fs).eval ∧
      (t.afterEvents es).isSolved = (t.afterEvents fs).isSolved ∧
      ∀ labelled, (t.afterEvents es).written labelled = (t.afterEvents fs).written labelled := by
  constructor
  · intro e f hef
    exact ⟨afterEvent_comm hef, outcome_congr (node?_afterEvent_of_ne hef),
      outcome_congr (node?_afterEvent_of_ne hef.symm)⟩
  · intro es fs hperm hnodup
    have hleft : t.afterEvents es = t.afterEvents fs := afterEvents_eq_of_perm hperm hnodup
    have hnodup' : (fs.map SlotEvent.target).Nodup := (hperm.map _).nodup_iff.mp hnodup
    refine ⟨hleft, outcomes_eq_map hnodup, outcomes_eq_map hnodup', ?_, ?_, fun labelled => ?_⟩
    all_goals rw [hleft]

/-- A disjunction that gets five events, of which one is ignored, one is rejected and one is
for no slot, and then the same ones in another order. -/
theorem afterEvents_perm_disjunction :
    let steps : List AssemblyStep := [.lockedValue .neutral, .openValue,
      .operator .unset (.value 0) none,
      .operator (.opened .or) (.operator 0) (some (.value 1))]
    let t : Template := {
      root := .operator 1
      answer := .true
      values := [.locked .neutral, .unset]
      operators := [{ slot := .unset, left := .value 0, right := none },
        { slot := .opened .or, left := .operator 0, right := some (.value 1) }] }
    let es : List SlotEvent := [.setValue 0 .true, .cycleValue 1, .setOperator 1 .not,
      .cycleOperator 0, .setValue 7 .false]
    let fs : List SlotEvent := [.setOperator 1 .not, .setValue 7 .false, .cycleOperator 0,
      .setValue 0 .true, .cycleValue 1]
    (Assembly.run steps).finish (.operator 1) .true = .ok t ∧
    es.Perm fs ∧ (es.map SlotEvent.target).Nodup ∧
    (t.outcomes es).map (·.2) = [.ok (.ignored (.value 0)), .ok (.applied (.value 1)),
      .error (.rejected (.operator 1) (.unexpectedOperand .not)),
      .ok (.applied (.operator 0)), .error (.noSuchSlot (.value 7))] ∧
    t.afterEvents es = t.afterEvents fs ∧
    (t.outcomes es = es.map fun e => (e, t.outcome e)) ∧
    (t.outcomes fs = fs.map fun e => (e, t.outcome e)) ∧
    (t.afterEvents es).eval = (t.afterEvents fs).eval ∧
    (t.afterEvents es).isSolved = (t.afterEvents fs).isSolved ∧
    ∀ labelled, (t.afterEvents es).written labelled = (t.afterEvents fs).written labelled := by
  intro steps t es fs
  have hfinish : (Assembly.run steps).finish (.operator 1) .true = .ok t := by decide
  have hperm : es.Perm fs := by decide
  have hnodup : (es.map SlotEvent.target).Nodup := by decide
  exact ⟨hfinish, hperm, hnodup, by decide, (afterEvents_perm t).2 es fs hperm hnodup⟩

end Template

end TritPuzzle
