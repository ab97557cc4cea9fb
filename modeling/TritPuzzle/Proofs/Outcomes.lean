import TritPuzzle.Proofs.Arboreal
import TritPuzzle.Proofs.Setters

/-!
# What becomes of an event

An event is answered after three questions, in this order: is there such a slot, is it
locked, and does the operator fit.  Only an event that passes all three changes the
puzzle, and then nothing but the content of its slot.  An event that fails has written
nothing, and a run of moves can never touch a locked slot.

## Main definitions

* `Operator.circle`, `Operator.Follows` — the order in which operators are cycled.
* `Template.isLockedAt` — the slot at an address is locked.
* `SlotEvent.Misfits` — the event sets an operator that does not fit its node.
* `Template.Filled` — the puzzle with the content that an event asks for.
* `Template.Answer` — all that an event can come to.

## Main results

* `answer_apply` — an event comes to one of these.
* `node?_play_of_isLockedAt` — a run of moves keeps the locked nodes, and locks no other.
* `apply_eq_iff` — **when an event is lost, ignored, rejected or applied**, what it leaves
  then, and what no run changes.
-/

namespace TritPuzzle

/-! ### Misfits -/

/-- The error for an operator whose number of operands is wrong. -/
def Operator.misfitError (op : Operator) : SlotError :=
  match op.arity with
  | .unary => .unexpectedOperand op
  | .binary => .missingOperand op

theorem OperatorNode.misfit?_eq_some_iff {n : OperatorNode} {op : Operator} {err : SlotError} :
    n.misfit? op = some err ↔ op.arity ≠ n.arity ∧ err = op.misfitError := by
  unfold misfit? Operator.misfit? Operator.misfitError
  cases op.arity <;> cases n.arity <;> simp [eq_comm]

/-! ### Cycling -/

/-- The operators in the order in which cycling goes round. -/
def Operator.circle : List Operator := [.not, .and, .or, .xor, .imply]

/-- The second operator is the first one after the other, going round, that takes so many
operands. -/
def Operator.Follows (arity : Arity) (op op' : Operator) : Prop :=
  ∃ i < 5, ∃ k < 5, circle[i]? = some op ∧ circle[(i + k + 1) % 5]? = some op' ∧
    op'.arity = arity ∧ ∀ j < k, ∀ o ∈ circle[(i + j + 1) % 5]?, o.arity ≠ arity

instance (arity : Arity) (op op' : Operator) : Decidable (op.Follows arity op') := by
  unfold Operator.Follows
  infer_instance

theorem Operator.follows_nextOf (arity : Arity) (op : Operator) :
    op.Follows arity (op.nextOf arity) := by
  cases arity <;> cases op <;> decide

theorem Operator.find?_circle (arity : Arity) :
    circle.find? (·.arity = arity) = some (firstOf arity) := by
  cases arity <;> rfl

/-- What cycling asks for always fits. -/
theorem OperatorNode.arity_nextOperator (n : OperatorNode) :
    (Template.nextOperator n).arity = n.arity := by
  rw [Template.nextOperator]
  cases n.slot.content? <;> simp

theorem Operator.misfitError_ne_locked (op : Operator) : op.misfitError ≠ .locked := by
  unfold misfitError
  cases op.arity <;> simp

/-- Does the event set an operator that does not fit its node, and with what error? -/
def SlotEvent.Misfits (t : Template) (e : SlotEvent) (err : SlotError) : Prop :=
  ∃ i op n, e = .setOperator i op ∧ t.operators[i]? = some n ∧ op.arity ≠ n.arity ∧
    err = op.misfitError

theorem SlotEvent.misfits_setOperator {t : Template} {i : Nat} {op : Operator}
    {n : OperatorNode} (hn : t.operators[i]? = some n) {err : SlotError} :
    Misfits t (.setOperator i op) err ↔ n.misfit? op = some err := by
  rw [OperatorNode.misfit?_eq_some_iff]
  constructor
  · rintro ⟨j, op', m, he, hm, hmisfit⟩
    obtain ⟨rfl, rfl⟩ := SlotEvent.setOperator.inj he
    obtain rfl := Option.some.inj (hm.symm.trans hn)
    exact hmisfit
  · rintro hmisfit
    exact ⟨i, op, n, rfl, hn, hmisfit⟩

namespace Template

/-! ### Locks -/

/-- Is the slot at the address locked? -/
def isLockedAt (t : Template) (id : NodeId) : Bool := (t.node? id).any (·.isLocked)

theorem isLockedAt_value {t : Template} {i : Nat} {s : Slot Trit} (hs : t.values[i]? = some s) :
    t.isLockedAt (.value i) = s.isLocked := by
  simp [isLockedAt, node?, hs, Node.isLocked]

theorem isLockedAt_operator {t : Template} {i : Nat} {n : OperatorNode}
    (hn : t.operators[i]? = some n) : t.isLockedAt (.operator i) = n.slot.isLocked := by
  simp [isLockedAt, node?, hn, Node.isLocked]

theorem has_of_isLockedAt {t : Template} {id : NodeId} (h : t.isLockedAt id = true) :
    t.Has id := by
  by_contra hid
  cases id with
  | value i => simp [isLockedAt, node?, List.getElem?_eq_none (Nat.not_lt.mp hid)] at h
  | operator i => simp [isLockedAt, node?, List.getElem?_eq_none (Nat.not_lt.mp hid)] at h

/-! ### Answers -/

/-- The second puzzle is the first one with the content that an event asks for. -/
inductive Filled (t : Template) : SlotEvent → Template → Prop
  /-- A leaf has the given trit. -/
  | setValue {i : Nat} {s : Slot Trit} (x : Trit) (hs : t.values[i]? = some s) :
      Filled t (.setValue i x) { t with values := t.values.set i (.opened x) }
  /-- A leaf that was empty has the first trit. -/
  | firstValue {i : Nat} {s : Slot Trit} (hs : t.values[i]? = some s)
      (hempty : s.content? = none) :
      Filled t (.cycleValue i) { t with values := t.values.set i (.opened .false) }
  /-- A leaf that had a content has the trit with the next digit, going round. -/
  | nextValue {i : Nat} {s : Slot Trit} {x y : Trit} (hs : t.values[i]? = some s)
      (hx : s.content? = some x) (hnext : y.digit = (x.digit + 1) % 3) :
      Filled t (.cycleValue i) { t with values := t.values.set i (.opened y) }
  /-- An inner node has the given operator, which fits it. -/
  | setOperator {i : Nat} {n : OperatorNode} {op : Operator} (hn : t.operators[i]? = some n)
      (hfit : op.arity = n.arity) :
      Filled t (.setOperator i op)
        { t with operators := t.operators.set i { n with slot := .opened op } }
  /-- An inner node that was empty has the first operator that fits it. -/
  | firstOperator {i : Nat} {n : OperatorNode} {op : Operator} (hn : t.operators[i]? = some n)
      (hempty : n.slot.content? = none)
      (hfirst : Operator.circle.find? (·.arity = n.arity) = some op) :
      Filled t (.cycleOperator i)
        { t with operators := t.operators.set i { n with slot := .opened op } }
  /-- An inner node that had an operator has the next one that fits it. -/
  | nextOperator {i : Nat} {n : OperatorNode} {op op' : Operator}
      (hn : t.operators[i]? = some n) (hop : n.slot.content? = some op)
      (hnext : op.Follows n.arity op') :
      Filled t (.cycleOperator i)
        { t with operators := t.operators.set i { n with slot := .opened op' } }

/-- What an event can come to. -/
inductive Answer (t : Template) (e : SlotEvent) : Except InputError (Outcome × Template) → Prop
  /-- There is no such slot. -/
  | noSuchSlot (hmissing : ¬ t.Has e.target) : Answer t e (.error (.noSuchSlot e.target))
  /-- The slot is locked. -/
  | ignored (hlocked : t.isLockedAt e.target = true) : Answer t e (.ok (.ignored e.target, t))
  /-- The slot is not locked, and the operator does not fit. -/
  | rejected {err : SlotError} (hhas : t.Has e.target) (hopen : t.isLockedAt e.target = false)
      (hmisfit : e.Misfits t err) : Answer t e (.error (.rejected e.target err))
  /-- The slot has the content that the event asks for. -/
  | applied {t' : Template} (hhas : t.Has e.target) (hopen : t.isLockedAt e.target = false)
      (hfit : ∀ err, ¬ e.Misfits t err) (hfilled : t.Filled e t') :
      Answer t e (.ok (.applied e.target, t'))

section

variable {t : Template} {e : SlotEvent}

theorem answer_of_change?_eq_none (hmissing : ¬ t.Has e.target) (h : t.change? e = none) :
    t.Answer e (t.apply e) := by
  rw [apply, h]
  exact .noSuchSlot hmissing

theorem apply_of_error {err : SlotError} (h : t.change? e = some (.error err))
    (hne : err ≠ .locked) : t.apply e = .error (.rejected e.target err) := by
  rw [apply, h]
  cases err with
  | locked => exact absurd rfl hne
  | missingOperand op => rfl
  | unexpectedOperand op => rfl

/-- The answer to an event that asks for a content of a leaf. -/
theorem answer_of_change?_eq_setValue? {i : Nat} {s : Slot Trit} {x : Trit}
    (htarget : e.target = .value i) (hs : t.values[i]? = some s)
    (h : t.change? e = t.setValue? i x)
    (hfilled : t.Filled e { t with values := t.values.set i (.opened x) }) :
    t.Answer e (t.apply e) := by
  have hhas : t.Has e.target := by
    rw [htarget]
    exact (List.getElem?_eq_some_iff.mp hs).1
  have hlock : t.isLockedAt e.target = s.isLocked := by rw [htarget, isLockedAt_value hs]
  have hfit (err : SlotError) : ¬ e.Misfits t err := by
    rintro ⟨j, op, n, rfl, -⟩
    simp [SlotEvent.target] at htarget
  rw [apply, h, setValue?, hs, Option.map_some, Slot.set]
  cases hs' : s.isLocked with
  | true => exact .ignored (hlock.trans hs')
  | false => exact .applied hhas (hlock.trans hs') hfit hfilled

/-- The answer to an event that asks for an operator of an inner node. -/
theorem answer_of_change?_eq_setOperator? {i : Nat} {n : OperatorNode} {op : Operator}
    (htarget : e.target = .operator i) (hn : t.operators[i]? = some n)
    (h : t.change? e = t.setOperator? i op)
    (hmisfits : ∀ err, e.Misfits t err ↔ n.misfit? op = some err)
    (hfilled : op.arity = n.arity →
      t.Filled e { t with operators := t.operators.set i { n with slot := .opened op } }) :
    t.Answer e (t.apply e) := by
  have hhas : t.Has e.target := by
    rw [htarget]
    exact (List.getElem?_eq_some_iff.mp hn).1
  have hlock : t.isLockedAt e.target = n.slot.isLocked := by
    rw [htarget, isLockedAt_operator hn]
  rw [setOperator?, hn, Option.map_some, OperatorNode.set, OperatorNode.refusal?] at h
  cases hn' : n.slot.isLocked with
  | true =>
    rw [apply, h, hn']
    exact .ignored (hlock.trans hn')
  | false =>
    cases herr : n.misfit? op with
    | none =>
      have hfit (err : SlotError) : ¬ e.Misfits t err := by simp [hmisfits, herr]
      rw [apply, h, hn', herr]
      exact .applied hhas (hlock.trans hn') hfit (hfilled ((n.misfit?_eq_none_iff op).mp herr))
    | some err =>
      -- a misfit is not taken for a lock, so it is not ignored
      have hne : err ≠ .locked := by
        rw [(OperatorNode.misfit?_eq_some_iff.mp herr).2]
        exact op.misfitError_ne_locked
      have hchange : t.change? e = some (.error err) := by
        rw [h, hn', herr]
        rfl
      rw [apply_of_error hchange hne]
      exact .rejected hhas (hlock.trans hn') ((hmisfits err).mpr herr)

/-- **All that an event can come to.** -/
theorem answer_apply (t : Template) (e : SlotEvent) : t.Answer e (t.apply e) := by
  cases e with
  | setValue i x =>
    cases hs : t.values[i]? with
    | none =>
      exact answer_of_change?_eq_none (by simpa [SlotEvent.target, Has] using hs)
        (by simp [change?, setValue?, hs])
    | some s => exact answer_of_change?_eq_setValue? rfl hs rfl (.setValue x hs)
  | cycleValue i =>
    cases hs : t.values[i]? with
    | none =>
      exact answer_of_change?_eq_none (by simpa [SlotEvent.target, Has] using hs)
        (by simp [change?, hs])
    | some s =>
      have hchange : t.change? (.cycleValue i) = t.setValue? i (nextValue s) := by
        rw [change?, hs, Option.bind_some]
      refine answer_of_change?_eq_setValue? rfl hs hchange ?_
      rw [nextValue]
      cases hx : s.content? with
      | none => exact .firstValue hs hx
      | some x => exact .nextValue hs hx x.digit_next
  | setOperator i op =>
    cases hn : t.operators[i]? with
    | none =>
      exact answer_of_change?_eq_none (by simpa [SlotEvent.target, Has] using hn)
        (by simp [change?, setOperator?, hn])
    | some n =>
      exact answer_of_change?_eq_setOperator? rfl hn rfl
        (fun _ => SlotEvent.misfits_setOperator hn) (.setOperator hn)
  | cycleOperator i =>
    cases hn : t.operators[i]? with
    | none =>
      exact answer_of_change?_eq_none (by simpa [SlotEvent.target, Has] using hn)
        (by simp [change?, hn])
    | some n =>
      have hchange : t.change? (.cycleOperator i) = t.setOperator? i (nextOperator n) := by
        rw [change?, hn, Option.bind_some]
      have hmisfit : n.misfit? (nextOperator n) = none :=
        (n.misfit?_eq_none_iff _).mpr n.arity_nextOperator
      refine answer_of_change?_eq_setOperator? rfl hn hchange (fun err => ?_) fun _ => ?_
      · rw [hmisfit]
        simp [SlotEvent.Misfits]
      · rw [nextOperator]
        cases hop : n.slot.content? with
        | none => exact .firstOperator hn hop (Operator.find?_circle n.arity)
        | some op => exact .nextOperator hn hop (op.follows_nextOf n.arity)

end

/-! ### Locked slots in a run -/

/-- A move leaves a node as it was, or it was not locked and is not locked now. -/
theorem Refill.node?_eq_or {t t' : Template} (h : t.Refill t') (id : NodeId) :
    t'.node? id = t.node? id ∨ t.isLockedAt id = false ∧ t'.isLockedAt id = false := by
  cases h with
  | same => exact Or.inl rfl
  | @value i s x hs hopen =>
    cases id with
    | operator j => exact Or.inl rfl
    | value j =>
      by_cases hij : i = j
      · subst hij
        have hi : i < t.values.length := (List.getElem?_eq_some_iff.mp hs).1
        refine Or.inr ⟨(isLockedAt_value hs).trans hopen, ?_⟩
        exact isLockedAt_value (s := .opened x) (List.getElem?_set_self hi)
      · left
        rw [node?, node?, List.getElem?_set_ne hij]
  | @operator i n op hn hopen hfit =>
    cases id with
    | value j => exact Or.inl rfl
    | operator j =>
      by_cases hij : i = j
      · subst hij
        have hi : i < t.operators.length := (List.getElem?_eq_some_iff.mp hn).1
        refine Or.inr ⟨(isLockedAt_operator hn).trans hopen, ?_⟩
        exact isLockedAt_operator (n := { n with slot := .opened op }) (List.getElem?_set_self hi)
      · left
        rw [node?, node?, List.getElem?_set_ne hij]

/-- **A run of moves locks and unlocks nothing, and leaves the locked nodes as they
were.** -/
theorem node?_play_of_isLockedAt (t : Template) (moves : List Move) (id : NodeId) :
    (t.play moves).isLockedAt id = t.isLockedAt id ∧
      (t.isLockedAt id = true → (t.play moves).node? id = t.node? id) := by
  refine play_induction (P := fun u => u.isLockedAt id = t.isLockedAt id ∧
    (t.isLockedAt id = true → u.node? id = t.node? id)) ?_ ⟨rfl, fun _ => rfl⟩ moves
  rintro u v ⟨hlock, hnode⟩ huv
  rcases huv.node?_eq_or id with heq | ⟨hu, hv⟩
  · rw [isLockedAt, heq]
    exact ⟨hlock, hnode⟩
  · refine ⟨(hv.trans hu.symm).trans hlock, fun ht => ?_⟩
    rw [← hlock, hu] at ht
    simp at ht

/-! ### The four answers -/

section

variable {t : Template} {e : SlotEvent}

theorem isLockedAt_eq_false_of_not_has {id : NodeId} (h : ¬ t.Has id) :
    t.isLockedAt id = false :=
  Bool.eq_false_iff.mpr fun hlocked => h (has_of_isLockedAt hlocked)

theorem has_of_misfits {err : SlotError} (h : e.Misfits t err) : t.Has e.target := by
  obtain ⟨i, op, n, rfl, hn, -⟩ := h
  exact (List.getElem?_eq_some_iff.mp hn).1

theorem misfits_unique {err err' : SlotError} (h : e.Misfits t err) (h' : e.Misfits t err') :
    err = err' := by
  obtain ⟨i, op, n, rfl, -, -, rfl⟩ := h
  obtain ⟨j, op', m, he, -, -, rfl⟩ := h'
  rw [(SlotEvent.setOperator.inj he).2]

theorem apply_eq_noSuchSlot_iff :
    t.apply e = .error (.noSuchSlot e.target) ↔ ¬ t.Has e.target := by
  have h := t.answer_apply e
  generalize t.apply e = r at h ⊢
  cases h with
  | noSuchSlot hmissing => simp [hmissing]
  | ignored hlocked => simp [has_of_isLockedAt hlocked]
  | rejected hhas => simp [hhas]
  | applied hhas => simp [hhas]

theorem exists_apply_eq_ignored_iff :
    (∃ t', t.apply e = .ok (.ignored e.target, t')) ↔ t.isLockedAt e.target = true := by
  have h := t.answer_apply e
  generalize t.apply e = r at h ⊢
  cases h with
  | noSuchSlot hmissing => simp [isLockedAt_eq_false_of_not_has hmissing]
  | ignored hlocked => simp [hlocked]
  | rejected _ hopen => simp [hopen]
  | applied _ hopen => simp [hopen]

theorem apply_eq_rejected_iff {err : SlotError} :
    t.apply e = .error (.rejected e.target err) ↔
      t.isLockedAt e.target = false ∧ e.Misfits t err := by
  have h := t.answer_apply e
  generalize t.apply e = r at h ⊢
  cases h with
  | noSuchSlot hmissing =>
    have hfit : ¬ e.Misfits t err := fun hmisfit => hmissing (has_of_misfits hmisfit)
    simp [hfit]
  | ignored hlocked => simp [hlocked]
  | @rejected err' _ hopen hmisfit =>
    rw [Except.error.injEq, InputError.rejected.injEq]
    constructor
    · rintro ⟨-, rfl⟩
      exact ⟨hopen, hmisfit⟩
    · rintro ⟨-, hmisfit'⟩
      exact ⟨rfl, misfits_unique hmisfit hmisfit'⟩
  | applied _ _ hfit => simp [hfit err]

theorem exists_apply_eq_applied_iff :
    (∃ t', t.apply e = .ok (.applied e.target, t')) ↔
      t.Has e.target ∧ t.isLockedAt e.target = false ∧ ∀ err, ¬ e.Misfits t err := by
  have h := t.answer_apply e
  generalize t.apply e = r at h ⊢
  cases h with
  | noSuchSlot hmissing => simp [hmissing]
  | ignored hlocked => simp [hlocked]
  | @rejected err _ _ hmisfit =>
    simp only [reduceCtorEq, exists_false, false_iff, not_and, not_forall, not_not]
    exact fun _ _ => ⟨err, hmisfit⟩
  | @applied t' hhas hopen hfit => exact iff_of_true ⟨t', rfl⟩ ⟨hhas, hopen, hfit⟩

theorem filled_of_apply_eq_applied {t' : Template}
    (h : t.apply e = .ok (.applied e.target, t')) : t.Filled e t' := by
  have hanswer := t.answer_apply e
  rw [h] at hanswer
  cases hanswer with
  | applied _ _ _ hfilled => exact hfilled

/-- An event that is not applied leaves the puzzle as it was. -/
theorem afterEvent_eq_self (h : ∀ t', t.apply e ≠ .ok (.applied e.target, t')) :
    t.afterEvent e = t := by
  have hanswer := t.answer_apply e
  unfold afterEvent
  generalize t.apply e = r at h hanswer ⊢
  cases hanswer with
  | noSuchSlot hmissing => rfl
  | ignored hlocked => rfl
  | rejected _ _ hmisfit => rfl
  | applied => exact absurd rfl (h _)

end

/-- **When an event is lost, ignored, rejected or applied**: the slot is looked up first,
then its lock counts, and then the fit of the operator.  An event that is applied brings
the content it asks for to its slot and changes nothing else.  Any other event, although
made in place, leaves the puzzle as it was, so an event does what the function returns.  No
run of events, or of moves, changes the frame of a puzzle, what is locked in it, or any
locked node. -/
theorem apply_eq_iff (t : Template) (e : SlotEvent) :
    ((e.call.on t).1 = .error (.noSuchSlot e.target) ↔ ¬ t.Has e.target) ∧
    ((e.call.on t).1 = .ok (.ignored e.target) ↔ t.isLockedAt e.target = true) ∧
    (∀ err, (e.call.on t).1 = .error (.rejected e.target err) ↔
      t.isLockedAt e.target = false ∧ e.Misfits t err) ∧
    ((e.call.on t).1 = .ok (.applied e.target) ↔
      t.Has e.target ∧ t.isLockedAt e.target = false ∧ ∀ err, ¬ e.Misfits t err) ∧
    ((e.call.on t).1 = .ok (.applied e.target) → t.Filled e (e.call.on t).2) ∧
    ((e.call.on t).1 ≠ .ok (.applied e.target) → (e.call.on t).2 = t) ∧
    e.call.on t = inPlace t (t.apply e) ∧ (e.call.on t).2 = t.afterEvent e ∧
    (∀ events, (Mutation.transcript SlotEvent.call events t).2 = t.play (events.map .event)) ∧
    ∀ moves : List Move, t.SameFrame (t.play moves) ∧ ∀ id,
      (t.play moves).isLockedAt id = t.isLockedAt id ∧
      (t.isLockedAt id = true → (t.play moves).node? id = t.node? id) := by
  have happlied : (e.call.on t).1 = .ok (.applied e.target) ↔
      ∃ t', t.apply e = .ok (.applied e.target, t') := by
    rw [e.on_call, fst_inPlace_eq_ok_iff]
  refine ⟨?_, ?_, fun err => ?_, happlied.trans exists_apply_eq_applied_iff, fun h => ?_,
    fun h => ?_, e.on_call t, e.snd_on_call t, fun events => SlotEvent.snd_transcript events t,
    fun moves => ⟨t.sameFrame_play moves, t.node?_play_of_isLockedAt moves⟩⟩
  · rw [e.on_call, fst_inPlace_eq_error_iff]
    exact apply_eq_noSuchSlot_iff
  · rw [e.on_call, fst_inPlace_eq_ok_iff]
    exact exists_apply_eq_ignored_iff
  · rw [e.on_call, fst_inPlace_eq_error_iff]
    exact apply_eq_rejected_iff
  · obtain ⟨t', ht'⟩ := happlied.mp h
    rw [e.on_call, ht']
    exact filled_of_apply_eq_applied ht'
  · rw [e.snd_on_call]
    exact afterEvent_eq_self fun t' ht' => h (happlied.mpr ⟨t', ht'⟩)

/-- An open implication over a locked leaf: cycling goes round past the negation, the
negation is refused, and the locked leaf is not changed by events on either leaf. -/
theorem apply_eq_iff_implication :
    let t : Template := {
      root := .operator 0
      answer := .neutral
      values := [.locked .neutral, .opened .true]
      operators := [{ slot := .opened .imply, left := .value 0, right := some (.value 1) }] }
    (((SlotEvent.cycleOperator 0).call.on t).1 = .ok (.applied (.operator 0)) ∧
      t.Filled (.cycleOperator 0) ((SlotEvent.cycleOperator 0).call.on t).2) ∧
    (((SlotEvent.setOperator 0 .not).call.on t).1 ≠ .ok (.applied (.operator 0)) ∧
      ((SlotEvent.setOperator 0 .not).call.on t).2 = t) ∧
    (t.isLockedAt (.value 0) = true ∧
      (t.play [.event (.cycleValue 0), .event (.cycleValue 1)]).node? (.value 0) =
        t.node? (.value 0)) := by
  intro t
  obtain ⟨-, -, -, -, hfilled, -⟩ := apply_eq_iff t (.cycleOperator 0)
  obtain ⟨-, -, -, -, -, hkept, -, -, -, hplay⟩ := apply_eq_iff t (.setOperator 0 .not)
  have happlied : ((SlotEvent.cycleOperator 0).call.on t).1 = .ok (.applied (.operator 0)) := rfl
  have hrefused : ((SlotEvent.setOperator 0 .not).call.on t).1 ≠ .ok (.applied (.operator 0)) := by
    decide
  have hlocked : t.isLockedAt (.value 0) = true := rfl
  exact ⟨⟨happlied, hfilled happlied⟩, ⟨hrefused, hkept hrefused⟩, hlocked,
    ((hplay _).2 _).2 hlocked⟩

end Template

end TritPuzzle
