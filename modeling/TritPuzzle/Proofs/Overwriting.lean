import TritPuzzle.Proofs.Commuting
import TritPuzzle.Proofs.Outcomes

/-!
# Slots with new contents

Setting the content of a slot that is not locked puts the content there, and a locked slot
stays as it is.  Here this is said of a slot, of a node, and of a whole puzzle that gets new
contents in many of its slots at once.

## Main definitions

* `Slot.overwritten` — a slot with a new content, if it is not locked.
* `Template.overwritten` — a puzzle with new contents in the slots that are not locked.

## Main results

* `SlotEvent.refilled_setValue`, `SlotEvent.refilled_setOperator` — setting a content
  overwrites the slot.
* `outcome_eq_ok_iff`, `exists_outcome_iff` — when an event is no error.
-/

namespace TritPuzzle

/-- The slot with a new content, if there is one and the slot is not locked. -/
def Slot.overwritten {α : Type} (s : Slot α) (x : Option α) : Slot α :=
  if s.isLocked then s else x.elim s .opened

@[simp] theorem Slot.overwritten_none {α : Type} (s : Slot α) : s.overwritten none = s := by
  simp [overwritten]

theorem SlotEvent.refilled_setValue (i : Nat) (x : Trit) (s : Slot Trit) :
    (setValue i x).refilled (.leaf s) = .leaf (s.overwritten (some x)) := by
  cases s <;> rfl

theorem SlotEvent.refilled_setOperator (i : Nat) {op : Operator} {n : OperatorNode}
    (hfit : n.slot.isLocked = false → op.arity = n.arity) :
    (setOperator i op).refilled (.inner n) =
      .inner { n with slot := n.slot.overwritten (some op) } := by
  rw [refilled, refill?, OperatorNode.set, OperatorNode.refusal?]
  cases hlocked : n.slot.isLocked with
  | true => simp [Except.map, Slot.overwritten, hlocked]
  | false =>
    simp [Except.map, Slot.overwritten, hlocked, (n.misfit?_eq_none_iff op).mpr (hfit hlocked)]

namespace Template

/-- The puzzle with new contents in the slots that are not locked. -/
def overwritten (t : Template) (values : Nat → Option Trit)
    (operators : Nat → Option Operator) : Template :=
  { t with
    values := t.values.mapIdx fun i s => s.overwritten (values i)
    operators := t.operators.mapIdx fun i n =>
      { n with slot := n.slot.overwritten (operators i) } }

variable {t : Template} {e : SlotEvent}

theorem node?_overwritten_value (values : Nat → Option Trit) (operators : Nat → Option Operator)
    (i : Nat) : (t.overwritten values operators).node? (.value i) =
      t.values[i]?.map fun s => .leaf (s.overwritten (values i)) := by
  rw [node?, overwritten, List.getElem?_mapIdx, Option.map_map]
  rfl

theorem node?_overwritten_operator (values : Nat → Option Trit)
    (operators : Nat → Option Operator) (i : Nat) :
    (t.overwritten values operators).node? (.operator i) =
      t.operators[i]?.map fun n => .inner { n with slot := n.slot.overwritten (operators i) } := by
  rw [node?, overwritten, List.getElem?_mapIdx, Option.map_map]
  rfl

/-! ### What becomes of an event -/

/-- An event locks and unlocks nothing. -/
theorem isLockedAt_afterEvent (t : Template) (e : SlotEvent) (id : NodeId) :
    (t.afterEvent e).isLockedAt id = t.isLockedAt id :=
  (t.node?_play_of_isLockedAt [.event e] id).1

/-- An event is no error when its slot is locked, or when it is there and takes the content. -/
theorem outcome_eq_ok_iff {o : Outcome} :
    t.outcome e = .ok o ↔
      t.isLockedAt e.target = true ∧ o = .ignored e.target ∨
      t.Has e.target ∧ t.isLockedAt e.target = false ∧ (∀ err, ¬ e.Misfits t err) ∧
        o = .applied e.target := by
  have hanswer := t.answer_apply e
  unfold outcome
  generalize t.apply e = r at hanswer ⊢
  cases hanswer with
  | noSuchSlot hmissing =>
    simp [Except.map, hmissing, isLockedAt_eq_false_of_not_has hmissing]
  | ignored hlocked => simp [Except.map, hlocked, eq_comm]
  | rejected hhas hopen hmisfit =>
    simp only [Except.map, reduceCtorEq, hopen, false_and, false_or, false_iff, not_and]
    exact fun _ _ hfit => absurd hmisfit (hfit _)
  | applied hhas hopen hfit => simp [Except.map, hhas, hopen, hfit, eq_comm]

/-- An event is an error when there is no such slot, or when the slot is not locked and
does not take the content. -/
theorem exists_outcome_iff :
    (∃ o, t.outcome e = .ok o) ↔
      t.Has e.target ∧ (t.isLockedAt e.target = false → ∀ err, ¬ e.Misfits t err) := by
  simp only [outcome_eq_ok_iff]
  constructor
  · rintro ⟨o, ⟨hlocked, -⟩ | ⟨hhas, -, hfit, -⟩⟩
    · exact ⟨has_of_isLockedAt hlocked, fun hopen => absurd hlocked (by simp [hopen])⟩
    · exact ⟨hhas, fun _ => hfit⟩
  · rintro ⟨hhas, hfit⟩
    cases hlocked : t.isLockedAt e.target with
    | true => exact ⟨_, Or.inl ⟨rfl, rfl⟩⟩
    | false => exact ⟨_, Or.inr ⟨hhas, rfl, hfit hlocked, rfl⟩⟩

end Template

end TritPuzzle
