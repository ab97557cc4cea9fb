import TritPuzzle.Logic.Operator

/-!
# Slots

A slot holds the content of one node of a puzzle.  A locked slot was fixed by
the puzzle's designer and always has a content; any other slot may be refilled
by the player.

## Main definitions

* `Slot` — the three states, with `Slot.content?` and `Slot.isLocked`.
* `Slot.set`, `Slot.lock` — the two ways to change a slot that is not locked.
* `SlotError` — why a slot refuses a change.
-/

namespace TritPuzzle

/-- The state of a slot for contents of type `α`. -/
inductive Slot (α : Type) where
  /-- Nothing chosen yet. -/
  | unset
  /-- A content that the player may replace. -/
  | opened (content : α)
  /-- A content fixed by the designer. -/
  | locked (content : α)
  deriving DecidableEq, Repr

/-- Why a slot refuses a change. -/
inductive SlotError where
  /-- The slot is locked. -/
  | locked
  /-- The operator takes two operands and the node has one child. -/
  | missingOperand (op : Operator)
  /-- The operator takes one operand and the node has two children. -/
  | unexpectedOperand (op : Operator)
  deriving DecidableEq, Repr

/-- The message for a refused change. -/
def SlotError.message : SlotError → String
  | .locked => "slot is locked"
  | .missingOperand op => op.keyword ++ " needs a right operand but the node has none"
  | .unexpectedOperand op =>
    op.keyword ++ " takes a single operand but the node has a right child"

namespace Slot

variable {α : Type}

/-- A slot that the player may fill, with a starting content if one is given. -/
def open? : Option α → Slot α
  | none => .unset
  | some x => .opened x

/-- A slot fixed to a content if one is given, and to be filled otherwise. -/
def preset : Option α → Slot α
  | none => .unset
  | some x => .locked x

/-- A slot that holds a content from the start, locked or not. -/
def holding (locked : Bool) (x : α) : Slot α := if locked then .locked x else .opened x

/-- The content of a slot, if it has one. -/
def content? : Slot α → Option α
  | .unset => none
  | .opened x => some x
  | .locked x => some x

/-- Is the slot fixed by the designer? -/
def isLocked : Slot α → Bool
  | .locked _ => true
  | _ => false

/-- Has the slot a content? -/
def isAssigned : Slot α → Bool
  | .unset => false
  | _ => true

theorem isAssigned_eq_isSome (s : Slot α) : s.isAssigned = s.content?.isSome := by
  cases s <;> rfl

@[simp] theorem content?_preset (x : Option α) : (preset x).content? = x := by
  cases x <;> rfl

@[simp] theorem content?_open? (x : Option α) : (open? x).content? = x := by
  cases x <;> rfl

/-- The slot with its content replaced; a locked slot refuses. -/
def set (s : Slot α) (x : α) : Except SlotError (Slot α) :=
  if s.isLocked then .error .locked else .ok (.opened x)

/-- The slot fixed to a content for good; a locked slot refuses. -/
def lock (s : Slot α) (x : α) : Except SlotError (Slot α) :=
  if s.isLocked then .error .locked else .ok (.locked x)

/-- A slot takes a new content exactly when it is not locked. -/
theorem set_eq_ok_iff {s s' : Slot α} {x : α} :
    s.set x = .ok s' ↔ s.isLocked = false ∧ s' = .opened x := by
  cases s <;> simp [set, isLocked, eq_comm]

/-- A slot is locked exactly when it was not locked before. -/
theorem lock_eq_ok_iff {s s' : Slot α} {x : α} :
    s.lock x = .ok s' ↔ s.isLocked = false ∧ s' = .locked x := by
  cases s <;> simp [lock, isLocked, eq_comm]

/-- The state of a slot in words, given the words for its content. -/
def describe (word : α → String) : Slot α → String
  | .unset => "Unset"
  | .opened x => "Open(" ++ word x ++ ")"
  | .locked x => "Locked(" ++ word x ++ ")"

end Slot

end TritPuzzle
