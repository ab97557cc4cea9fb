import TritPuzzle.Puzzle.Slot
import TritPuzzle.Text.Decimal

/-!
# Nodes

A puzzle is a tree of nodes.  A leaf is a slot for a trit; an inner node is a
slot for an operator with one or two children.  Nodes are addressed by their
position in the list of their kind, and an inner node never changes children.

## Main definitions

* `NodeId` — the address of a node.
* `OperatorNode` — an inner node; its `arity` is the number of its children.
* `OperatorNode.misfit?` — why an operator does not fit a node.
-/

namespace TritPuzzle

/-- The address of a node: its position among the nodes of its kind. -/
inductive NodeId where
  /-- A leaf. -/
  | value (index : Nat)
  /-- An inner node. -/
  | operator (index : Nat)
  deriving DecidableEq, Repr

/-- An address as it appears in expressions and messages. -/
def NodeId.text : NodeId → String
  | .value i => "v" ++ Text.decimal i
  | .operator i => "o" ++ Text.decimal i

/-- An address in words. -/
def NodeId.describe : NodeId → String
  | .value i => "Value(" ++ Text.decimal i ++ ")"
  | .operator i => "Operator(" ++ Text.decimal i ++ ")"

/-- An inner node of a puzzle. -/
structure OperatorNode where
  /-- The slot for the operator. -/
  slot : Slot Operator
  /-- The left or only child. -/
  left : NodeId
  /-- The right child, if there are two. -/
  right : Option NodeId
  deriving DecidableEq, Repr

/-- Why an operator is refused for the given number of operands, if it is. -/
def Operator.misfit? (op : Operator) (arity : Arity) : Option SlotError :=
  match op.arity, arity with
  | .unary, .binary => some (.unexpectedOperand op)
  | .binary, .unary => some (.missingOperand op)
  | _, _ => none

theorem Operator.misfit?_eq_none_iff (op : Operator) (arity : Arity) :
    op.misfit? arity = none ↔ op.arity = arity := by
  unfold Operator.misfit?
  cases op.arity <;> cases arity <;> simp

namespace OperatorNode

/-- The children from left to right. -/
def children (n : OperatorNode) : List NodeId := n.left :: n.right.toList

/-- The number of operands that the children provide. -/
def arity (n : OperatorNode) : Arity := if n.right.isSome then .binary else .unary

/-- Why an operator does not fit the children, if it does not. -/
def misfit? (n : OperatorNode) (op : Operator) : Option SlotError := op.misfit? n.arity

/-- A node over the given children, unless its operator does not fit them. -/
def make (slot : Slot Operator) (left : NodeId) (right : Option NodeId) :
    Except SlotError OperatorNode :=
  let n : OperatorNode := { slot, left, right }
  match slot.content?.bind n.misfit? with
  | some e => .error e
  | none => .ok n

/-- Why the node refuses an operator, if it does: a lock is reported before a
misfit. -/
def refusal? (n : OperatorNode) (op : Operator) : Option SlotError :=
  if n.slot.isLocked then some .locked else n.misfit? op

/-- The node with its operator replaced. -/
def set (n : OperatorNode) (op : Operator) : Except SlotError OperatorNode :=
  match n.refusal? op with
  | some e => .error e
  | none => .ok { n with slot := .opened op }

/-- The node with its operator fixed for good. -/
def lock (n : OperatorNode) (op : Operator) : Except SlotError OperatorNode :=
  match n.refusal? op with
  | some e => .error e
  | none => .ok { n with slot := .locked op }

/-- Does the operator, if there is one, take as many operands as there are children? -/
def Fits (n : OperatorNode) : Prop := ∀ op, n.slot.content? = some op → op.arity = n.arity

@[simp] theorem misfit?_eq_none_iff (n : OperatorNode) (op : Operator) :
    n.misfit? op = none ↔ op.arity = n.arity :=
  op.misfit?_eq_none_iff n.arity

/-- A node is made exactly when its operator, if there is one, fits its children. -/
theorem make_eq_ok_iff {slot : Slot Operator} {left : NodeId} {right : Option NodeId}
    {n : OperatorNode} : make slot left right = .ok n ↔ n = { slot, left, right } ∧ n.Fits := by
  unfold make
  cases h : slot.content? with
  | none =>
    simp only [Option.bind_none, Except.ok.injEq]
    constructor
    · rintro rfl
      exact ⟨rfl, fun op hop => by simp [h] at hop⟩
    · exact fun hn => hn.1.symm
  | some op =>
    simp only [Option.bind_some]
    cases hm : misfit? { slot, left, right } op with
    | none =>
      simp only [Except.ok.injEq]
      constructor
      · rintro rfl
        refine ⟨rfl, fun op' hop' => ?_⟩
        rw [show op' = op by simpa [h] using hop'.symm]
        exact (misfit?_eq_none_iff _ _).mp hm
      · exact fun hn => hn.1.symm
    | some e =>
      simp only [reduceCtorEq, false_iff, not_and]
      rintro rfl hfits
      rw [(misfit?_eq_none_iff _ _).mpr (hfits op h)] at hm
      exact absurd hm (by simp)

theorem refusal?_eq_none_iff (n : OperatorNode) (op : Operator) :
    n.refusal? op = none ↔ n.slot.isLocked = false ∧ op.arity = n.arity := by
  unfold refusal?
  cases n.slot.isLocked <;> simp

/-- A node takes an operator exactly when it is not locked and the operator fits. -/
theorem set_eq_ok_iff {n n' : OperatorNode} {op : Operator} :
    n.set op = .ok n' ↔ (n.slot.isLocked = false ∧ op.arity = n.arity) ∧
      n' = { n with slot := .opened op } := by
  unfold set
  rw [← refusal?_eq_none_iff]
  cases n.refusal? op <;> simp [eq_comm]

/-- A node is locked exactly when it was not locked before and the operator fits. -/
theorem lock_eq_ok_iff {n n' : OperatorNode} {op : Operator} :
    n.lock op = .ok n' ↔ (n.slot.isLocked = false ∧ op.arity = n.arity) ∧
      n' = { n with slot := .locked op } := by
  unfold lock
  rw [← refusal?_eq_none_iff]
  cases n.refusal? op <;> simp [eq_comm]

/-- The node with its children renamed. -/
def rename (f : NodeId → NodeId) (n : OperatorNode) : OperatorNode :=
  { n with left := f n.left, right := n.right.map f }

end OperatorNode

end TritPuzzle
