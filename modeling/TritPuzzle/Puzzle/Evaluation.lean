import TritPuzzle.Puzzle.Tree

/-!
# Evaluation

A tree evaluates to the trit that its operators make of its leaves.  A tree with
an empty slot has no value; the first empty slot met is reported, where a node
is met before its left subtree and that before its right one.

## Main definitions

* `EvalError` — why a tree has no value.
* `Tree.eval` — the value of a tree.
* `Template.evalAt`, `Template.eval`, `Template.isSolved` — the value of a node,
  the value of the whole puzzle, and whether it is the answer.
-/

namespace TritPuzzle

/-- Why a tree has no value. -/
inductive EvalError where
  /-- A leaf is empty. -/
  | emptyValue (id : NodeId)
  /-- An inner node has no operator. -/
  | emptyOperator (id : NodeId)
  /-- There is no such node, or its operator does not fit its children. -/
  | malformed (id : NodeId)
  deriving DecidableEq, Repr

namespace EvalError

/-- The message for a tree without a value. -/
def message : EvalError → String
  | .emptyValue id => "value slot " ++ id.text ++ " is unassigned"
  | .emptyOperator id => "operator slot " ++ id.text ++ " is unassigned"
  | .malformed id => "node " ++ id.text ++ " is malformed"

/-- The node that has no value. -/
def node : EvalError → NodeId
  | .emptyValue id => id
  | .emptyOperator id => id
  | .malformed id => id

/-- Will filling slots help? -/
def isIncomplete : EvalError → Bool
  | .malformed _ => false
  | _ => true

end EvalError

/-- The value of a tree. -/
def Tree.eval : Tree → Except EvalError Trit
  | .missing id => .error (.malformed id)
  | .leaf i slot =>
    match slot.content? with
    | none => .error (.emptyValue (.value i))
    | some x => .ok x
  | .unary i slot child =>
    match slot.content? with
    | none => .error (.emptyOperator (.operator i))
    | some op =>
      match op.connective? with
      | some _ => .error (.malformed (.operator i))
      | none => do
        let x ← child.eval
        return x.not
  | .binary i slot left right =>
    match slot.content? with
    | none => .error (.emptyOperator (.operator i))
    | some op =>
      match op.connective? with
      | none => .error (.malformed (.operator i))
      | some f => do
        let x ← left.eval
        let y ← right.eval
        return f x y

namespace Tree

theorem eval_leaf_eq_ok_iff {i : Nat} {slot : Slot Trit} {x : Trit} :
    (leaf i slot).eval = .ok x ↔ slot.content? = some x := by
  rw [eval]
  cases slot.content? <;> simp

/-- Negation is applied to the value of the child. -/
theorem eval_unary_of_connective?_eq_none (i : Nat) {slot : Slot Operator} (child : Tree)
    {op : Operator} (hop : slot.content? = some op) (hnot : op.connective? = none) :
    (unary i slot child).eval = child.eval.map Trit.not := by
  rw [eval, hop]
  cases child.eval <;> simp [hnot, bind, Except.bind, pure, Except.pure, Except.map]

/-- Another operator is applied to the values of the children, the left one first. -/
theorem eval_binary_of_connective?_eq_some (i : Nat) {slot : Slot Operator}
    (left right : Tree) {op : Operator} {f : Trit → Trit → Trit}
    (hop : slot.content? = some op) (hf : op.connective? = some f) :
    (binary i slot left right).eval =
      left.eval.bind fun x => right.eval.map fun y => f x y := by
  rw [eval, hop]
  cases left.eval <;> cases right.eval <;>
    simp [hf, bind, Except.bind, pure, Except.pure, Except.map]

/-- An inner node with one child has a value when its operator is the negation and the
child has one. -/
theorem eval_unary_eq_ok_iff {i : Nat} {slot : Slot Operator} {child : Tree} {x : Trit} :
    (unary i slot child).eval = .ok x ↔
      ∃ op y, slot.content? = some op ∧ op.connective? = none ∧ child.eval = .ok y ∧
        x = y.not := by
  rw [eval]
  cases slot.content? with
  | none => simp
  | some op =>
    cases hop : op.connective? with
    | some f => simp [hop]
    | none => cases child.eval <;> simp [hop, bind, Except.bind, pure, Except.pure, eq_comm]

/-- An inner node with two children has a value when its operator takes two operands and
both children have one. -/
theorem eval_binary_eq_ok_iff {i : Nat} {slot : Slot Operator} {left right : Tree} {x : Trit} :
    (binary i slot left right).eval = .ok x ↔
      ∃ op f y z, slot.content? = some op ∧ op.connective? = some f ∧ left.eval = .ok y ∧
        right.eval = .ok z ∧ x = f y z := by
  rw [eval]
  cases slot.content? with
  | none => simp
  | some op =>
    cases hop : op.connective? with
    | none => simp [hop]
    | some f =>
      cases left.eval <;> cases right.eval <;>
        simp [hop, bind, Except.bind, pure, Except.pure, eq_comm]

end Tree

namespace Template

/-- The value of the tree under a node. -/
def evalAt (t : Template) (id : NodeId) : Except EvalError Trit := (t.tree id).eval

/-- The value of the whole puzzle. -/
def eval (t : Template) : Except EvalError Trit := t.evalAt t.root

/-- Is the value of the puzzle its answer? -/
def isSolved (t : Template) : Except EvalError Bool := t.eval.map (· = t.answer)

/-- The value of the puzzle for display, if it has one. -/
def result? (t : Template) : Option Trit := t.eval.toOption

end Template

end TritPuzzle
