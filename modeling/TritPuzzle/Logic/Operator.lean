import TritPuzzle.Logic.Trit

/-!
# Operators

The five operators of puzzle expressions.  Negation takes one operand, the
others take two.

## Main definitions

* `Operator`, `Operator.arity` — the operators and their operand counts.
* `Operator.apply` — the truth tables.
* `Operator.nextOf`, `Operator.firstOf` — cycling among the operators of one arity.
-/

namespace TritPuzzle

/-- How many operands an operator takes. -/
inductive Arity where
  /-- One operand. -/
  | unary
  /-- Two operands. -/
  | binary
  deriving DecidableEq, Repr

/-- The name of an arity. -/
def Arity.name : Arity → String
  | .unary => "Unary"
  | .binary => "Binary"

/-- Both arities. -/
def Arity.all : List Arity := [.unary, .binary]

/-- A logical operator on trits. -/
inductive Operator where
  /-- Negation, the only operator with one operand. -/
  | not
  /-- Conjunction. -/
  | and
  /-- Disjunction. -/
  | or
  /-- Exclusive disjunction. -/
  | xor
  /-- Implication from the left operand to the right one. -/
  | imply
  deriving DecidableEq, Repr

namespace Operator

/-- The operators in the order in which a slot cycles through them. -/
def all : List Operator := [.not, .and, .or, .xor, .imply]

/-- The number of operands. -/
def arity : Operator → Arity
  | .not => .unary
  | _ => .binary

/-- Does the operator take a single operand? -/
def isUnary (op : Operator) : Bool := op.arity = .unary

/-- The word for the operator in expressions. -/
def keyword : Operator → String
  | .not => "NOT"
  | .and => "AND"
  | .or => "OR"
  | .xor => "XOR"
  | .imply => "IMPLY"

/-- The name of the operator. -/
def name : Operator → String
  | .not => "Not"
  | .and => "And"
  | .or => "Or"
  | .xor => "Xor"
  | .imply => "Imply"

/-! ### Truth tables -/

/-- The function of an operator with two operands. -/
def connective? : Operator → Option (Trit → Trit → Trit)
  | .not => none
  | .and => some Trit.and
  | .or => some Trit.or
  | .xor => some Trit.xor
  | .imply => some Trit.imply

/-- The value of an operator on its operands.  Negation reads the left operand
only; the others have no value without a right operand. -/
def apply (op : Operator) (left : Trit) (right : Option Trit) : Option Trit :=
  match op.connective? with
  | none => some left.not
  | some f => right.map (f left)

theorem isUnary_iff (op : Operator) : op.isUnary = true ↔ op.arity = .unary := by
  simp [isUnary]

/-- Exactly the operators with a single operand have no function of two operands. -/
theorem connective?_eq_none_iff (op : Operator) :
    op.connective? = none ↔ op.isUnary = true := by
  cases op <;> decide

theorem exists_connective? {op : Operator} (h : op.arity = .binary) :
    ∃ f, op.connective? = some f := by
  cases hf : op.connective? with
  | none =>
    rw [connective?_eq_none_iff, isUnary_iff, h] at hf
    simp at hf
  | some f => exact ⟨f, rfl⟩

/-! ### Cycling -/

/-- The operator of the given arity that comes next after `op` in cycling order,
going round; `op` itself when there is no other. -/
def nextOf (arity : Arity) (op : Operator) : Operator :=
  let rest := (all.dropWhile (· ≠ op)).drop 1
  ((rest ++ all).find? (·.arity = arity)).getD op

/-- The first operator of the given arity in cycling order. -/
def firstOf : Arity → Operator
  | .unary => .not
  | .binary => .and

@[simp] theorem arity_nextOf (arity : Arity) (op : Operator) : (op.nextOf arity).arity = arity := by
  cases arity <;> cases op <;> decide

@[simp] theorem arity_firstOf (arity : Arity) : (firstOf arity).arity = arity := by
  cases arity <;> rfl

end Operator

end TritPuzzle
