/-!
# Trits

A trit is one of three truth values, ordered `false < neutral < true` by its
digit.  Conjunction and disjunction are the lesser and the greater value,
negation turns the order round, and the remaining connectives are composed from
these three: strong Kleene logic.

## Main definitions

* `Trit` — the three values, with `Trit.digit` and `Trit.ofDigit?`.
* `Trit.not`, `Trit.and`, `Trit.or`, `Trit.xor`, `Trit.imply` — the connectives.
* `Trit.next` — the order in which a slot cycles through the values.
-/

namespace TritPuzzle

/-- A truth value of three-valued logic. -/
inductive Trit where
  /-- Certainly false; the digit `0`. -/
  | false
  /-- Undecided; the digit `1`. -/
  | neutral
  /-- Certainly true; the digit `2`. -/
  | true
  deriving DecidableEq, Repr, Inhabited

namespace Trit

/-- The three values in ascending order. -/
def all : List Trit := [.false, .neutral, .true]

/-- The digit that stands for a value. -/
def digit : Trit → Nat
  | .false => 0
  | .neutral => 1
  | .true => 2

/-- The value a digit stands for. -/
def ofDigit? : Nat → Option Trit
  | 0 => some .false
  | 1 => some .neutral
  | 2 => some .true
  | _ => none

@[simp] theorem ofDigit?_digit (a : Trit) : ofDigit? a.digit = some a := by
  cases a <;> rfl

theorem digit_injective {a b : Trit} (h : a.digit = b.digit) : a = b := by
  have h' : ofDigit? a.digit = ofDigit? b.digit := by rw [h]
  simpa using h'

/-- The name of a value. -/
def name : Trit → String
  | .false => "False"
  | .neutral => "Neutral"
  | .true => "True"

/-- A value as it appears in expressions and messages: its digit. -/
def text : Trit → String
  | .false => "0"
  | .neutral => "1"
  | .true => "2"

/-! ### Order -/

instance : LE Trit where
  le a b := a.digit ≤ b.digit

instance (a b : Trit) : Decidable (a ≤ b) := inferInstanceAs (Decidable (a.digit ≤ b.digit))

instance : Min Trit := minOfLe

instance : Max Trit := maxOfLe

instance : Ord Trit where
  compare a b := compare a.digit b.digit

/-! ### Connectives -/

/-- Negation: `false` and `true` change places. -/
protected def not : Trit → Trit
  | .false => .true
  | .neutral => .neutral
  | .true => .false

/-- Conjunction: the lesser of the two values. -/
protected def and (a b : Trit) : Trit := if a.digit ≤ b.digit then a else b

/-- Disjunction: the greater of the two values. -/
protected def or (a b : Trit) : Trit := if b.digit ≤ a.digit then a else b

/-- Exclusive disjunction: one of the two holds and the other does not. -/
protected def xor (a b : Trit) : Trit := (a.and b.not).or (a.not.and b)

/-- Material implication: the first does not hold, or the second does. -/
protected def imply (a b : Trit) : Trit := a.not.or b

instance : Complement Trit := ⟨Trit.not⟩

instance : AndOp Trit := ⟨Trit.and⟩

instance : OrOp Trit := ⟨Trit.or⟩

instance : XorOp Trit := ⟨Trit.xor⟩

@[simp] theorem not_not (a : Trit) : a.not.not = a := by cases a <;> rfl

/-- Negation turns the order of the digits round. -/
theorem digit_not (a : Trit) : a.not.digit = 2 - a.digit := by cases a <;> rfl

/-! ### Cycling -/

/-- The value after this one when a slot is cycled; `false` follows `true`. -/
def next : Trit → Trit
  | .false => .neutral
  | .neutral => .true
  | .true => .false

/-- The digit goes up by one, and from two back to zero. -/
theorem digit_next (a : Trit) : a.next.digit = (a.digit + 1) % 3 := by cases a <;> rfl

/-- Three steps come back to the start. -/
theorem next_next_next (a : Trit) : a.next.next.next = a := by cases a <;> rfl

end Trit

end TritPuzzle
