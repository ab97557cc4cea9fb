import TritPuzzle.Logic.Operator
import TritPuzzle.Text.Blank
import TritPuzzle.Text.Decimal
import TritPuzzle.Text.Quoted

/-!
# Reading trits and operators

A trit is read from its digit or from its initial in either case, an operator
from its keyword in any mixture of ASCII cases.  Blanks around the word do not
matter.  What cannot be read is reported without those blanks.

## Main definitions

* `ReadError` — why a text or a number is no trit or no operator.
* `Trit.ofDigit`, `Trit.read`, `Operator.read` — the readers.
-/

namespace TritPuzzle

/-- Why something is no trit or no operator. -/
inductive ReadError where
  /-- A number that is no digit of a trit. -/
  | outOfRange (number : Nat)
  /-- A text that is no trit. -/
  | notTrit (text : String)
  /-- A text that is no operator. -/
  | notOperator (text : String)
  deriving DecidableEq, Repr

/-- The message for a reading error. -/
def ReadError.message : ReadError → String
  | .outOfRange n => "trit value out of range: " ++ Text.decimal n ++ " (must be 0, 1 or 2)"
  | .notTrit s => "cannot parse trit from " ++ Text.quoted s
  | .notOperator s => "unknown operator " ++ Text.quoted s

/-- The trit with the given digit. -/
def Trit.ofDigit (n : Nat) : Except ReadError Trit :=
  match Trit.ofDigit? n with
  | some a => .ok a
  | none => .error (.outOfRange n)

/-- The trit a word without blanks around it stands for. -/
def Trit.ofWord? : List Char → Option Trit
  | ['0'] | ['F'] | ['f'] => some .false
  | ['1'] | ['N'] | ['n'] => some .neutral
  | ['2'] | ['T'] | ['t'] => some .true
  | _ => none

/-- Reads a trit. -/
def Trit.read (s : String) : Except ReadError Trit :=
  match Trit.ofWord? (Text.trim s).toList with
  | some a => .ok a
  | none => .error (.notTrit (Text.trim s))

/-- The operator a word without blanks around it stands for.  Only ASCII letters
have a second case. -/
def Operator.ofWord? (word : List Char) : Option Operator :=
  Operator.all.find? fun op => word.map Char.toUpper == op.keyword.toList

/-- Reads an operator. -/
def Operator.read (s : String) : Except ReadError Operator :=
  match Operator.ofWord? (Text.trim s).toList with
  | some op => .ok op
  | none => .error (.notOperator (Text.trim s))

end TritPuzzle
