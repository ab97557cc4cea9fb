import TritPuzzle.Json.Form
import TritPuzzle.Logic.Operator

/-!
# Trits and operators in JSON

Trits, operators and arities are alternatives without content: they are written
as their names.
-/

namespace TritPuzzle

/-- A trit in JSON. -/
def Trit.toJson (a : Trit) : Json := .ofText a.name

/-- The trit that a JSON value is. -/
def Trit.ofJson? (j : Json) : Option Trit := j.choice? Trit.all Trit.name

/-- An operator in JSON. -/
def Operator.toJson (op : Operator) : Json := .ofText op.name

/-- The operator that a JSON value is. -/
def Operator.ofJson? (j : Json) : Option Operator := j.choice? Operator.all Operator.name

/-- An arity in JSON. -/
def Arity.toJson (a : Arity) : Json := .ofText a.name

/-- The arity that a JSON value is. -/
def Arity.ofJson? (j : Json) : Option Arity := j.choice? Arity.all Arity.name

end TritPuzzle
