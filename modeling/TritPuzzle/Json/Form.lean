import TritPuzzle.Json.Document
import TritPuzzle.Json.Printer

/-!
# Forms of typed values

The usual forms of typed values in JSON, and how they are read.  An alternative
is an object with one member, whose key is the alternative's name; one without
content may be its bare name.  A record is an object with a member a field,
where other members do not matter, or an array of the fields in order.

## Main definitions

* `Json.text?`, `Json.natBelow?` — texts and bounded numbers.
* `Json.tagged?`, `Json.choice?` — alternatives.
* `Json.fields?`, `Json.fieldOr` — records.
-/

namespace TritPuzzle.Json

/-- The text a value names. -/
def text? : Json → Option String
  | .string s => s
  | _ => none

/-- The natural number below a bound that a value is. -/
def natBelow? (bound : Nat) : Json → Option Nat
  | .number n => (natural? n.toList).filter (· < bound)
  | _ => none

/-- The number of 32 bits that a value is. -/
def uint32? (j : Json) : Option UInt32 := (j.natBelow? UInt32.size).map UInt32.ofNat

/-! ### Alternatives -/

/-- The name of an alternative and its content, if there is one. -/
def tagged? : Json → Option (String × Option Json)
  | .string s => s.map (·, none)
  | .object [(some name, v)] => some (name, some v)
  | _ => none

/-- Is the content of an alternative absent or null? -/
def isBare : Option Json → Bool
  | none => true
  | some .null => true
  | _ => false

/-- The value among `all` whose name is given, for a type of alternatives without
content. -/
def choice? {α : Type} (all : List α) (name : α → String) (j : Json) : Option α := do
  let (tag, content) ← j.tagged?
  if isBare content then all.find? (name · = tag) else none

/-! ### Records -/

/-- The value of the member with the given key, if there is one; fails if there are
several. -/
def member? (members : List (Option String × Json)) (key : String) : Option (Option Json) :=
  match members.filter (·.1 = some key) with
  | [] => some none
  | [m] => some (some m.2)
  | _ => none

/-- The values of the fields of a record, where a field may be absent.  Fails if a
field is given twice, if a key names no text, or if there are more items than
fields. -/
def fields? (names : List String) : Json → Option (List (Option Json))
  | .array items =>
    if items.length ≤ names.length then some (names.zipIdx.map fun n => items[n.2]?) else none
  | .object members =>
    if members.all (·.1.isSome) then names.mapM (member? members) else none
  | _ => none

/-- The value of a field with a default: the default if the field is absent, and
otherwise what is read, which may fail. -/
def fieldOr {α : Type} (default : α) (read? : Json → Option α) : Option Json → Option α
  | none => some default
  | some j => read? j

end TritPuzzle.Json
