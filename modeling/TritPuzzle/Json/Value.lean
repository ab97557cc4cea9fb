/-!
# JSON values

A JSON value as a document spells it out.  Numbers keep their spelling, members
keep their order, and a key may occur twice.

A string may contain an escape for one half of a surrogate pair, which stands
for no character.  Such a string is well-formed but names no text, so the text of
a string is optional; the same holds for keys.
-/

namespace TritPuzzle

/-- A JSON value. -/
inductive Json where
  /-- The value `null`. -/
  | null
  /-- A truth value. -/
  | bool (b : Bool)
  /-- A number, as spelled. -/
  | number (numeral : String)
  /-- A string and the text it names, if it names one. -/
  | string (text : Option String)
  /-- An array. -/
  | array (items : List Json)
  /-- An object with its members in order. -/
  | object (members : List (Option String × Json))
  deriving Repr, Inhabited

namespace Json

/-- The string that names a text. -/
def ofText (s : String) : Json := .string (some s)

/-- The number with the given value. -/
def ofNat (n : Nat) : Json := .number (String.ofList (Nat.toDigits 10 n))

/-- The object with the given members. -/
def ofMembers (ms : List (String × Json)) : Json :=
  .object (ms.map fun m => (some m.1, m.2))

end Json

end TritPuzzle
