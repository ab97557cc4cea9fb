import TritPuzzle.Json.Token
import TritPuzzle.Json.Value

/-!
# JSON documents

A document is read token by token.  The state between two tokens says what may
come next and which arrays and objects are still open, so nesting is limited by
nothing but the length of the document.

## Main definitions

* `Json.State`, `Json.State.step?` — reading one token.
* `Json.ofTokens?`, `Json.parse?` — the value of a whole document.
-/

namespace TritPuzzle.Json

/-- An array or object that is still open, with what it holds so far, last first. -/
inductive Frame where
  /-- An array. -/
  | items (before : List Json)
  /-- An object of which a key and its colon have been read. -/
  | members (before : List (Option String × Json)) (key : Option String)

/-- What has been read of a document, where `outer` holds the open arrays and objects
from the inside outwards. -/
inductive State where
  /-- A value has to follow. -/
  | value (outer : List Frame)
  /-- An array was opened: a value or the end of the array has to follow. -/
  | firstItem (outer : List Frame)
  /-- An object was opened: a key or the end of the object has to follow. -/
  | firstKey (outer : List Frame)
  /-- A key has to follow. -/
  | key (before : List (Option String × Json)) (outer : List Frame)
  /-- A colon has to follow. -/
  | colon (before : List (Option String × Json)) (key : Option String) (outer : List Frame)
  /-- A value has ended. -/
  | ended (value : Json) (outer : List Frame)

namespace State

/-- A token where a value has to begin. -/
def begin? (outer : List Frame) : Token → Option State
  | .null => some (.ended .null outer)
  | .bool b => some (.ended (.bool b) outer)
  | .number n => some (.ended (.number n) outer)
  | .string s => some (.ended (.string s) outer)
  | .openArray => some (.firstItem outer)
  | .openObject => some (.firstKey outer)
  | _ => none

/-- The state after one more token, if the token may come next. -/
def step? : State → Token → Option State
  | .value outer, t => begin? outer t
  | .firstItem outer, .closeArray => some (.ended (.array []) outer)
  | .firstItem outer, t => begin? (.items [] :: outer) t
  | .firstKey outer, .closeObject => some (.ended (.object []) outer)
  | .firstKey outer, .string k => some (.colon [] k outer)
  | .key before outer, .string k => some (.colon before k outer)
  | .colon before k outer, .colon => some (.value (.members before k :: outer))
  | .ended v (.items before :: outer), .comma => some (.value (.items (v :: before) :: outer))
  | .ended v (.items before :: outer), .closeArray =>
    some (.ended (.array (v :: before).reverse) outer)
  | .ended v (.members before k :: outer), .comma => some (.key ((k, v) :: before) outer)
  | .ended v (.members before k :: outer), .closeObject =>
    some (.ended (.object ((k, v) :: before).reverse) outer)
  | _, _ => none

/-- The value read, if the document may end here. -/
def finish? : State → Option Json
  | .ended v [] => some v
  | _ => none

end State

/-- The value of a document with the given tokens. -/
def ofTokens? (ts : List Token) : Option Json :=
  (ts.foldlM State.step? (.value [])).bind State.finish?

/-- The value of a document. -/
def parse? (s : String) : Option Json := (tokens? s.toList).bind ofTokens?

example : parse? " [1, \"\\ud800\", \x7b\"a\":null\x7d]" =
    some (.array [.number "1", .string none, .object [(some "a", .null)]]) := by rfl

example : parse? "[01]" = none := by rfl

end TritPuzzle.Json
