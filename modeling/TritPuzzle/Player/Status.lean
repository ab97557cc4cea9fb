import TritPuzzle.Play.Board
import TritPuzzle.Play.Scorer

/-!
# The status line

The player is told in one line what the last action did.
-/

namespace TritPuzzle

/-- What the last action of a player did. -/
inductive Status where
  /-- A puzzle was loaded. -/
  | loaded (name : String)
  /-- The slot has a new content. -/
  | updated (id : NodeId)
  /-- The slot is locked. -/
  | locked (id : NodeId)
  /-- A trit was entered with no leaf selected. -/
  | noValueSelected
  /-- There is no puzzle to check. -/
  | noPuzzle
  /-- The puzzle is solved. -/
  | correct
  /-- The puzzle has the wrong value; `count` is the number of wrong answers so far, and
  `hint` tells whether the player gets a hint. -/
  | incorrect (result : Trit) (count : Nat) (hint : Bool)
  /-- The puzzle has empty slots. -/
  | notReady (error : EvalError)
  /-- An input event failed. -/
  | inputFailed (error : InputError)
  /-- A check failed. -/
  | checkFailed (error : EvalError)
  /-- A puzzle could not be loaded. -/
  | loadFailed (error : CatalogError)
  deriving DecidableEq, Repr

namespace Status

/-- The line shown to the player. -/
def text : Status → String
  | .loaded name =>
    "Loaded " ++ name ++ ". ←→ select, space cycle, 0/1/2 set, c check, q quit."
  | .updated id => "Updated " ++ id.text ++ "."
  | .locked id => id.text ++ " is locked."
  | .noValueSelected => "Select a value slot first."
  | .noPuzzle => "No puzzle loaded."
  | .correct => "Correct!"
  | .incorrect result count hint =>
    "Incorrect: left side is " ++ result.text ++ " (mistakes: " ++ Text.decimal count ++ ")." ++
      if hint then " Hint: try changing a different slot." else ""
  | .notReady e => "Not ready: " ++ e.message ++ "."
  | .inputFailed e => "Error: " ++ e.message
  | .checkFailed e => "Error: " ++ e.message
  | .loadFailed e => "Error: " ++ e.message

/-- The status after an event. -/
def ofOutcome : Outcome → Status
  | .applied id => .updated id
  | .ignored id => .locked id

/-- The status after a check. -/
def ofVerdict : Verdict → Status
  | .correct => .correct
  | .incorrect result count flagged => .incorrect result count flagged
  | .incomplete e => .notReady e

end Status

end TritPuzzle
