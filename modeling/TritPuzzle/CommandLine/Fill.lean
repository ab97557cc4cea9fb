import TritPuzzle.Logic.Reading
import TritPuzzle.Play.Event
import TritPuzzle.Text.Parts

/-!
# Fills

A fill names the contents of slots by position, separated by commas: `?,2` leaves
the first slot alone and puts `2` into the second one.  A field that is empty, a
question mark or a hyphen leaves its slot alone; blanks around a field do not
matter.

## Main definitions

* `fillEntries` — the positions and words of the fields that fill a slot.
* `readFill` — the events that fill the slots of both kinds.
-/

namespace TritPuzzle.CommandLine

/-- Does the field leave its slot alone? -/
def isSkip (field : List Char) : Bool := field = [] || field = ['?'] || field = ['-']

/-- The positions and words of the fields that fill a slot, for a text that is divided. -/
def fieldEntries (s : String) : List (Nat × String) :=
  (((Text.parts ',' s.toList).map Text.trimmed).zipIdx.filter fun f => !isSkip f.1).map fun f =>
    (f.2, String.ofList f.1)

/-- The positions and words of the fields that fill a slot.  Blanks alone are not divided. -/
def fillEntries (s : String) : List (Nat × String) :=
  if (Text.trimmed s.toList).isEmpty then [] else fieldEntries s

example : fillEntries " 0 , - ,T" = [(0, "0"), (2, "T")] := by decide

/-- Why a fill is not understood. -/
inductive FillError where
  /-- A field is no trit. -/
  | value (slot : Nat) (error : ReadError)
  /-- A field is no operator. -/
  | operator (slot : Nat) (error : ReadError)
  deriving DecidableEq, Repr

/-- The message for a fill that is not understood. -/
def FillError.message : FillError → String
  | .value slot e => "Value " ++ Text.decimal slot ++ ": " ++ e.message
  | .operator slot e => "Operator " ++ Text.decimal slot ++ ": " ++ e.message

/-- The event that one field of a fill of leaves stands for. -/
def readValue (entry : Nat × String) : Except FillError SlotEvent :=
  match Trit.read entry.2 with
  | .ok x => .ok (.setValue entry.1 x)
  | .error e => .error (.value entry.1 e)

/-- The event that one field of a fill of inner nodes stands for. -/
def readOperator (entry : Nat × String) : Except FillError SlotEvent :=
  match Operator.read entry.2 with
  | .ok op => .ok (.setOperator entry.1 op)
  | .error e => .error (.operator entry.1 e)

/-- The events that fill the leaves and then the inner nodes. -/
def readFill (values operators : String) : Except FillError (List SlotEvent) := do
  return (← (fillEntries values).mapM readValue) ++ (← (fillEntries operators).mapM readOperator)

end TritPuzzle.CommandLine
