import TritPuzzle.Logic.Form
import TritPuzzle.Puzzle.Template

/-!
# Puzzles in JSON

Addresses and slots are alternatives; a template is a record of its root, its
answer and its two lists of nodes.  Positions are numbers of 64 bits.
-/

namespace TritPuzzle

/-- The number of positions that a JSON form can hold. -/
def indexBound : Nat := UInt64.size

/-- The position that a JSON value is. -/
def Json.index? (j : Json) : Option Nat := j.natBelow? indexBound

/-- An address in JSON. -/
def NodeId.toJson : NodeId → Json
  | .value i => .ofMembers [("Value", .ofNat i)]
  | .operator i => .ofMembers [("Operator", .ofNat i)]

/-- The address that a JSON value is. -/
def NodeId.ofJson? (j : Json) : Option NodeId := do
  let (tag, content) ← j.tagged?
  let i ← (← content).index?
  match tag with
  | "Value" => return .value i
  | "Operator" => return .operator i
  | _ => none

namespace Slot

variable {α : Type}

/-- A slot in JSON. -/
def toJson (content : α → Json) : Slot α → Json
  | .unset => .ofText "Unset"
  | .opened x => .ofMembers [("Open", content x)]
  | .locked x => .ofMembers [("Locked", content x)]

/-- The slot that a JSON value is. -/
def ofJson? (read? : Json → Option α) (j : Json) : Option (Slot α) := do
  let (tag, content) ← j.tagged?
  match tag with
  | "Unset" => if Json.isBare content then some .unset else none
  | "Open" => return .opened (← read? (← content))
  | "Locked" => return .locked (← read? (← content))
  | _ => none

end Slot

/-- A leaf in JSON. -/
def leafToJson (s : Slot Trit) : Json := .ofMembers [("state", s.toJson Trit.toJson)]

/-- An inner node in JSON. -/
def OperatorNode.toJson (n : OperatorNode) : Json :=
  .ofMembers [
    ("state", n.slot.toJson Operator.toJson),
    ("left", n.left.toJson),
    ("right", (n.right.map NodeId.toJson).getD .null)]

/-- A template in JSON. -/
def Template.toJson (t : Template) : Json :=
  .ofMembers [
    ("root", t.root.toJson),
    ("answer", t.answer.toJson),
    ("value_slots", .array (t.values.map leafToJson)),
    ("operator_slots", .array (t.operators.map OperatorNode.toJson))]

end TritPuzzle
