import TritPuzzle.Puzzle.Form

/-!
# Input events

A player changes one slot at a time, by setting its content or by cycling it.  A
change of a locked slot is ignored; any other refusal of the slot is an error.
An event that is not applied leaves the puzzle as it was.

## Main definitions

* `SlotEvent` — a change of one slot, with `SlotEvent.target`.
* `Template.apply` — the effect of an event on a puzzle.
-/

namespace TritPuzzle

/-- A change of one slot, named by its position. -/
inductive SlotEvent where
  /-- A leaf gets the given trit. -/
  | setValue (slot : Nat) (value : Trit)
  /-- A leaf gets the next trit, starting at `false`. -/
  | cycleValue (slot : Nat)
  /-- An inner node gets the given operator. -/
  | setOperator (slot : Nat) (op : Operator)
  /-- An inner node gets the next operator that fits its children. -/
  | cycleOperator (slot : Nat)
  deriving DecidableEq, Repr

/-- What became of an event. -/
inductive Outcome where
  /-- The slot has a new content. -/
  | applied (id : NodeId)
  /-- The slot is locked, and nothing changed. -/
  | ignored (id : NodeId)
  deriving DecidableEq, Repr

/-- Why an event is no change. -/
inductive InputError where
  /-- There is no puzzle. -/
  | noPuzzle
  /-- There is no such slot. -/
  | noSuchSlot (id : NodeId)
  /-- The slot refuses the change. -/
  | rejected (id : NodeId) (error : SlotError)
  deriving DecidableEq, Repr

/-- The message for an event that is no change. -/
def InputError.message : InputError → String
  | .noPuzzle => "no puzzle is loaded"
  | .noSuchSlot id => "slot " ++ id.text ++ " does not exist"
  | .rejected id e => "slot " ++ id.text ++ " rejected the change: " ++ e.message

namespace SlotEvent

/-- The address of the slot to be changed. -/
def target : SlotEvent → NodeId
  | .setValue slot _ => .value slot
  | .cycleValue slot => .value slot
  | .setOperator slot _ => .operator slot
  | .cycleOperator slot => .operator slot

/-- The event in words. -/
def describe : SlotEvent → String
  | .setValue slot value =>
    "SetValue \x7b slot: " ++ Text.decimal slot ++ ", value: " ++ value.name ++ " \x7d"
  | .cycleValue slot => "CycleValue \x7b slot: " ++ Text.decimal slot ++ " \x7d"
  | .setOperator slot op =>
    "SetOperator \x7b slot: " ++ Text.decimal slot ++ ", op: " ++ op.name ++ " \x7d"
  | .cycleOperator slot => "CycleOperator \x7b slot: " ++ Text.decimal slot ++ " \x7d"

/-! ### In JSON -/

/-- The event in JSON. -/
def toJson : SlotEvent → Json
  | .setValue slot value =>
    .ofMembers [("SetValue", .ofMembers [("slot", .ofNat slot), ("value", value.toJson)])]
  | .cycleValue slot => .ofMembers [("CycleValue", .ofMembers [("slot", .ofNat slot)])]
  | .setOperator slot op =>
    .ofMembers [("SetOperator", .ofMembers [("slot", .ofNat slot), ("op", op.toJson)])]
  | .cycleOperator slot => .ofMembers [("CycleOperator", .ofMembers [("slot", .ofNat slot)])]

/-- The event that a record of a slot alone stands for. -/
def ofSlot? (make : Nat → SlotEvent) (record : Json) : Option SlotEvent := do
  match ← record.fields? ["slot"] with
  | [slot] => return make (← (← slot).index?)
  | _ => none

/-- The event that a record of a slot and a content stands for. -/
def ofSlotAnd? {α : Type} (make : Nat → α → SlotEvent) (field : String) (read? : Json → Option α)
    (record : Json) : Option SlotEvent := do
  match ← record.fields? ["slot", field] with
  | [slot, content] => return make (← (← slot).index?) (← read? (← content))
  | _ => none

/-- The event that a JSON value is. -/
def ofJson? (j : Json) : Option SlotEvent := do
  let (tag, content) ← j.tagged?
  let record ← content
  match tag with
  | "SetValue" => ofSlotAnd? .setValue "value" Trit.ofJson? record
  | "CycleValue" => ofSlot? .cycleValue record
  | "SetOperator" => ofSlotAnd? .setOperator "op" Operator.ofJson? record
  | "CycleOperator" => ofSlot? .cycleOperator record
  | _ => none

end SlotEvent

namespace Template

/-- The content that a leaf gets when it is cycled. -/
def nextValue (s : Slot Trit) : Trit :=
  match s.content? with
  | none => .false
  | some x => x.next

/-- The operator that an inner node gets when it is cycled. -/
def nextOperator (n : OperatorNode) : Operator :=
  match n.slot.content? with
  | none => Operator.firstOf n.arity
  | some op => op.nextOf n.arity

/-- The puzzle after the change that an event asks for; `none` if there is no such
slot. -/
def change? (t : Template) : SlotEvent → Option (Except SlotError Template)
  | .setValue slot value => t.setValue? slot value
  | .cycleValue slot => t.values[slot]?.bind fun s => t.setValue? slot (nextValue s)
  | .setOperator slot op => t.setOperator? slot op
  | .cycleOperator slot => t.operators[slot]?.bind fun n => t.setOperator? slot (nextOperator n)

/-- The effect of an event on a puzzle. -/
def apply (t : Template) (e : SlotEvent) : Except InputError (Outcome × Template) :=
  match t.change? e with
  | none => .error (.noSuchSlot e.target)
  | some (.ok t') => .ok (.applied e.target, t')
  | some (.error .locked) => .ok (.ignored e.target, t)
  | some (.error err) => .error (.rejected e.target err)

end Template

end TritPuzzle
