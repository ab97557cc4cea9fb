import TritPuzzle.Puzzle.Node

/-!
# Templates

A template is a whole puzzle: its nodes in two lists, the root of the tree they
form, and the trit that the tree should evaluate to.  The position of a node in
its list is what a player addresses, so the lists keep their order and length
for good; only the content of a slot that is not locked ever changes.

## Main definitions

* `Template` — a puzzle; `Template.node?` looks up a node.
* `Template.isComplete` — every slot has a content.
* `Template.openValues`, `Template.openOperators` — the slots left to the player.
* `Template.setValue?`, `Template.setOperator?` — the only changes.
-/

namespace TritPuzzle

/-- A puzzle: a tree of slots and the trit it should evaluate to. -/
structure Template where
  /-- The node at the top of the tree. -/
  root : NodeId
  /-- The trit that solves the puzzle. -/
  answer : Trit
  /-- The leaves. -/
  values : List (Slot Trit)
  /-- The inner nodes. -/
  operators : List OperatorNode
  deriving DecidableEq, Repr

/-- A node of either kind. -/
inductive Node where
  /-- A leaf. -/
  | leaf (slot : Slot Trit)
  /-- An inner node. -/
  | inner (node : OperatorNode)
  deriving DecidableEq, Repr

/-- Is the slot of the node locked? -/
def Node.isLocked : Node → Bool
  | .leaf s => s.isLocked
  | .inner n => n.slot.isLocked

/-- The positions in a list whose entries satisfy a test. -/
def positions {α : Type} (p : α → Bool) (xs : List α) : List Nat :=
  (xs.zipIdx.filter fun x => p x.1).map (·.2)

/-- The positions that satisfy a test are those of the entries that do. -/
theorem mem_positions {α : Type} {p : α → Bool} {xs : List α} {i : Nat} :
    i ∈ positions p xs ↔ ∃ x, xs[i]? = some x ∧ p x = true := by
  simp only [positions, List.mem_map, List.mem_filter, Prod.exists, List.mem_zipIdx_iff_getElem?]
  constructor
  · rintro ⟨x, j, ⟨hj, hp⟩, rfl⟩
    exact ⟨x, hj, hp⟩
  · rintro ⟨x, hx, hp⟩
    exact ⟨x, i, ⟨hx, hp⟩, rfl⟩

namespace Template

/-- The node with the given address. -/
def node? (t : Template) : NodeId → Option Node
  | .value i => t.values[i]?.map .leaf
  | .operator i => t.operators[i]?.map .inner

/-- The number of slots of both kinds. -/
def slotCount (t : Template) : Nat := t.values.length + t.operators.length

/-- Has every slot a content? -/
def isComplete (t : Template) : Bool :=
  t.values.all (·.isAssigned) && t.operators.all (·.slot.isAssigned)

/-- The positions of the leaves that are not locked. -/
def openValues (t : Template) : List Nat := positions (fun s => !s.isLocked) t.values

/-- The positions of the inner nodes that are not locked. -/
def openOperators (t : Template) : List Nat := positions (fun n => !n.slot.isLocked) t.operators

/-- The template with the content of a leaf replaced; `none` if there is no leaf
at the position. -/
def setValue? (t : Template) (slot : Nat) (x : Trit) : Option (Except SlotError Template) :=
  t.values[slot]?.map fun s => (s.set x).map fun s' => { t with values := t.values.set slot s' }

/-- The template with the operator of an inner node replaced; `none` if there is
no inner node at the position. -/
def setOperator? (t : Template) (slot : Nat) (op : Operator) :
    Option (Except SlotError Template) :=
  t.operators[slot]?.map fun n =>
    (n.set op).map fun n' => { t with operators := t.operators.set slot n' }

end Template

end TritPuzzle
