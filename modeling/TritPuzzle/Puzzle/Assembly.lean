import TritPuzzle.Puzzle.Template

/-!
# Assembling a puzzle

A puzzle is assembled from the leaves upwards.  Each new inner node takes over
children that exist already and have no parent yet, so the nodes always form a
forest; the assembly is finished once a single tree is left.  Which nodes have a
parent is not looked up in the nodes: the assembly keeps a mark for every node.

A rejected step changes nothing: the steps are functions of the assembly, and a
failing one returns no new assembly.

## Main definitions

* `Assembly` — the nodes made so far, in order of creation, with their marks.
* `AssemblyError` — why a step is rejected.
* `Assembly.addValue`, `Assembly.addOperator` — new nodes.
* `Assembly.lockValue`, `Assembly.lockOperator` — fixing a content afterwards.
* `Assembly.finish` — the puzzle, with its nodes in order of creation.
-/

namespace TritPuzzle

/-- The nodes of a puzzle under assembly, in order of creation. -/
structure Assembly where
  /-- The leaves. -/
  values : List (Slot Trit)
  /-- The inner nodes. -/
  operators : List OperatorNode
  /-- For every leaf, whether it has a parent. -/
  valueMarks : List Bool
  /-- For every inner node, whether it has a parent. -/
  operatorMarks : List Bool
  deriving DecidableEq, Repr

/-- Why a step of an assembly is rejected. -/
inductive AssemblyError where
  /-- A slot refuses its content. -/
  | slot (error : SlotError)
  /-- There is no such node. -/
  | unknownNode (id : NodeId)
  /-- The node has a parent already. -/
  | sharedNode (id : NodeId)
  /-- The node cannot be the root, since it has a parent. -/
  | rootHasParent (id : NodeId)
  /-- The node has no parent and is not the root. -/
  | unreachable (id : NodeId)
  /-- The listing of the slots is not one of all slots. -/
  | slotOrder (reason : String)
  deriving DecidableEq, Repr

/-- The message for a rejected step. -/
def AssemblyError.message : AssemblyError → String
  | .slot e => e.message
  | .unknownNode id => "node " ++ id.text ++ " does not exist in this builder"
  | .sharedNode id => "node " ++ id.text ++ " already has a parent"
  | .rootHasParent id => "root " ++ id.text ++ " is a child of another node"
  | .unreachable id => "node " ++ id.text ++ " is not reachable from the root"
  | .slotOrder reason => "invalid slot order: " ++ reason

namespace Assembly

/-- The assembly without nodes. -/
def empty : Assembly := { values := [], operators := [], valueMarks := [], operatorMarks := [] }

/-! ### Marks -/

/-- Has the node a parent?  `none` if there is no such node. -/
def parented? (a : Assembly) : NodeId → Option Bool
  | .value i => a.valueMarks[i]?
  | .operator i => a.operatorMarks[i]?

/-- The assembly with a node marked as having a parent. -/
def mark (a : Assembly) : NodeId → Assembly
  | .value i => { a with valueMarks := a.valueMarks.set i true }
  | .operator i => { a with operatorMarks := a.operatorMarks.set i true }

/-- The nodes without a parent, leaves first. -/
def orphans (a : Assembly) : List NodeId :=
  (positions (!·) a.valueMarks).map .value ++ (positions (!·) a.operatorMarks).map .operator

/-! ### New nodes -/

/-- A new leaf. -/
def addValue (a : Assembly) (slot : Slot Trit) : NodeId × Assembly :=
  (.value a.values.length,
    { a with values := a.values ++ [slot], valueMarks := a.valueMarks ++ [false] })

/-- Why a node cannot become a child, if it cannot. -/
def refusal? (a : Assembly) (id : NodeId) : Option AssemblyError :=
  match a.parented? id with
  | none => some (.unknownNode id)
  | some true => some (.sharedNode id)
  | some false => none

/-- Why two nodes cannot become the children of one node, if they cannot.  The left
one is looked at first, and a right one equal to it counts as shared. -/
def refusalOfChildren? (a : Assembly) (left : NodeId) (right : Option NodeId) :
    Option AssemblyError :=
  a.refusal? left <|> right.bind fun r => if r = left then some (.sharedNode r) else a.refusal? r

/-- The assembly with a new inner node, whose children are marked. -/
def adopt (a : Assembly) (n : OperatorNode) : Assembly :=
  let b := n.children.foldl mark a
  { b with operators := b.operators ++ [n], operatorMarks := b.operatorMarks ++ [false] }

/-- A new inner node over existing nodes without parents. -/
def addOperator (a : Assembly) (slot : Slot Operator) (left : NodeId) (right : Option NodeId) :
    Except AssemblyError (NodeId × Assembly) :=
  match a.refusalOfChildren? left right with
  | some e => .error e
  | none =>
    match OperatorNode.make slot left right with
    | .error e => .error (.slot e)
    | .ok n => .ok (.operator a.operators.length, a.adopt n)

/-! ### Fixing contents -/

/-- Fixes the content of a leaf. -/
def lockValue (a : Assembly) (id : NodeId) (x : Trit) : Except AssemblyError Assembly :=
  match id with
  | .operator _ => .error (.unknownNode id)
  | .value i =>
    match a.values[i]? with
    | none => .error (.unknownNode id)
    | some s =>
      match s.lock x with
      | .error e => .error (.slot e)
      | .ok s' => .ok { a with values := a.values.set i s' }

/-- Fixes the operator of an inner node. -/
def lockOperator (a : Assembly) (id : NodeId) (op : Operator) : Except AssemblyError Assembly :=
  match id with
  | .value _ => .error (.unknownNode id)
  | .operator i =>
    match a.operators[i]? with
    | none => .error (.unknownNode id)
    | some n =>
      match n.lock op with
      | .error e => .error (.slot e)
      | .ok n' => .ok { a with operators := a.operators.set i n' }

/-! ### Finishing -/

/-- Why a node cannot be the root, if it cannot: it has to be the only node without
a parent.  Of several other nodes without a parent the first one is reported. -/
def rootFault? (a : Assembly) (root : NodeId) : Option AssemblyError :=
  match a.parented? root with
  | none => some (.unknownNode root)
  | some true => some (.rootHasParent root)
  | some false => (a.orphans.find? (· ≠ root)).map .unreachable

/-- The finished puzzle, with its nodes in order of creation. -/
def finish (a : Assembly) (root : NodeId) (answer : Trit) : Except AssemblyError Template :=
  match a.rootFault? root with
  | some e => .error e
  | none => .ok { root, answer, values := a.values, operators := a.operators }

end Assembly

end TritPuzzle
