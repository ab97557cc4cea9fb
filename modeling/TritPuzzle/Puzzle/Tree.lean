import TritPuzzle.Puzzle.Template

/-!
# The tree under a node

A template lists its nodes; `Template.tree` follows the links from a node and
returns the tree that hangs there, with the address of every node in it.  What
is evaluated and what is written of a template is computed on that tree.

The descent is bounded by the number of inner nodes.  In a tree no inner node
occurs twice on a path, so the bound never cuts a path short; it only stops the
descent of a list of nodes that forms no tree.
-/

namespace TritPuzzle

/-- The tree under a node of a template. -/
inductive Tree where
  /-- An address at which there is no node. -/
  | missing (id : NodeId)
  /-- A leaf. -/
  | leaf (index : Nat) (slot : Slot Trit)
  /-- An inner node with one child. -/
  | unary (index : Nat) (slot : Slot Operator) (child : Tree)
  /-- An inner node with two children. -/
  | binary (index : Nat) (slot : Slot Operator) (left right : Tree)
  deriving DecidableEq, Repr

/-- The address of the topmost node. -/
def Tree.id : Tree → NodeId
  | .missing id => id
  | .leaf i _ => .value i
  | .unary i _ _ => .operator i
  | .binary i _ _ _ => .operator i

/-- The addresses of the nodes in the order of evaluation: a node, then its left
subtree, then its right one. -/
def Tree.ids : Tree → List NodeId
  | .missing id => [id]
  | .leaf i _ => [.value i]
  | .unary i _ c => .operator i :: c.ids
  | .binary i _ l r => .operator i :: (l.ids ++ r.ids)

/-- The number of nodes on the longest path downwards. -/
def Tree.height : Tree → Nat
  | .missing _ => 1
  | .leaf _ _ => 1
  | .unary _ _ c => c.height + 1
  | .binary _ _ l r => max l.height r.height + 1

namespace Template

/-- The tree under a node, cut below the given number of inner nodes. -/
def treeWithin (t : Template) : Nat → NodeId → Tree
  | _, .value i =>
    match t.values[i]? with
    | some s => .leaf i s
    | none => .missing (.value i)
  | 0, .operator i => .missing (.operator i)
  | depth + 1, .operator i =>
    match t.operators[i]? with
    | none => .missing (.operator i)
    | some n =>
      match n.right with
      | none => .unary i n.slot (t.treeWithin depth n.left)
      | some right => .binary i n.slot (t.treeWithin depth n.left) (t.treeWithin depth right)

theorem treeWithin_value {t : Template} {i : Nat} {s : Slot Trit} (hs : t.values[i]? = some s)
    (depth : Nat) : t.treeWithin depth (.value i) = .leaf i s := by
  simp [treeWithin, hs]

theorem treeWithin_unary {t : Template} {i : Nat} {n : OperatorNode}
    (hn : t.operators[i]? = some n) (hright : n.right = none) (depth : Nat) :
    t.treeWithin (depth + 1) (.operator i) = .unary i n.slot (t.treeWithin depth n.left) := by
  simp [treeWithin, hn, hright]

theorem treeWithin_binary {t : Template} {i : Nat} {n : OperatorNode} {r : NodeId}
    (hn : t.operators[i]? = some n) (hright : n.right = some r) (depth : Nat) :
    t.treeWithin (depth + 1) (.operator i) =
      .binary i n.slot (t.treeWithin depth n.left) (t.treeWithin depth r) := by
  simp [treeWithin, hn, hright]

/-- The tree under a node. -/
def tree (t : Template) (id : NodeId) : Tree := t.treeWithin t.operators.length id

theorem id_treeWithin (t : Template) (depth : Nat) (id : NodeId) :
    (t.treeWithin depth id).id = id := by
  cases id with
  | value i =>
    unfold treeWithin
    split <;> rfl
  | operator i =>
    cases depth with
    | zero => rfl
    | succ depth =>
      unfold treeWithin
      split
      · rfl
      · split <;> rfl

/-- The tree under a node has that node at its top. -/
@[simp] theorem id_tree (t : Template) (id : NodeId) : (t.tree id).id = id :=
  t.id_treeWithin _ id

/-- No path of a bounded descent is longer than the bound and one leaf. -/
theorem height_treeWithin_le (t : Template) (depth : Nat) (id : NodeId) :
    (t.treeWithin depth id).height ≤ depth + 1 := by
  induction depth generalizing id with
  | zero =>
    cases id with
    | value i => unfold treeWithin; split <;> simp [Tree.height]
    | operator i => simp [treeWithin, Tree.height]
  | succ depth ih =>
    cases id with
    | value i => unfold treeWithin; split <;> simp [Tree.height]
    | operator i =>
      unfold treeWithin
      split
      · simp [Tree.height]
      · next n _ =>
        split
        · simpa [Tree.height] using ih n.left
        · next right _ =>
          have hl := ih n.left
          have hr := ih right
          simp only [Tree.height]
          omega

end Template

end TritPuzzle
