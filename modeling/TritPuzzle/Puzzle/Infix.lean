import TritPuzzle.Puzzle.Tree

/-!
# The written form

A puzzle is written as an infix expression and its answer, `(1 OR ?) AND 2 = 2`.
Every inner node but the topmost stands in parentheses, and an empty slot is a
question mark.  In the labelled form every slot that is not locked carries its
address, `1 o0:OR v1:? = 2`, so that a player sees how to address it.

## Main definitions

* `Tree.written` — the expression for a tree.
* `Template.written` — the expression and the answer of a puzzle.
-/

namespace TritPuzzle

/-- The text for an empty slot. -/
def emptyMark : String := "?"

/-- The text for the content of a slot, after its address if the slot is labelled
and not locked. -/
def slotText {α : Type} (labelled : Bool) (id : NodeId) (word : α → String) (s : Slot α) : String :=
  let content := (s.content?.map word).getD emptyMark
  if labelled && !s.isLocked then id.text ++ ":" ++ content else content

namespace Tree

/-- The text of a subtree as an operand: an inner node gets parentheses. -/
def enclosed (t : Tree) (text : String) : String :=
  match t with
  | .missing _ => text
  | .leaf _ _ => text
  | .unary _ _ _ => "(" ++ text ++ ")"
  | .binary _ _ _ _ => "(" ++ text ++ ")"

/-- The expression for a tree, without parentheses around the whole. -/
def written (labelled : Bool) : Tree → String
  | .missing _ => "<missing>"
  | .leaf i slot => slotText labelled (.value i) Trit.text slot
  | .unary i slot child =>
    slotText labelled (.operator i) Operator.keyword slot ++ " " ++
      child.enclosed (child.written labelled)
  | .binary i slot left right =>
    left.enclosed (left.written labelled) ++ " " ++
      slotText labelled (.operator i) Operator.keyword slot ++ " " ++
      right.enclosed (right.written labelled)

end Tree

/-- The expression of a puzzle and its answer. -/
def Template.written (t : Template) (labelled : Bool) : String :=
  (t.tree t.root).written labelled ++ " = " ++ t.answer.text

end TritPuzzle
