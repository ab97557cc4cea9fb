import TritPuzzle.Puzzle.Assembly

/-!
# Ready-made shapes

The usual shapes of a puzzle.  A shape names its operators and, for every leaf
from left to right, the trit it is fixed to, if any.  The leaves of the finished
puzzle are in that order, and the inner nodes in the order of their assembly:
children before parents, a left subtree before a right one.
-/

namespace TritPuzzle

/-- The shape of a puzzle with its operators and the fixed contents of its leaves. -/
inductive Shape where
  /-- `op x`. -/
  | unary (op : Operator) (x : Option Trit)
  /-- `x op y`. -/
  | binary (op : Operator) (x y : Option Trit)
  /-- `(x inner y) outer z`; the inner node comes first. -/
  | chainLeft (inner outer : Operator) (x y z : Option Trit)
  /-- `x outer (y inner z)`; the inner node comes first. -/
  | chainRight (outer inner : Operator) (x y z : Option Trit)
  /-- `(w left x) root (y right z)`; the root comes last. -/
  | complex (left right root : Operator) (w x y z : Option Trit)
  deriving DecidableEq, Repr

namespace Assembly

/-- A new leaf, fixed to the given trit if there is one. -/
def addPreset (a : Assembly) (x : Option Trit) : NodeId × Assembly := a.addValue (.preset x)

end Assembly

/-- The puzzle of a shape.  Its operators are fixed when `locked` is set, and may be
replaced by the player otherwise. -/
def Shape.template (shape : Shape) (answer : Trit) (locked : Bool) :
    Except AssemblyError Template :=
  let a := Assembly.empty
  match shape with
  | .unary op x => do
    let (x, a) := a.addPreset x
    let (root, a) ← a.addOperator (.holding locked op) x none
    a.finish root answer
  | .binary op x y => do
    let (x, a) := a.addPreset x
    let (y, a) := a.addPreset y
    let (root, a) ← a.addOperator (.holding locked op) x (some y)
    a.finish root answer
  | .chainLeft inner outer x y z => do
    let (x, a) := a.addPreset x
    let (y, a) := a.addPreset y
    let (z, a) := a.addPreset z
    let (xy, a) ← a.addOperator (.holding locked inner) x (some y)
    let (root, a) ← a.addOperator (.holding locked outer) xy (some z)
    a.finish root answer
  | .chainRight outer inner x y z => do
    let (x, a) := a.addPreset x
    let (y, a) := a.addPreset y
    let (z, a) := a.addPreset z
    let (yz, a) ← a.addOperator (.holding locked inner) y (some z)
    let (root, a) ← a.addOperator (.holding locked outer) x (some yz)
    a.finish root answer
  | .complex left right root w x y z => do
    let (w, a) := a.addPreset w
    let (x, a) := a.addPreset x
    let (y, a) := a.addPreset y
    let (z, a) := a.addPreset z
    let (wx, a) ← a.addOperator (.holding locked left) w (some x)
    let (yz, a) ← a.addOperator (.holding locked right) y (some z)
    let (root, a) ← a.addOperator (.holding locked root) wx (some yz)
    a.finish root answer

end TritPuzzle
