import TritPuzzle.Puzzle.Listing
import TritPuzzle.Puzzle.Shape

/-!
# The catalog

The puzzles that the program comes with.  Every entry has a name, a line of
description, the template and the fill its designer had in mind.  A fill lists
contents by position and leaves out the locked slots.

## Main definitions

* `Catalog.Entry` — one puzzle; `Entry.solved` is its template with the fill.
* `Catalog.entries` — all puzzles in order of presentation.
* `Catalog.find` — a puzzle by name.
-/

namespace TritPuzzle

/-- Why a puzzle of the catalog is not available. -/
inductive CatalogError where
  /-- There is no puzzle of this name. -/
  | unknownPuzzle (name : String)
  /-- The template cannot be assembled. -/
  | template (error : AssemblyError)
  /-- The designer's fill names a slot that does not exist. -/
  | noSuchSlot (slot : Nat)
  /-- The designer's fill changes a slot that refuses the change. -/
  | slot (error : SlotError)
  deriving DecidableEq, Repr

/-- The message for a puzzle that is not available. -/
def CatalogError.message : CatalogError → String
  | .unknownPuzzle name => "unknown puzzle: " ++ name
  | .template e => "template construction failed: " ++ e.message
  | .noSuchSlot i => "solution refers to missing slot " ++ Text.decimal i
  | .slot e => "solution touches a slot it cannot change: " ++ e.message

namespace Catalog

/-- A puzzle of the catalog. -/
structure Entry where
  /-- The name by which the puzzle is loaded. -/
  name : String
  /-- What the puzzle is about, in one line. -/
  description : String
  /-- The designer's fill of the leaves. -/
  valueFill : List (Nat × Trit)
  /-- The designer's fill of the inner nodes. -/
  operatorFill : List (Nat × Operator)
  /-- The puzzle as assembled. -/
  assembled : Except AssemblyError Template

namespace Entry

/-- The template of the puzzle. -/
def template (e : Entry) : Except CatalogError Template :=
  e.assembled.mapError .template

/-- One change of a fill. -/
def fillSlot (slot : Nat) : Option (Except SlotError Template) → Except CatalogError Template
  | none => .error (.noSuchSlot slot)
  | some change => change.mapError .slot

/-- The template with the designer's fill, leaves first. -/
def solved (e : Entry) : Except CatalogError Template := do
  let t ← e.template
  let t ← e.valueFill.foldlM (fun t f => fillSlot f.1 (t.setValue? f.1 f.2)) t
  e.operatorFill.foldlM (fun t f => fillSlot f.1 (t.setOperator? f.1 f.2)) t

end Entry

/-! ### Puzzles assembled by hand -/

/-- `(NOT x) ? y`, with `x` listed before `y` although `y` is created first. -/
def notXAndY : Except AssemblyError Template := do
  let (y, a) := Assembly.empty.addValue .unset
  let (x, a) := a.addValue .unset
  let (notX, a) ← a.addOperator (.locked .not) x none
  let (root, a) ← a.addOperator .unset notX (some y)
  a.finishListed root .neutral [x, y] [notX, root]

/-- `(x AND y) OR z`, with all but `x` fixed after the leaves are created. -/
def xAndYOrZ : Except AssemblyError Template := do
  let (x, a) := Assembly.empty.addValue .unset
  let (y, a) := a.addValue .unset
  let (z, a) := a.addValue .unset
  let a ← a.lockValue y .true
  let a ← a.lockValue z .false
  let (both, a) ← a.addOperator .unset x (some y)
  let a ← a.lockOperator both .and
  let (root, a) ← a.addOperator .unset both (some z)
  let a ← a.lockOperator root .or
  a.finish root .true

/-- `NOT (x XOR y)`, with only the negation locked. -/
def notXorXY : Except AssemblyError Template := do
  let (x, a) := Assembly.empty.addValue (.locked .neutral)
  let (y, a) := a.addValue .unset
  let (xor, a) ← a.addOperator (.opened .xor) x (some y)
  let (root, a) ← a.addOperator (.locked .not) xor none
  a.finish root .false

/-! ### The list -/

/-- The puzzles in order of presentation. -/
def entries : List Entry := [
  { name := "neutral-or-x"
    description := "1 OR X = 2 with the operator locked"
    valueFill := [(1, .true)]
    operatorFill := []
    assembled := (Shape.binary .or (some .neutral) none).template .true true },
  { name := "neutral-or-x-unlocked"
    description := "1 OR X = 2 with the operator open"
    valueFill := [(1, .true)]
    operatorFill := [(0, .or)]
    assembled := (Shape.binary .or (some .neutral) none).template .true false },
  { name := "and-or-neutral-xy"
    description := "(1 OR X) AND Y = 2"
    valueFill := [(1, .true), (2, .true)]
    operatorFill := []
    assembled := (Shape.chainLeft .or .and (some .neutral) none none).template .true true },
  { name := "or-x-and-false-y"
    description := "X OR (0 AND Y) = 1"
    valueFill := [(0, .neutral), (2, .false)]
    operatorFill := []
    assembled := (Shape.chainRight .or .and none (some .false) none).template .neutral true },
  { name := "complex-xor-and-or"
    description := "(X AND Y) XOR (1 OR Z) = 0"
    valueFill := [(0, .true), (1, .true), (3, .true)]
    operatorFill := []
    assembled :=
      (Shape.complex .and .or .xor none none (some .neutral) none).template .false true },
  { name := "not-x"
    description := "NOT X = 2"
    valueFill := [(0, .false)]
    operatorFill := []
    assembled := (Shape.unary .not none).template .true true },
  { name := "not-x-and-y"
    description := "(NOT X) ? Y = 1, find the operator"
    valueFill := [(0, .neutral), (1, .true)]
    operatorFill := [(1, .and)]
    assembled := notXAndY },
  { name := "imply-xy-unlocked"
    description := "X IMPLY Y = 1 with the operator open"
    valueFill := [(0, .neutral), (1, .neutral)]
    operatorFill := [(0, .imply)]
    assembled := (Shape.binary .imply none none).template .neutral false },
  { name := "find-operator"
    description := "2 ? 1 = 1, pick the operator"
    valueFill := []
    operatorFill := [(0, .and)]
    assembled := (Shape.binary .or (some .true) (some .neutral)).template .neutral false },
  { name := "calculate-result"
    description := "(X OR 1) AND (Y XOR 2) = 1"
    valueFill := [(0, .false), (2, .false)]
    operatorFill := []
    assembled :=
      (Shape.complex .or .xor .and none (some .neutral) none (some .true)).template .neutral true },
  { name := "x-and-y-or-z"
    description := "(X AND 2) OR 0 = 2"
    valueFill := [(0, .true)]
    operatorFill := []
    assembled := xAndYOrZ },
  { name := "not-xor-xy"
    description := "NOT (1 XOR Y) = 0, the XOR may be swapped"
    valueFill := [(1, .true)]
    operatorFill := [(0, .or)]
    assembled := notXorXY }]

/-- A puzzle by name. -/
def find (name : String) : Except CatalogError Entry :=
  match entries.find? (·.name = name) with
  | some e => .ok e
  | none => .error (.unknownPuzzle name)

/-- The template of a puzzle by name. -/
def template (name : String) : Except CatalogError Template := do
  (← find name).template

end Catalog

end TritPuzzle
