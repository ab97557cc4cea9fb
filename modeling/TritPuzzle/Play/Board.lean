import TritPuzzle.Catalog
import TritPuzzle.Play.Event

/-!
# The board

The board holds the puzzle in play.  Every puzzle put on the board gets a new
generation number, so that whoever still looks at the puzzle before can tell.  A
puzzle of the catalog is on the board under its name and can be started over.

## Main definitions

* `Board` — the puzzle in play, its name and its generation.
* `Board.load`, `Board.loadNamed`, `Board.reload?`, `Board.clear` — changing the puzzle.
* `Board.apply` — an event on the puzzle in play.
* `Board.info?` — a summary of the puzzle in play.
-/

namespace TritPuzzle

/-- The puzzle in play. -/
structure Board where
  /-- The puzzle, if there is one. -/
  active : Option Template
  /-- The name of the puzzle, if it is one of the catalog. -/
  name : Option String
  /-- The number of puzzles that have been put on the board. -/
  generation : Nat
  deriving DecidableEq, Repr

/-- A summary of the puzzle in play. -/
structure BoardInfo where
  /-- The name of the puzzle, if it is one of the catalog. -/
  name : Option String
  /-- The number of puzzles that have been put on the board. -/
  generation : Nat
  /-- The trit that solves the puzzle. -/
  answer : Trit
  /-- The number of leaves. -/
  values : Nat
  /-- The number of inner nodes. -/
  operators : Nat
  /-- The number of leaves that are not locked. -/
  openValues : Nat
  /-- The number of inner nodes that are not locked. -/
  openOperators : Nat
  deriving DecidableEq, Repr

namespace Board

/-- The board before the first puzzle. -/
def empty : Board := { active := none, name := none, generation := 0 }

/-- Puts a puzzle on the board, with a name if it is one of the catalog. -/
def put (b : Board) (t : Template) (name : Option String) : Board :=
  { active := some t, name, generation := b.generation + 1 }

/-- Puts a puzzle without a name on the board. -/
def load (b : Board) (t : Template) : Board := b.put t none

/-- Puts a puzzle of the catalog on the board. -/
def loadNamed (b : Board) (name : String) : Except CatalogError Board := do
  return b.put (← Catalog.template name) (some name)

/-- Starts the puzzle of the catalog over; `none` if there is no named puzzle to start
over. -/
def reload? (b : Board) : Option (Except CatalogError Board) := b.name.map b.loadNamed

/-- Takes the puzzle off the board. -/
def clear (b : Board) : Board := { b with active := none, name := none }

/-- An event on the puzzle in play. -/
def apply (b : Board) (e : SlotEvent) : Except InputError (Outcome × Board) :=
  match b.active with
  | none => .error .noPuzzle
  | some t => do
    let (outcome, t') ← t.apply e
    return (outcome, { b with active := some t' })

/-- A summary of the puzzle in play. -/
def info? (b : Board) : Option BoardInfo :=
  b.active.map fun t => {
    name := b.name
    generation := b.generation
    answer := t.answer
    values := t.values.length
    operators := t.operators.length
    openValues := t.openValues.length
    openOperators := t.openOperators.length }

end Board

end TritPuzzle
