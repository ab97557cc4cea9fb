import TritPuzzle.Player.Status

/-!
# The player

A player plays the puzzles of the catalog in a terminal.  A cursor selects one
slot of the puzzle, the leaves coming before the inner nodes, and goes round at
both ends.  Switching to another puzzle and starting the puzzle over put a fresh
puzzle on the board and forget the wrong answers.

## Main definitions

* `Player`, `Player.start` — the state of a player.
* `Player.selected?`, `Player.moveForward`, `Player.moveBack` — the cursor.
* `Player.cycle`, `Player.setValue`, `Player.check` — playing.
* `Player.nextPuzzle`, `Player.previousPuzzle`, `Player.restart` — changing the puzzle.
-/

namespace TritPuzzle

/-- The state of a player. -/
structure Player where
  /-- The puzzle in play. -/
  board : Board
  /-- The count of wrong answers. -/
  scorer : Scorer
  /-- The puzzle of the catalog that is played. -/
  puzzle : Fin Catalog.entries.length
  /-- The position of the cursor among all slots. -/
  cursor : Nat
  /-- What the last action did. -/
  status : Status

namespace Player

/-- The entry of the catalog that is played. -/
def entry (p : Player) : Catalog.Entry := Catalog.entries[p.puzzle]

/-! ### Loading -/

/-- A fresh board, a fresh count and the cursor at the first slot for the puzzle that is
played. -/
def fresh (p : Player) : Except CatalogError Player := do
  let board ← p.board.loadNamed p.entry.name
  return { p with
    board, scorer := p.scorer.reset, cursor := 0, status := .loaded p.entry.name }

/-- A fresh puzzle, or the status that there is none. -/
def restart (p : Player) : Player :=
  match p.fresh with
  | .ok p' => p'
  | .error e => { p with status := .loadFailed e }

/-- A player with the named puzzle. -/
def start (config : ScoringConfig) (name : String) : Except CatalogError Player :=
  match Catalog.entries.findFinIdx? (·.name = name) with
  | none => .error (.unknownPuzzle name)
  | some puzzle =>
    fresh { board := .empty, scorer := .new config, puzzle, cursor := 0, status := .noPuzzle }

/-- The puzzle so many places further on in the catalog, going round. -/
def puzzleAfter (p : Player) (count : Nat) : Fin Catalog.entries.length :=
  ⟨(p.puzzle + count) % Catalog.entries.length, Nat.mod_lt _ p.puzzle.pos⟩

/-- Switches to the next puzzle, going round. -/
def nextPuzzle (p : Player) : Player := restart { p with puzzle := p.puzzleAfter 1 }

/-- Switches to the previous puzzle, going round. -/
def previousPuzzle (p : Player) : Player :=
  restart { p with puzzle := p.puzzleAfter (Catalog.entries.length - 1) }

/-! ### The cursor -/

/-- The number of slots of the puzzle in play. -/
def slotCount (p : Player) : Nat :=
  match p.board.active with
  | none => 0
  | some t => t.slotCount

/-- The slot under the cursor, if there is one. -/
def selected? (p : Player) : Option NodeId :=
  match p.board.active with
  | none => none
  | some t =>
    if p.cursor < t.values.length then some (.value p.cursor)
    else if p.cursor < t.slotCount then some (.operator (p.cursor - t.values.length))
    else none

/-- Moves the cursor to the next slot, going round. -/
def moveForward (p : Player) : Player :=
  if p.slotCount = 0 then p else { p with cursor := (p.cursor + 1) % p.slotCount }

/-- Moves the cursor to the previous slot, going round. -/
def moveBack (p : Player) : Player :=
  if p.slotCount = 0 then p
  else { p with cursor := (p.cursor + p.slotCount - 1) % p.slotCount }

/-! ### Playing -/

/-- An event on the puzzle in play. -/
def send (p : Player) (e : SlotEvent) : Player :=
  match p.board.apply e with
  | .ok (outcome, board) => { p with board, status := .ofOutcome outcome }
  | .error err => { p with status := .inputFailed err }

/-- Cycles the slot under the cursor. -/
def cycle (p : Player) : Player :=
  match p.selected? with
  | some (.value slot) => p.send (.cycleValue slot)
  | some (.operator slot) => p.send (.cycleOperator slot)
  | none => p

/-- Sets the leaf under the cursor. -/
def setValue (p : Player) (value : Trit) : Player :=
  match p.selected? with
  | some (.value slot) => p.send (.setValue slot value)
  | _ => { p with status := .noValueSelected }

/-- Submits the puzzle in play. -/
def check (p : Player) : Player :=
  match p.board.active with
  | none => { p with status := .noPuzzle }
  | some t =>
    match p.scorer.submit t with
    | .ok (verdict, scorer) => { p with scorer, status := .ofVerdict verdict }
    | .error e => { p with status := .checkFailed e }

end Player

end TritPuzzle
