import TritPuzzle.Player.State
import TritPuzzle.Puzzle.Infix
import TritPuzzle.Screen.Cell

/-!
# The player's screen

The screen has two columns.  The left one, three fifths of the width, shows the
puzzle above the status line; the right one lists the slots above a help text.

## Main definitions

* `Player.slotRows` — the lines that list the slots.
* `Player.puzzleBox`, `Player.slotsBox`, `Player.statusBox`, `helpBox` — the boxes.
* `Player.draw` — the whole screen.
-/

namespace TritPuzzle

/-- The look of a trit. -/
def Trit.style : Trit → Style
  | .false => .red
  | .neutral => .gray
  | .true => .green

/-- A line of text on a plain ground. -/
def plainRow (cells : List Cell) : Row := { cells, fill := .plain }

/-- A line of text in one look throughout. -/
def uniformRow (style : Style) (s : String) : Row := { cells := styled style s, fill := style }

namespace Player

/-! ### The puzzle -/

/-- The line with the value of the expression, its target and the wrong answers. -/
def resultRow (p : Player) (t : Template) : Row :=
  let result :=
    match t.result? with
    | some x => styled x.style x.text
    | none => styled .darkGray "incomplete"
  plainRow (styled .plain "Left side: " ++ result ++ styled .plain "   Target: " ++
    styled t.answer.style t.answer.text ++
    styled .plain ("   Mistakes: " ++ Text.decimal p.scorer.errors))

/-- The box with the puzzle in play. -/
def puzzleBox (p : Player) : Box where
  title := " Puzzle " ++ Text.decimal (p.puzzle + 1) ++ "/" ++
    Text.decimal Catalog.entries.length ++ " "
  frame := .cyan
  rows :=
    [plainRow (styled .bold p.entry.name), plainRow (styled .darkGray p.entry.description),
      plainRow []] ++
    match p.board.active with
    | none => []
    | some t => [plainRow (styled .white (t.written true)), plainRow [], p.resultRow t]
  fill := .plain

/-! ### The slots -/

/-- The line for a slot, with a mark if the slot is selected. -/
def slotRow {α : Type} (selected : Option NodeId) (id : NodeId) (word : α → String)
    (slot : Slot α) : Row :=
  let isSelected := selected = some id
  let mark := if isSelected then "▶ " else "  "
  let lock := if slot.isLocked then " (locked)" else ""
  let style := if isSelected then .boldYellow else if slot.isLocked then .darkGray else .white
  uniformRow style (mark ++ id.text ++ ": " ++ slotText false id word slot ++ lock)

/-- The lines for all slots of a puzzle, the leaves before the inner nodes. -/
def slotRows (selected : Option NodeId) (t : Template) : List Row :=
  t.values.zipIdx.map (fun s => slotRow selected (.value s.2) Trit.text s.1) ++
  t.operators.zipIdx.map (fun n => slotRow selected (.operator n.2) Operator.keyword n.1.slot)

/-- The box that lists the slots. -/
def slotsBox (p : Player) : Box where
  title := " Slots "
  frame := .magenta
  rows :=
    match p.board.active with
    | none => []
    | some t => slotRows p.selected? t
  fill := .plain

/-! ### Status and help -/

/-- The box with the status line. -/
def statusBox (p : Player) : Box where
  title := " Status "
  frame := .white
  rows := [uniformRow .white p.status.text]
  fill := .white

/-- The box with the help text. -/
def helpBox : Box where
  title := " Help "
  frame := .darkGray
  rows := [
    uniformRow .darkGray "←→: Select  space: Cycle  0/1/2: Set",
    uniformRow .darkGray "c: Check  x: Reset  n/p: Next/prev puzzle",
    uniformRow .darkGray "q: Quit"]
  fill := .darkGray

/-! ### The whole screen -/

/-- The width of the left column. -/
def leftWidth (width : Nat) : Nat := width * 60 / 100

/-- The screen of the given size, line by line. -/
def draw (p : Player) (width height : Nat) : List (List Cell) :=
  let left := leftWidth width
  let right := width - left
  List.zipWith (· ++ ·)
    (p.puzzleBox.draw left (height - 3) ++ p.statusBox.draw left 3)
    (p.slotsBox.draw right (height - 6) ++ helpBox.draw right 6)

end Player

end TritPuzzle
