import TritPuzzle.Player.State

/-!
# Keys

The keys that a player presses, and what each of them does.  A key without a
meaning does nothing.  A session of keys ends at the first quitting key.
-/

namespace TritPuzzle

/-- A key of a terminal. -/
inductive Key where
  /-- A character. -/
  | char (c : Char)
  /-- The arrow to the left. -/
  | left
  /-- The arrow to the right. -/
  | right
  /-- Tabulator. -/
  | tab
  /-- Tabulator backwards. -/
  | backTab
  /-- Enter. -/
  | enter
  /-- Escape. -/
  | escape
  /-- A key without a meaning to the player. -/
  | other
  deriving DecidableEq, Repr

namespace Player

/-- The player after a key; `none` if the key quits. -/
def press? (p : Player) : Key → Option Player
  | .escape => none
  | .left => some p.moveBack
  | .backTab => some p.moveBack
  | .right => some p.moveForward
  | .tab => some p.moveForward
  | .enter => some p.cycle
  | .other => some p
  | .char c =>
    match c with
    | 'q' => none
    | ' ' => some p.cycle
    | '0' => some (p.setValue .false)
    | '1' => some (p.setValue .neutral)
    | '2' => some (p.setValue .true)
    | 'c' => some p.check
    | 'n' => some p.nextPuzzle
    | 'p' => some p.previousPuzzle
    | 'x' => some p.restart
    | _ => some p

/-- The player when the session ends: at the first quitting key, or after all keys. -/
def run (p : Player) : List Key → Player
  | [] => p
  | k :: rest =>
    match p.press? k with
    | none => p
    | some p' => p'.run rest

end Player

/-- The keys that a terminal sends as the given characters. -/
def Key.decode : List Char → List Key
  | [] => []
  | '\x1b' :: '[' :: 'C' :: rest => .right :: decode rest
  | '\x1b' :: '[' :: 'D' :: rest => .left :: decode rest
  | '\x1b' :: '[' :: 'Z' :: rest => .backTab :: decode rest
  | '\x1b' :: '[' :: _ :: rest => .other :: decode rest
  | '\x1b' :: rest => .escape :: decode rest
  | '\t' :: rest => .tab :: decode rest
  | '\n' :: rest => .enter :: decode rest
  | '\r' :: rest => .enter :: decode rest
  | c :: rest => .char c :: decode rest

end TritPuzzle
