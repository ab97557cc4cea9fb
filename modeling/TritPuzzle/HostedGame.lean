import TritPuzzle.Play.Board
import TritPuzzle.Play.Scorer
import TritPuzzle.Logic.Reading
import TritPuzzle.Puzzle.Infix

/-!
# Hosted games

A game that a host program embeds in its own page.  The host addresses slots by
position and trits by digit, and gets back whether a slot changed and the
verdict on a check.

## Main definitions

* `HostedGame`, `HostedGame.start` — a game on a puzzle of the catalog.
* `HostedGame.cycleValue`, `HostedGame.setValue`, `HostedGame.cycleOperator` — changes.
* `HostedGame.check`, `HostedGame.reset` — submitting and starting over.
-/

namespace TritPuzzle

/-- The state of a hosted game. -/
structure HostedGame where
  /-- The puzzle in play. -/
  board : Board
  /-- The count of wrong answers. -/
  scorer : Scorer

/-- Why a call of the host fails. -/
inductive HostError where
  /-- There is no puzzle to be submitted. -/
  | noPuzzle
  /-- The digit is no trit. -/
  | reading (error : ReadError)
  /-- The event is no change. -/
  | input (error : InputError)
  /-- The puzzle is not available. -/
  | catalog (error : CatalogError)
  /-- The puzzle has no value. -/
  | evaluation (error : EvalError)
  deriving DecidableEq, Repr

/-- The message for a failed call. -/
def HostError.message : HostError → String
  | .noPuzzle => "no puzzle loaded"
  | .reading e => e.message
  | .input e => e.message
  | .catalog e => e.message
  | .evaluation e => e.message

/-- The verdict as the host sees it. -/
inductive HostVerdict where
  /-- The puzzle is solved. -/
  | correct
  /-- The puzzle has the wrong value. -/
  | incorrect
  /-- The puzzle has the wrong value, and the player should get a hint. -/
  | incorrectFlagged
  /-- The puzzle has empty slots. -/
  | incomplete
  deriving DecidableEq, Repr

namespace HostVerdict

/-- The host's word for a verdict. -/
def text : HostVerdict → String
  | .correct => "correct"
  | .incorrect => "incorrect"
  | .incorrectFlagged => "incorrect-nth"
  | .incomplete => "incomplete"

/-- What the host sees of a verdict. -/
def ofVerdict : Verdict → HostVerdict
  | .correct => .correct
  | .incorrect _ _ true => .incorrectFlagged
  | .incorrect _ _ false => .incorrect
  | .incomplete _ => .incomplete

end HostVerdict

namespace HostedGame

/-- A game on a puzzle of the catalog. -/
def start (name : String) : Except HostError HostedGame :=
  match Board.empty.loadNamed name with
  | .ok board => .ok { board, scorer := .new .standard }
  | .error e => .error (.catalog e)

/-- The expression with the addresses of its slots. -/
def written (g : HostedGame) : String :=
  match g.board.active with
  | none => ""
  | some t => t.written true

/-- The digit of the value of the expression, if it has one. -/
def result? (g : HostedGame) : Option Nat := (g.board.active.bind Template.result?).map Trit.digit

/-- The number of wrong answers so far. -/
def errors (g : HostedGame) : Nat := g.scorer.errors

/-- An event on the puzzle in play, and whether a slot changed. -/
def send (g : HostedGame) (e : SlotEvent) : Except HostError (Bool × HostedGame) :=
  match g.board.apply e with
  | .ok (.applied _, board) => .ok (true, { g with board })
  | .ok (.ignored _, board) => .ok (false, { g with board })
  | .error err => .error (.input err)

/-- Cycles a leaf. -/
def cycleValue (g : HostedGame) (slot : Nat) : Except HostError (Bool × HostedGame) :=
  g.send (.cycleValue slot)

/-- Sets a leaf to the trit with the given digit. -/
def setValue (g : HostedGame) (slot digit : Nat) : Except HostError (Bool × HostedGame) :=
  match Trit.ofDigit digit with
  | .ok value => g.send (.setValue slot value)
  | .error e => .error (.reading e)

/-- Cycles an inner node. -/
def cycleOperator (g : HostedGame) (slot : Nat) : Except HostError (Bool × HostedGame) :=
  g.send (.cycleOperator slot)

/-- Submits the puzzle in play. -/
def check (g : HostedGame) : Except HostError (HostVerdict × HostedGame) :=
  match g.board.active with
  | none => .error .noPuzzle
  | some t =>
    match g.scorer.submit t with
    | .ok (verdict, scorer) => .ok (.ofVerdict verdict, { g with scorer })
    | .error e => .error (.evaluation e)

/-- Starts the puzzle over and forgets the wrong answers. -/
def reset (g : HostedGame) : Except HostError HostedGame :=
  match g.board.reload? with
  | none => .ok { g with scorer := g.scorer.reset }
  | some (.ok board) => .ok { board, scorer := g.scorer.reset }
  | some (.error e) => .error (.catalog e)

end HostedGame

end TritPuzzle
