import TritPuzzle.Config
import TritPuzzle.Puzzle.Evaluation

/-!
# Scoring

A scorer judges submitted puzzles and counts the wrong answers.  A puzzle with
empty slots is not judged and not counted.  Every so many wrong answers are
flagged, so that the player can be given a hint.

## Main definitions

* `Verdict` — the judgement on a submitted puzzle.
* `Scorer`, `Scorer.submit`, `Scorer.reset` — the count of wrong answers.
-/

namespace TritPuzzle

/-- The judgement on a submitted puzzle. -/
inductive Verdict where
  /-- The puzzle is solved. -/
  | correct
  /-- The puzzle has another value than its answer; `count` is the number of wrong
  answers so far, and `flagged` marks every so many of them. -/
  | incorrect (result : Trit) (count : Nat) (flagged : Bool)
  /-- The puzzle has empty slots. -/
  | incomplete (error : EvalError)
  deriving DecidableEq, Repr

/-- The count of wrong answers. -/
structure Scorer where
  /-- How wrong answers are dealt with. -/
  config : ScoringConfig
  /-- The number of wrong answers so far. -/
  errors : Nat
  deriving DecidableEq, Repr

/-- Is the wrong answer with the given number flagged? -/
def ScoringConfig.flags (c : ScoringConfig) (count : Nat) : Bool :=
  c.hintEvery ≠ 0 && count % c.hintEvery.toNat = 0

namespace Scorer

/-- A scorer without wrong answers. -/
def new (config : ScoringConfig) : Scorer := { config, errors := 0 }

/-- The judgement on a puzzle, and the scorer afterwards.  Fails on a puzzle that no
fill gives a value. -/
def submit (s : Scorer) (t : Template) : Except EvalError (Verdict × Scorer) :=
  match t.eval with
  | .ok x =>
    if x = t.answer then .ok (.correct, s)
    else
      let count := s.errors + 1
      .ok (.incorrect x count (s.config.flags count), { s with errors := count })
  | .error e => if e.isIncomplete then .ok (.incomplete e, s) else .error e

/-- The scorer with its count back at zero. -/
def reset (s : Scorer) : Scorer := { s with errors := 0 }

end Scorer

end TritPuzzle
