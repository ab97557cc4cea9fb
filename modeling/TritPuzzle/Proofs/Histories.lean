import Mathlib.Data.List.DropRight
import Mathlib.Data.List.Induction

/-!
# Histories of runs

A run takes one step after the other from a state.  Its history lists the steps, each
with the state that it is taken in.  Much of what a run leads to depends only on what
happened since the last step of a certain kind, one that starts anew.

## Main definitions

* `history` — the steps of a run, each with the state that it is taken in.
* `historySince` — the part of it after the last step that starts anew.

## Main results

* `history_concat`, `historySince_concat` — one step more.
-/

namespace TritPuzzle

variable {σ α : Type}

/-- The steps of a run, each with the state that it is taken in. -/
def history (step : σ → α → σ) (s : σ) : List α → List (σ × α)
  | [] => []
  | a :: as => (s, a) :: history step (step s a) as

/-- The last step of a run is taken in the state that the others lead to. -/
@[simp] theorem history_concat (step : σ → α → σ) (s : σ) (as : List α) (a : α) :
    history step s (as ++ [a]) = history step s as ++ [(as.foldl step s, a)] := by
  induction as generalizing s with
  | nil => rfl
  | cons b bs ih => simp [history, ih]

/-- The history of a run after the last step that starts anew. -/
def historySince (anew : α → Bool) (step : σ → α → σ) (s : σ) (as : List α) : List (σ × α) :=
  (history step s as).rtakeWhile fun x => !anew x.2

theorem historySince_concat (anew : α → Bool) (step : σ → α → σ) (s : σ) (as : List α) (a : α) :
    historySince anew step s (as ++ [a]) =
      if anew a then [] else historySince anew step s as ++ [(as.foldl step s, a)] := by
  rw [historySince, history_concat, List.rtakeWhile_concat]
  cases anew a <;> simp [historySince]

end TritPuzzle
