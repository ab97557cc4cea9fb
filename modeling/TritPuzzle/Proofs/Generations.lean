import TritPuzzle.Proofs.Loading

/-!
# Calls that change a board in place

A board has three parts, and putting a puzzle on it writes them one after the other: the
count goes up, and then the puzzle and its name are replaced.  Here the calls on a board are
written as steps on these parts, with the look-up in the catalog and the event on the puzzle
in play where they are made, and a failure keeps what has been written before it.  A call
that fails has written nothing yet, so what is said of runs of calls holds of them in place.

## Main definitions

* `Board.install`, `Board.installNamed` — putting a puzzle on the board, part by part.
* `BoardCall.steps` — a call on a board, step by step.
* `Board.returned?` — the generation in the answer of a call.

## Main results

* `BoardCall.on_steps` — **a call in place does what the function returns, and a failing
  one does nothing.**
* `generation_run` — **the generation counts the puzzles put on the board, and the name is
  that of the puzzle in play**, which is brought back by starting over.
-/

namespace TritPuzzle

namespace Board

/-! ### The calls -/

/-- Puts a puzzle on the board, and answers with its generation. -/
def install (t : Template) (name : Option String) : Mutation Board BoardError (Option Nat) := do
  modify fun b => { b with generation := b.generation + 1 }
  modify fun b => { b with active := some t }
  modify fun b => { b with name := name }
  return some (← get).generation

/-- Looks a puzzle up in the catalog and puts it on the board. -/
def installNamed (name : String) : Mutation Board BoardError (Option Nat) := do
  let t ← Mutation.ofExcept .catalog (Catalog.template name)
  install t (some name)

/-- Lends the puzzle in play to a call. -/
def onActive {δ α : Type} (t : Template) (call : Mutation Template δ α) :
    Mutation Board BoardError (Except δ α) :=
  Mutation.onPart t (fun b u => { b with active := some u }) call

/-- Lends the puzzle in play to a setter, whose answer does not concern the board.  Without
a puzzle there is no node to be set. -/
def setNode (request : Mutation Template InputError (Except SlotError Unit)) :
    Mutation Board BoardError (Option Nat) := do
  match (← get).active with
  | none => return none
  | some t =>
    let _ ← onActive t request
    return none

end Board

/-- The steps of a call on a board.  It answers with the generation of the puzzle that it
has put on the board, if it has. -/
def BoardCall.steps : BoardCall → Mutation Board BoardError (Option Nat)
  | .load t => Board.install t none
  | .loadNamed name => Board.installNamed name
  | .reload => do
    match (← get).name with
    | none => return none
    | some name => Board.installNamed name
  | .clear => do
    modify fun b => { b with active := none }
    modify fun b => { b with name := none }
    return none
  | .apply e => do
    let t ← Mutation.found (.input .noPuzzle) (← get).active
    let answer ← Board.onActive t e.call
    (fun _ => none) <$> Mutation.ofExcept .input answer
  | .setValue slot x => Board.setNode (Template.onLeaf slot (Slot.setting x))
  | .setOperator slot op => Board.setNode (Template.onInner slot (OperatorNode.setting op))

namespace Board

/-! ### In place and by functions -/

theorem on_install (t : Template) (name : Option String) (b : Board) :
    (install t name).on b = inPlace b (loaded (.ok (b.put t name))) := by
  rw [install, Mutation.on_bind_ok (Mutation.on_modify _ b),
    Mutation.on_bind_ok (Mutation.on_modify _ _), Mutation.on_bind_ok (Mutation.on_modify _ _),
    Mutation.on_get_bind, Mutation.on_pure]
  rfl

/-- The catalog is looked at before anything is written. -/
theorem on_installNamed (name : String) (b : Board) :
    (installNamed name).on b = inPlace b (loaded (b.loadNamed name)) := by
  unfold installNamed
  cases ht : Catalog.template name with
  | error e =>
    rw [Mutation.on_bind_error (Mutation.on_ofExcept_error _ e b), loadNamed_of_error ht]
    rfl
  | ok t =>
    rw [Mutation.on_bind_ok (Mutation.on_ofExcept_ok _ t b), loadNamed_of_template ht, on_install]

/-- A setter of a node leaves of the board what the move does. -/
theorem on_setNode {request : Mutation Template InputError (Except SlotError Unit)} {m : Move}
    (h : ∀ t, (request.on t).2 = t.perform m) (b : Board) :
    (setNode request).on b = (.ok none, b.move m) := by
  obtain ⟨active, name, generation⟩ := b
  cases active with
  | none => rfl
  | some t =>
    rw [move, Option.map_some, ← h t]
    rfl

end Board

/-- **A call in place does what the function returns, and a failing one does nothing.** -/
theorem BoardCall.on_steps (c : BoardCall) (b : Board) : c.steps.on b = inPlace b (b.call c) := by
  cases c with
  | load t => exact Board.on_install t none b
  | loadNamed name => exact Board.on_installNamed name b
  | reload =>
    rw [steps, Mutation.on_get_bind, Board.call, Board.reload?]
    cases b.name with
    | none => rfl
    | some name => exact Board.on_installNamed name b
  | clear =>
    rw [steps, Mutation.on_bind_ok (Mutation.on_modify _ b),
      Mutation.on_bind_ok (Mutation.on_modify _ _), Mutation.on_pure]
    rfl
  | apply e =>
    obtain ⟨active, name, generation⟩ := b
    cases active with
    | none => rfl
    | some t =>
      rw [steps, Mutation.on_get_bind, Mutation.on_bind_ok (Mutation.on_found_some _ t _),
        Board.onActive, Mutation.on_bind_ok (Mutation.on_onPart _ _ _ _), Mutation.on_map,
        e.on_call, Board.call, Board.apply_of_active rfl]
      -- a failing event has left the puzzle as it was, and so the board
      cases t.apply e <;> rfl
  | setValue slot x =>
    refine Board.on_setNode (fun t => ?_) b
    rw [Template.on_onLeaf (Slot.on_setting x), Template.snd_answered]
    rfl
  | setOperator slot op =>
    refine Board.on_setNode (fun t => ?_) b
    rw [Template.on_onInner (OperatorNode.on_setting op), Template.snd_answered]
    rfl

namespace Board

/-- A call in place leaves the board after the call. -/
theorem snd_on_steps (c : BoardCall) (b : Board) : (c.steps.on b).2 = b.perform c := by
  rw [c.on_steps, perform]
  cases b.call c <;> rfl

/-- A call that fails leaves the board as it was. -/
theorem snd_on_steps_of_error {b : Board} {c : BoardCall} {err : BoardError}
    (h : (c.steps.on b).1 = .error err) : (c.steps.on b).2 = b := by
  rw [c.on_steps] at h ⊢
  exact snd_inPlace_of_error h

/-- The generation in the answer of a call, if it has put a puzzle on the board. -/
def returned? : Except BoardError (Option Nat) → Option Nat
  | .ok n => n
  | .error _ => none

theorem generation?_eq_returned? (b : Board) (c : BoardCall) :
    b.generation? c = returned? (c.steps.on b).1 := by
  rw [c.on_steps, generation?]
  cases b.call c <;> rfl

/-- The generations that a run of calls in place returns. -/
theorem filterMap_returned?_transcript (calls : List BoardCall) (b : Board) :
    (Mutation.transcript BoardCall.steps calls b).1.filterMap returned? = b.generations calls := by
  rw [Mutation.fst_transcript fun b c => snd_on_steps c b, generations, List.filterMap_map]
  simp only [Function.comp_def, generation?_eq_returned?]

/-- **The generation counts the puzzles put on the board, and the name is that of the
puzzle in play.**  The generations that the loads return are all different and never go
down, and no other call changes the generation.  While there is a name, the puzzle in play
is the one of the catalog but for slots that are not locked, and starting over brings that
one back under the next generation; without a name it does nothing.  Made in place, the
calls return the same generations and leave the same board.  A call fails for one of four
reasons only, and then leaves the board as it was, whatever it has to write if it does not
fail. -/
theorem generation_run (calls : List BoardCall) :
    let b := empty.run calls
    b.generation = (empty.generations calls).length ∧
    (empty.generations calls).Nodup ∧
    (∀ more, b.generation ≤ (empty.run (calls ++ more)).generation) ∧
    (∀ c, c.isLoad = false → (b.perform c).generation = b.generation) ∧
    (∀ name, b.name = some name → ∃ t u, Catalog.template name = .ok t ∧
      b.active = some u ∧ t.SameButOpen u ∧
      b.call .reload = .ok (some (b.generation + 1),
        { active := some t, name := some name, generation := b.generation + 1 })) ∧
    (b.name = none → b.call .reload = .ok (none, b)) ∧
    (Mutation.transcript BoardCall.steps calls empty).2 = b ∧
    (Mutation.transcript BoardCall.steps calls empty).1.filterMap returned? =
      empty.generations calls ∧
    ∀ c, c.steps.on b = inPlace b (b.call c) ∧ (c.steps.on b).2 = b.perform c ∧
      ∀ err, ((c.steps.on b).1 = .error err ↔ b.Fails c err) ∧
        ((c.steps.on b).1 = .error err → (c.steps.on b).2 = b) := by
  intro b
  have hnamed : b.Named := named_run calls
  refine ⟨by rw [generations_run, List.length_range'], ?_, fun more => ?_, fun c hc => ?_,
    fun name hname => ?_, call_reload_of_name_eq_none,
    Mutation.snd_transcript (fun b c => snd_on_steps c b) calls empty,
    filterMap_returned?_transcript calls empty,
    fun c => ⟨c.on_steps b, snd_on_steps c b, fun err => ⟨?_, snd_on_steps_of_error⟩⟩⟩
  · rw [generations_run]
    exact List.nodup_range'
  · rw [run_append]
    exact generation_le_run b more
  · rcases b.generation_perform c with ⟨-, hsame⟩ | ⟨hload, -, -⟩
    · exact hsame
    · rw [hc] at hload
      simp at hload
  · obtain ⟨t, moves, ht, hactive⟩ := hnamed name hname
    obtain ⟨t', ht', hreload⟩ := hnamed.reload hname
    obtain rfl := Except.ok.inj (ht.symm.trans ht')
    exact ⟨t, t.play moves, ht, hactive, t.sameButOpen_play moves, hreload⟩
  · rw [c.on_steps, fst_inPlace_eq_error_iff]
    exact hnamed.call_eq_error_iff

/-- A negation in play, with a leaf filled, an event that has been lost and a name that is
not in the catalog. -/
theorem generation_run_not_x :
    let calls : List BoardCall :=
      [.loadNamed "not-x", .apply (.cycleValue 0), .apply (.cycleValue 3), .loadNamed "x"]
    let b := empty.run calls
    (b.name = some "not-x" ∧ ∃ t u, Catalog.template "not-x" = .ok t ∧ b.active = some u ∧
      t.SameButOpen u ∧ b.call .reload = .ok (some (b.generation + 1),
        { active := some t, name := some "not-x", generation := b.generation + 1 })) ∧
    (BoardCall.isLoad .clear = false ∧ (b.perform .clear).generation = b.generation) ∧
    (((BoardCall.loadNamed "x").steps.on b).1 = .error (.catalog (.unknownPuzzle "x")) ∧
      ((BoardCall.loadNamed "x").steps.on b).2 = b) := by
  intro calls b
  obtain ⟨-, -, -, hother, hnamed, -, -, -, hcalls⟩ := generation_run calls
  have hname : b.name = some "not-x" := by decide
  have herror : ((BoardCall.loadNamed "x").steps.on b).1 =
      .error (.catalog (.unknownPuzzle "x")) := by
    rfl
  exact ⟨⟨hname, hnamed _ hname⟩, ⟨rfl, hother _ rfl⟩, herror, ((hcalls _).2.2 _).2 herror⟩

end Board

end TritPuzzle
