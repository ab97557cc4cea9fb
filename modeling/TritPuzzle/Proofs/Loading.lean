import TritPuzzle.Play.Board
import TritPuzzle.Proofs.Entries
import TritPuzzle.Proofs.Histories
import TritPuzzle.Proofs.Outcomes

/-!
# Runs of calls on a board

Puzzles are put on a board and taken off it, and the one that is on it is played, in any
order.  All that a single call can come to is said once, in `Board.Comes`.  Two things
follow for runs: every puzzle that is put on the board has a generation of its own, and
the name on the board is that of the puzzle in play, which differs from the one in the
catalog only in the contents of slots that are not locked.  Starting over is therefore
always possible while there is a name, and brings back the puzzle of the catalog.

## Main definitions

* `BoardCall`, `Board.call` — a call on a board, and what it returns.
* `Board.perform`, `Board.run`, `Board.generations` — runs of calls.
* `Board.Comes`, `Board.Fails` — what a call can come to, and when it fails.
* `Board.Named` — the name on the board is that of the puzzle in play.
* `Template.SameButOpen` — two puzzles that differ only in slots that are not locked.

## Main results

* `comes_call`, `call_eq_error_iff` — a call comes to one of these, and fails for one of
  these reasons.
* `generations_run` — **the puzzles put on a board are numbered from one on.**
* `named_run` — **the name on a board is that of the puzzle in play**, which is brought back
  by starting over.
-/

namespace TritPuzzle

namespace Template

/-! ### Puzzles that differ only in slots that are not locked -/

/-- Two puzzles that differ at most in the contents of slots that are not locked. -/
structure SameButOpen (t u : Template) : Prop where
  /-- The root, the answer, the numbers of slots and the wiring are the same. -/
  frame : t.SameFrame u
  /-- The same slots are locked. -/
  locks : ∀ id, u.isLockedAt id = t.isLockedAt id
  /-- The locked slots hold the same. -/
  locked : ∀ id, t.isLockedAt id = true → u.node? id = t.node? id

/-- A run of moves changes nothing but slots that are not locked. -/
theorem sameButOpen_play (t : Template) (moves : List Move) : t.SameButOpen (t.play moves) where
  frame := t.sameFrame_play moves
  locks id := (t.node?_play_of_isLockedAt moves id).1
  locked id := (t.node?_play_of_isLockedAt moves id).2

theorem play_append (t : Template) (moves more : List Move) :
    t.play (moves ++ more) = (t.play moves).play more := by
  simp [play]

end Template

/-- A call on a board. -/
inductive BoardCall where
  /-- A puzzle without a name is put on the board. -/
  | load (t : Template)
  /-- A puzzle of the catalog is put on the board. -/
  | loadNamed (name : String)
  /-- The puzzle of the catalog is started over. -/
  | reload
  /-- The puzzle is taken off the board. -/
  | clear
  /-- An event on the puzzle in play. -/
  | apply (e : SlotEvent)
  /-- A leaf of the puzzle in play gets the given trit from its setter. -/
  | setValue (slot : Nat) (x : Trit)
  /-- An inner node of the puzzle in play gets the given operator from its setter. -/
  | setOperator (slot : Nat) (op : Operator)
  deriving DecidableEq, Repr

/-- Is the call made to put a puzzle on the board? -/
def BoardCall.isLoad : BoardCall → Bool
  | .load _ | .loadNamed _ | .reload => true
  | _ => false

/-- Why a call on a board fails. -/
inductive BoardError where
  /-- The puzzle is not available. -/
  | catalog (error : CatalogError)
  /-- The event is no change. -/
  | input (error : InputError)
  deriving DecidableEq, Repr

namespace Board

/-- The board after a move on the puzzle in play, if there is one. -/
def move (b : Board) (m : Move) : Board := { b with active := b.active.map (·.perform m) }

/-- What a call returns that has put a puzzle on the board: its generation. -/
def loaded : Except CatalogError Board → Except BoardError (Option Nat × Board)
  | .ok b => .ok (some b.generation, b)
  | .error e => .error (.catalog e)

/-- The board after a call, with the generation that the call returns if it put a puzzle
on the board. -/
def call (b : Board) : BoardCall → Except BoardError (Option Nat × Board)
  | .load t => loaded (.ok (b.load t))
  | .loadNamed name => loaded (b.loadNamed name)
  | .reload =>
    match b.reload? with
    | none => .ok (none, b)
    | some r => loaded r
  | .clear => .ok (none, b.clear)
  | .apply e =>
    match b.apply e with
    | .ok (_, b') => .ok (none, b')
    | .error e => .error (.input e)
  | .setValue slot x => .ok (none, b.move (.setValue slot x))
  | .setOperator slot op => .ok (none, b.move (.setOperator slot op))

/-- The board after a call.  A call that fails leaves it as it was. -/
def perform (b : Board) (c : BoardCall) : Board :=
  match b.call c with
  | .ok (_, b') => b'
  | .error _ => b

/-- The generation that a call returns, if it put a puzzle on the board. -/
def generation? (b : Board) (c : BoardCall) : Option Nat :=
  match b.call c with
  | .ok (n, _) => n
  | .error _ => none

/-- The board after a run of calls. -/
def run (b : Board) (calls : List BoardCall) : Board := calls.foldl perform b

/-- The generations that the calls of a run return. -/
def generations (b : Board) (calls : List BoardCall) : List Nat :=
  (history perform b calls).filterMap fun x => x.1.generation? x.2

/-! ### The calls -/

theorem loadNamed_of_template {name : String} {t : Template}
    (h : Catalog.template name = .ok t) (b : Board) :
    b.loadNamed name = .ok (b.put t (some name)) := by
  rw [loadNamed, h]
  rfl

theorem loadNamed_of_error {name : String} {e : CatalogError}
    (h : Catalog.template name = .error e) (b : Board) : b.loadNamed name = .error e := by
  rw [loadNamed, h]
  rfl

theorem reload?_of_template {b : Board} {name : String} (hname : b.name = some name)
    {t : Template} (h : Catalog.template name = .ok t) :
    b.reload? = some (.ok (b.put t (some name))) := by
  rw [reload?, hname, Option.map_some, loadNamed_of_template h]

theorem apply_of_active {b : Board} {u : Template} (hu : b.active = some u) (e : SlotEvent) :
    b.apply e = (u.apply e).map fun r => (r.1, { b with active := some r.2 }) := by
  simp only [apply, hu]
  cases u.apply e <;> rfl

/-- An event that succeeds leaves of the puzzle in play what a move does. -/
theorem apply_eq_ok {b b' : Board} {e : SlotEvent} {o : Outcome} (h : b.apply e = .ok (o, b')) :
    ∃ u, b.active = some u ∧ b' = b.move (.event e) := by
  cases hu : b.active with
  | none => simp [apply, hu] at h
  | some u =>
    refine ⟨u, rfl, ?_⟩
    rw [apply_of_active hu] at h
    cases ht : u.apply e with
    | error err => simp [ht, Except.map] at h
    | ok r =>
      simp only [ht, Except.map, Except.ok.injEq, Prod.mk.injEq] at h
      rw [← h.2, move, hu, Option.map_some, Template.perform, Template.afterEvent, ht]

/-- All that a call can come to. -/
inductive Comes (b : Board) : BoardCall → Except BoardError (Option Nat × Board) → Prop
  /-- The call fails. -/
  | failed {c : BoardCall} (err : BoardError) : Comes b c (.error err)
  /-- A puzzle is put on the board, under a name if it is the one of the catalog. -/
  | loaded {c : BoardCall} {t : Template} {name : Option String} (hload : c.isLoad = true)
      (hname : ∀ n, name = some n → Catalog.template n = .ok t) :
      Comes b c (.ok (some (b.generation + 1), b.put t name))
  /-- There is no named puzzle to start over. -/
  | nothing {c : BoardCall} : Comes b c (.ok (none, b))
  /-- The puzzle is taken off the board. -/
  | cleared {c : BoardCall} : Comes b c (.ok (none, b.clear))
  /-- A move is made on the puzzle in play, if there is one. -/
  | moved {c : BoardCall} (m : Move) : Comes b c (.ok (none, b.move m))

theorem comes_loadNamed (b : Board) (name : String) {c : BoardCall} (hload : c.isLoad = true) :
    b.Comes c (loaded (b.loadNamed name)) := by
  cases ht : Catalog.template name with
  | error e =>
    rw [loadNamed_of_error ht]
    exact .failed _
  | ok t =>
    rw [loadNamed_of_template ht]
    exact .loaded hload fun n hn => Option.some.inj hn ▸ ht

/-- **All that a call can come to.** -/
theorem comes_call (b : Board) (c : BoardCall) : b.Comes c (b.call c) := by
  cases c with
  | load t => exact .loaded rfl (by simp)
  | loadNamed name => exact b.comes_loadNamed name rfl
  | reload =>
    rw [call, reload?]
    cases b.name with
    | none => exact .nothing
    | some name => exact b.comes_loadNamed name rfl
  | clear => exact .cleared
  | apply e =>
    rw [call]
    cases h : b.apply e with
    | error err => exact .failed _
    | ok r =>
      obtain ⟨o, b'⟩ := r
      obtain ⟨-, -, rfl⟩ := apply_eq_ok h
      exact .moved _
  | setValue slot x => exact .moved _
  | setOperator slot op => exact .moved _

/-! ### Failing calls -/

/-- Why a call fails. -/
inductive Fails (b : Board) : BoardCall → BoardError → Prop
  /-- No puzzle of the catalog has the name. -/
  | unknown {name : String} (h : ∀ e ∈ Catalog.entries, e.name ≠ name) :
      Fails b (.loadNamed name) (.catalog (.unknownPuzzle name))
  /-- There is no puzzle in play. -/
  | noPuzzle {e : SlotEvent} (h : b.active = none) : Fails b (.apply e) (.input .noPuzzle)
  /-- The puzzle in play has no such slot. -/
  | noSuchSlot {e : SlotEvent} {u : Template} (hu : b.active = some u) (h : ¬ u.Has e.target) :
      Fails b (.apply e) (.input (.noSuchSlot e.target))
  /-- The operator does not fit the slot, which is not locked. -/
  | rejected {e : SlotEvent} {u : Template} {err : SlotError} (hu : b.active = some u)
      (hopen : u.isLockedAt e.target = false) (h : e.Misfits u err) :
      Fails b (.apply e) (.input (.rejected e.target err))

/-- The name on the board is that of the puzzle in play, of which at most slots that are
not locked were refilled. -/
def Named (b : Board) : Prop :=
  ∀ name, b.name = some name → ∃ t moves, Catalog.template name = .ok t ∧
    b.active = some (t.play moves)

theorem call_loadNamed_eq_error_iff {b : Board} {name : String} {err : BoardError} :
    b.call (.loadNamed name) = .error err ↔ b.Fails (.loadNamed name) err := by
  rw [call]
  constructor
  · intro h
    cases ht : Catalog.template name with
    | ok t => simp [loadNamed_of_template ht, loaded] at h
    | error e =>
      obtain ⟨rfl, hunknown⟩ := Catalog.template_eq_error_iff.mp ht
      simp only [loadNamed_of_error ht, loaded, Except.error.injEq] at h
      exact h ▸ .unknown hunknown
  · rintro ⟨hunknown⟩
    rw [loadNamed_of_error (Catalog.template_eq_error_iff.mpr ⟨rfl, hunknown⟩), loaded]

theorem call_apply_eq_error_iff {b : Board} {e : SlotEvent} {err : BoardError} :
    b.call (.apply e) = .error err ↔ b.Fails (.apply e) err := by
  rw [call]
  cases hu : b.active with
  | none =>
    simp only [apply, hu, Except.error.injEq]
    constructor
    · rintro rfl
      exact .noPuzzle hu
    · intro h
      cases h <;> simp_all
  | some u =>
    have hanswer := u.answer_apply e
    rw [apply_of_active hu]
    constructor
    · intro h
      generalize u.apply e = r at h hanswer
      cases hanswer with
      | noSuchSlot hmissing =>
        simp only [Except.map, Except.error.injEq] at h
        exact h ▸ .noSuchSlot hu hmissing
      | ignored hlocked => simp [Except.map] at h
      | rejected hhas hopen hmisfit =>
        simp only [Except.map, Except.error.injEq] at h
        exact h ▸ .rejected hu hopen hmisfit
      | applied => simp [Except.map] at h
    · intro h
      cases h with
      | noPuzzle hnone => simp [hu] at hnone
      | noSuchSlot hu' hmissing =>
        obtain rfl := Option.some.inj (hu.symm.trans hu')
        rw [Template.apply_eq_noSuchSlot_iff.mpr hmissing]
        rfl
      | rejected hu' hopen hmisfit =>
        obtain rfl := Option.some.inj (hu.symm.trans hu')
        rw [Template.apply_eq_rejected_iff.mpr ⟨hopen, hmisfit⟩]
        rfl

/-- **A named puzzle is started over as it is in the catalog.** -/
theorem Named.reload {b : Board} (h : b.Named) {name : String} (hname : b.name = some name) :
    ∃ t, Catalog.template name = .ok t ∧
      b.call .reload = .ok (some (b.generation + 1),
        { active := some t, name := some name, generation := b.generation + 1 }) := by
  obtain ⟨t, -, ht, -⟩ := h name hname
  refine ⟨t, ht, ?_⟩
  rw [call, reload?_of_template hname ht]
  rfl

theorem call_reload_of_name_eq_none {b : Board} (hname : b.name = none) :
    b.call .reload = .ok (none, b) := by
  simp [call, reload?, hname]

/-- **When a call fails.** -/
theorem Named.call_eq_error_iff {b : Board} (h : b.Named) {c : BoardCall} {err : BoardError} :
    b.call c = .error err ↔ b.Fails c err := by
  cases c with
  | loadNamed name => exact call_loadNamed_eq_error_iff
  | apply e => exact call_apply_eq_error_iff
  | reload =>
    have hok : ∃ r, b.call .reload = .ok r := by
      cases hname : b.name with
      | none => exact ⟨_, call_reload_of_name_eq_none hname⟩
      | some name =>
        obtain ⟨t, -, hreload⟩ := h.reload hname
        exact ⟨_, hreload⟩
    obtain ⟨r, hr⟩ := hok
    rw [hr]
    exact iff_of_false (by simp) nofun
  | load t | clear | setValue slot x | setOperator slot op =>
    exact iff_of_false (by simp [call, loaded]) nofun

/-! ### Runs -/

@[simp] theorem run_nil (b : Board) : b.run [] = b := rfl

@[simp] theorem run_concat (b : Board) (calls : List BoardCall) (c : BoardCall) :
    b.run (calls ++ [c]) = (b.run calls).perform c := by
  simp [run]

theorem run_append (b : Board) (calls more : List BoardCall) :
    b.run (calls ++ more) = (b.run calls).run more := by
  simp [run]

theorem generations_concat (b : Board) (calls : List BoardCall) (c : BoardCall) :
    b.generations (calls ++ [c]) =
      b.generations calls ++ ((b.run calls).generation? c).toList := by
  simp only [generations, history_concat, List.filterMap_append, List.filterMap_cons,
    List.filterMap_nil, run]
  cases (calls.foldl perform b).generation? c <;> rfl

/-- A call that returns a generation has raised it by one, and no other call changes it. -/
theorem generation_perform (b : Board) (c : BoardCall) :
    b.generation? c = none ∧ (b.perform c).generation = b.generation ∨
      c.isLoad = true ∧ b.generation? c = some (b.generation + 1) ∧
        (b.perform c).generation = b.generation + 1 := by
  have hcomes := b.comes_call c
  unfold generation? perform
  generalize b.call c = r at hcomes
  cases hcomes with
  | failed err => exact Or.inl ⟨rfl, rfl⟩
  | loaded hload hname => exact Or.inr ⟨hload, rfl, rfl⟩
  | nothing => exact Or.inl ⟨rfl, rfl⟩
  | cleared => exact Or.inl ⟨rfl, rfl⟩
  | moved m => exact Or.inl ⟨rfl, rfl⟩

/-- **The puzzles that are put on the board are numbered from one on.** -/
theorem generations_run (calls : List BoardCall) :
    empty.generations calls = List.range' 1 (empty.run calls).generation := by
  induction calls using List.reverseRecOn with
  | nil => rfl
  | append_singleton calls c ih =>
    rw [generations_concat, run_concat, ih]
    rcases (empty.run calls).generation_perform c with ⟨hnone, hsame⟩ | ⟨-, hsome, hnext⟩
    · simp [hnone, hsame]
    · rw [hsome, hnext, List.range'_1_concat, Nat.add_comm 1]
      rfl

theorem generation_le_run (b : Board) (calls : List BoardCall) :
    b.generation ≤ (b.run calls).generation := by
  induction calls using List.reverseRecOn with
  | nil => exact Nat.le_refl _
  | append_singleton calls c ih =>
    rw [run_concat]
    rcases (b.run calls).generation_perform c with ⟨-, hsame⟩ | ⟨-, -, hnext⟩ <;> omega

theorem named_empty : Named empty := by
  simp [Named, empty]

/-- A call keeps the name that of the puzzle in play. -/
theorem Named.perform {b : Board} (h : b.Named) (c : BoardCall) : (b.perform c).Named := by
  have hcomes := b.comes_call c
  unfold Board.perform
  generalize b.call c = r at hcomes
  cases hcomes with
  | failed err => exact h
  | @loaded t name hload hname => exact fun n hn => ⟨t, [], hname n hn, rfl⟩
  | nothing => exact h
  | cleared => exact fun n hn => absurd hn (by simp [clear])
  | moved m =>
    intro n hn
    obtain ⟨t, moves, ht, hactive⟩ := h n hn
    refine ⟨t, moves ++ [m], ht, ?_⟩
    rw [move, hactive, Option.map_some, Template.play_append]
    rfl

/-- **The name on a board is that of the puzzle in play**, whatever calls were made. -/
theorem named_run (calls : List BoardCall) : (empty.run calls).Named := by
  induction calls using List.reverseRecOn with
  | nil => exact named_empty
  | append_singleton calls c ih =>
    rw [run_concat]
    exact ih.perform c

end Board

end TritPuzzle
