import TritPuzzle.Player.State
import TritPuzzle.Proofs.Loading
import TritPuzzle.Proofs.Scoring

/-!
# Runs of a player

A player moves the cursor, changes and submits the puzzle in play, switches to other
puzzles and starts over, in any order.  All that a single action can do is said once, in
`Player.Acts`; none of it is an error.  What the parts of the player's state have to do
with each other and with the actions so far follows by induction over the run.

## Main definitions

* `PlayerAction`, `Player.perform`, `Player.play` — an action, and a run of actions.
* `Player.sinceLoad`, `Player.movesSinceLoad` — the actions after the last one that loaded
  a puzzle, and the moves that they make on it.
* `Player.Sound` — the puzzle, its name, the cursor and the status belong together.
* `Player.Acts` — all that an action can do.

## Main results

* `Status.error_isPrefix_iff` — the errors are what the status line calls errors.
* `selected?_eq_some_iff` — the cursor counts the leaves before the inner nodes.
* `Sound.acts_perform` — an action does one of these things.
* `sound_play`, `puzzle_play`, `generation_play`, `errors_play`, `active_play` — **what
  runs keep.**
-/

namespace TritPuzzle

/-! ### Actions -/

/-- One of the two ways to go round. -/
inductive Direction where
  /-- To the next one. -/
  | forward
  /-- To the previous one. -/
  | back
  deriving DecidableEq, Repr

/-- What a player does. -/
inductive PlayerAction where
  /-- The cursor moves to a neighbouring slot. -/
  | move (d : Direction)
  /-- The slot under the cursor is cycled. -/
  | cycle
  /-- The leaf under the cursor gets a trit. -/
  | setValue (x : Trit)
  /-- The puzzle is submitted. -/
  | check
  /-- A neighbouring puzzle of the catalog is loaded. -/
  | switch (d : Direction)
  /-- The puzzle is loaded again. -/
  | restart
  deriving DecidableEq, Repr

/-- Does the action load a puzzle? -/
def PlayerAction.isLoad : PlayerAction → Bool
  | .switch _ | .restart => true
  | _ => false

/-- Is the status that of a failed action? -/
def Status.isError : Status → Bool
  | .inputFailed _ | .checkFailed _ | .loadFailed _ => true
  | _ => false

/-- **The failed actions are the ones that the status line calls errors.** -/
theorem Status.error_isPrefix_iff (s : Status) :
    "Error:".toList <+: s.text.toList ↔ s.isError = true := by
  unfold text
  cases s with
  | updated id | locked id => cases id <;> simp [NodeId.text, isError]
  | _ => simp [isError]

namespace Template

/-- The position of a node among all slots, the leaves coming first. -/
def position (t : Template) : NodeId → Nat
  | .value i => i
  | .operator i => t.values.length + i

theorem position_lt_slotCount {t : Template} {id : NodeId} (h : t.Has id) :
    t.position id < t.slotCount := by
  cases id with
  | value i => exact Nat.lt_of_lt_of_le h (Nat.le_add_right _ _)
  | operator i => exact Nat.add_lt_add_left h _

theorem exists_position_eq {t : Template} {c : Nat} (h : c < t.slotCount) :
    ∃ id, t.Has id ∧ t.position id = c := by
  by_cases hc : c < t.values.length
  · exact ⟨.value c, hc, rfl⟩
  · refine ⟨.operator (c - t.values.length), ?_, ?_⟩
    · simp only [Has, slotCount] at h ⊢
      omega
    · simp only [position]
      omega

theorem SameFrame.slotCount_eq {t u : Template} (h : t.SameFrame u) :
    u.slotCount = t.slotCount := by
  rw [slotCount, slotCount, h.length_values, h.length_operators]

/-- A tree has a slot, since it has a root. -/
theorem Arboreal.slotCount_pos {t : Template} (h : t.Arboreal) : 0 < t.slotCount :=
  Nat.zero_lt_of_lt (position_lt_slotCount h.has_root)

/-- An event on a slot that is there, with an operator that fits, is no error. -/
theorem exists_outcome {t : Template} {e : SlotEvent} (hhas : t.Has e.target)
    (hfit : ∀ err, ¬ e.Misfits t err) : ∃ o, t.apply e = .ok (o, t.afterEvent e) := by
  have hanswer := t.answer_apply e
  unfold afterEvent
  generalize t.apply e = r at hanswer ⊢
  cases hanswer with
  | noSuchSlot hmissing => exact absurd hhas hmissing
  | ignored hlocked => exact ⟨_, rfl⟩
  | rejected _ _ hmisfit => exact absurd hmisfit (hfit _)
  | applied => exact ⟨_, rfl⟩

end Template

namespace Player

/-- The player after the cursor has moved. -/
def move (p : Player) : Direction → Player
  | .forward => p.moveForward
  | .back => p.moveBack

/-- The player after a switch of puzzles. -/
def switch (p : Player) : Direction → Player
  | .forward => p.nextPuzzle
  | .back => p.previousPuzzle

/-- The player after an action. -/
def perform (p : Player) : PlayerAction → Player
  | .move d => p.move d
  | .cycle => p.cycle
  | .setValue x => p.setValue x
  | .check => p.check
  | .switch d => p.switch d
  | .restart => p.restart

/-- The player after a run of actions. -/
def play (p : Player) (actions : List PlayerAction) : Player := actions.foldl perform p

/-- The actions of a run after the last one that loaded a puzzle, each with the player
that did it. -/
def sinceLoad (p : Player) (actions : List PlayerAction) : List (Player × PlayerAction) :=
  historySince PlayerAction.isLoad perform p actions

/-- The event that an action sends to the puzzle in play, if it changes a slot. -/
def event? (p : Player) : PlayerAction → Option SlotEvent
  | .cycle =>
    match p.selected? with
    | some (.value slot) => some (.cycleValue slot)
    | some (.operator slot) => some (.cycleOperator slot)
    | none => none
  | .setValue x =>
    match p.selected? with
    | some (.value slot) => some (.setValue slot x)
    | _ => none
  | _ => none

/-- Does the action submit a wrong answer? -/
def isMistake (p : Player) : PlayerAction → Bool
  | .check => p.board.active.any Template.isWrong
  | _ => false

/-- The puzzle that an action loads, if it loads one. -/
def puzzleOf (p : Player) : PlayerAction → Fin Catalog.entries.length
  | .switch .forward => p.puzzleAfter 1
  | .switch .back => p.puzzleAfter (Catalog.entries.length - 1)
  | _ => p.puzzle

/-! ### The cursor -/

section

variable {p : Player} {u : Template}

theorem slotCount_of_active (hu : p.board.active = some u) : p.slotCount = u.slotCount := by
  rw [slotCount, hu]

/-- **The cursor is at the position of the slot that is selected.** -/
theorem selected?_eq_some_iff (hu : p.board.active = some u) {id : NodeId} :
    p.selected? = some id ↔ u.Has id ∧ u.position id = p.cursor := by
  simp only [selected?, hu]
  by_cases hvalue : p.cursor < u.values.length
  · rw [if_pos hvalue]
    cases id <;> simp [Template.Has, Template.position] <;> omega
  · by_cases hslot : p.cursor < u.slotCount
    · rw [if_neg hvalue, if_pos hslot]
      rw [Template.slotCount] at hslot
      cases id <;> simp [Template.Has, Template.position] <;> omega
    · rw [if_neg hvalue, if_neg hslot]
      rw [Template.slotCount] at hslot
      cases id <;> simp [Template.Has, Template.position] <;> omega

/-- An event on the slot under the cursor is no error, unless it sets an operator. -/
theorem exists_apply (hu : p.board.active = some u) {e : SlotEvent}
    (hselected : p.selected? = some e.target) (hop : ∀ i op, e ≠ .setOperator i op) :
    ∃ o, u.apply e = .ok (o, u.afterEvent e) := by
  have hhas : u.Has e.target := ((selected?_eq_some_iff hu).mp hselected).1
  have hfit : ∀ err, ¬ e.Misfits u err := by
    intro err hmisfit
    obtain ⟨i, op, n, hset, -⟩ := hmisfit
    exact hop i op hset
  exact Template.exists_outcome hhas hfit

/-- The event of an action is for the slot under the cursor, and sets no operator. -/
theorem event?_eq_some {a : PlayerAction} {e : SlotEvent} (h : p.event? a = some e) :
    p.selected? = some e.target ∧ ∀ i op, e ≠ .setOperator i op := by
  unfold event? at h
  split at h
  · split at h
    · next hslot => cases h; exact ⟨hslot, by simp⟩
    · next hslot => cases h; exact ⟨hslot, by simp⟩
    · simp at h
  · split at h
    · next hslot => cases h; exact ⟨hslot, by simp⟩
    · simp at h
  · simp at h

/-- An action with an event sends it. -/
theorem perform_of_event? {a : PlayerAction} {e : SlotEvent} (h : p.event? a = some e) :
    p.perform a = p.send e := by
  unfold event? at h
  split at h
  · split at h
    · next hslot => cases h; simp only [perform, cycle, hslot]
    · next hslot => cases h; simp only [perform, cycle, hslot]
    · simp at h
  · split at h
    · next hslot => cases h; simp only [perform, setValue, hslot]
    · simp at h
  · simp at h

/-- Only cycling and setting send an event. -/
theorem event?_eq_none {a : PlayerAction} (h : a.isLoad = true ∨ p.isMistake a = true) :
    p.event? a = none := by
  cases a <;> simp_all [PlayerAction.isLoad, isMistake, event?]

/-- Without an event, nothing is set. -/
theorem setValue_of_event? {x : Trit} (h : p.event? (.setValue x) = none) :
    p.setValue x = { p with status := .noValueSelected } := by
  cases hslot : p.selected? with
  | none => simp only [setValue, hslot]
  | some id =>
    cases id with
    | value slot => simp [event?, hslot] at h
    | operator slot => simp only [setValue, hslot]

end

/-! ### One action -/

/-- The puzzle in play, its name, the cursor and the status belong together. -/
structure Sound (p : Player) : Prop where
  /-- The puzzle in play is the one of the catalog after some moves. -/
  puzzle : ∃ t moves, Catalog.template p.entry.name = .ok t ∧
    p.board.active = some (t.play moves)
  /-- The board has the name of the puzzle. -/
  name : p.board.name = some p.entry.name
  /-- The cursor is at a slot. -/
  cursor : p.cursor < p.slotCount
  /-- The last action did not fail. -/
  status : p.status.isError = false

/-- The player of a puzzle that was just loaded on a board. -/
def loaded (b : Board) (s : Scorer) (k : Fin Catalog.entries.length) (t : Template) : Player where
  board := b.put t (some (Catalog.entries.get k).name)
  scorer := s.reset
  puzzle := k
  cursor := 0
  status := .loaded (Catalog.entries.get k).name

/-- All that an action can do. -/
inductive Acts (p : Player) : PlayerAction → Player → Prop
  /-- The cursor moves to another slot. -/
  | moved {d : Direction} {c : Nat} (hc : c < p.slotCount) : Acts p (.move d) { p with cursor := c }
  /-- An event is sent to the puzzle in play. -/
  | sent {a : PlayerAction} {e : SlotEvent} {o : Outcome} (hload : a.isLoad = false)
      (hmistake : p.isMistake a = false) (he : p.event? a = some e) :
      Acts p a { p with board := p.board.move (.event e), status := .ofOutcome o }
  /-- No leaf is selected that could get a trit. -/
  | noLeaf {x : Trit} (he : p.event? (.setValue x) = none) :
      Acts p (.setValue x) { p with status := .noValueSelected }
  /-- The puzzle in play is submitted. -/
  | checked {u : Template} {v : Verdict} {s : Scorer} (hu : p.board.active = some u)
      (hs : p.scorer.submit u = .ok (v, s)) :
      Acts p .check { p with scorer := s, status := .ofVerdict v }
  /-- A puzzle of the catalog is loaded. -/
  | loaded {a : PlayerAction} {t : Template} (hload : a.isLoad = true)
      (ht : Catalog.template (Catalog.entries.get (p.puzzleOf a)).name = .ok t) :
      Acts p a (loaded p.board p.scorer (p.puzzleOf a) t)

section

variable {p : Player}

theorem entry_congr {q : Player} (h : q.puzzle = p.puzzle) : q.entry = p.entry :=
  congrArg Catalog.entries.get h

theorem restart_of_template {t : Template}
    (ht : Catalog.template p.entry.name = .ok t) :
    p.restart = loaded p.board p.scorer p.puzzle t := by
  rw [restart, fresh, Board.loadNamed_of_template ht]
  rfl

/-- A puzzle is always there to be loaded. -/
theorem exists_template (k : Fin Catalog.entries.length) :
    ∃ t, Catalog.template (Catalog.entries.get k).name = .ok t ∧ t.Built := by
  obtain ⟨t, ht⟩ := Catalog.template_of_mem (List.get_mem Catalog.entries k)
  exact ⟨t, ht, Catalog.built_of_template ht⟩

theorem send_of_apply {u : Template} {e : SlotEvent} {o : Outcome}
    (hu : p.board.active = some u) (h : u.apply e = .ok (o, u.afterEvent e)) :
    p.send e = { p with board := p.board.move (.event e), status := .ofOutcome o } := by
  rw [send, Board.apply_of_active hu, h, Board.move, hu]
  rfl

namespace Sound

/-- There is a puzzle in play. -/
theorem exists_active (h : p.Sound) : ∃ u, p.board.active = some u ∧ u.InPlay := by
  obtain ⟨t, moves, ht, hactive⟩ := h.puzzle
  exact ⟨t.play moves, hactive, (Catalog.built_of_template ht).inPlay moves⟩

/-- A slot is selected. -/
theorem exists_selected (h : p.Sound) {u : Template} (hu : p.board.active = some u) :
    ∃ id, p.selected? = some id ∧ u.Has id := by
  have hcursor := h.cursor
  rw [slotCount_of_active hu] at hcursor
  obtain ⟨id, hid, hposition⟩ := Template.exists_position_eq hcursor
  exact ⟨id, (selected?_eq_some_iff hu).mpr ⟨hid, hposition⟩, hid⟩

/-- An action with an event makes its move. -/
theorem acts_sent (h : p.Sound) {a : PlayerAction} {e : SlotEvent} (he : p.event? a = some e) :
    p.Acts a (p.perform a) := by
  obtain ⟨u, hu, -⟩ := h.exists_active
  obtain ⟨htarget, hop⟩ := event?_eq_some he
  obtain ⟨o, ho⟩ := exists_apply hu htarget hop
  have hother : ¬ (a.isLoad = true ∨ p.isMistake a = true) := by
    intro hload
    simp [event?_eq_none hload] at he
  rw [not_or, Bool.not_eq_true, Bool.not_eq_true] at hother
  rw [perform_of_event? he, send_of_apply hu ho]
  exact .sent hother.1 hother.2 he

/-- **An action does one of these things.** -/
theorem acts_perform (h : p.Sound) (a : PlayerAction) : p.Acts a (p.perform a) := by
  obtain ⟨u, hu, hplay⟩ := h.exists_active
  have hpos : 0 < p.slotCount := Nat.zero_lt_of_lt h.cursor
  have hne : ¬ p.slotCount = 0 := by omega
  cases a with
  | move d =>
    cases d with
    | forward =>
      simp only [perform, move, moveForward, hne, if_false]
      exact .moved (Nat.mod_lt _ hpos)
    | back =>
      simp only [perform, move, moveBack, hne, if_false]
      exact .moved (Nat.mod_lt _ hpos)
  | cycle =>
    obtain ⟨id, hid, -⟩ := h.exists_selected hu
    have hevent : ∃ e, p.event? .cycle = some e := by
      cases id <;> simp [event?, hid]
    obtain ⟨e, he⟩ := hevent
    exact h.acts_sent he
  | setValue x =>
    cases he : p.event? (.setValue x) with
    | some e => exact h.acts_sent he
    | none =>
      rw [perform, setValue_of_event? he]
      exact .noLeaf he
  | check =>
    obtain ⟨v, s, hs, -⟩ := Scorer.exists_judges hplay p.scorer
    simp only [perform, check, hu, hs]
    exact .checked hu hs
  | switch d =>
    -- A switch is a restart on the other puzzle.
    obtain ⟨t, ht, -⟩ := exists_template (p.puzzleOf (.switch d))
    have hswitch : p.switch d = restart { p with puzzle := p.puzzleOf (.switch d) } := by
      cases d <;> rfl
    have hloaded : p.switch d = Player.loaded p.board p.scorer (p.puzzleOf (.switch d)) t :=
      hswitch.trans (restart_of_template (p := { p with puzzle := p.puzzleOf (.switch d) }) ht)
    rw [perform, hloaded]
    exact .loaded rfl ht
  | restart =>
    obtain ⟨t, ht, -⟩ := exists_template p.puzzle
    rw [perform, restart_of_template ht]
    exact .loaded rfl ht

end Sound

theorem sound_loaded (b : Board) (s : Scorer) {k : Fin Catalog.entries.length} {t : Template}
    (ht : Catalog.template (Catalog.entries.get k).name = .ok t) : (loaded b s k t).Sound where
  puzzle := ⟨t, [], ht, rfl⟩
  name := rfl
  cursor := (Catalog.built_of_template ht).arboreal.slotCount_pos
  status := rfl

/-- **Every action keeps the parts of a player's state together.** -/
theorem Sound.perform (h : p.Sound) (a : PlayerAction) : (p.perform a).Sound := by
  have hacts := h.acts_perform a
  generalize p.perform a = q at hacts
  cases hacts with
  | moved hc => exact { h with cursor := hc }
  | @sent _ e o hload hmistake he =>
    obtain ⟨t, moves, ht, hactive⟩ := h.puzzle
    have hmove : (p.board.move (.event e)).active = some (t.play (moves ++ [.event e])) := by
      rw [Board.move, hactive, Option.map_some, Template.play_append]
      rfl
    refine ⟨⟨t, _, ht, hmove⟩, h.name, ?_, by cases o <;> rfl⟩
    -- A move adds no slot and takes none away, so the cursor stays at a slot.
    have hcursor := h.cursor
    rw [slotCount_of_active hactive, (t.sameFrame_play _).slotCount_eq] at hcursor
    rw [slotCount_of_active hmove, (t.sameFrame_play _).slotCount_eq]
    exact hcursor
  | noLeaf he => exact { h with status := rfl }
  | @checked u v s hu hs => exact { h with status := by cases v <;> rfl }
  | loaded hload ht => exact sound_loaded _ _ ht

end

/-! ### What an action does to each part -/

section

variable {p q : Player} {a : PlayerAction}

theorem Acts.puzzle_eq (h : p.Acts a q) : q.puzzle = p.puzzleOf a := by
  cases h with
  | moved hc => rfl
  | sent hload hmistake he => cases a <;> first | rfl | simp [PlayerAction.isLoad] at hload
  | noLeaf he => rfl
  | checked hu hs => rfl
  | loaded hload ht => rfl

theorem Acts.generation_eq (h : p.Acts a q) :
    q.board.generation = p.board.generation + if a.isLoad then 1 else 0 := by
  cases h with
  | moved hc => rfl
  | sent hload hmistake he => rw [hload]; rfl
  | noLeaf he => rfl
  | checked hu hs => rfl
  | loaded hload ht => rw [hload]; rfl

theorem Acts.errors_of_load (h : p.Acts a q) (hload : a.isLoad = true) :
    q.scorer.errors = 0 := by
  cases h with
  | loaded => rfl
  | sent hnot => simp [hload] at hnot
  | moved | noLeaf | checked => simp [PlayerAction.isLoad] at hload

theorem Acts.errors_eq (h : p.Acts a q) (hp : p.Sound) (hload : a.isLoad = false) :
    q.scorer.errors = p.scorer.errors + if p.isMistake a then 1 else 0 := by
  cases h with
  | moved hc => rfl
  | sent _ hmistake he => rw [hmistake]; rfl
  | noLeaf he => rfl
  | @checked u v s hu hs =>
    obtain ⟨u', hu', hplay⟩ := hp.exists_active
    obtain rfl := Option.some.inj (hu.symm.trans hu')
    rw [isMistake, hu, Option.any_some]
    exact (Scorer.submit_eq_ok_iff.mp hs).errors_eq hplay
  | loaded hload' => simp [hload] at hload'

/-- A loaded puzzle is the one of the catalog. -/
theorem Acts.active_of_load (h : p.Acts a q) (hload : a.isLoad = true) :
    ∃ t, Catalog.template q.entry.name = .ok t ∧ q.board.active = some t := by
  cases h with
  | loaded _ ht => exact ⟨_, ht, rfl⟩
  | sent hnot => simp [hload] at hnot
  | moved | noLeaf | checked => simp [PlayerAction.isLoad] at hload

/-- Any other action makes at most the move of its event. -/
theorem Acts.active_eq (h : p.Acts a q) (hload : a.isLoad = false) {u : Template}
    (hu : p.board.active = some u) :
    q.puzzle = p.puzzle ∧
      q.board.active = some (u.play ((p.event? a).toList.map .event)) := by
  cases h with
  | moved hc => exact ⟨rfl, hu⟩
  | sent _ hmistake he =>
    rw [he]
    refine ⟨rfl, ?_⟩
    rw [Board.move, hu]
    rfl
  | noLeaf he =>
    rw [he]
    exact ⟨rfl, hu⟩
  | checked hu' hs => exact ⟨rfl, hu⟩
  | loaded hload' => simp [hload] at hload'

/-- The puzzle that is loaded is the next one, the previous one or the same. -/
theorem puzzleOf_eq (p : Player) (a : PlayerAction) :
    ((p.puzzleOf a : ℕ) : ℤ) =
      (p.puzzle + [a].count (.switch .forward) - [a].count (.switch .back)) %
        Catalog.entries.length := by
  have hpos : 1 ≤ Catalog.entries.length := p.puzzle.pos
  have hsame : ((p.puzzle : ℕ) : ℤ) % Catalog.entries.length = p.puzzle :=
    Int.emod_eq_of_lt (Int.natCast_nonneg _) (by exact_mod_cast p.puzzle.isLt)
  cases a with
  | switch d =>
    cases d with
    | forward => simp [puzzleOf, puzzleAfter]
    | back =>
      have hback : ((p.puzzle : ℕ) : ℤ) + (Catalog.entries.length - 1 : ℕ) =
          p.puzzle - 1 + Catalog.entries.length := by omega
      simp [puzzleOf, puzzleAfter, hback]
  | move d | cycle | setValue x | check | restart => simp [puzzleOf, hsame]

end

/-! ### Runs -/

@[simp] theorem play_nil (p : Player) : p.play [] = p := rfl

@[simp] theorem play_concat (p : Player) (actions : List PlayerAction) (a : PlayerAction) :
    p.play (actions ++ [a]) = (p.play actions).perform a := by
  simp [play]

theorem sinceLoad_concat_of_load (p : Player) (actions : List PlayerAction) {a : PlayerAction}
    (h : a.isLoad = true) : p.sinceLoad (actions ++ [a]) = [] := by
  rw [sinceLoad, historySince_concat, if_pos h]

theorem sinceLoad_concat (p : Player) (actions : List PlayerAction) {a : PlayerAction}
    (h : a.isLoad = false) :
    p.sinceLoad (actions ++ [a]) = p.sinceLoad actions ++ [(p.play actions, a)] := by
  rw [sinceLoad, historySince_concat, h]
  rfl

section

variable {p : Player}

theorem sound_play (h : p.Sound) (actions : List PlayerAction) : (p.play actions).Sound := by
  induction actions using List.reverseRecOn with
  | nil => exact h
  | append_singleton actions a ih =>
    rw [play_concat]
    exact ih.perform a

/-- The last action of a run does one of the things that an action can do. -/
theorem acts_play_concat (h : p.Sound) (actions : List PlayerAction) (a : PlayerAction) :
    (p.play actions).Acts a (p.play (actions ++ [a])) := by
  rw [play_concat]
  exact (sound_play h actions).acts_perform a

/-- **The puzzle is as many places further on as there were more switches to the next one
than to the previous one.** -/
theorem puzzle_play (h : p.Sound) (actions : List PlayerAction) :
    ((p.play actions).puzzle : ℤ) =
      (p.puzzle + actions.count (.switch .forward) - actions.count (.switch .back)) %
        Catalog.entries.length := by
  induction actions using List.reverseRecOn with
  | nil => simpa [puzzleOf] using p.puzzleOf_eq .restart
  | append_singleton actions a ih =>
    rw [(acts_play_concat h actions a).puzzle_eq, puzzleOf_eq, ih, List.count_append,
      List.count_append, Int.add_sub_assoc, Int.emod_add_emod]
    congr 1
    omega

/-- **The generation counts the puzzles that were loaded.** -/
theorem generation_play (h : p.Sound) (actions : List PlayerAction) :
    (p.play actions).board.generation =
      p.board.generation + actions.countP PlayerAction.isLoad := by
  induction actions using List.reverseRecOn with
  | nil => rfl
  | append_singleton actions a ih =>
    rw [(acts_play_concat h actions a).generation_eq, ih, List.countP_append,
      List.countP_singleton, Nat.add_assoc]

/-- **The count of mistakes is that of the wrong answers since the last load.** -/
theorem errors_play (h : p.Sound) (hnone : p.scorer.errors = 0) (actions : List PlayerAction) :
    (p.play actions).scorer.errors =
      (p.sinceLoad actions).countP fun x => x.1.isMistake x.2 := by
  induction actions using List.reverseRecOn with
  | nil => exact hnone
  | append_singleton actions a ih =>
    have hacts := acts_play_concat h actions a
    cases hload : a.isLoad with
    | true =>
      rw [sinceLoad_concat_of_load _ _ hload, hacts.errors_of_load hload]
      rfl
    | false =>
      rw [sinceLoad_concat _ _ hload, List.countP_append, List.countP_singleton, ← ih]
      exact hacts.errors_eq (sound_play h actions) hload

/-- The moves on the puzzle in play since it was loaded. -/
def movesSinceLoad (p : Player) (actions : List PlayerAction) : List Move :=
  ((p.sinceLoad actions).filterMap fun x => x.1.event? x.2).map .event

/-- **The puzzle in play is the one of the catalog with the moves since the last load
made on it.** -/
theorem active_play (h : p.Sound) {t : Template} (ht : Catalog.template p.entry.name = .ok t)
    (hfresh : p.board.active = some t) (actions : List PlayerAction) :
    ∃ t, Catalog.template (p.play actions).entry.name = .ok t ∧
      (p.play actions).board.active = some (t.play (p.movesSinceLoad actions)) := by
  induction actions using List.reverseRecOn with
  | nil => exact ⟨t, ht, hfresh⟩
  | append_singleton actions a ih =>
    have hacts := acts_play_concat h actions a
    cases hload : a.isLoad with
    | true =>
      obtain ⟨t, ht, hactive⟩ := hacts.active_of_load hload
      refine ⟨t, ht, ?_⟩
      rw [hactive, movesSinceLoad, sinceLoad_concat_of_load _ _ hload]
      rfl
    | false =>
      obtain ⟨t, ht, hactive⟩ := ih
      obtain ⟨hpuzzle, hmoved⟩ := hacts.active_eq hload hactive
      refine ⟨t, ?_, ?_⟩
      · rwa [entry_congr hpuzzle]
      · rw [hmoved, ← Template.play_append, movesSinceLoad, movesSinceLoad,
          sinceLoad_concat _ _ hload, List.filterMap_append, List.map_append]
        cases he : (p.play actions).event? a <;> simp [he]

end

end Player

end TritPuzzle
