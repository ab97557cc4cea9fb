import TritPuzzle.Play.Event
import TritPuzzle.Proofs.Links

/-!
# Runs of moves

A puzzle in play is changed by input events and by the setters of its nodes, in any
order and any number.  All that a single move can do is said once, in
`Template.Refill`: nothing, or a new content for one slot that is not locked.  What a
whole run keeps follows from that by induction.

## Main definitions

* `Move`, `Template.perform`, `Template.play` — a move, and a run of moves.
* `Template.Refill` — what one move can do.
* `Template.SameFrame` — two puzzles that differ at most in the contents of slots.
* `Template.Fits` — every operator fits its children.

## Main results

* `refill_perform` — a move does nothing or refills one open slot.
* `play_induction` — what refilling a slot keeps, every run keeps.
* `sameFrame_play`, `fits_play` — a run keeps the frame and the fit of the operators.
-/

namespace TritPuzzle

/-- A change that is asked of a puzzle. -/
inductive Move where
  /-- An input event. -/
  | event (e : SlotEvent)
  /-- A leaf gets the given trit from its setter. -/
  | setValue (slot : Nat) (value : Trit)
  /-- An inner node gets the given operator from its setter. -/
  | setOperator (slot : Nat) (op : Operator)
  deriving DecidableEq, Repr

namespace Template

/-- What a setter leaves of a puzzle: the puzzle as it was where there is no such slot
or the slot refuses. -/
def afterSetter (t : Template) : Option (Except SlotError Template) → Template
  | some (.ok t') => t'
  | _ => t

/-- What an input event leaves of a puzzle: the puzzle as it was if the event fails. -/
def afterEvent (t : Template) (e : SlotEvent) : Template :=
  match t.apply e with
  | .ok (_, t') => t'
  | .error _ => t

/-- The puzzle after a move. -/
def perform (t : Template) : Move → Template
  | .event e => t.afterEvent e
  | .setValue slot x => t.afterSetter (t.setValue? slot x)
  | .setOperator slot op => t.afterSetter (t.setOperator? slot op)

/-- The puzzle after a run of moves. -/
def play (t : Template) (moves : List Move) : Template := moves.foldl perform t

@[simp] theorem play_nil (t : Template) : t.play [] = t := rfl

@[simp] theorem play_cons (t : Template) (m : Move) (ms : List Move) :
    t.play (m :: ms) = (t.perform m).play ms := rfl

/-- An event leaves what the setter that it calls leaves, whether a refusal is an error
or is ignored. -/
theorem afterEvent_eq (t : Template) (e : SlotEvent) :
    t.afterEvent e = t.afterSetter (t.change? e) := by
  unfold afterEvent apply
  cases t.change? e with
  | none => rfl
  | some r =>
    cases r with
    | ok t' => rfl
    | error err => cases err <;> rfl

/-! ### One move -/

/-- What one move can make of a puzzle. -/
inductive Refill (t : Template) : Template → Prop
  /-- Nothing changes. -/
  | same : Refill t t
  /-- A leaf that is not locked has a new content. -/
  | value {i : Nat} {s : Slot Trit} (x : Trit) (hs : t.values[i]? = some s)
      (hopen : s.isLocked = false) : Refill t { t with values := t.values.set i (.opened x) }
  /-- An inner node that is not locked has a new operator, which fits its children. -/
  | operator {i : Nat} {n : OperatorNode} {op : Operator} (hn : t.operators[i]? = some n)
      (hopen : n.slot.isLocked = false) (hfit : op.arity = n.arity) :
      Refill t { t with operators := t.operators.set i { n with slot := .opened op } }

theorem refill_setValue? {t t' : Template} {slot : Nat} {x : Trit}
    (h : t.setValue? slot x = some (.ok t')) : t.Refill t' := by
  obtain ⟨s, hs, hset⟩ := Option.map_eq_some_iff.mp h
  cases hs' : s.set x with
  | error e => rw [hs'] at hset; simp [Except.map] at hset
  | ok s' =>
    obtain ⟨hopen, rfl⟩ := Slot.set_eq_ok_iff.mp hs'
    rw [hs', Except.map, Except.ok.injEq] at hset
    exact hset ▸ .value x hs hopen

theorem refill_setOperator? {t t' : Template} {slot : Nat} {op : Operator}
    (h : t.setOperator? slot op = some (.ok t')) : t.Refill t' := by
  obtain ⟨n, hn, hset⟩ := Option.map_eq_some_iff.mp h
  cases hn' : n.set op with
  | error e => rw [hn'] at hset; simp [Except.map] at hset
  | ok n' =>
    obtain ⟨⟨hopen, hfit⟩, rfl⟩ := OperatorNode.set_eq_ok_iff.mp hn'
    rw [hn', Except.map, Except.ok.injEq] at hset
    exact hset ▸ .operator hn hopen hfit

theorem refill_change? {t t' : Template} {e : SlotEvent} (h : t.change? e = some (.ok t')) :
    t.Refill t' := by
  cases e with
  | setValue slot x => exact refill_setValue? h
  | cycleValue slot =>
    obtain ⟨s, -, hs⟩ := Option.bind_eq_some_iff.mp h
    exact refill_setValue? hs
  | setOperator slot op => exact refill_setOperator? h
  | cycleOperator slot =>
    obtain ⟨n, -, hn⟩ := Option.bind_eq_some_iff.mp h
    exact refill_setOperator? hn

theorem refill_afterSetter {t : Template} {r : Option (Except SlotError Template)}
    (h : ∀ t', r = some (.ok t') → t.Refill t') : t.Refill (t.afterSetter r) := by
  unfold afterSetter
  split
  · exact h _ rfl
  · exact .same

/-- **A move does nothing or refills one open slot.** -/
theorem refill_perform (t : Template) (m : Move) : t.Refill (t.perform m) := by
  cases m with
  | event e =>
    rw [perform, afterEvent_eq]
    exact refill_afterSetter fun _ => refill_change?
  | setValue slot x => exact refill_afterSetter fun _ => refill_setValue?
  | setOperator slot op => exact refill_afterSetter fun _ => refill_setOperator?

/-- **What refilling a slot keeps, every run keeps.** -/
theorem play_induction {P : Template → Prop} (step : ∀ t t', P t → t.Refill t' → P t')
    {t : Template} (h : P t) (moves : List Move) : P (t.play moves) := by
  induction moves generalizing t with
  | nil => exact h
  | cons m ms ih => exact ih (step t _ h (t.refill_perform m))

/-! ### The frame -/

/-- Two puzzles that differ at most in the contents of their slots. -/
structure SameFrame (t t' : Template) : Prop where
  root : t'.root = t.root
  answer : t'.answer = t.answer
  length_values : t'.values.length = t.values.length
  wiring : wiring t'.operators = wiring t.operators

theorem SameFrame.refl (t : Template) : t.SameFrame t := ⟨rfl, rfl, rfl, rfl⟩

theorem SameFrame.trans {t u v : Template} (h : t.SameFrame u) (h' : u.SameFrame v) :
    t.SameFrame v where
  root := h'.root.trans h.root
  answer := h'.answer.trans h.answer
  length_values := h'.length_values.trans h.length_values
  wiring := h'.wiring.trans h.wiring

theorem SameFrame.length_operators {t t' : Template} (h : t.SameFrame t') :
    t'.operators.length = t.operators.length := by
  rw [← length_wiring, h.wiring, length_wiring]

theorem Refill.sameFrame {t t' : Template} (h : t.Refill t') : t.SameFrame t' := by
  cases h with
  | same => exact .refl t
  | value x hs hopen => exact ⟨rfl, rfl, by simp, rfl⟩
  | operator hn hopen hfit => exact ⟨rfl, rfl, rfl, wiring_set hn rfl⟩

/-- A run changes nothing but the contents of slots. -/
theorem sameFrame_play (t : Template) (moves : List Move) : t.SameFrame (t.play moves) :=
  play_induction (fun _ _ h hr => h.trans hr.sameFrame) (.refl t) moves

/-! ### The fit of the operators -/

/-- Does every operator take as many operands as its node has children? -/
def Fits (t : Template) : Prop := ∀ n ∈ t.operators, n.Fits

theorem Refill.fits {t t' : Template} (h : t.Refill t') (hfits : t.Fits) : t'.Fits := by
  cases h with
  | same => exact hfits
  | value x hs hopen => exact hfits
  | operator hn hopen hfit =>
    intro m hm
    rcases List.mem_or_eq_of_mem_set hm with hm | rfl
    · exact hfits m hm
    · intro op hop
      obtain rfl : _ = op := by simpa [Slot.content?] using hop
      exact hfit

theorem fits_play {t : Template} (h : t.Fits) (moves : List Move) : (t.play moves).Fits :=
  play_induction (fun _ _ h hr => hr.fits h) h moves

end Template

end TritPuzzle
