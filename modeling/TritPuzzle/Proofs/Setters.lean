import TritPuzzle.Proofs.Moves
import TritPuzzle.Proofs.Mutation

/-!
# Setting slots in place

An event asks one slot for a change.  The slot is looked up in its list and lent to its
setter, which looks at the lock, an inner node then at the fit of the operator, and writes
the content last.  Here this is written as steps on the puzzle, where whatever has been
written before a refusal stays; it agrees with the functions that return a new puzzle.

## Main definitions

* `Slot.setting`, `OperatorNode.setting` — the setters, with `Slot.cycling` and
  `OperatorNode.cycling` for the next content.
* `Slot.locking`, `OperatorNode.locking` — the setters that fix a content for good.
* `SlotEvent.request` — the call of the setter that an event is for.
* `SlotEvent.call` — an event, with the answer of the setter as its outcome.

## Main results

* `Slot.on_writing`, `OperatorNode.on_writing` — a setter that refuses has written nothing.
* `SlotEvent.on_call` — **an event in place does what the function returns, and a failing
  one does nothing.**
* `SlotEvent.snd_transcript` — a run of events in place is a run of moves.
-/

namespace TritPuzzle

/-! ### The setters -/

/-- Writes a new state into a slot: the lock is looked at first. -/
def Slot.writing {α : Type} (new : Slot α) : Mutation (Slot α) SlotError Unit := do
  if (← get).isLocked then throw .locked
  modify fun _ => new

/-- Replaces the content of a slot. -/
def Slot.setting {α : Type} (x : α) : Mutation (Slot α) SlotError Unit := writing (.opened x)

/-- Fixes a slot to a content for good. -/
def Slot.locking {α : Type} (x : α) : Mutation (Slot α) SlotError Unit := writing (.locked x)

/-- Writes a new state with the given operator into the slot of an inner node: the lock is
looked at first, then the fit of the operator, and the slot looks at its lock once more. -/
def OperatorNode.writing (op : Operator) (new : Slot Operator) :
    Mutation OperatorNode SlotError Unit := do
  let n ← get
  if n.slot.isLocked then throw .locked
  match n.misfit? op with
  | some e => throw e
  | none =>
    let answer ← Mutation.onPart n.slot (fun m s => { m with slot := s }) (Slot.writing new)
    Mutation.ofExcept id answer

/-- Replaces the operator of an inner node. -/
def OperatorNode.setting (op : Operator) : Mutation OperatorNode SlotError Unit :=
  writing op (.opened op)

/-- Fixes an inner node to an operator for good. -/
def OperatorNode.locking (op : Operator) : Mutation OperatorNode SlotError Unit :=
  writing op (.locked op)

/-- Replaces the content of a leaf by the next one. -/
def Slot.cycling : Mutation (Slot Trit) SlotError Unit := do
  Slot.setting (Template.nextValue (← get))

/-- Replaces the operator of an inner node by the next one that fits. -/
def OperatorNode.cycling : Mutation OperatorNode SlotError Unit := do
  OperatorNode.setting (Template.nextOperator (← get))

theorem Slot.on_writing {α : Type} (new s : Slot α) :
    (writing new).on s = if s.isLocked then (.error .locked, s) else (.ok (), new) := by
  cases s <;> rfl

theorem Slot.on_setting {α : Type} (x : α) (s : Slot α) :
    (setting x).on s = inPlace s ((s.set x).map (Prod.mk ())) := by
  rw [setting, on_writing, set]
  cases s.isLocked <;> rfl

theorem Slot.on_locking {α : Type} (x : α) (s : Slot α) :
    (locking x).on s = inPlace s ((s.lock x).map (Prod.mk ())) := by
  rw [locking, on_writing, lock]
  cases s.isLocked <;> rfl

/-- An inner node is written to only after all questions have been asked. -/
theorem OperatorNode.on_writing (op : Operator) (new : Slot Operator) (n : OperatorNode) :
    (writing op new).on n = match n.refusal? op with
      | some e => (.error e, n)
      | none => (.ok (), { n with slot := new }) := by
  unfold writing refusal?
  rw [Mutation.on_get_bind]
  cases hlock : n.slot.isLocked with
  | true => rfl
  | false =>
    cases n.misfit? op with
    | some e => rfl
    | none =>
      have hslot : (Slot.writing new).on n.slot = (.ok (), new) := by
        rw [Slot.on_writing, hlock]
        rfl
      change Mutation.on (Mutation.onPart n.slot _ _ >>= _) n = _
      rw [Mutation.on_bind_ok (Mutation.on_onPart _ _ _ n), hslot]
      rfl

theorem OperatorNode.on_setting (op : Operator) (n : OperatorNode) :
    (setting op).on n = inPlace n ((n.set op).map (Prod.mk ())) := by
  rw [setting, on_writing, set]
  cases n.refusal? op <;> rfl

theorem OperatorNode.on_locking (op : Operator) (n : OperatorNode) :
    (locking op).on n = inPlace n ((n.lock op).map (Prod.mk ())) := by
  rw [locking, on_writing, lock]
  cases n.refusal? op <;> rfl

theorem Slot.on_cycling (s : Slot Trit) :
    cycling.on s = inPlace s ((s.set (Template.nextValue s)).map (Prod.mk ())) :=
  Slot.on_setting (Template.nextValue s) s

theorem OperatorNode.on_cycling (n : OperatorNode) :
    cycling.on n = inPlace n ((n.set (Template.nextOperator n)).map (Prod.mk ())) :=
  OperatorNode.on_setting (Template.nextOperator n) n

namespace Template

/-! ### The slots of a puzzle -/

/-- Lends a leaf to a setter. -/
def onLeaf (slot : Nat) (setter : Mutation (Slot Trit) SlotError Unit) :
    Mutation Template InputError (Except SlotError Unit) :=
  Mutation.onEntry values (fun t xs => { t with values := xs }) slot
    (.noSuchSlot (.value slot)) setter

/-- Lends an inner node to a setter. -/
def onInner (slot : Nat) (setter : Mutation OperatorNode SlotError Unit) :
    Mutation Template InputError (Except SlotError Unit) :=
  Mutation.onEntry operators (fun t xs => { t with operators := xs }) slot
    (.noSuchSlot (.operator slot)) setter

theorem on_onLeaf {setter : Mutation (Slot Trit) SlotError Unit}
    {change : Slot Trit → Except SlotError (Slot Trit)}
    (h : ∀ s, setter.on s = inPlace s ((change s).map (Prod.mk ()))) (slot : Nat)
    (t : Template) :
    (onLeaf slot setter).on t = Mutation.answered (.noSuchSlot (.value slot)) t
      (t.values[slot]?.map fun s =>
        (change s).map fun s' => { t with values := t.values.set slot s' }) :=
  Mutation.on_onEntry rfl h

theorem on_onInner {setter : Mutation OperatorNode SlotError Unit}
    {change : OperatorNode → Except SlotError OperatorNode}
    (h : ∀ n, setter.on n = inPlace n ((change n).map (Prod.mk ()))) (slot : Nat)
    (t : Template) :
    (onInner slot setter).on t = Mutation.answered (.noSuchSlot (.operator slot)) t
      (t.operators[slot]?.map fun n =>
        (change n).map fun n' => { t with operators := t.operators.set slot n' }) :=
  Mutation.on_onEntry rfl h

/-- A setter leaves the puzzle as the function that returns a new one says. -/
theorem snd_answered (missing : InputError) (t : Template)
    (r : Option (Except SlotError Template)) :
    (Mutation.answered missing t r).2 = t.afterSetter r := by
  rcases r with _ | e | t' <;> rfl

end Template

namespace SlotEvent

/-! ### Events -/

/-- Calls the setter that an event is for. -/
def request : SlotEvent → Mutation Template InputError (Except SlotError Unit)
  | .setValue slot x => Template.onLeaf slot (Slot.setting x)
  | .cycleValue slot => Template.onLeaf slot Slot.cycling
  | .setOperator slot op => Template.onInner slot (OperatorNode.setting op)
  | .cycleOperator slot => Template.onInner slot OperatorNode.cycling

/-- The outcome of an event, given the answer of the setter. -/
def settle (id : NodeId) : Except SlotError Unit → Mutation Template InputError Outcome
  | .ok () => pure (.applied id)
  | .error .locked => pure (.ignored id)
  | .error e => throw (.rejected id e)

/-- An event on a puzzle. -/
def call (e : SlotEvent) : Mutation Template InputError Outcome := do
  settle e.target (← e.request)

/-- A setter answers as the function that returns a new puzzle says. -/
theorem on_request (e : SlotEvent) (t : Template) :
    e.request.on t = Mutation.answered (.noSuchSlot e.target) t (t.change? e) := by
  cases e with
  | setValue slot x => exact Template.on_onLeaf (Slot.on_setting x) slot t
  | setOperator slot op => exact Template.on_onInner (OperatorNode.on_setting op) slot t
  | cycleValue slot =>
    rw [request, Template.on_onLeaf Slot.on_cycling]
    simp only [Template.change?, Template.setValue?, target]
    cases t.values[slot]? <;> rfl
  | cycleOperator slot =>
    rw [request, Template.on_onInner OperatorNode.on_cycling]
    simp only [Template.change?, Template.setOperator?, target]
    cases t.operators[slot]? <;> rfl

/-- **An event in place does what the function returns, and a failing one does nothing.** -/
theorem on_call (e : SlotEvent) (t : Template) : e.call.on t = inPlace t (t.apply e) := by
  have hrequest := e.on_request t
  unfold call Template.apply
  cases hchange : t.change? e with
  | none =>
    rw [hchange] at hrequest
    rw [Mutation.on_bind_error hrequest]
    rfl
  | some r =>
    rw [hchange] at hrequest
    cases r with
    | ok t' =>
      rw [Mutation.on_bind_ok hrequest]
      rfl
    | error err =>
      rw [Mutation.on_bind_ok hrequest]
      cases err <;> rfl

/-- An event in place leaves the puzzle after the event. -/
theorem snd_on_call (e : SlotEvent) (t : Template) : (e.call.on t).2 = t.afterEvent e := by
  rw [e.on_call, Template.afterEvent]
  cases t.apply e <;> rfl

/-- A run of events in place is a run of moves. -/
theorem snd_transcript (events : List SlotEvent) (t : Template) :
    (Mutation.transcript call events t).2 = t.play (events.map .event) := by
  rw [Mutation.snd_transcript (fun u e => snd_on_call e u), Template.play, List.foldl_map]
  rfl

end SlotEvent

end TritPuzzle
