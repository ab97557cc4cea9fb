import TritPuzzle.Proofs.Acceptance
import TritPuzzle.Proofs.Setters

/-!
# Calls that change an assembly in place

A call on an assembly checks its arguments one after another and then changes several
lists.  Here the calls are written as steps on the assembly, with their checks and changes
in the order in which they are made.  They turn out to agree with the functions that
return a new assembly: a call that fails has changed nothing yet.

## Main definitions

* `Assembly.Call` — a call that changes an assembly in place.
* `AssemblyStep.call`, `Assembly.result` — the call of a step, and what the functions of an
  assembly return for it.
* `Assembly.transcript` — the answers to a run of calls, and the assembly they leave.

## Main results

* `AssemblyStep.on_call` — **a call in place does what the function returns, and a failing
  one does nothing.**
* `Forest.exists_addOperator_iff`, `Forest.of_addOperator` — when there is a new inner
  node, and what is new then.
* `calls_run` — **when the calls that can fail succeed, what they change, and that their
  failures leave no trace.**
-/

namespace TritPuzzle

namespace Assembly

/-- A call that changes an assembly in place. -/
abbrev Call (α : Type) := Mutation Assembly AssemblyError α

/-! ### The calls -/

/-- Fails unless the node exists and has no parent. -/
def ensureFree (id : NodeId) : Call Unit := do
  match (← get).parented? id with
  | none => throw (.unknownNode id)
  | some true => throw (.sharedNode id)
  | some false => pure ()

/-- Fails unless the nodes can become the children of one node. -/
def ensureChildren (left : NodeId) (right : Option NodeId) : Call Unit := do
  ensureFree left
  match right with
  | none => pure ()
  | some r => if r = left then throw (.sharedNode r) else ensureFree r

/-- Sets the marks of the children. -/
def markChildren (left : NodeId) (right : Option NodeId) : Call Unit := do
  modify (mark · left)
  match right with
  | none => pure ()
  | some r => modify (mark · r)

/-- Appends a leaf and its mark. -/
def pushValue (slot : Slot Trit) : Call NodeId := do
  modify fun a => { a with values := a.values ++ [slot] }
  modify fun a => { a with valueMarks := a.valueMarks ++ [false] }
  return .value ((← get).values.length - 1)

/-- Checks the children and the operator, marks the children and appends the new inner node
and its mark. -/
def pushOperator (slot : Slot Operator) (left : NodeId) (right : Option NodeId) :
    Call NodeId := do
  ensureChildren left right
  let n ← Mutation.ofExcept .slot (OperatorNode.make slot left right)
  markChildren left right
  modify fun a => { a with operators := a.operators ++ [n] }
  modify fun a => { a with operatorMarks := a.operatorMarks ++ [false] }
  return .operator ((← get).operators.length - 1)

/-- Lends a node to its setter, and hands on what the node refuses. -/
def fixNode {β : Type} (id : NodeId) (nodes : Assembly → List β)
    (put : Assembly → List β → Assembly) (i : Nat) (setter : Mutation β SlotError Unit) :
    Call Unit := do
  let answer ← Mutation.onEntry nodes put i (.unknownNode id) setter
  Mutation.ofExcept .slot answer

/-- Looks a leaf up and fixes it. -/
def fixValue (id : NodeId) (x : Trit) : Call Unit :=
  match id with
  | .operator _ => throw (.unknownNode id)
  | .value i => fixNode id values (fun a xs => { a with values := xs }) i (Slot.locking x)

/-- Looks an inner node up and fixes it. -/
def fixOperator (id : NodeId) (op : Operator) : Call Unit :=
  match id with
  | .value _ => throw (.unknownNode id)
  | .operator i =>
    fixNode id operators (fun a xs => { a with operators := xs }) i (OperatorNode.locking op)

end Assembly

/-- The call of a step.  It answers with the address of the new node if it makes one. -/
def AssemblyStep.call : AssemblyStep → Assembly.Call (Option NodeId)
  | .value slot => some <$> Assembly.pushValue slot
  | .openValue => some <$> Assembly.pushValue .unset
  | .lockedValue x => some <$> Assembly.pushValue (.locked x)
  | .presetValue x => some <$> Assembly.pushValue (.preset x)
  | .operator slot left right => some <$> Assembly.pushOperator slot left right
  | .lockValue id x => (fun _ => none) <$> Assembly.fixValue id x
  | .lockOperator id op => (fun _ => none) <$> Assembly.fixOperator id op

namespace Assembly

/-- The answer and the new assembly that the functions of an assembly return for a step. -/
def result (a : Assembly) : AssemblyStep → Except AssemblyError (Option NodeId × Assembly)
  | .value slot => .ok ((a.addValue slot).map some id)
  | .openValue => .ok ((a.addValue .unset).map some id)
  | .lockedValue x => .ok ((a.addValue (.locked x)).map some id)
  | .presetValue x => .ok ((a.addPreset x).map some id)
  | .operator slot left right => (a.addOperator slot left right).map (Prod.map some id)
  | .lockValue id x => (a.lockValue id x).map (Prod.mk none)
  | .lockOperator id op => (a.lockOperator id op).map (Prod.mk none)

/-! ### The checks and the marks -/

/-- The answer of a check that looks for a fault. -/
def verdict : Option AssemblyError → Except AssemblyError Unit
  | none => .ok ()
  | some e => .error e

theorem on_ensureFree (id : NodeId) (a : Assembly) :
    (ensureFree id).on a = (verdict (a.refusal? id), a) := by
  rw [ensureFree, Mutation.on_get_bind, refusal?]
  cases a.parented? id with
  | none => rfl
  | some b => cases b <;> rfl

theorem on_ensureChildren (left : NodeId) (right : Option NodeId) (a : Assembly) :
    (ensureChildren left right).on a = (verdict (a.refusalOfChildren? left right), a) := by
  have hleft := on_ensureFree left a
  unfold ensureChildren refusalOfChildren?
  cases hfault : a.refusal? left with
  | some e =>
    rw [hfault] at hleft
    rw [Mutation.on_bind_error hleft]
    rfl
  | none =>
    rw [hfault] at hleft
    rw [Mutation.on_bind_ok hleft]
    cases right with
    | none => rfl
    | some r =>
      by_cases h : r = left
      · simp [h, verdict]
      · simp [h, on_ensureFree]

theorem on_markChildren (left : NodeId) (right : Option NodeId) (a : Assembly) :
    (markChildren left right).on a = (.ok (), (left :: right.toList).foldl mark a) := by
  unfold markChildren
  rw [Mutation.on_bind_ok (Mutation.on_modify _ a)]
  cases right <;> rfl

/-! ### In place and by functions -/

theorem on_pushValue (slot : Slot Trit) (a : Assembly) :
    (pushValue slot).on a = (.ok (a.addValue slot).1, (a.addValue slot).2) := by
  rw [pushValue, Mutation.on_bind_ok (Mutation.on_modify _ a),
    Mutation.on_bind_ok (Mutation.on_modify _ _), Mutation.on_get_bind, Mutation.on_pure]
  simp [addValue]

/-- The first change is made after the last check, so a new inner node is made as a whole
or not at all. -/
theorem on_pushOperator (slot : Slot Operator) (left : NodeId) (right : Option NodeId)
    (a : Assembly) :
    (pushOperator slot left right).on a = inPlace a (a.addOperator slot left right) := by
  have hchildren := on_ensureChildren left right a
  unfold pushOperator addOperator
  cases hfault : a.refusalOfChildren? left right with
  | some e =>
    rw [hfault] at hchildren
    rw [Mutation.on_bind_error hchildren]
    rfl
  | none =>
    rw [hfault] at hchildren
    rw [Mutation.on_bind_ok hchildren]
    cases hmake : OperatorNode.make slot left right with
    | error e =>
      rw [Mutation.on_bind_error (Mutation.on_ofExcept_error _ e a)]
      rfl
    | ok n =>
      obtain ⟨rfl, -⟩ := OperatorNode.make_eq_ok_iff.mp hmake
      have hlength : ((left :: right.toList).foldl mark a).operators.length = a.operators.length :=
        congrArg List.length (foldl_mark a _).2.1
      rw [Mutation.on_bind_ok (Mutation.on_ofExcept_ok _ _ a),
        Mutation.on_bind_ok (on_markChildren left right a),
        Mutation.on_bind_ok (Mutation.on_modify _ _), Mutation.on_bind_ok (Mutation.on_modify _ _),
        Mutation.on_get_bind, Mutation.on_pure]
      simp only [inPlace, adopt, OperatorNode.children, List.length_append, List.length_singleton,
        Nat.add_sub_cancel, hlength]

/-- A fault of the look-up and one of the setter both leave the assembly as it was. -/
theorem on_fixNode {β : Type} {id : NodeId} {nodes : Assembly → List β}
    {put : Assembly → List β → Assembly} {i : Nat} {setter : Mutation β SlotError Unit}
    {lock : β → Except SlotError β} {a : Assembly} (hput : put a (nodes a) = a)
    (hsetter : ∀ n, setter.on n = inPlace n ((lock n).map (Prod.mk ()))) :
    (fixNode id nodes put i setter).on a = inPlace a (match (nodes a)[i]? with
      | none => .error (.unknownNode id)
      | some n =>
        match lock n with
        | .error e => .error (.slot e)
        | .ok n' => .ok ((), put a ((nodes a).set i n'))) := by
  have hentry : (Mutation.onEntry nodes put i (AssemblyError.unknownNode id) setter).on a = _ :=
    Mutation.on_onEntry hput hsetter
  unfold fixNode
  cases hnode : (nodes a)[i]? with
  | none =>
    rw [hnode] at hentry
    rw [Mutation.on_bind_error hentry]
    rfl
  | some n =>
    rw [hnode, Option.map_some] at hentry
    dsimp only
    cases hlock : lock n with
    | error e =>
      rw [hlock] at hentry
      rw [Mutation.on_bind_ok hentry]
      rfl
    | ok n' =>
      rw [hlock] at hentry
      rw [Mutation.on_bind_ok hentry]
      rfl

theorem on_fixValue (id : NodeId) (x : Trit) (a : Assembly) :
    (fixValue id x).on a = inPlace a ((a.lockValue id x).map (Prod.mk ())) := by
  cases id with
  | operator i => rfl
  | value i =>
    rw [fixValue, on_fixNode rfl (Slot.on_locking x), lockValue]
    cases a.values[i]? with
    | none => rfl
    | some s =>
      dsimp only
      cases s.lock x <;> rfl

theorem on_fixOperator (id : NodeId) (op : Operator) (a : Assembly) :
    (fixOperator id op).on a = inPlace a ((a.lockOperator id op).map (Prod.mk ())) := by
  cases id with
  | value i => rfl
  | operator i =>
    rw [fixOperator, on_fixNode rfl (OperatorNode.on_locking op), lockOperator]
    cases a.operators[i]? with
    | none => rfl
    | some n =>
      dsimp only
      cases n.lock op <;> rfl

end Assembly

/-- **A call in place does what the function returns, and a failing one does nothing.** -/
theorem AssemblyStep.on_call (step : AssemblyStep) (a : Assembly) :
    step.call.on a = inPlace a (a.result step) := by
  cases step with
  | value slot => rw [call, Mutation.on_map, Assembly.on_pushValue]; rfl
  | openValue => rw [call, Mutation.on_map, Assembly.on_pushValue]; rfl
  | lockedValue x => rw [call, Mutation.on_map, Assembly.on_pushValue]; rfl
  | presetValue x => rw [call, Mutation.on_map, Assembly.on_pushValue]; rfl
  | operator slot left right =>
    rw [call, Mutation.on_map, Assembly.on_pushOperator, Assembly.result]
    cases a.addOperator slot left right <;> rfl
  | lockValue id x =>
    rw [call, Mutation.on_map, Assembly.on_fixValue, Assembly.result]
    cases a.lockValue id x <;> rfl
  | lockOperator id op =>
    rw [call, Mutation.on_map, Assembly.on_fixOperator, Assembly.result]
    cases a.lockOperator id op <;> rfl

namespace Assembly

/-- A call in place leaves the assembly after the step. -/
theorem snd_on_call (step : AssemblyStep) (a : Assembly) :
    (step.call.on a).2 = a.perform step := by
  rw [step.on_call]
  cases step with
  | value slot => rfl
  | openValue => rfl
  | lockedValue x => rfl
  | presetValue x => rfl
  | operator slot left right =>
    rw [result, perform]
    cases a.addOperator slot left right <;> rfl
  | lockValue id x =>
    rw [result, perform]
    cases a.lockValue id x <;> rfl
  | lockOperator id op =>
    rw [result, perform]
    cases a.lockOperator id op <;> rfl

/-- A call that fails leaves the assembly as it was. -/
theorem snd_on_call_of_error {step : AssemblyStep} {a : Assembly} {e : AssemblyError}
    (h : (step.call.on a).1 = .error e) : (step.call.on a).2 = a := by
  rw [step.on_call] at h ⊢
  exact snd_inPlace_of_error h

/-- The answers to a run of calls on an assembly, and the assembly they leave. -/
abbrev transcript : List AssemblyStep → Assembly →
    List (Except AssemblyError (Option NodeId)) × Assembly :=
  Mutation.transcript AssemblyStep.call

/-! ### When a call succeeds -/

end Assembly

/-- An operator fits a node when it is the negation exactly where there is one child. -/
theorem OperatorNode.arity_eq_iff (n : OperatorNode) (op : Operator) :
    op.arity = n.arity ↔ (op = .not ↔ n.right = none) := by
  cases hright : n.right <;> cases op <;> simp [Operator.arity, OperatorNode.arity, hright]

theorem OperatorNode.fits_iff (n : OperatorNode) :
    n.Fits ↔ ∀ op, n.slot.content? = some op → (op = .not ↔ n.right = none) :=
  forall₂_congr fun op _ => n.arity_eq_iff op

namespace Assembly

namespace Forest

variable {a b : Assembly}

/-- There is a new inner node exactly when its children exist, have no parent and differ,
and its operator fits them. -/
theorem exists_addOperator_iff (h : a.Forest) (slot : Slot Operator) (left : NodeId)
    (right : Option NodeId) :
    (∃ r, a.addOperator slot left right = .ok r) ↔
      a.Free left ∧ (∀ c, right = some c → a.Free c ∧ c ≠ left) ∧
        ∀ op, slot.content? = some op → (op = .not ↔ right = none) := by
  have hchildren : ((∀ c ∈ left :: right.toList, a.parented? c = some false) ∧
      (left :: right.toList).Nodup) ↔
      a.Free left ∧ ∀ c, right = some c → a.Free c ∧ c ≠ left := by
    simp only [h.parented?_eq_false_iff]
    cases right with
    | none => simp
    | some r => simp [and_assoc, @eq_comm _ left]
  rw [← and_assoc, ← hchildren]
  constructor
  · rintro ⟨⟨id, b⟩, hadd⟩
    obtain ⟨n, rfl, hfree, hnodup, hfits, -⟩ := addOperator_eq_ok_iff.mp hadd
    exact ⟨⟨hfree, hnodup⟩, (OperatorNode.fits_iff _).mp hfits⟩
  · rintro ⟨⟨hfree, hnodup⟩, hfits⟩
    exact ⟨_, addOperator_eq_ok_iff.mpr
      ⟨_, rfl, hfree, hnodup, (OperatorNode.fits_iff _).mpr hfits, rfl, rfl⟩⟩

/-- A new inner node is appended without a mark, its children are marked, and nothing else
changes. -/
theorem of_addOperator (h : a.Forest) {slot : Slot Operator} {left id : NodeId}
    {right : Option NodeId} (hadd : a.addOperator slot left right = .ok (id, b)) :
    id = .operator a.operators.length ∧ b.values = a.values ∧
      b.operators = a.operators ++ [⟨slot, left, right⟩] ∧
      ∀ c, b.parented? c =
        if c = id then some false
        else if c = left ∨ right = some c then some true else a.parented? c := by
  obtain ⟨n, rfl, hfree, -, -, rfl, rfl⟩ := addOperator_eq_ok_iff.mp hadd
  refine ⟨rfl, values_adopt a _, operators_adopt a _, fun c => ?_⟩
  rw [h.parented?_adopt]
  by_cases hid : c = .operator a.operators.length
  · rw [if_pos hid, if_pos hid]
  · rw [if_neg hid, if_neg hid]
    have hmem : c ∈ OperatorNode.children { slot, left, right } ↔ c = left ∨ right = some c := by
      simp [OperatorNode.children]
    by_cases hchild : c ∈ OperatorNode.children { slot, left, right }
    · rw [if_pos (hmem.mp hchild), hfree c hchild]
      simp [hchild]
    · rw [if_neg (mt hmem.mpr hchild)]
      simp [hchild]

end Forest

/-- **What the calls that can fail need and change, and that their failures leave no
trace.**  After any run of calls, a new inner node needs children that exist, have no
parent and differ, and an operator, if it has one, that is the negation exactly where
there is one child; a leaf is fixed exactly when it exists and is not locked, and an
inner node when the operator fits its children besides.  A new inner node changes the
marks of its children, and fixing a node changes its slot, and nothing else changes.
Made in place, the calls answer and leave the same; where one fails the assembly is as it
was, and any run of calls without the failed one gives the same answers and leaves the
same assembly. -/
theorem calls_run (steps : List AssemblyStep) :
    let a := run steps
    (∀ slot left right,
      ((∃ r, a.addOperator slot left right = .ok r) ↔
        a.Free left ∧ (∀ c, right = some c → a.Free c ∧ c ≠ left) ∧
          ∀ op, slot.content? = some op → (op = .not ↔ right = none)) ∧
      ∀ id b, a.addOperator slot left right = .ok (id, b) →
        id = .operator a.operators.length ∧ b.values = a.values ∧
          b.operators = a.operators ++ [⟨slot, left, right⟩] ∧
          ∀ c, b.parented? c =
            if c = id then some false
            else if c = left ∨ right = some c then some true else a.parented? c) ∧
    (∀ id x,
      ((∃ b, a.lockValue id x = .ok b) ↔
        ∃ i s, id = .value i ∧ a.values[i]? = some s ∧ s.isLocked = false) ∧
      ∀ b, a.lockValue id x = .ok b →
        ∃ i, id = .value i ∧ b = { a with values := a.values.set i (.locked x) }) ∧
    (∀ id op,
      ((∃ b, a.lockOperator id op = .ok b) ↔
        ∃ i n, id = .operator i ∧ a.operators[i]? = some n ∧ n.slot.isLocked = false ∧
          (op = .not ↔ n.right = none)) ∧
      ∀ b, a.lockOperator id op = .ok b →
        ∃ i n, id = .operator i ∧ a.operators[i]? = some n ∧
          b = { a with operators := a.operators.set i { n with slot := .locked op } }) ∧
    (transcript steps empty).2 = a ∧
    (∀ step, step.call.on a = inPlace a (a.result step)) ∧
    ∀ step e, (step.call.on a).1 = .error e →
      (step.call.on a).2 = a ∧
      ∀ later,
        (transcript (steps ++ step :: later) empty).1.eraseIdx steps.length =
            (transcript (steps ++ later) empty).1 ∧
          (transcript (steps ++ step :: later) empty).2 =
            (transcript (steps ++ later) empty).2 := by
  intro a
  have h : a.Forest := forest_run steps
  have hleft : (transcript steps empty).2 = a :=
    Mutation.snd_transcript (fun b step => snd_on_call step b) steps empty
  refine ⟨fun slot left right => ⟨h.exists_addOperator_iff slot left right,
    fun id b => h.of_addOperator⟩, fun id x => ⟨?_, ?_⟩, fun id op => ⟨?_, ?_⟩, hleft,
    fun step => step.on_call a, fun step e he => ⟨snd_on_call_of_error he, fun later => ?_⟩⟩
  · simp [lockValue_eq_ok_iff]
  · intro b hb
    obtain ⟨i, s, hid, -, -, rfl⟩ := lockValue_eq_ok_iff.mp hb
    exact ⟨i, hid, rfl⟩
  · simp [lockOperator_eq_ok_iff, OperatorNode.arity_eq_iff, and_assoc]
  · intro b hb
    obtain ⟨i, n, hid, hn, -, rfl⟩ := lockOperator_eq_ok_iff.mp hb
    exact ⟨i, n, hid, hn, rfl⟩
  · exact Mutation.transcript_without_failed (snd_on_call_of_error (hleft ▸ he)) later

/-- A child that was refused with one operator can be used with another one. -/
theorem calls_run_missing_operand :
    let steps : List AssemblyStep := [.openValue]
    let a := run steps
    let step : AssemblyStep := .operator (.opened .and) (.value 0) none
    let later : List AssemblyStep := [.operator (.opened .not) (.value 0) none]
    (step.call.on a).1 = .error (.slot (.missingOperand .and)) ∧
      (step.call.on a).2 = a ∧
      (transcript (steps ++ step :: later) empty).1.eraseIdx steps.length =
        (transcript (steps ++ later) empty).1 ∧
      (transcript (steps ++ step :: later) empty).2 = (transcript (steps ++ later) empty).2 := by
  intro steps a step later
  obtain ⟨-, -, -, -, -, hfailed⟩ := calls_run steps
  have herror : (step.call.on a).1 = .error (.slot (.missingOperand .and)) := by decide
  obtain ⟨hkept, hlater⟩ := hfailed step _ herror
  exact ⟨herror, hkept, hlater later⟩

end Assembly

end TritPuzzle
