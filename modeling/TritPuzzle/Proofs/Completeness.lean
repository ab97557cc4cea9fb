import TritPuzzle.Play.Scorer
import TritPuzzle.Proofs.Finished

/-!
# Empty slots and values

Whether a puzzle is filled is asked in two ways: by a look at its two lists, and by
evaluation from the root, which stops at the first empty slot that it meets.  On a tree
whose operators fit, both come to the same: no slot is overlooked by the evaluation, and
an empty slot is the only thing that can stop it.

## Main definitions

* `Template.assigned` — the slot at an address has a content.
* `EvalError.empty` — the error for an empty slot.

## Main results

* `Unfolds.eval_eq_error_iff` — evaluation fails at the first empty slot, and only there.
* `Arboreal.evalAt_eq_ok_iff` — a node has a value exactly when no slot under it is empty.
* `isComplete_iff_eval_of_built` — **the lists and the evaluation agree on every puzzle in
  play**, and so do the readout and the scorer.
-/

namespace TritPuzzle

/-- The error for the empty slot at an address. -/
def EvalError.empty : NodeId → EvalError
  | .value i => .emptyValue (.value i)
  | .operator i => .emptyOperator (.operator i)

theorem EvalError.isIncomplete_empty (id : NodeId) :
    (EvalError.empty id).isIncomplete = true := by
  cases id <;> rfl

/-- A computation in two steps fails when its first step does, or its second one after it. -/
theorem bind_eq_error_iff {α β ε : Type} {x : Except ε α} {f : α → Except ε β} {e : ε} :
    x.bind f = .error e ↔ x = .error e ∨ ∃ a, x = .ok a ∧ f a = .error e := by
  cases x <;> simp [Except.bind]

namespace Template

/-- Has the slot at the address a content? -/
def assigned (t : Template) : NodeId → Bool
  | .value i => t.values[i]?.any (·.isAssigned)
  | .operator i => t.operators[i]?.any (·.slot.isAssigned)

theorem assigned_value {t : Template} {i : Nat} {s : Slot Trit} (hs : t.values[i]? = some s) :
    t.assigned (.value i) = s.content?.isSome := by
  rw [assigned, hs, Option.any_some, Slot.isAssigned_eq_isSome]

theorem assigned_operator {t : Template} {i : Nat} {n : OperatorNode}
    (hn : t.operators[i]? = some n) : t.assigned (.operator i) = n.slot.content?.isSome := by
  rw [assigned, hn, Option.any_some, Slot.isAssigned_eq_isSome]

private theorem all_iff_any_getElem? {α : Type} {p : α → Bool} {xs : List α} :
    xs.all p = true ↔ ∀ i, i < xs.length → xs[i]?.any p = true := by
  rw [List.all_eq_true]
  constructor
  · intro h i hi
    rw [List.getElem?_eq_getElem hi]
    exact h _ (List.getElem_mem hi)
  · intro h x hx
    obtain ⟨i, hi, rfl⟩ := List.mem_iff_getElem.mp hx
    have hany := h i hi
    rwa [List.getElem?_eq_getElem hi] at hany

/-- The lists are filled when every address is. -/
theorem isComplete_iff {t : Template} :
    t.isComplete = true ↔ ∀ id, t.Has id → t.assigned id = true := by
  rw [isComplete, Bool.and_eq_true, all_iff_any_getElem?, all_iff_any_getElem?]
  constructor
  · rintro ⟨hvalues, hoperators⟩ id hid
    cases id with
    | value i => exact hvalues i hid
    | operator i => exact hoperators i hid
  · intro h
    exact ⟨fun i hi => h (.value i) hi, fun i hi => h (.operator i) hi⟩

/-! ### The evaluation of a tree -/

/-- **Evaluation fails at the first empty slot that it meets, and only there**, if the
operators fit. -/
theorem Unfolds.eval_eq_error_iff {t : Template} (hfits : t.Fits) {id : NodeId} {T : Tree}
    (h : t.Unfolds id T) {e : EvalError} :
    T.eval = .error e ↔ ∃ c, T.ids.find? (!t.assigned ·) = some c ∧ e = .empty c := by
  induction h generalizing e with
  | @leaf i s hs =>
    rw [Tree.eval, Tree.ids, List.find?_singleton, assigned_value hs]
    cases s.content? <;> simp [EvalError.empty, eq_comm]
  | @unary i n T hn hright _ ih =>
    rw [Tree.eval, Tree.ids, List.find?_cons, assigned_operator hn]
    cases hop : n.slot.content? with
    | none => simp [EvalError.empty, eq_comm]
    | some op =>
      have hnot : op = .not := (hfits.eq_not_iff (List.mem_of_getElem? hn) hop).mpr hright
      simp [hnot, Operator.connective?, ← ih, bind, bind_eq_error_iff, pure, Except.pure]
  | @binary i n r L R hn hr _ _ ihl ihr =>
    rw [Tree.eval, Tree.ids, List.find?_cons, assigned_operator hn]
    cases hop : n.slot.content? with
    | none => simp [EvalError.empty, eq_comm]
    | some op =>
      have harity : op.arity = .binary := by
        rw [hfits n (List.mem_of_getElem? hn) op hop, OperatorNode.arity, hr]
        rfl
      obtain ⟨f, hf⟩ := Operator.exists_connective? harity
      simp only [hf, Option.isSome_some, Bool.not_true, List.find?_append]
      cases hL : L.eval with
      | error e' =>
        -- the left subtree holds the first empty slot
        obtain ⟨c, hc, rfl⟩ := ihl.mp hL
        simp [hc, bind, Except.bind, eq_comm]
      | ok x =>
        have hnone : L.ids.find? (!t.assigned ·) = none := by
          refine Option.eq_none_iff_forall_ne_some.mpr fun c hc => ?_
          rw [ihl.mpr ⟨c, hc, rfl⟩] at hL
          simp at hL
        simp [hnone, ← ihr, bind, bind_eq_error_iff, pure, Except.pure]

/-- A tree has a value exactly when none of its slots is empty. -/
theorem Unfolds.eval_eq_ok_iff {t : Template} (hfits : t.Fits) {id : NodeId} {T : Tree}
    (h : t.Unfolds id T) :
    (∃ x, T.eval = .ok x) ↔ ∀ c ∈ T.ids, t.assigned c = true := by
  have hnone : (∀ c ∈ T.ids, t.assigned c = true) ↔ T.ids.find? (!t.assigned ·) = none := by
    simp
  rw [hnone, Option.eq_none_iff_forall_ne_some]
  constructor
  · rintro ⟨x, hx⟩ c hc
    rw [(h.eval_eq_error_iff hfits).mpr ⟨c, hc, rfl⟩] at hx
    simp at hx
  · intro hc
    cases hT : T.eval with
    | ok x => exact ⟨x, rfl⟩
    | error e =>
      obtain ⟨c, hfind, -⟩ := (h.eval_eq_error_iff hfits).mp hT
      exact absurd hfind (hc c)

namespace Arboreal

variable {t : Template}

/-- Evaluation fails because of an empty slot under the node, and for no other reason. -/
theorem exists_empty_of_evalAt (h : t.Arboreal) (hfits : t.Fits) {id : NodeId} (hid : t.Has id)
    {e : EvalError} (he : t.evalAt id = .error e) :
    ∃ c, Reaches t.operators id c ∧ t.assigned c = false ∧ e = .empty c := by
  have hT := h.unfolds_tree hid
  obtain ⟨c, hc, rfl⟩ := (hT.eval_eq_error_iff hfits).mp he
  refine ⟨c, hT.mem_ids_iff.mp (List.mem_of_find?_eq_some hc), ?_, rfl⟩
  simpa using List.find?_some hc

/-- **A node has a value exactly when no slot under it is empty.** -/
theorem evalAt_eq_ok_iff (h : t.Arboreal) (hfits : t.Fits) {id : NodeId} (hid : t.Has id) :
    (∃ x, t.evalAt id = .ok x) ↔ ∀ c, Reaches t.operators id c → t.assigned c = true := by
  have hT := h.unfolds_tree hid
  simp only [evalAt, hT.eval_eq_ok_iff hfits, hT.mem_ids_iff]

/-- **The two lists are filled exactly when the evaluation from the root succeeds.** -/
theorem isComplete_iff_eval (h : t.Arboreal) (hfits : t.Fits) :
    t.isComplete = true ↔ ∃ x, t.eval = .ok x := by
  rw [eval, h.evalAt_eq_ok_iff hfits h.has_root, isComplete_iff]
  exact ⟨fun hall c hc => hall c (h.has_of_reaches h.has_root hc),
    fun hall id hid => hall id (h.reaches_root hid)⟩

/-- The readout is blank exactly while a slot is empty. -/
theorem result?_eq_none_iff (h : t.Arboreal) (hfits : t.Fits) :
    t.result? = none ↔ t.isComplete = false := by
  rw [result?, ← Bool.not_eq_true, h.isComplete_iff_eval hfits]
  cases t.eval <;> simp [Except.toOption]

/-- **The scorer never fails**, and finds a puzzle incomplete exactly while a slot is
empty. -/
theorem submit (h : t.Arboreal) (hfits : t.Fits) (s : Scorer) :
    ∃ v s', s.submit t = .ok (v, s') ∧ ((∃ e, v = .incomplete e) ↔ t.isComplete = false) := by
  rw [← Bool.not_eq_true, h.isComplete_iff_eval hfits, Scorer.submit]
  cases he : t.eval with
  | ok x =>
    by_cases hx : x = t.answer
    · exact ⟨.correct, s, by simp [hx], by simp⟩
    · refine ⟨_, _, if_neg hx, ?_⟩
      simp
  | error e =>
    obtain ⟨c, -, -, rfl⟩ := h.exists_empty_of_evalAt hfits h.has_root he
    exact ⟨.incomplete (.empty c), s, by simp [EvalError.isIncomplete_empty], by simp⟩

end Arboreal

/-- **The lists and the evaluation agree on every puzzle in play**: a node is never
malformed and has a value exactly when no slot under it is empty; the whole puzzle has one
exactly when its lists are filled, the readout is blank exactly when they are not, and the
scorer never fails and reports exactly then that the puzzle is incomplete. -/
theorem isComplete_iff_eval_of_built {t : Template} (h : t.Built) (moves : List Move) :
    (∀ id, (t.play moves).Has id →
      (∀ c, (t.play moves).evalAt id ≠ .error (.malformed c)) ∧
      ((∃ x, (t.play moves).evalAt id = .ok x) ↔
        ∀ c, Reaches (t.play moves).operators id c → (t.play moves).assigned c = true)) ∧
    ((t.play moves).isComplete = true ↔ ∃ x, (t.play moves).eval = .ok x) ∧
    ((t.play moves).result? = none ↔ (t.play moves).isComplete = false) ∧
    ∀ s : Scorer, ∃ v s', s.submit (t.play moves) = .ok (v, s') ∧
      ((∃ e, v = .incomplete e) ↔ (t.play moves).isComplete = false) := by
  have htree : (t.play moves).Arboreal := h.arboreal.play moves
  have hfits : (t.play moves).Fits := fits_play h.fits moves
  refine ⟨fun id hid => ⟨fun c hc => ?_, htree.evalAt_eq_ok_iff hfits hid⟩,
    htree.isComplete_iff_eval hfits, htree.result?_eq_none_iff hfits, htree.submit hfits⟩
  obtain ⟨d, -, -, hd⟩ := htree.exists_empty_of_evalAt hfits hid hc
  cases d <;> simp [EvalError.empty] at hd

/-- A conjunction over a negated leaf, listed backwards, with one leaf filled in play and
the operators still open. -/
theorem isComplete_iff_eval_of_built_backwards :
    let steps : List AssemblyStep := [.lockedValue .neutral, .openValue,
      .operator (.locked .not) (.value 0) none, .operator .unset (.operator 0) (some (.value 1))]
    let t : Template := {
      root := .operator 0
      answer := .true
      values := [.unset, .locked .neutral]
      operators := [{ slot := .unset, left := .operator 1, right := some (.value 0) },
        { slot := .locked .not, left := .value 1, right := none }] }
    let u := t.play [.event (.cycleValue 0), .setOperator 0 .not]
    (Assembly.run steps).finishListed (.operator 1) .true [.value 1, .value 0]
        [.operator 1, .operator 0] = .ok t ∧
    (∀ id, u.Has id → (∀ c, u.evalAt id ≠ .error (.malformed c)) ∧
      ((∃ x, u.evalAt id = .ok x) ↔
        ∀ c, Reaches u.operators id c → u.assigned c = true)) ∧
    (u.isComplete = true ↔ ∃ x, u.eval = .ok x) ∧
    (u.result? = none ↔ u.isComplete = false) ∧
    ∀ s : Scorer, ∃ v s', s.submit u = .ok (v, s') ∧
      ((∃ e, v = .incomplete e) ↔ u.isComplete = false) := by
  intro steps t u
  have hlisted : (Assembly.run steps).finishListed (.operator 1) .true [.value 1, .value 0]
      [.operator 1, .operator 0] = .ok t := by decide
  exact ⟨hlisted, isComplete_iff_eval_of_built (.finishListed hlisted) _⟩

end Template

end TritPuzzle
