import TritPuzzle.Proofs.Finished
import TritPuzzle.Puzzle.Evaluation
import TritPuzzle.Puzzle.Infix

/-!
# Evaluating and writing by nested calls

A node can be evaluated and written without its tree, by functions that call themselves for
its children wherever the links lead.  The positions in the two lists do not tell that this
comes to an end: after a listing in another order a child may come before or after its
parent.  Here both functions run on a stack that has room for so many calls at a time, and
keep a record of the nodes that they are called for.  On a puzzle in play a stack with one
place more than there are inner nodes is large enough, and no node is called for twice.

## Main definitions

* `Descent` — what a call comes to, and the nodes that it was for.
* `Template.evalCalls`, `Template.writeCalls` — evaluating and writing by nested calls.
* `Descends` — a function goes down a tree, and no deeper than its height.

## Main results

* `Unfolds.descends_evalCalls`, `Unfolds.descends_writeCalls` — **both functions go down the
  tree under a node**, and come to its value and its written form.
* `writeCalls_eq_none_of_cycle` — on a cycle of links no stack is large enough.
* `calls_return_of_inPlay` — **in every puzzle in play both come to an end** on a small stack,
  and no node is called for twice.
-/

namespace TritPuzzle

/-- What a call has come to. -/
structure Descent (ρ : Type) where
  /-- The nodes that the call and the calls within it were for, in the order of the calls. -/
  entered : List NodeId
  /-- The result of the call. -/
  result : ρ
  deriving DecidableEq

namespace Template

/-- The evaluation of a node by calls for its children, on a stack that has room for so many
calls at a time; `none` if a call finds the stack full. -/
def evalCalls (t : Template) : Nat → NodeId → Option (Descent (Except EvalError Trit))
  | 0, _ => none
  | room + 1, id =>
    match t.node? id with
    | none => some ⟨[id], .error (.malformed id)⟩
    | some (.leaf s) =>
      match s.content? with
      | none => some ⟨[id], .error (.emptyValue id)⟩
      | some x => some ⟨[id], .ok x⟩
    | some (.inner n) =>
      match n.slot.content? with
      | none => some ⟨[id], .error (.emptyOperator id)⟩
      | some op =>
        match op.connective?, n.right with
        | none, none => do
          let d ← t.evalCalls room n.left
          return ⟨id :: d.entered, d.result.map Trit.not⟩
        | some f, some right => do
          let d ← t.evalCalls room n.left
          match d.result with
          -- the right child is not called for if the left one has no value
          | .error e => return ⟨id :: d.entered, .error e⟩
          | .ok x =>
            let d' ← t.evalCalls room right
            return ⟨id :: (d.entered ++ d'.entered), d'.result.map (f x)⟩
        | _, _ => some ⟨[id], .error (.malformed id)⟩

/-- The expression for a node by calls for its children, on a stack that has room for so many
calls at a time; `none` if a call finds the stack full.  The topmost node gets no
parentheses. -/
def writeCalls (t : Template) (labelled : Bool) : Nat → Bool → NodeId → Option (Descent String)
  | 0, _, _ => none
  | room + 1, top, id =>
    match t.node? id with
    | none => some ⟨[id], "<missing>"⟩
    | some (.leaf s) => some ⟨[id], slotText labelled id Trit.text s⟩
    | some (.inner n) => do
      let keyword := slotText labelled id Operator.keyword n.slot
      let parens (text : String) := if top then text else "(" ++ text ++ ")"
      let d ← t.writeCalls labelled room false n.left
      match n.right with
      | none => return ⟨id :: d.entered, parens (keyword ++ " " ++ d.result)⟩
      | some right =>
        let d' ← t.writeCalls labelled room false right
        return ⟨id :: (d.entered ++ d'.entered),
          parens (d.result ++ " " ++ keyword ++ " " ++ d'.result)⟩

end Template

/-- The expression for a tree in its place: in parentheses unless it is at the top. -/
def Tree.placed (labelled top : Bool) (T : Tree) : String :=
  if top then T.written labelled else T.enclosed (T.written labelled)

/-! ### Going down a tree -/

/-- On every stack with room for the height of the tree, the function comes to the result,
and its calls are for nodes of the tree, in the order of evaluation. -/
def Descends {ρ : Type} (call : Nat → Option (Descent ρ)) (T : Tree) (result : ρ) : Prop :=
  ∃ entered : List NodeId, entered.Sublist T.ids ∧
    ∀ room, T.height ≤ room → call room = some ⟨entered, result⟩

namespace Descends

variable {ρ : Type} {call left right : Nat → Option (Descent ρ)} {result x y : ρ}
  {T L R : Tree} {i : Nat} {s : Slot Operator}

/-- One call for the topmost node is all. -/
theorem single (h : ∀ room, call (room + 1) = some ⟨[T.id], result⟩) :
    Descends call T result := by
  refine ⟨[T.id], ?_, fun room hroom => ?_⟩
  · cases T <;> simp [Tree.ids, Tree.id]
  · obtain ⟨room, rfl⟩ : ∃ r, room = r + 1 := by
      refine Nat.exists_eq_add_one_of_ne_zero ?_
      cases T <;> simp only [Tree.height] at hroom <;> omega
    exact h room

/-- One call within the call follows, for a child of the topmost node. -/
theorem child (hchild : Descends left L x) (hids : (.operator i :: L.ids).Sublist T.ids)
    (hheight : L.height < T.height)
    (h : ∀ room entered, left room = some ⟨entered, x⟩ →
      call (room + 1) = some ⟨.operator i :: entered, result⟩) : Descends call T result := by
  obtain ⟨entered, hsub, hleft⟩ := hchild
  refine ⟨.operator i :: entered, (hsub.cons_cons _).trans hids, fun room hroom => ?_⟩
  obtain ⟨room, rfl⟩ : ∃ r, room = r + 1 := Nat.exists_eq_add_one_of_ne_zero (by omega)
  exact h room entered (hleft room (by omega))

/-- A call for the only child follows. -/
theorem unary (hchild : Descends left L x)
    (h : ∀ room entered, left room = some ⟨entered, x⟩ →
      call (room + 1) = some ⟨.operator i :: entered, result⟩) :
    Descends call (.unary i s L) result :=
  hchild.child (List.Sublist.refl _) (Nat.lt_succ_self _) h

/-- A call for the left child follows, and none for the right one. -/
theorem binary_left (hchild : Descends left L x)
    (h : ∀ room entered, left room = some ⟨entered, x⟩ →
      call (room + 1) = some ⟨.operator i :: entered, result⟩) :
    Descends call (.binary i s L R) result :=
  hchild.child ((List.sublist_append_left _ _).cons_cons _)
    (Nat.lt_succ_of_le (Nat.le_max_left _ _)) h

/-- Calls for both children follow. -/
theorem binary (hl : Descends left L x) (hr : Descends right R y)
    (h : ∀ room entered entered', left room = some ⟨entered, x⟩ →
      right room = some ⟨entered', y⟩ →
      call (room + 1) = some ⟨.operator i :: (entered ++ entered'), result⟩) :
    Descends call (.binary i s L R) result := by
  obtain ⟨entered, hsub, hleft⟩ := hl
  obtain ⟨entered', hsub', hright⟩ := hr
  refine ⟨.operator i :: (entered ++ entered'), (hsub.append hsub').cons_cons _,
    fun room hroom => ?_⟩
  rw [Tree.height] at hroom
  obtain ⟨room, rfl⟩ : ∃ r, room = r + 1 := Nat.exists_eq_add_one_of_ne_zero (by omega)
  exact h room entered entered' (hleft room (by omega)) (hright room (by omega))

/-- **A stack with room for a bound of the height is large enough**, and no node is called
for twice if none is twice in the tree. -/
theorem exists_descent (h : Descends call T result) {bound : Nat} (hheight : T.height ≤ bound + 1)
    (hnodup : T.ids.Nodup) :
    ∃ d : Descent ρ, (∀ room, bound < room → call room = some d) ∧ d.result = result ∧
      d.entered.Nodup := by
  obtain ⟨entered, hsub, hcall⟩ := h
  exact ⟨⟨entered, result⟩, fun room hroom => hcall room (by omega), rfl, hnodup.sublist hsub⟩

end Descends

namespace Template

variable {t : Template} {id : NodeId} {T : Tree}

theorem node?_eq_leaf {i : Nat} {s : Slot Trit} (hs : t.values[i]? = some s) :
    t.node? (.value i) = some (.leaf s) := by
  rw [node?, hs, Option.map_some]

theorem node?_eq_inner {i : Nat} {n : OperatorNode} (hn : t.operators[i]? = some n) :
    t.node? (.operator i) = some (.inner n) := by
  rw [node?, hn, Option.map_some]

/-- **Evaluation by calls goes down the tree under a node**, and comes to its value. -/
theorem Unfolds.descends_evalCalls (h : t.Unfolds id T) :
    Descends (fun room => t.evalCalls room id) T T.eval := by
  induction h with
  | @leaf i s hs =>
    refine .single fun room => ?_
    cases hx : s.content? <;> simp only [evalCalls, node?_eq_leaf hs, Tree.eval, hx, Tree.id]
  | @unary i n T hn hright _ ih =>
    cases hop : n.slot.content? with
    | none =>
      refine .single fun room => ?_
      simp only [evalCalls, node?_eq_inner hn, Tree.eval, hop, Tree.id]
    | some op =>
      cases hf : op.connective? with
      | some f =>
        refine .single fun room => ?_
        simp only [evalCalls, node?_eq_inner hn, Tree.eval, hop, hf, hright, Tree.id]
      | none =>
        refine ih.unary fun room entered hleft => ?_
        rw [Tree.eval_unary_of_connective?_eq_none i T hop hf]
        simp only [evalCalls, node?_eq_inner hn, hop, hf, hright, hleft]
        rfl
  | @binary i n r L R hn hr _ _ ihl ihr =>
    cases hop : n.slot.content? with
    | none =>
      refine .single fun room => ?_
      simp only [evalCalls, node?_eq_inner hn, Tree.eval, hop, Tree.id]
    | some op =>
      cases hf : op.connective? with
      | none =>
        refine .single fun room => ?_
        simp only [evalCalls, node?_eq_inner hn, Tree.eval, hop, hf, hr, Tree.id]
      | some f =>
        rw [Tree.eval_binary_of_connective?_eq_some i L R hop hf]
        cases hL : L.eval with
        | error e =>
          -- the left child has no value, so the right one is not called for
          rw [hL] at ihl
          refine ihl.binary_left fun room entered hleft => ?_
          simp only [evalCalls, node?_eq_inner hn, hop, hf, hr, hleft]
          rfl
        | ok x =>
          rw [hL] at ihl
          refine ihl.binary ihr fun room entered entered' hleft hright => ?_
          simp only [evalCalls, node?_eq_inner hn, hop, hf, hr, hleft, hright]
          rfl

/-- **Writing by calls goes down the tree under a node**, and comes to its expression. -/
theorem Unfolds.descends_writeCalls (h : t.Unfolds id T) (labelled top : Bool) :
    Descends (fun room => t.writeCalls labelled room top id) T (T.placed labelled top) := by
  induction h generalizing top with
  | @leaf i s hs =>
    refine .single fun room => ?_
    simp only [writeCalls, node?_eq_leaf hs, Tree.placed, Tree.enclosed, Tree.written, ite_self,
      Tree.id]
  | @unary i n T hn hright _ ih =>
    refine (ih false).unary fun room entered hleft => ?_
    simp only [writeCalls, node?_eq_inner hn, hright, hleft]
    rfl
  | @binary i n r L R hn hr _ _ ihl ihr =>
    refine (ihl false).binary (ihr false) fun room entered entered' hleft hright => ?_
    simp only [writeCalls, node?_eq_inner hn, hr, hleft, hright]
    rfl

/-- **On a cycle of links no stack is large enough**: writing a node that hangs under itself
never comes to an end. -/
theorem writeCalls_eq_none_of_cycle (h : Relation.TransGen (IsParent t.operators) id id)
    (labelled top : Bool) (room : Nat) : t.writeCalls labelled room top id = none := by
  induction room generalizing id top with
  | zero => rfl
  | succ room ih =>
    -- the next node on the cycle is called for, and it is on the cycle as well
    obtain ⟨c, hc, hback⟩ := Relation.TransGen.head'_iff.mp h
    have hfull := ih (.tail' hback hc) false
    obtain ⟨i, side, rfl, hchild⟩ := hc
    obtain ⟨n, hn, hside⟩ := childAt?_eq_some.mp hchild
    cases side with
    | left =>
      obtain rfl := Option.some.inj hside
      simp only [writeCalls, node?_eq_inner hn, hfull]
      rfl
    | right =>
      have hright : n.right = some c := hside
      simp only [writeCalls, node?_eq_inner hn, hright, hfull]
      cases t.writeCalls labelled room false n.left <;> rfl

/-! ### Puzzles in play -/

theorem tree_eq_missing (hid : ¬ t.Has id) : t.tree id = .missing id := by
  cases id with
  | value i =>
    have hnone : t.values[i]? = none := List.getElem?_eq_none (Nat.not_lt.mp hid)
    rw [tree, treeWithin.eq_def]
    simp only [hnone]
  | operator i =>
    have hnone : t.operators[i]? = none := List.getElem?_eq_none (Nat.not_lt.mp hid)
    rw [tree, treeWithin.eq_def]
    cases t.operators.length <;> simp only [hnone]

theorem node?_eq_none (hid : ¬ t.Has id) : t.node? id = none := by
  cases id with
  | value i => rw [node?, List.getElem?_eq_none (Nat.not_lt.mp hid), Option.map_none]
  | operator i => rw [node?, List.getElem?_eq_none (Nat.not_lt.mp hid), Option.map_none]

namespace Arboreal

/-- Evaluation by calls goes down the tree under every node, and stops where there is none. -/
theorem descends_evalCalls (h : t.Arboreal) (id : NodeId) :
    Descends (fun room => t.evalCalls room id) (t.tree id) (t.evalAt id) := by
  by_cases hid : t.Has id
  · exact (h.unfolds_tree hid).descends_evalCalls
  · rw [evalAt, tree_eq_missing hid]
    refine .single fun room => ?_
    simp only [evalCalls, node?_eq_none hid, Tree.eval, Tree.id]

/-- Writing by calls goes down the tree under every node, and stops where there is none. -/
theorem descends_writeCalls (h : t.Arboreal) (labelled top : Bool) (id : NodeId) :
    Descends (fun room => t.writeCalls labelled room top id) (t.tree id)
      ((t.tree id).placed labelled top) := by
  by_cases hid : t.Has id
  · exact (h.unfolds_tree hid).descends_writeCalls labelled top
  · rw [tree_eq_missing hid]
    refine .single fun room => ?_
    simp only [writeCalls, node?_eq_none hid, Tree.placed, Tree.enclosed, Tree.written, ite_self,
      Tree.id]

theorem nodup_ids_tree (h : t.Arboreal) (id : NodeId) : (t.tree id).ids.Nodup := by
  by_cases hid : t.Has id
  · exact h.nodup_ids (h.unfolds_tree hid)
  · rw [tree_eq_missing hid]
    exact List.nodup_singleton id

end Arboreal

/-- **In every puzzle in play evaluating and writing come to an end**, at every address,
whether there is a node or not and however the nodes are listed.  A stack that has room for
one call more than there are inner nodes is large enough, what they come to is the value of
the node and its expression, and no node is called for twice. -/
theorem calls_return_of_inPlay {t : Template} (h : t.InPlay) (id : NodeId) :
    (∃ d : Descent (Except EvalError Trit),
      (∀ room, t.operators.length < room → t.evalCalls room id = some d) ∧
      d.result = t.evalAt id ∧ d.entered.Nodup) ∧
    ∀ labelled top, ∃ d : Descent String,
      (∀ room, t.operators.length < room → t.writeCalls labelled room top id = some d) ∧
      d.result = (t.tree id).placed labelled top ∧ d.entered.Nodup := by
  have htree := h.arboreal
  have hheight : (t.tree id).height ≤ t.operators.length + 1 := t.height_treeWithin_le _ id
  have hnodup := htree.nodup_ids_tree id
  constructor
  · exact (htree.descends_evalCalls id).exists_descent hheight hnodup
  · intro labelled top
    exact (htree.descends_writeCalls labelled top id).exists_descent hheight hnodup

/-- A disjunction over an incomplete conjunction and a negation, all listed backwards, so that
both children come before their parent: the evaluation stops at the empty leaf and does not
call for the negation, and the expression has a call for every node. -/
theorem calls_return_of_inPlay_backwards :
    let steps : List AssemblyStep := [.openValue, .lockedValue .true, .lockedValue .false,
      .operator (.locked .and) (.value 0) (some (.value 1)),
      .operator .unset (.value 2) none,
      .operator (.opened .or) (.operator 0) (some (.operator 1))]
    let t : Template := {
      root := .operator 2
      answer := .true
      values := [.locked .true, .unset, .locked .false]
      operators := [{ slot := .unset, left := .value 2, right := none },
        { slot := .locked .and, left := .value 1, right := some (.value 0) },
        { slot := .opened .or, left := .operator 1, right := some (.operator 0) }] }
    (Assembly.run steps).finishListed (.operator 2) .true [.value 1, .value 0, .value 2]
        [.operator 1, .operator 0, .operator 2] = .ok t ∧
      (∃ d : Descent (Except EvalError Trit),
        (∀ room, 3 < room → t.evalCalls room (.operator 2) = some d) ∧
        d.result = .error (.emptyValue (.value 1)) ∧
        d.entered = [.operator 2, .operator 1, .value 1] ∧ d.entered.Nodup) ∧
      ∃ d : Descent String,
        (∀ room, 3 < room → t.writeCalls true room true (.operator 2) = some d) ∧
        d.result ++ " = " ++ t.answer.text = t.written true ∧ d.entered.Nodup := by
  intro steps t
  have hlisted : (Assembly.run steps).finishListed (.operator 2) .true
      [.value 1, .value 0, .value 2] [.operator 1, .operator 0, .operator 2] = .ok t := by decide
  obtain ⟨⟨d, hcalls, hresult, hnodup⟩, hwrite⟩ :=
    calls_return_of_inPlay ((Built.finishListed hlisted).inPlay []) (.operator 2)
  obtain ⟨d', hcalls', hresult', hnodup'⟩ := hwrite true true
  have hentered : (t.evalCalls 4 (.operator 2)).map (·.entered) =
      some [.operator 2, .operator 1, .value 1] := by decide
  have hd : t.evalCalls 4 (.operator 2) = some d := hcalls 4 (by decide)
  rw [hd] at hentered
  refine ⟨hlisted, ⟨d, hcalls, ?_, Option.some.inj hentered, hnodup⟩, d', hcalls', ?_, hnodup'⟩
  · exact hresult.trans (by decide)
  · rw [hresult']
    rfl

end Template

end TritPuzzle
