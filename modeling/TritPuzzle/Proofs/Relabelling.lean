import TritPuzzle.Proofs.Arboreal
import TritPuzzle.Proofs.Placement
import TritPuzzle.Puzzle.Evaluation
import TritPuzzle.Puzzle.Infix

/-!
# Puzzles that differ in the addresses of their nodes

Two puzzles may have the same tree and list its nodes in different orders.  One is
then the other with every address relabelled, and nothing that does not speak of
addresses can tell them apart: the trees under corresponding nodes are relabelled
trees, with the same value and the same written form, and corresponding moves keep
the puzzles in correspondence.

## Main definitions

* `NodeId.relabel`, `Tree.relabel`, `EvalError.rename`, `Move.relabel` — relabelling.
* `Relabels` — one puzzle is the other with its addresses relabelled.

## Main results

* `Relabels.arboreal` — a relabelled tree is a tree.
* `Relabels.evalAt`, `Relabels.written` — values and written form of a relabelled puzzle.
* `Relabels.play` — **corresponding runs lead to corresponding puzzles.**
-/

namespace TritPuzzle

/-- The address with its position sent through the map of its kind. -/
def NodeId.relabel (f g : Nat → Nat) : NodeId → NodeId
  | .value i => .value (f i)
  | .operator i => .operator (g i)

/-- The error with the node it names renamed. -/
def EvalError.rename (s : NodeId → NodeId) : EvalError → EvalError
  | .emptyValue id => .emptyValue (s id)
  | .emptyOperator id => .emptyOperator (s id)
  | .malformed id => .malformed (s id)

/-- The event on the slot at the relabelled address. -/
def SlotEvent.relabel (f g : Nat → Nat) : SlotEvent → SlotEvent
  | .setValue slot x => .setValue (f slot) x
  | .cycleValue slot => .cycleValue (f slot)
  | .setOperator slot op => .setOperator (g slot) op
  | .cycleOperator slot => .cycleOperator (g slot)

/-- The move on the slot at the relabelled address. -/
def Move.relabel (f g : Nat → Nat) : Move → Move
  | .event e => .event (e.relabel f g)
  | .setValue slot x => .setValue (f slot) x
  | .setOperator slot op => .setOperator (g slot) op

theorem OperatorNode.rename_congr {n : OperatorNode} {s s' : NodeId → NodeId}
    (h : ∀ c ∈ n.children, s c = s' c) : n.rename s = n.rename s' := by
  have hleft : s n.left = s' n.left := h _ List.mem_cons_self
  have hright : n.right.map s = n.right.map s' := by
    cases hr : n.right with
    | none => rfl
    | some r => simpa using h r (by simp [OperatorNode.children, hr])
  rw [OperatorNode.rename, OperatorNode.rename, hleft, hright]

namespace Tree

/-- The tree with its addresses relabelled. -/
def relabel (f g : Nat → Nat) : Tree → Tree
  | .missing id => .missing (id.relabel f g)
  | .leaf i s => .leaf (f i) s
  | .unary i s c => .unary (g i) s (c.relabel f g)
  | .binary i s l r => .binary (g i) s (l.relabel f g) (r.relabel f g)

/-- Relabelling a tree renames the node in the error and keeps the value. -/
theorem eval_relabel (f g : Nat → Nat) (T : Tree) :
    (T.relabel f g).eval = T.eval.mapError (EvalError.rename (NodeId.relabel f g)) := by
  induction T with
  | missing id => rfl
  | leaf i s =>
    rw [relabel, eval, eval]
    cases s.content? <;> rfl
  | unary i s c ih =>
    rw [relabel, eval, eval, ih]
    cases s.content? with
    | none => rfl
    | some op =>
      cases hop : op.connective? with
      | none =>
        simp only [hop]
        cases c.eval <;> rfl
      | some conn =>
        simp only [hop]
        rfl
  | binary i s l r ihl ihr =>
    rw [relabel, eval, eval, ihl, ihr]
    cases s.content? with
    | none => rfl
    | some op =>
      cases hop : op.connective? with
      | none =>
        simp only [hop]
        rfl
      | some conn =>
        simp only [hop]
        cases l.eval <;> cases r.eval <;> rfl

/-- Without labels the written form does not show addresses. -/
theorem slotText_false {α : Type} (id id' : NodeId) (word : α → String) (s : Slot α) :
    slotText false id word s = slotText false id' word s := by
  simp [slotText]

theorem enclosed_relabel (f g : Nat → Nat) (T : Tree) (text : String) :
    (T.relabel f g).enclosed text = T.enclosed text := by
  cases T <;> rfl

theorem written_relabel (f g : Nat → Nat) (T : Tree) :
    (T.relabel f g).written false = T.written false := by
  induction T with
  | missing id => rfl
  | leaf i s => exact slotText_false _ _ _ _
  | unary i s c ih =>
    rw [relabel, written, written, enclosed_relabel, ih, slotText_false _ (.operator i)]
  | binary i s l r ihl ihr =>
    rw [relabel, written, written, enclosed_relabel, enclosed_relabel, ihl, ihr,
      slotText_false _ (.operator i)]

end Tree

namespace Template

/-- The puzzle `t'` is `t` with the positions of leaves sent through `f` and those of
inner nodes through `g`. -/
structure Relabels (f g : Nat → Nat) (t t' : Template) : Prop where
  /-- The maps permute the positions of the leaves. -/
  values_reindexes : Reindexes t.values.length f
  /-- The maps permute the positions of the inner nodes. -/
  operators_reindexes : Reindexes t.operators.length g
  root : t'.root = t.root.relabel f g
  answer : t'.answer = t.answer
  length_values : t'.values.length = t.values.length
  length_operators : t'.operators.length = t.operators.length
  /-- Corresponding leaves hold the same slot. -/
  values : ∀ i, t'.values[f i]? = t.values[i]?
  /-- Corresponding inner nodes hold the same slot and have corresponding children. -/
  operators : ∀ i, t'.operators[g i]? = t.operators[i]?.map (·.rename (NodeId.relabel f g))

namespace Relabels

variable {f g : Nat → Nat} {t t' : Template}

theorem has_iff (h : Relabels f g t t') {id : NodeId} : t'.Has (id.relabel f g) ↔ t.Has id := by
  cases id with
  | value i => rw [NodeId.relabel, Has, Has, h.length_values, h.values_reindexes.lt_iff]
  | operator i => rw [NodeId.relabel, Has, Has, h.length_operators, h.operators_reindexes.lt_iff]

theorem relabel_injective (h : Relabels f g t t') {id id' : NodeId} (hid : t.Has id)
    (heq : id.relabel f g = id'.relabel f g) : id = id' := by
  cases id with
  | value i =>
    cases id' with
    | value j => rw [h.values_reindexes.injective i j hid (NodeId.value.inj heq)]
    | operator j => simp [NodeId.relabel] at heq
  | operator i =>
    cases id' with
    | value j => simp [NodeId.relabel] at heq
    | operator j => rw [h.operators_reindexes.injective i j hid (NodeId.operator.inj heq)]

/-! ### The trees -/

/-- Corresponding nodes unfold to corresponding trees. -/
theorem unfolds (h : Relabels f g t t') {id : NodeId} {T : Tree} (hT : t.Unfolds id T) :
    t'.Unfolds (id.relabel f g) (T.relabel f g) := by
  induction hT with
  | @leaf i s hs => exact .leaf ((h.values i).trans hs)
  | @unary i n T hn hright _ ih =>
    have hn' := h.operators i
    rw [hn, Option.map_some] at hn'
    have hright' : (n.rename (NodeId.relabel f g)).right = none := by
      simp [OperatorNode.rename, hright]
    exact .unary (n := n.rename (NodeId.relabel f g)) hn' hright' ih
  | @binary i n r L R hn hr _ _ ihl ihr =>
    have hn' := h.operators i
    rw [hn, Option.map_some] at hn'
    have hr' : (n.rename (NodeId.relabel f g)).right = some (r.relabel f g) := by
      simp [OperatorNode.rename, hr]
    exact .binary (n := n.rename (NodeId.relabel f g)) hn' hr' ihl ihr

theorem operators_perm (h : Relabels f g t t') :
    t'.operators.Perm (t.operators.map (·.rename (NodeId.relabel f g))) := by
  refine Reindexes.perm (g := g) (by simpa using h.operators_reindexes)
    (by simpa using h.length_operators) fun i => ?_
  rw [h.operators i, List.getElem?_map]

/-- A relabelled puzzle has the operators of the puzzle, so they fit as well. -/
theorem fits (h : Relabels f g t t') (hfits : t.Fits) : t'.Fits := by
  intro n' hn'
  obtain ⟨n, hn, rfl⟩ := List.mem_map.mp (h.operators_perm.mem_iff.mp hn')
  intro op hop
  rw [hfits n hn op hop]
  simp [OperatorNode.arity, OperatorNode.rename]

theorem links_perm (h : Relabels f g t t') :
    (links t'.operators).Perm ((links t.operators).map (NodeId.relabel f g)) := by
  have hmap : links (t.operators.map (·.rename (NodeId.relabel f g))) =
      (links t.operators).map (NodeId.relabel f g) := by
    rw [links, links, List.flatMap_map, List.map_flatMap]
    congr 1
    funext n
    cases hr : n.right <;> simp [OperatorNode.children, OperatorNode.rename, hr]
  exact hmap ▸ h.operators_perm.flatMap_right _

theorem addresses_perm (h : Relabels f g t t') :
    ((addresses t.values.length t.operators.length).map (NodeId.relabel f g)).Perm
      (addresses t'.values.length t'.operators.length) := by
  rw [h.length_values, h.length_operators, addresses, List.map_append, List.map_map,
    List.map_map]
  refine List.Perm.append ?_ ?_
  · have hv := h.values_reindexes.map_range_perm.map NodeId.value
    rwa [List.map_map] at hv
  · have ho := h.operators_reindexes.map_range_perm.map NodeId.operator
    rwa [List.map_map] at ho

theorem ranked (h : Relabels f g t t') (ht : t.Arboreal) :
    ∃ rank, Ranks t'.operators rank ∧ ∀ id, t'.Has id → rank id ≤ t'.operators.length := by
  obtain ⟨rank, hrank, hbound⟩ := ht.ranked
  -- a node of `t'` gets the rank of the node of `t` that it comes from
  have hback (id' : NodeId) : ∃ r, (∀ id, t.Has id → id.relabel f g = id' → r = rank id) ∧
      r ≤ t.operators.length := by
    by_cases hid : ∃ id, t.Has id ∧ id.relabel f g = id'
    · obtain ⟨id, hid, rfl⟩ := hid
      refine ⟨rank id, fun id₂ _ heq => ?_, hbound id hid⟩
      rw [h.relabel_injective hid heq.symm]
    · exact ⟨0, fun id hid' heq => absurd ⟨id, hid', heq⟩ hid, Nat.zero_le _⟩
  choose rank' hrank' hbound' using hback
  refine ⟨rank', ?_, fun id _ => h.length_operators ▸ hbound' id⟩
  rintro p c ⟨q, side, rfl, hc⟩
  obtain ⟨n', hn', hc⟩ := childAt?_eq_some.mp hc
  have hq : q < t'.operators.length := (List.getElem?_eq_some_iff.mp hn').1
  obtain ⟨i, hi, rfl⟩ := h.operators_reindexes.exists_eq (h.length_operators ▸ hq)
  rw [h.operators i, List.getElem?_eq_getElem hi, Option.map_some, Option.some.injEq] at hn'
  obtain ⟨d, hd, rfl⟩ : ∃ d, t.operators[i].child? side = some d ∧ d.relabel f g = c := by
    subst hn'
    cases side with
    | left => exact ⟨_, rfl, by simpa [OperatorNode.rename] using hc⟩
    | right => simpa [OperatorNode.rename] using hc
  have hp : IsParent t.operators (.operator i) d :=
    ⟨i, side, rfl, childAt?_eq_some.mpr ⟨_, List.getElem?_eq_getElem hi, hd⟩⟩
  rw [hrank' _ d (ht.has_child hp) rfl, hrank' (.operator (g i)) (.operator i) hi rfl]
  exact hrank _ _ hp

/-- **A relabelled tree is a tree.** -/
theorem arboreal (h : Relabels f g t t') (ht : t.Arboreal) : t'.Arboreal where
  perm := by
    rw [h.root]
    exact ((h.links_perm.cons _).trans (ht.perm.map _)).trans h.addresses_perm
  ranked := h.ranked ht

theorem tree_eq (h : Relabels f g t t') (ht : t.Arboreal) {id : NodeId} (hid : t.Has id) :
    t'.tree (id.relabel f g) = (t.tree id).relabel f g :=
  (h.arboreal ht).tree_eq (h.unfolds (ht.unfolds_tree hid))

/-- Corresponding nodes have the same value, or errors at corresponding nodes. -/
theorem evalAt (h : Relabels f g t t') (ht : t.Arboreal) {id : NodeId} (hid : t.Has id) :
    t'.evalAt (id.relabel f g) =
      (t.evalAt id).mapError (EvalError.rename (NodeId.relabel f g)) := by
  rw [Template.evalAt, h.tree_eq ht hid, Tree.eval_relabel, Template.evalAt]

/-- Relabelled puzzles are written alike where no addresses are shown. -/
theorem written (h : Relabels f g t t') (ht : t.Arboreal) :
    t'.written false = t.written false := by
  rw [Template.written, h.root, h.tree_eq ht ht.has_root, Tree.written_relabel, h.answer,
    Template.written]

/-! ### Runs -/

/-- A change of one slot keeps the correspondence if the slots correspond: the list
with the slot of `t'` changed is the list with the slot of `t` changed, read at permuted
positions. -/
private theorem getElem?_set_reindexed {α : Type} {xs ys : List α} {k : Nat → Nat}
    (hk : Reindexes xs.length k) (hlen : ys.length = xs.length) {F : α → α}
    (hget : ∀ i, ys[k i]? = xs[i]?.map F) (i : Nat) (x : α) (j : Nat) :
    (ys.set (k i) (F x))[k j]? = (xs.set i x)[j]?.map F := by
  by_cases hi : i < xs.length
  · by_cases hij : i = j
    · subst hij
      rw [List.getElem?_set_self (hlen ▸ (hk.lt_iff i).mpr hi), List.getElem?_set_self hi,
        Option.map_some]
    · have hne : k i ≠ k j := fun h => hij (hk.injective i j hi h)
      rw [List.getElem?_set_ne hne, List.getElem?_set_ne hij, hget j]
  · -- there is no such slot in either list
    have hki : ¬ k i < ys.length := fun h => hi ((hk.lt_iff i).mp (hlen ▸ h))
    rw [List.set_eq_of_length_le (Nat.le_of_not_lt hki),
      List.set_eq_of_length_le (Nat.le_of_not_lt hi), hget j]

theorem setValues (h : Relabels f g t t') (i : Nat) (s : Slot Trit) :
    Relabels f g { t with values := t.values.set i s }
      { t' with values := t'.values.set (f i) s } where
  values_reindexes := by simpa using h.values_reindexes
  operators_reindexes := h.operators_reindexes
  root := h.root
  answer := h.answer
  length_values := by simpa using h.length_values
  length_operators := h.length_operators
  values := fun j => by
    simpa using getElem?_set_reindexed (F := id) h.values_reindexes h.length_values
      (by simpa using h.values) i s j
  operators := h.operators

theorem setOperators (h : Relabels f g t t') (i : Nat) (n : OperatorNode) :
    Relabels f g { t with operators := t.operators.set i n }
      { t' with operators := t'.operators.set (g i) (n.rename (NodeId.relabel f g)) } where
  values_reindexes := h.values_reindexes
  operators_reindexes := by simpa using h.operators_reindexes
  root := h.root
  answer := h.answer
  length_values := h.length_values
  length_operators := by simpa using h.length_operators
  values := h.values
  operators := getElem?_set_reindexed h.operators_reindexes h.length_operators h.operators i n

end Relabels

/-- Two results of corresponding changes: both fail in the same way, or both succeed with
corresponding puzzles. -/
inductive RelabelledResult (f g : Nat → Nat) :
    Option (Except SlotError Template) → Option (Except SlotError Template) → Prop
  | missing : RelabelledResult f g none none
  | refused (e : SlotError) : RelabelledResult f g (some (.error e)) (some (.error e))
  | changed {u u' : Template} (h : Relabels f g u u') :
      RelabelledResult f g (some (.ok u)) (some (.ok u'))

namespace Relabels

variable {f g : Nat → Nat} {t t' : Template}

theorem setValue? (h : Relabels f g t t') (i : Nat) (x : Trit) :
    RelabelledResult f g (t.setValue? i x) (t'.setValue? (f i) x) := by
  rw [Template.setValue?, Template.setValue?, h.values i]
  cases t.values[i]? with
  | none => exact .missing
  | some s =>
    rw [Option.map_some, Option.map_some]
    cases s.set x with
    | error e => exact .refused e
    | ok s' => exact .changed (h.setValues i s')

/-- The setter of an inner node does not look at the addresses of the children. -/
theorem rename_set (s : NodeId → NodeId) (n : OperatorNode) (op : Operator) :
    (n.rename s).set op = (n.set op).map (·.rename s) := by
  have hrefusal : (n.rename s).refusal? op = n.refusal? op := by
    simp [OperatorNode.refusal?, OperatorNode.misfit?, OperatorNode.arity, OperatorNode.rename]
  rw [OperatorNode.set, OperatorNode.set, hrefusal]
  cases n.refusal? op <;> rfl

theorem setOperator? (h : Relabels f g t t') (i : Nat) (op : Operator) :
    RelabelledResult f g (t.setOperator? i op) (t'.setOperator? (g i) op) := by
  rw [Template.setOperator?, Template.setOperator?, h.operators i]
  cases t.operators[i]? with
  | none => exact .missing
  | some n =>
    simp only [Option.map_some, rename_set]
    cases n.set op with
    | error e => exact .refused e
    | ok n' => exact .changed (h.setOperators i n')

theorem change? (h : Relabels f g t t') (e : SlotEvent) :
    RelabelledResult f g (t.change? e) (t'.change? (e.relabel f g)) := by
  cases e with
  | setValue slot x => exact h.setValue? slot x
  | cycleValue slot =>
    rw [SlotEvent.relabel, Template.change?, Template.change?, h.values slot]
    cases t.values[slot]? with
    | none => exact .missing
    | some s => exact h.setValue? slot (nextValue s)
  | setOperator slot op => exact h.setOperator? slot op
  | cycleOperator slot =>
    rw [SlotEvent.relabel, Template.change?, Template.change?, h.operators slot]
    cases t.operators[slot]? with
    | none => exact .missing
    | some n =>
      -- the next operator depends on the operator and on the number of children
      have hnext : nextOperator (n.rename (NodeId.relabel f g)) = nextOperator n := by
        simp [nextOperator, OperatorNode.arity, OperatorNode.rename]
      simp only [Option.map_some, Option.bind_some, hnext]
      exact h.setOperator? slot (nextOperator n)

theorem afterSetter (h : Relabels f g t t') {r r' : Option (Except SlotError Template)}
    (hr : RelabelledResult f g r r') : Relabels f g (t.afterSetter r) (t'.afterSetter r') := by
  cases hr with
  | missing => exact h
  | refused e => exact h
  | changed hu => exact hu

theorem afterEvent (h : Relabels f g t t') (e : SlotEvent) :
    Relabels f g (t.afterEvent e) (t'.afterEvent (e.relabel f g)) := by
  rw [afterEvent_eq, afterEvent_eq]
  exact h.afterSetter (h.change? e)

theorem perform (h : Relabels f g t t') (m : Move) :
    Relabels f g (t.perform m) (t'.perform (m.relabel f g)) := by
  cases m with
  | event e => exact h.afterEvent e
  | setValue slot x => exact h.afterSetter (h.setValue? slot x)
  | setOperator slot op => exact h.afterSetter (h.setOperator? slot op)

/-- **Corresponding runs lead to corresponding puzzles.** -/
theorem play (h : Relabels f g t t') (moves : List Move) :
    Relabels f g (t.play moves) (t'.play (moves.map (Move.relabel f g))) := by
  induction moves generalizing t t' with
  | nil => exact h
  | cons m ms ih => exact ih (h.perform m)

end Relabels

end Template

end TritPuzzle
