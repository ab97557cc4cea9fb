import TritPuzzle.Proofs.Commuting
import TritPuzzle.Proofs.Kleene

/-!
# Evaluation is local

The value of a node, or the error that stands in its place, is settled by what the slots
under the node hold.  Locks, the answer and all slots elsewhere do not matter.  As the
subtrees under the two children of a node have no slot in common, what a player does in one
of them is not seen from the other.

## Main definitions

* `Node.content` — what a node holds, without its lock and its links.
* `Template.SameContentAt` — two puzzles hold the same at an address.

## Main results

* `Leafwise.eval_eq` — trees with the same contents have the same value.
* `Arboreal.evalAt_congr` — **the value of a node depends on the contents under it alone.**
* `Arboreal.evalAt_afterEvents` — events elsewhere do not change it.
* `Arboreal.not_reaches_both` — siblings have no node in common.
* `evalAt_local_of_inPlay` — all three, for every puzzle in play.
-/

namespace TritPuzzle

/-- What a node holds, if anything, without its lock and its links. -/
def Node.content : Node → Option Trit ⊕ Option Operator
  | .leaf s => .inl s.content?
  | .inner n => .inr n.slot.content?

/-- **Trees that hold the same contents have the same value**, or the same error. -/
theorem Tree.Leafwise.eval_eq {T T' : Tree}
    (h : Leafwise (fun s s' => s'.content? = s.content?) T T') : T'.eval = T.eval := by
  induction h with
  | leaf h => rw [eval, eval, h]
  | unary hs _ ih => rw [eval, eval, hs, ih]
  | binary hs _ _ ihl ihr => rw [eval, eval, hs, ihl, ihr]

namespace Template

/-- Do two puzzles hold the same at an address? -/
def SameContentAt (t t' : Template) (c : NodeId) : Prop :=
  (t'.node? c).map Node.content = (t.node? c).map Node.content

theorem SameContentAt.value {t t' : Template} {i : Nat} (h : t.SameContentAt t' (.value i))
    {s s' : Slot Trit} (hs : t.values[i]? = some s) (hs' : t'.values[i]? = some s') :
    s'.content? = s.content? := by
  rw [SameContentAt, node?, node?, hs, hs'] at h
  exact Sum.inl.inj (Option.some.inj h)

theorem SameContentAt.operator {t t' : Template} {i : Nat} (h : t.SameContentAt t' (.operator i))
    {n n' : OperatorNode} (hn : t.operators[i]? = some n) (hn' : t'.operators[i]? = some n') :
    n'.slot.content? = n.slot.content? := by
  rw [SameContentAt, node?, node?, hn, hn'] at h
  exact Sum.inr.inj (Option.some.inj h)

namespace Arboreal

variable {t : Template}

/-- **The value of a node depends on the contents under it alone.**  The other puzzle needs
the same links, and may differ in its locks, its answer and all other slots. -/
theorem evalAt_congr (h : t.Arboreal) {t' : Template}
    (hwiring : wiring t'.operators = wiring t.operators)
    (hlength : t'.values.length = t.values.length) {id : NodeId} (hid : t.Has id)
    (hsame : ∀ c, Reaches t.operators id c → t.SameContentAt t' c) :
    t'.evalAt id = t.evalAt id := by
  have hT : t.Unfolds id (t.tree id) := h.unfolds_tree hid
  have hT' : t'.Unfolds id (t'.tree id) := h.unfolds_tree_of_wiring hwiring hlength hid
  have hrel : Tree.Leafwise (fun s s' => s'.content? = s.content?) (t.tree id) (t'.tree id) := by
    refine hT.leafwise hT' hwiring ?_ ?_
    · intro i n n' hi hn hn'
      exact (hsame _ (hT.mem_ids_iff.mp hi)).operator hn hn'
    · intro i s s' hi hs hs'
      exact (hsame _ (hT.mem_ids_iff.mp hi)).value hs hs'
  exact hrel.eval_eq

/-- **Events on slots elsewhere do not change the value of a node.** -/
theorem evalAt_afterEvents (h : t.Arboreal) {es : List SlotEvent} {id : NodeId} (hid : t.Has id)
    (hes : ∀ e ∈ es, ¬ Reaches t.operators id e.target) :
    (t.afterEvents es).evalAt id = t.evalAt id := by
  have hframe := t.sameFrame_afterEvents es
  refine h.evalAt_congr hframe.wiring hframe.length_values hid fun c hc => ?_
  have hnot : c ∉ es.map SlotEvent.target := by
    intro hmem
    obtain ⟨e, he, rfl⟩ := List.mem_map.mp hmem
    exact hes e he hc
  rw [SameContentAt, node?_afterEvents_of_notMem hnot]

/-- **Siblings have no node in common**: none hangs below both children of a node. -/
theorem not_reaches_both (h : t.Arboreal) {i : Nat} {n : OperatorNode} {r c : NodeId}
    (hn : t.operators[i]? = some n) (hr : n.right = some r)
    (hleft : Reaches t.operators n.left c) : ¬ Reaches t.operators r c := by
  intro hright
  obtain ⟨rank, hrank, -⟩ := h.ranked
  have hl : childAt? t.operators i .left = some n.left := childAt?_of_getElem? hn .left
  have hr : childAt? t.operators i .right = some r := (childAt?_of_getElem? hn .right).trans hr
  have hL := h.unfolds_tree (h.has_child ⟨i, .left, rfl, hl⟩)
  have hR := h.unfolds_tree (h.has_child ⟨i, .right, rfl, hr⟩)
  have hdisjoint := Unfolds.disjoint_ids h.nodup_links hrank hl hr hL hR
  exact hdisjoint (hL.mem_ids_iff.mpr hleft) (hR.mem_ids_iff.mpr hright)

end Arboreal

/-- **Evaluation is local in every puzzle in play.**  A puzzle with the same links and the
same contents under a node has the same value there, or the same error, whatever else is
different.  So no events on slots elsewhere change the value of a node; and as siblings have
no slot in common, events under one of them never change the value of the other. -/
theorem evalAt_local_of_inPlay {t : Template} (h : t.InPlay) :
    (∀ t' id, wiring t'.operators = wiring t.operators → t'.values.length = t.values.length →
      t.Has id → (∀ c, Reaches t.operators id c → t.SameContentAt t' c) →
      t'.evalAt id = t.evalAt id) ∧
    (∀ es id, t.Has id → (∀ e ∈ es, ¬ Reaches t.operators id e.target) →
      (t.afterEvents es).evalAt id = t.evalAt id) ∧
    ∀ (i : Nat) (n : OperatorNode) (r : NodeId), t.operators[i]? = some n → n.right = some r →
      (∀ c, Reaches t.operators n.left c → ¬ Reaches t.operators r c) ∧
      (∀ es, (∀ e ∈ es, Reaches t.operators n.left e.target) →
        (t.afterEvents es).evalAt r = t.evalAt r) ∧
      ∀ es, (∀ e ∈ es, Reaches t.operators r e.target) →
        (t.afterEvents es).evalAt n.left = t.evalAt n.left := by
  have htree := h.arboreal
  refine ⟨fun t' id hwiring hlength hid => htree.evalAt_congr hwiring hlength hid,
    fun es id hid => htree.evalAt_afterEvents hid, fun i n r hn hr => ?_⟩
  have hapart {c : NodeId} (hc : Reaches t.operators n.left c) : ¬ Reaches t.operators r c :=
    htree.not_reaches_both hn hr hc
  have hleft : t.Has n.left := htree.has_child ⟨i, .left, rfl, childAt?_of_getElem? hn .left⟩
  have hright : t.Has r :=
    htree.has_child ⟨i, .right, rfl, (childAt?_of_getElem? hn .right).trans hr⟩
  refine ⟨fun c => hapart, fun es hes => ?_, fun es hes => ?_⟩
  · exact htree.evalAt_afterEvents hright fun e he => hapart (hes e he)
  · exact htree.evalAt_afterEvents hleft fun e he hreach => hapart hreach (hes e he)

/-- A difference under a disjunction whose other side is a leaf, and a conjunction with the
same links, other locks and another answer: the difference is incomplete in both, for the
same slot, and it is not changed by events on the leaf, nor the leaf by events on it. -/
theorem evalAt_local_of_inPlay_difference :
    let steps : List AssemblyStep := [.openValue, .lockedValue .false, .openValue,
      .operator (.locked .xor) (.value 0) (some (.value 1)),
      .operator (.opened .or) (.operator 0) (some (.value 2))]
    let t : Template := {
      root := .operator 1
      answer := .true
      values := [.unset, .locked .false, .unset]
      operators := [{ slot := .locked .xor, left := .value 0, right := some (.value 1) },
        { slot := .opened .or, left := .operator 0, right := some (.value 2) }] }
    let t' : Template := {
      root := .operator 1
      answer := .neutral
      values := [.unset, .opened .false, .locked .true]
      operators := [{ slot := .opened .xor, left := .value 0, right := some (.value 1) },
        { slot := .locked .and, left := .operator 0, right := some (.value 2) }] }
    (Assembly.run steps).finish (.operator 1) .true = .ok t ∧
      wiring t'.operators = wiring t.operators ∧ t'.values.length = t.values.length ∧
      (∀ c, Reaches t.operators (.operator 0) c → t.SameContentAt t' c) ∧
      t.evalAt (.operator 0) = .error (.emptyValue (.value 0)) ∧
      t'.evalAt (.operator 0) = t.evalAt (.operator 0) ∧
      (t.afterEvents [.cycleValue 2, .setOperator 1 .and]).evalAt (.operator 0) =
        t.evalAt (.operator 0) ∧
      (∀ c, Reaches t.operators (.operator 0) c → ¬ Reaches t.operators (.value 2) c) ∧
      (t.afterEvents [.cycleValue 0]).evalAt (.value 2) = t.evalAt (.value 2) := by
  intro steps t t'
  have hbuilt : (Assembly.run steps).finish (.operator 1) .true = .ok t := by decide
  have hreach {c : NodeId} (hc : Reaches t.operators (.operator 0) c) :
      c = .operator 0 ∨ c = .value 0 ∨ c = .value 1 := by
    rcases (reaches_operator_iff rfl).mp hc with rfl | hl | ⟨r, hr, hright⟩
    · exact Or.inl rfl
    · exact Or.inr (Or.inl (reaches_value_iff.mp hl))
    · obtain rfl := Option.some.inj hr
      exact Or.inr (Or.inr (reaches_value_iff.mp hright))
  have hsame (c : NodeId) (hc : Reaches t.operators (.operator 0) c) : t.SameContentAt t' c := by
    rcases hreach hc with rfl | rfl | rfl <;> rfl
  obtain ⟨hcongr, hframe, hsiblings⟩ := evalAt_local_of_inPlay ((Built.finish hbuilt).inPlay [])
  obtain ⟨hapart, hleft, -⟩ := hsiblings 1 _ _ rfl rfl
  have houtside : ∀ e ∈ [SlotEvent.cycleValue 2, .setOperator 1 .and],
      ¬ Reaches t.operators (.operator 0) e.target := by
    intro e he hc
    have hmem := hreach hc
    rcases List.mem_pair.mp he with rfl | rfl
    · simp [SlotEvent.target] at hmem
    · simp [SlotEvent.target] at hmem
  have hinside : ∀ e ∈ [SlotEvent.cycleValue 0], Reaches t.operators (.operator 0) e.target := by
    intro e he
    obtain rfl := List.mem_singleton.mp he
    exact (reaches_operator_iff rfl).mpr (Or.inr (Or.inl (.refl _)))
  have hhas : t.Has (.operator 0) := show 0 < 2 by decide
  exact ⟨hbuilt, rfl, rfl, hsame, by decide, hcongr t' _ rfl rfl hhas hsame,
    hframe _ _ hhas houtside, hapart, hleft _ hinside⟩

end Template

end TritPuzzle
