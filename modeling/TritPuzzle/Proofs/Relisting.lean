import TritPuzzle.Proofs.Finished

/-!
# Listing the nodes of a puzzle in another order

The same assembly can be finished with its nodes in order of creation and with its nodes
as listed.  The two puzzles then differ in their addresses and in nothing else, and they
go on to do so in play.

## Main definitions

* `listedAddress` — an address sent to its position in its listing.
* `Template.ListedAs` — what it means for one puzzle to be the other in a listed order.

## Main results

* `Relabels.listedAs` — relabelling by a listing yields the puzzle in the listed order.
* `Relabels.eq_of_fixed` — relabelling that moves nothing changes nothing.
* `listedAs_play_of_finishListed` — **the two puzzles stay in correspondence in play**, and
  they are equal if the listings are those in order of creation.
-/

namespace TritPuzzle

/-- The address sent to its position in the listing of its kind. -/
def listedAddress (vs os : List NodeId) : NodeId → NodeId :=
  NodeId.relabel (SlotKind.value.placeIn vs) (SlotKind.operator.placeIn os)

/-- The move on the slot at the listed address. -/
def listedMove (vs os : List NodeId) : Move → Move :=
  Move.relabel (SlotKind.value.placeIn vs) (SlotKind.operator.placeIn os)

namespace Template

/-- The puzzle `t'` is `t` with its nodes in the listed order. -/
structure ListedAs (vs os : List NodeId) (t t' : Template) : Prop where
  /-- The listing of the leaves names each of them once. -/
  values_listed : vs.Perm (SlotKind.value.inOrder t.values.length)
  /-- The listing of the inner nodes names each of them once. -/
  operators_listed : os.Perm (SlotKind.operator.inOrder t.operators.length)
  length_values : t'.values.length = vs.length
  /-- Every leaf stands where the listing names it, with its slot. -/
  values : ∀ (p : Nat) (id : NodeId), vs[p]? = some id →
    ∃ i s, id = .value i ∧ t.values[i]? = some s ∧ t'.values[p]? = some s
  length_operators : t'.operators.length = os.length
  /-- Every inner node stands where the listing names it, with its slot and with its children
  at their listed addresses. -/
  operators : ∀ (p : Nat) (id : NodeId), os[p]? = some id →
    ∃ i n, id = .operator i ∧ t.operators[i]? = some n ∧
      t'.operators[p]? = some (n.rename (listedAddress vs os))
  root : t'.root = listedAddress vs os t.root
  answer : t'.answer = t.answer
  /-- Every node has the same value as at its listed address, or the same error there. -/
  evalAt : ∀ id, t.Has id →
    t'.evalAt (listedAddress vs os id) =
      (t.evalAt id).mapError (EvalError.rename (listedAddress vs os))
  written : t'.written false = t.written false

namespace Relabels

/-- **Relabelling by a listing yields the puzzle in the listed order.** -/
theorem listedAs {vs os : List NodeId} {t t' : Template}
    (h : Relabels (SlotKind.value.placeIn vs) (SlotKind.operator.placeIn os) t t')
    (ht : t.Arboreal) (hvs : vs.Perm (SlotKind.value.inOrder t.values.length))
    (hos : os.Perm (SlotKind.operator.inOrder t.operators.length)) : ListedAs vs os t t' where
  values_listed := hvs
  operators_listed := hos
  length_values := by rw [h.length_values, hvs.length_eq, SlotKind.length_inOrder]
  values := by
    intro p id hp
    obtain ⟨i, hi, rfl, rfl⟩ := SlotKind.exists_placeIn_eq hvs hp
    have hs : t.values[i]? = some t.values[i] := List.getElem?_eq_getElem hi
    exact ⟨i, _, rfl, hs, (h.values i).trans hs⟩
  length_operators := by rw [h.length_operators, hos.length_eq, SlotKind.length_inOrder]
  operators := by
    intro p id hp
    obtain ⟨i, hi, rfl, rfl⟩ := SlotKind.exists_placeIn_eq hos hp
    have hn : t.operators[i]? = some t.operators[i] := List.getElem?_eq_getElem hi
    refine ⟨i, _, rfl, hn, ?_⟩
    rw [h.operators i, hn, Option.map_some, listedAddress]
  root := h.root
  answer := h.answer
  evalAt := fun _ hid => h.evalAt ht hid
  written := h.written ht

/-- Relabelling that moves no node changes nothing. -/
theorem eq_of_fixed {f g : Nat → Nat} {t t' : Template} (h : Relabels f g t t')
    (ht : t.Arboreal) (hf : ∀ i, i < t.values.length → f i = i)
    (hg : ∀ i, i < t.operators.length → g i = i) : t' = t := by
  have hfixed {id : NodeId} (hid : t.Has id) : id.relabel f g = id := by
    cases id with
    | value i => rw [NodeId.relabel, hf i hid]
    | operator i => rw [NodeId.relabel, hg i hid]
  have hroot : t'.root = t.root := h.root.trans (hfixed ht.has_root)
  have hvalues : t'.values = t.values := by
    apply List.ext_getElem?
    intro i
    by_cases hi : i < t.values.length
    · rw [← h.values i, hf i hi]
    · rw [List.getElem?_eq_none (by rw [h.length_values]; omega),
        List.getElem?_eq_none (by omega)]
  have hoperators : t'.operators = t.operators := by
    apply List.ext_getElem?
    intro i
    by_cases hi : i < t.operators.length
    · have hn : t.operators[i]? = some t.operators[i] := List.getElem?_eq_getElem hi
      have hget := h.operators i
      rw [hg i hi, hn, Option.map_some] at hget
      rw [hget, hn]
      -- the children exist, so they keep their addresses
      have hchild : ∀ c ∈ t.operators[i].children, c.relabel f g = c :=
        fun c hc => hfixed (ht.has_of_mem_children (List.getElem_mem hi) hc)
      rw [OperatorNode.rename_congr hchild]
      simp [OperatorNode.rename]
    · rw [List.getElem?_eq_none (by rw [h.length_operators]; omega),
        List.getElem?_eq_none (by omega)]
  cases t
  cases t'
  rw [Template.mk.injEq]
  exact ⟨hroot, h.answer, hvalues, hoperators⟩

end Relabels

/-- **A puzzle in order of creation and the same puzzle in a listed order stay in
correspondence in play**, when each move of the one is made in the other at the listed
address.  They are equal if both listings are in order of creation. -/
theorem listedAs_play_of_finishListed {steps : List AssemblyStep} {root : NodeId} {answer : Trit}
    {vs os : List NodeId} {t' : Template}
    (h : (Assembly.run steps).finishListed root answer vs os = .ok t') :
    ∃ t, (Assembly.run steps).finish root answer = .ok t ∧
      (∀ moves : List Move,
        ListedAs vs os (t.play moves) (t'.play (moves.map (listedMove vs os)))) ∧
      (vs = SlotKind.value.inOrder t.values.length →
        os = SlotKind.operator.inOrder t.operators.length → t' = t) := by
  have hforest := Assembly.forest_run steps
  obtain ⟨t, ht, hvs, hos, hrelabels⟩ := hforest.relabels_finishListed h
  have htree : t.Arboreal := hforest.arboreal ht
  refine ⟨t, ht, fun moves => ?_, fun hvalues hoperators => ?_⟩
  · -- play keeps the number of nodes, so the listings still name them all
    have hframe := t.sameFrame_play moves
    refine (hrelabels.play moves).listedAs (htree.play moves) ?_ ?_
    · rwa [hframe.length_values]
    · rwa [hframe.length_operators]
  · subst hvalues hoperators
    exact hrelabels.eq_of_fixed htree (fun _ => SlotKind.value.placeIn_inOrder)
      fun _ => SlotKind.operator.placeIn_inOrder

/-- Three leaves and three inner nodes, each kind listed in an order that is not its own
inverse. -/
theorem listedAs_play_of_finishListed_cycle :
    let steps : List AssemblyStep := [.lockedValue .true, .openValue, .value (.opened .neutral),
      .operator (.locked .not) (.value 0) none,
      .operator .unset (.operator 0) (some (.value 1)),
      .operator (.opened .xor) (.operator 1) (some (.value 2))]
    let vs : List NodeId := [.value 1, .value 2, .value 0]
    let os : List NodeId := [.operator 2, .operator 0, .operator 1]
    let t' : Template := {
      root := .operator 0
      answer := .neutral
      values := [.unset, .opened .neutral, .locked .true]
      operators := [{ slot := .opened .xor, left := .operator 2, right := some (.value 1) },
        { slot := .locked .not, left := .value 2, right := none },
        { slot := .unset, left := .operator 1, right := some (.value 0) }] }
    (Assembly.run steps).finishListed (.operator 2) .neutral vs os = .ok t' ∧
    ∃ t, (Assembly.run steps).finish (.operator 2) .neutral = .ok t ∧
      (∀ moves : List Move,
        ListedAs vs os (t.play moves) (t'.play (moves.map (listedMove vs os)))) ∧
      (vs = SlotKind.value.inOrder t.values.length →
        os = SlotKind.operator.inOrder t.operators.length → t' = t) := by
  intro steps vs os t'
  have hlisted : (Assembly.run steps).finishListed (.operator 2) .neutral vs os = .ok t' := by
    decide
  exact ⟨hlisted, listedAs_play_of_finishListed hlisted⟩

end Template

end TritPuzzle
