import TritPuzzle.Proofs.Assembling
import TritPuzzle.Proofs.Relabelling

/-!
# Finished puzzles

A puzzle comes from a run of calls that is finished, in order of creation or with its
nodes listed in another order.  In both cases it is a tree whose operators fit their
children, since a puzzle in a listed order is the one in order of creation with its
addresses relabelled.  Play never changes that.

## Main definitions

* `Template.Built` — the puzzles that finished assemblies are.
* `Template.InPlay` — what runs of moves make of them.

## Main results

* `finishListed_eq_ok_iff` — when finishing in a listed order succeeds.
* `Forest.relabels_finishListed` — **listing the nodes in another order relabels them.**
* `Built.arboreal`, `Built.fits` — a finished puzzle is a tree with fitting operators,
  and it stays one in play.
* `isTree_play_of_built` — **every puzzle in play is a tree**, and negation stands
  exactly where there is a single child.
-/

namespace TritPuzzle

namespace Assembly

/-! ### Listing the nodes in another order -/

/-- Finishing in a listed order needs a good root and two good listings. -/
theorem finishListed_eq_ok_iff {a : Assembly} {root : NodeId} {answer : Trit}
    {vs os : List NodeId} {t : Template} :
    a.finishListed root answer vs os = .ok t ↔
      a.rootFault? root = none ∧ ∃ values operators,
        placement .value a.values.length vs = .ok values ∧
        placement .operator a.operators.length os = .ok operators ∧
        t = {
          root := renamed values operators root
          answer
          values := arrange values a.values
          operators := arrange operators
            (a.operators.map (·.rename (renamed values operators))) } := by
  unfold finishListed
  cases a.rootFault? root with
  | some e => simp
  | none =>
    cases placement .value a.values.length vs with
    | error e => simp [bind, Except.bind]
    | ok values =>
      cases placement .operator a.operators.length os with
      | error e => simp [bind, Except.bind]
      | ok operators => simp [bind, Except.bind, pure, Except.pure, eq_comm]

/-- The places of the nodes rename an address to its position in its listing. -/
theorem renamed_eq_relabel {count inner : Nat} {vs os : List NodeId} {id : NodeId}
    (hid : id ∈ addresses count inner) :
    renamed ((List.range count).map (SlotKind.value.placeIn vs))
        ((List.range inner).map (SlotKind.operator.placeIn os)) id =
      id.relabel (SlotKind.value.placeIn vs) (SlotKind.operator.placeIn os) := by
  cases id with
  | value i =>
    have hi : i < count := value_mem_addresses.mp hid
    simp [renamed, NodeId.relabel, hi]
  | operator i =>
    have hi : i < inner := operator_mem_addresses.mp hid
    simp [renamed, NodeId.relabel, hi]

/-- **Listing the nodes in another order relabels them**: whenever finishing in a listed
order succeeds, so does finishing in order of creation, and every address is sent to its
position in its listing. -/
theorem Forest.relabels_finishListed {a : Assembly} (h : a.Forest) {root : NodeId}
    {answer : Trit} {vs os : List NodeId} {t' : Template}
    (ht' : a.finishListed root answer vs os = .ok t') :
    ∃ t, a.finish root answer = .ok t ∧
      vs.Perm (SlotKind.value.inOrder t.values.length) ∧
      os.Perm (SlotKind.operator.inOrder t.operators.length) ∧
      t.Relabels (SlotKind.value.placeIn vs) (SlotKind.operator.placeIn os) t' := by
  obtain ⟨hroot, values, operators, hvalues, hoperators, rfl⟩ := finishListed_eq_ok_iff.mp ht'
  obtain ⟨hvs, rfl⟩ := placement_eq_ok hvalues
  obtain ⟨hos, rfl⟩ := placement_eq_ok hoperators
  have ht : a.finish root answer =
      .ok { root, answer, values := a.values, operators := a.operators } :=
    finish_eq_ok_iff.mpr ⟨hroot, rfl⟩
  have htree := h.arboreal ht
  refine ⟨_, ht, hvs, hos, ?_⟩
  -- the children are addresses of nodes, so the places rename them as the listings do
  have hchildren : a.operators.map (·.rename (renamed
        ((List.range a.values.length).map (SlotKind.value.placeIn vs))
        ((List.range a.operators.length).map (SlotKind.operator.placeIn os)))) =
      a.operators.map (·.rename
        (NodeId.relabel (SlotKind.value.placeIn vs) (SlotKind.operator.placeIn os))) := by
    refine List.map_congr_left fun n hn => OperatorNode.rename_congr fun c hc => ?_
    exact renamed_eq_relabel (Template.mem_addresses.mpr (htree.has_of_mem_children hn hc))
  have hvalues := getElem?_arrange (reindexes_placeIn hvs)
  have hos' : Reindexes (a.operators.map (·.rename (NodeId.relabel
      (SlotKind.value.placeIn vs) (SlotKind.operator.placeIn os)))).length
      (SlotKind.operator.placeIn os) := by
    rw [List.length_map]
    exact reindexes_placeIn hos
  have hoperators := getElem?_arrange hos'
  simp only [List.length_map, List.getElem?_map] at hoperators
  rw [hchildren]
  exact {
    values_reindexes := reindexes_placeIn hvs
    operators_reindexes := reindexes_placeIn hos
    root := renamed_eq_relabel (Template.mem_addresses.mpr htree.has_root)
    answer := rfl
    length_values := hvalues.1
    length_operators := hoperators.1
    values := hvalues.2
    operators := hoperators.2 }

end Assembly

/-! ### Finished puzzles in play -/

namespace Template

/-- The puzzles that come from runs of calls. -/
inductive Built : Template → Prop
  /-- A run of calls is finished in order of creation. -/
  | finish {steps : List AssemblyStep} {root : NodeId} {answer : Trit} {t : Template}
      (h : (Assembly.run steps).finish root answer = .ok t) : Built t
  /-- A run of calls is finished in a listed order. -/
  | finishListed {steps : List AssemblyStep} {root : NodeId} {answer : Trit}
      {vs os : List NodeId} {t : Template}
      (h : (Assembly.run steps).finishListed root answer vs os = .ok t) : Built t

namespace Built

variable {t : Template}

/-- **A finished puzzle is a tree.** -/
theorem arboreal (h : t.Built) : t.Arboreal := by
  cases h with
  | finish h => exact (Assembly.forest_run _).arboreal h
  | finishListed h =>
    obtain ⟨u, hu, -, -, hrelabels⟩ := (Assembly.forest_run _).relabels_finishListed h
    exact hrelabels.arboreal ((Assembly.forest_run _).arboreal hu)

/-- The operators of a finished puzzle fit their children. -/
theorem fits (h : t.Built) : t.Fits := by
  cases h with
  | finish h => exact (Assembly.forest_run _).fits_finish h
  | finishListed h =>
    obtain ⟨u, hu, -, -, hrelabels⟩ := (Assembly.forest_run _).relabels_finishListed h
    exact hrelabels.fits ((Assembly.forest_run _).fits_finish hu)

end Built

/-- The puzzles that come up in play: a finished puzzle after a run of moves. -/
def InPlay (u : Template) : Prop := ∃ t moves, Built t ∧ u = t.play moves

theorem Built.inPlay {t : Template} (h : t.Built) (moves : List Move) : (t.play moves).InPlay :=
  ⟨t, moves, h, rfl⟩

namespace InPlay

variable {u : Template}

/-- A puzzle in play is a tree. -/
theorem arboreal (h : u.InPlay) : u.Arboreal := by
  obtain ⟨t, moves, ht, rfl⟩ := h
  exact ht.arboreal.play moves

/-- The operators of a puzzle in play fit their children. -/
theorem fits (h : u.InPlay) : u.Fits := by
  obtain ⟨t, moves, ht, rfl⟩ := h
  exact fits_play ht.fits moves

end InPlay

/-- An operator that fits its node is the negation exactly where there is one child. -/
theorem Fits.eq_not_iff {t : Template} (h : t.Fits) {n : OperatorNode} (hn : n ∈ t.operators)
    {op : Operator} (hop : n.slot.content? = some op) : op = .not ↔ n.right = none := by
  have harity : op.arity = n.arity := h n hn op hop
  cases hr : n.right <;> cases op <;> simp_all [Operator.arity, OperatorNode.arity]

/-- **Every puzzle in play is a tree**, and negation stands exactly where there is a
single child: whatever calls assembled it, finished in order of creation or not, and
whatever moves were made since. -/
theorem isTree_play_of_built {t : Template} (h : t.Built) (moves : List Move) :
    (t.play moves).IsTree ∧ ∀ n ∈ (t.play moves).operators, ∀ op, n.slot.content? = some op →
      (op = .not ↔ n.right = none) :=
  ⟨(h.arboreal.play moves).isTree, fun _ hn _ hop => (fits_play h.fits moves).eq_not_iff hn hop⟩

/-- Two leaves under two inner nodes, with a call that fails on the way, a root that is
locked late, and all nodes listed backwards. -/
theorem isTree_play_of_built_backwards :
    let steps : List AssemblyStep := [.openValue, .openValue, .operator .unset (.value 0) none,
      .operator .unset (.value 1) (some (.value 0)),
      .operator .unset (.operator 0) (some (.value 1)), .lockOperator (.operator 1) .imply]
    let t : Template := {
      root := .operator 0
      answer := .true
      values := [.unset, .unset]
      operators := [{ slot := .locked .imply, left := .operator 1, right := some (.value 0) },
        { slot := .unset, left := .value 1, right := none }] }
    let moves : List Move := [.event (.cycleOperator 1), .setValue 0 .true, .setOperator 0 .and]
    (Assembly.run steps).finishListed (.operator 1) .true [.value 1, .value 0]
        [.operator 1, .operator 0] = .ok t ∧
      (t.play moves).IsTree ∧ ∀ n ∈ (t.play moves).operators, ∀ op, n.slot.content? = some op →
        (op = .not ↔ n.right = none) := by
  intro steps t moves
  have hlisted : (Assembly.run steps).finishListed (.operator 1) .true [.value 1, .value 0]
      [.operator 1, .operator 0] = .ok t := by decide
  exact ⟨hlisted, isTree_play_of_built (.finishListed hlisted) moves⟩

end Template

end TritPuzzle
