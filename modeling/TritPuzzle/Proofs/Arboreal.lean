import TritPuzzle.Proofs.Moves
import TritPuzzle.Proofs.Unfolding

/-!
# Puzzles that are trees

What makes the two lists of a puzzle a tree is a matter of counting and of order: the
root and the links together name every node once, and the nodes can be ranked so
that links go down.  The counting gives each node but the root one parent, the ranks
rule out cycles, and together they put every node below the root.

## Main definitions

* `Template.Arboreal` — the counting and the ranks.
* `Template.IsTree` — what they amount to, said of the nodes.

## Main results

* `Arboreal.reaches_root` — every node is reached from the root.
* `Arboreal.unfolds_tree` — every node unfolds to the tree that `Template.tree` returns.
* `Arboreal.isTree` — **an arboreal puzzle is a tree over its two lists.**
* `Arboreal.play` — a run of moves keeps a puzzle arboreal.
-/

namespace TritPuzzle

namespace Template

/-- The root and the links name every node once, and links go down in some ranking. -/
structure Arboreal (t : Template) : Prop where
  /-- The root and the links together name every node, and none of them twice. -/
  perm : (t.root :: links t.operators).Perm (addresses t.values.length t.operators.length)
  /-- Children rank below their parents, and no rank exceeds the number of inner nodes. -/
  ranked : ∃ rank, Ranks t.operators rank ∧ ∀ id, t.Has id → rank id ≤ t.operators.length

namespace Arboreal

variable {t : Template}

theorem nodup_cons (h : t.Arboreal) : (t.root :: links t.operators).Nodup :=
  h.perm.nodup_iff.mpr (nodup_addresses _ _)

theorem nodup_links (h : t.Arboreal) : (links t.operators).Nodup :=
  (List.nodup_cons.mp h.nodup_cons).2

theorem root_notMem_links (h : t.Arboreal) : t.root ∉ links t.operators :=
  (List.nodup_cons.mp h.nodup_cons).1

theorem has_iff (h : t.Arboreal) {id : NodeId} :
    t.Has id ↔ id = t.root ∨ id ∈ links t.operators := by
  rw [← mem_addresses, ← h.perm.mem_iff, List.mem_cons]

theorem has_root (h : t.Arboreal) : t.Has t.root := h.has_iff.mpr (Or.inl rfl)

theorem has_child (h : t.Arboreal) {p c : NodeId} (hpc : IsParent t.operators p c) : t.Has c :=
  h.has_iff.mpr (Or.inr (mem_links_iff_isParent.mpr ⟨p, hpc⟩))

theorem has_of_mem_children (h : t.Arboreal) {n : OperatorNode} (hn : n ∈ t.operators)
    {c : NodeId} (hc : c ∈ n.children) : t.Has c :=
  h.has_iff.mpr (Or.inr (List.mem_flatMap.mpr ⟨n, hn, hc⟩))

theorem has_of_reaches (h : t.Arboreal) {p c : NodeId} (hp : t.Has p)
    (hpc : Reaches t.operators p c) : t.Has c := by
  induction hpc with
  | refl => exact hp
  | tail _ hlast _ => exact h.has_child hlast

/-- **Every node is reached from the root.**  The parents of a node rank higher and
higher, and only the root has none. -/
theorem reaches_root (h : t.Arboreal) {id : NodeId} (hid : t.Has id) :
    Reaches t.operators t.root id := by
  obtain ⟨rank, hrank, hbound⟩ := h.ranked
  -- induction on the distance of the rank from its bound
  induction hd : t.operators.length - rank id using Nat.strongRecOn generalizing id with
  | _ d ih =>
    rcases h.has_iff.mp hid with rfl | hlink
    · exact .refl _
    · obtain ⟨p, hp⟩ := mem_links_iff_isParent.mp hlink
      have hpHas : t.Has p := has_of_isParent hp
      have hlt := hrank p id hp
      have hle := hbound p hpHas
      exact (ih _ (by omega) hpHas rfl).tail hp

/-- **Every node unfolds to the tree under it.** -/
theorem unfolds_tree (h : t.Arboreal) {id : NodeId} (hid : t.Has id) :
    t.Unfolds id (t.tree id) := by
  obtain ⟨rank, hrank, hbound⟩ := h.ranked
  exact unfolds_treeWithin hrank (fun _ _ => h.has_child) hid (hbound id hid)

theorem tree_eq (h : t.Arboreal) {id : NodeId} {T : Tree} (hT : t.Unfolds id T) :
    t.tree id = T :=
  (h.unfolds_tree hT.has).unique hT

theorem nodup_ids (h : t.Arboreal) {id : NodeId} {T : Tree} (hT : t.Unfolds id T) :
    T.ids.Nodup := by
  obtain ⟨rank, hrank, -⟩ := h.ranked
  exact hT.nodup_ids h.nodup_links hrank

/-- The tree under the root holds every node. -/
theorem mem_ids_root_iff (h : t.Arboreal) {T : Tree} (hT : t.Unfolds t.root T) {id : NodeId} :
    id ∈ T.ids ↔ t.Has id := by
  rw [hT.mem_ids_iff]
  exact ⟨h.has_of_reaches h.has_root, h.reaches_root⟩

end Arboreal

/-- The two lists of a puzzle form a tree. -/
structure IsTree (t : Template) : Prop where
  /-- The root exists. -/
  has_root : t.Has t.root
  /-- Every child exists. -/
  has_child : ∀ i side c, childAt? t.operators i side = some c → t.Has c
  /-- The root is nobody's child. -/
  root_not_child : ∀ i side, childAt? t.operators i side ≠ some t.root
  /-- Every other node is the child of exactly one inner node, on exactly one side. -/
  one_parent : ∀ id, t.Has id → id ≠ t.root →
    ∃! p : Nat × Side, childAt? t.operators p.1 p.2 = some id
  /-- Following the links from the root comes to an end, and visits every node exactly
  once. -/
  traversal : ∃ T, t.Unfolds t.root T ∧ T.ids.Nodup ∧ ∀ id, id ∈ T.ids ↔ t.Has id

/-- **An arboreal puzzle is a tree over its two lists.** -/
theorem Arboreal.isTree {t : Template} (h : t.Arboreal) : t.IsTree where
  has_root := h.has_root
  has_child := fun i side c hc => h.has_child ⟨i, side, rfl, hc⟩
  root_not_child := fun i side hc => h.root_notMem_links (mem_links.mpr ⟨i, side, hc⟩)
  one_parent := by
    intro id hid hne
    rcases h.has_iff.mp hid with hroot | hlink
    · exact absurd hroot hne
    · obtain ⟨i, side, hc⟩ := mem_links.mp hlink
      refine ⟨(i, side), hc, ?_⟩
      rintro ⟨j, u⟩ hj
      obtain ⟨rfl, rfl⟩ := childAt?_injective h.nodup_links hj hc
      rfl
  traversal := by
    have hT := h.unfolds_tree h.has_root
    exact ⟨_, hT, h.nodup_ids hT, fun _ => h.mem_ids_root_iff hT⟩

/-! ### Runs -/

theorem SameFrame.has_iff {t t' : Template} (h : t.SameFrame t') {id : NodeId} :
    t'.Has id ↔ t.Has id := by
  cases id with
  | value i => rw [Has, Has, h.length_values]
  | operator i => rw [Has, Has, h.length_operators]

/-- Being a tree is a matter of the frame alone. -/
theorem Arboreal.of_sameFrame {t t' : Template} (h : t.Arboreal) (hframe : t.SameFrame t') :
    t'.Arboreal where
  perm := by
    rw [hframe.root, links_congr hframe.wiring, hframe.length_values, hframe.length_operators]
    exact h.perm
  ranked := by
    obtain ⟨rank, hrank, hbound⟩ := h.ranked
    refine ⟨rank, ?_, ?_⟩
    · rw [Ranks, isParent_congr hframe.wiring]
      exact hrank
    · intro id hid
      rw [hframe.length_operators]
      exact hbound id (hframe.has_iff.mp hid)

/-- **A run of moves keeps a puzzle arboreal.** -/
theorem Arboreal.play {t : Template} (h : t.Arboreal) (moves : List Move) :
    (t.play moves).Arboreal :=
  h.of_sameFrame (t.sameFrame_play moves)

end Template

end TritPuzzle
