import TritPuzzle.Proofs.Links
import TritPuzzle.Puzzle.Tree

/-!
# Unfolding a node to its tree

`Template.tree` descends with a bound on its depth.  Here the same descent is a
relation without a bound: `t.Unfolds id T` holds when the links below `id` come to an
end and spell out `T`, with a node at every address on the way.  A node has at most
one such tree, and its addresses are exactly what the node reaches.

## Main definitions

* `Template.Has` — there is a node at the address.
* `Template.Unfolds` — the links below a node spell out a tree.

## Main results

* `Unfolds.unique` — a node unfolds to one tree only.
* `Unfolds.mem_ids_iff` — the tree holds the addresses that the node reaches.
* `Unfolds.nodup_ids` — no address occurs twice, if no link does and links go down.
* `unfolds_treeWithin` — a bounded descent that is deep enough unfolds the node.
-/

namespace TritPuzzle

/-- All addresses of so many leaves and so many inner nodes, leaves first. -/
def addresses (leaves inner : Nat) : List NodeId :=
  (List.range leaves).map .value ++ (List.range inner).map .operator

@[simp] theorem value_mem_addresses {v o i : Nat} : .value i ∈ addresses v o ↔ i < v := by
  simp [addresses]

@[simp] theorem operator_mem_addresses {v o i : Nat} : .operator i ∈ addresses v o ↔ i < o := by
  simp [addresses]

theorem nodup_addresses (v o : Nat) : (addresses v o).Nodup := by
  refine List.Nodup.append ?_ ?_ ?_
  · exact List.nodup_range.map fun i j h => by simpa using h
  · exact List.nodup_range.map fun i j h => by simpa using h
  · intro id hv ho
    obtain ⟨i, -, rfl⟩ := List.mem_map.mp hv
    simp at ho

/-- Is the rank of every child below that of its parent? -/
def Ranks (ns : List OperatorNode) (rank : NodeId → Nat) : Prop :=
  ∀ p c, IsParent ns p c → rank c < rank p

/-- Descent never raises the rank. -/
theorem Ranks.le_of_reaches {ns : List OperatorNode} {rank : NodeId → Nat} (h : Ranks ns rank)
    {p c : NodeId} (hpc : Reaches ns p c) : rank c ≤ rank p := by
  induction hpc with
  | refl => exact Nat.le_refl _
  | tail _ hlast ih => exact Nat.le_of_lt (Nat.lt_of_lt_of_le (h _ _ hlast) ih)

namespace Template

/-- Is there a node at the address? -/
def Has (t : Template) : NodeId → Prop
  | .value i => i < t.values.length
  | .operator i => i < t.operators.length

theorem mem_addresses {t : Template} {id : NodeId} :
    id ∈ addresses t.values.length t.operators.length ↔ t.Has id := by
  cases id <;> simp [Has]

theorem has_of_isParent {t : Template} {p c : NodeId} (h : IsParent t.operators p c) :
    t.Has p := by
  obtain ⟨i, side, rfl, hc⟩ := h
  obtain ⟨n, hn, -⟩ := childAt?_eq_some.mp hc
  exact (List.getElem?_eq_some_iff.mp hn).1

/-- The links below a node come to an end and spell out a tree, with a node at every
address on the way. -/
inductive Unfolds (t : Template) : NodeId → Tree → Prop
  | leaf {i : Nat} {s : Slot Trit} (hs : t.values[i]? = some s) :
      Unfolds t (.value i) (.leaf i s)
  | unary {i : Nat} {n : OperatorNode} {T : Tree} (hn : t.operators[i]? = some n)
      (hright : n.right = none) (hleft : Unfolds t n.left T) :
      Unfolds t (.operator i) (.unary i n.slot T)
  | binary {i : Nat} {n : OperatorNode} {r : NodeId} {L R : Tree}
      (hn : t.operators[i]? = some n) (hr : n.right = some r) (hleft : Unfolds t n.left L)
      (hright : Unfolds t r R) : Unfolds t (.operator i) (.binary i n.slot L R)

namespace Unfolds

variable {t : Template} {id : NodeId} {T : Tree}

/-- A node unfolds to one tree only. -/
theorem unique (h : t.Unfolds id T) {T' : Tree} (h' : t.Unfolds id T') : T = T' := by
  induction h generalizing T' with
  | leaf hs =>
    cases h' with
    | leaf hs' => rw [Option.some.inj (hs.symm.trans hs')]
  | unary hn hright _ ih =>
    cases h' with
    | unary hn' _ hleft' =>
      obtain rfl := Option.some.inj (hn.symm.trans hn')
      rw [ih hleft']
    | binary hn' hr' =>
      obtain rfl := Option.some.inj (hn.symm.trans hn')
      simp [hright] at hr'
  | binary hn hr _ _ ihl ihr =>
    cases h' with
    | unary hn' hright' =>
      obtain rfl := Option.some.inj (hn.symm.trans hn')
      simp [hr] at hright'
    | binary hn' hr' hleft' hright' =>
      obtain rfl := Option.some.inj (hn.symm.trans hn')
      obtain rfl := Option.some.inj (hr.symm.trans hr')
      rw [ihl hleft', ihr hright']

theorem has (h : t.Unfolds id T) : t.Has id := by
  cases h with
  | leaf hs => exact (List.getElem?_eq_some_iff.mp hs).1
  | unary hn => exact (List.getElem?_eq_some_iff.mp hn).1
  | binary hn => exact (List.getElem?_eq_some_iff.mp hn).1

end Unfolds

/-! ### The addresses of a tree -/

theorem reaches_value_iff {t : Template} {i : Nat} {c : NodeId} :
    Reaches t.operators (.value i) c ↔ c = .value i := by
  constructor
  · intro h
    rcases Relation.ReflTransGen.cases_head h with h | ⟨d, ⟨j, side, hj, -⟩, -⟩
    · exact h.symm
    · simp at hj
  · rintro rfl
    exact .refl _

/-- What an inner node reaches is the node and what its children reach. -/
theorem reaches_operator_iff {t : Template} {i : Nat} {n : OperatorNode} {c : NodeId}
    (hn : t.operators[i]? = some n) :
    Reaches t.operators (.operator i) c ↔
      c = .operator i ∨ Reaches t.operators n.left c ∨
        ∃ r, n.right = some r ∧ Reaches t.operators r c := by
  have hchild := childAt?_of_getElem? hn
  constructor
  · intro h
    rcases Relation.ReflTransGen.cases_head h with h | ⟨d, ⟨j, side, hj, hd⟩, hdc⟩
    · exact Or.inl h.symm
    · obtain rfl : i = j := by simpa using hj
      rw [hchild] at hd
      cases side with
      | left =>
        obtain rfl : n.left = d := by simpa using hd
        exact Or.inr (Or.inl hdc)
      | right => exact Or.inr (Or.inr ⟨d, hd, hdc⟩)
  · rintro (rfl | h | ⟨r, hr, h⟩)
    · exact .refl _
    · exact .head ⟨i, .left, rfl, hchild .left⟩ h
    · exact .head ⟨i, .right, rfl, (hchild .right).trans hr⟩ h

namespace Unfolds

variable {t : Template} {id : NodeId} {T : Tree}

/-- **The tree of a node holds the addresses that the node reaches.** -/
theorem mem_ids_iff (h : t.Unfolds id T) {c : NodeId} :
    c ∈ T.ids ↔ Reaches t.operators id c := by
  induction h with
  | leaf hs => rw [Tree.ids, List.mem_singleton, reaches_value_iff]
  | unary hn hright _ ih =>
    rw [Tree.ids, List.mem_cons, ih, reaches_operator_iff hn]
    simp [hright]
  | binary hn hr _ _ ihl ihr =>
    rw [Tree.ids, List.mem_cons, List.mem_append, ihl, ihr, reaches_operator_iff hn]
    simp [hr]

/-- A node below a child of an inner node is not that inner node. -/
private theorem operator_notMem_ids {rank : NodeId → Nat} (hrank : Ranks t.operators rank)
    {i : Nat} {side : Side} {c : NodeId} (hc : childAt? t.operators i side = some c)
    (h : t.Unfolds c T) : .operator i ∉ T.ids := by
  intro hmem
  have hup := hrank.le_of_reaches (h.mem_ids_iff.mp hmem)
  have hdown := hrank _ _ ⟨i, side, rfl, hc⟩
  omega

/-- **The trees under the two children of a node have no address in common.** -/
theorem disjoint_ids (hlinks : (links t.operators).Nodup) {rank : NodeId → Nat}
    (hrank : Ranks t.operators rank) {i : Nat} {l r : NodeId} {L R : Tree}
    (hl : childAt? t.operators i .left = some l) (hr : childAt? t.operators i .right = some r)
    (hL : t.Unfolds l L) (hR : t.Unfolds r R) : L.ids.Disjoint R.ids := by
  -- a child strictly above its sibling would be above their parent
  have habove {c d : NodeId} {s u : Side} (hsu : s ≠ u)
      (hc : childAt? t.operators i s = some c) (hd : childAt? t.operators i u = some d)
      (hcd : Reaches t.operators c d) : False := by
    rcases Relation.ReflTransGen.cases_tail hcd with rfl | ⟨p, hcp, hp⟩
    · exact hsu (childAt?_injective hlinks hc hd).2
    · obtain rfl := isParent_unique hlinks hp ⟨i, u, rfl, hd⟩
      have hup := hrank.le_of_reaches hcp
      have hdown := hrank _ _ ⟨i, s, rfl, hc⟩
      omega
  intro c hcl hcr
  rcases reaches_total hlinks (hL.mem_ids_iff.mp hcl) (hR.mem_ids_iff.mp hcr) with h | h
  · exact habove (by simp) hl hr h
  · exact habove (by simp) hr hl h

/-- **No address occurs twice in a tree**, if no link occurs twice and links go down. -/
theorem nodup_ids (hlinks : (links t.operators).Nodup) {rank : NodeId → Nat}
    (hrank : Ranks t.operators rank) (h : t.Unfolds id T) : T.ids.Nodup := by
  induction h with
  | leaf hs => exact List.nodup_singleton _
  | @unary i n T hn hright hleft ih =>
    have hl : childAt? t.operators i .left = some n.left := childAt?_of_getElem? hn .left
    rw [Tree.ids, List.nodup_cons]
    exact ⟨operator_notMem_ids hrank hl hleft, ih⟩
  | @binary i n r L R hn hr hleft hright ihl ihr =>
    have hl : childAt? t.operators i .left = some n.left := childAt?_of_getElem? hn .left
    have hr : childAt? t.operators i .right = some r := (childAt?_of_getElem? hn .right).trans hr
    rw [Tree.ids, List.nodup_cons, List.mem_append, not_or]
    exact ⟨⟨operator_notMem_ids hrank hl hleft, operator_notMem_ids hrank hr hright⟩,
      ihl.append ihr (disjoint_ids hlinks hrank hl hr hleft hright)⟩

end Unfolds

/-! ### The bounded descent -/

/-- **A descent that is deep enough unfolds the node**: it is enough that the depth is
not below the rank, and that the children of inner nodes exist. -/
theorem unfolds_treeWithin {t : Template} {rank : NodeId → Nat} (hrank : Ranks t.operators rank)
    (hchild : ∀ p c, IsParent t.operators p c → t.Has c) {depth : Nat} {id : NodeId}
    (hid : t.Has id) (hdepth : rank id ≤ depth) : t.Unfolds id (t.treeWithin depth id) := by
  induction depth generalizing id with
  | zero =>
    cases id with
    | value i =>
      rw [treeWithin_value (List.getElem?_eq_getElem hid)]
      exact .leaf (List.getElem?_eq_getElem hid)
    | operator i =>
      -- an inner node has a child, so its rank is not zero
      have hleft := hrank _ _
        ⟨i, .left, rfl, childAt?_of_getElem? (List.getElem?_eq_getElem hid) .left⟩
      omega
  | succ depth ih =>
    cases id with
    | value i =>
      rw [treeWithin_value (List.getElem?_eq_getElem hid)]
      exact .leaf (List.getElem?_eq_getElem hid)
    | operator i =>
      obtain ⟨n, hn⟩ : ∃ n, t.operators[i]? = some n := ⟨_, List.getElem?_eq_getElem hid⟩
      -- the descent to a child has one step less to go and one rank less to fall
      have hdown {side : Side} {c : NodeId} (hc : n.child? side = some c) :
          t.Unfolds c (t.treeWithin depth c) := by
        have hp : IsParent t.operators (.operator i) c :=
          ⟨i, side, rfl, childAt?_eq_some.mpr ⟨n, hn, hc⟩⟩
        have hlt := hrank _ _ hp
        exact ih (hchild _ _ hp) (by omega)
      cases hr : n.right with
      | none =>
        rw [treeWithin_unary hn hr]
        exact .unary hn hr (hdown n.child?_left)
      | some r =>
        rw [treeWithin_binary hn hr]
        exact .binary hn hr (hdown n.child?_left) (hdown (n.child?_right.trans hr))

end Template

end TritPuzzle
