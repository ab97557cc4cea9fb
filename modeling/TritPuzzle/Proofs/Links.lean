import Mathlib.Data.List.Nodup
import Mathlib.Logic.Relation
import TritPuzzle.Puzzle.Template

/-!
# Parents and children

The inner nodes of a puzzle name their children by address, and nothing else ties
the nodes together.  Here the links are read off a list of inner nodes, so that the
same facts serve a puzzle under assembly and a finished one.

## Main definitions

* `Side`, `childAt?` — the child of an inner node on one of its sides.
* `links` — the addresses of all children, from the first inner node to the last.
* `IsParent`, `Reaches` — one link downwards, and any number of them.
* `wiring` — what the links depend on: the children, without the slots.

## Main results

* `childAt?_injective` — where no link occurs twice, a node is the child of one inner
  node on one side.
* `reaches_total` — the ancestors of a node lie on one path.
-/

namespace TritPuzzle

/-- The side of an inner node on which a child hangs. -/
inductive Side where
  /-- The first or only child. -/
  | left
  /-- The second child. -/
  | right
  deriving DecidableEq, Repr

/-- The child of an inner node on a side, if it has one there. -/
def OperatorNode.child? (n : OperatorNode) : Side → Option NodeId
  | .left => some n.left
  | .right => n.right

/-- The child of the inner node at a position on a side, if there are both. -/
def childAt? (ns : List OperatorNode) (i : Nat) (side : Side) : Option NodeId :=
  ns[i]?.bind (·.child? side)

/-- The addresses of all children, from the first inner node to the last. -/
def links (ns : List OperatorNode) : List NodeId := ns.flatMap OperatorNode.children

/-- The node `c` is a child of the inner node `p`. -/
def IsParent (ns : List OperatorNode) (p c : NodeId) : Prop :=
  ∃ i side, p = .operator i ∧ childAt? ns i side = some c

/-- The node `c` is `p` or hangs somewhere below it. -/
def Reaches (ns : List OperatorNode) : NodeId → NodeId → Prop :=
  Relation.ReflTransGen (IsParent ns)

/-! ### Children of one node -/

@[simp] theorem OperatorNode.child?_left (n : OperatorNode) : n.child? .left = some n.left := rfl

@[simp] theorem OperatorNode.child?_right (n : OperatorNode) : n.child? .right = n.right := rfl

theorem OperatorNode.mem_children {n : OperatorNode} {c : NodeId} :
    c ∈ n.children ↔ ∃ side, n.child? side = some c := by
  constructor
  · intro h
    rcases List.mem_cons.mp h with rfl | h
    · exact ⟨.left, rfl⟩
    · exact ⟨.right, by simpa using h⟩
  · rintro ⟨side, h⟩
    cases side with
    | left => simp_all [children]
    | right => simp_all [children]

/-- A node with two different children has each of them on one side only. -/
theorem OperatorNode.child?_injective {n : OperatorNode} (h : n.children.Nodup) {s u : Side}
    {c : NodeId} (hs : n.child? s = some c) (hu : n.child? u = some c) : s = u := by
  cases s with
  | left =>
    cases u with
    | left => rfl
    | right => simp_all [children]
  | right =>
    cases u with
    | left => simp_all [children]
    | right => rfl

/-! ### Links -/

@[simp] theorem links_nil : links [] = [] := rfl

@[simp] theorem links_cons (n : OperatorNode) (ns : List OperatorNode) :
    links (n :: ns) = n.children ++ links ns := rfl

@[simp] theorem links_append (ns ms : List OperatorNode) :
    links (ns ++ ms) = links ns ++ links ms := by
  simp [links]

theorem childAt?_eq_some {ns : List OperatorNode} {i : Nat} {side : Side} {c : NodeId} :
    childAt? ns i side = some c ↔ ∃ n, ns[i]? = some n ∧ n.child? side = some c := by
  rw [childAt?, Option.bind_eq_some_iff]

theorem childAt?_of_getElem? {ns : List OperatorNode} {i : Nat} {n : OperatorNode}
    (hn : ns[i]? = some n) (side : Side) : childAt? ns i side = n.child? side := by
  rw [childAt?, hn, Option.bind_some]

theorem mem_links {ns : List OperatorNode} {c : NodeId} :
    c ∈ links ns ↔ ∃ i side, childAt? ns i side = some c := by
  simp only [links, List.mem_flatMap, OperatorNode.mem_children, childAt?_eq_some]
  constructor
  · rintro ⟨n, hn, side, hc⟩
    obtain ⟨i, hi⟩ := List.mem_iff_getElem?.mp hn
    exact ⟨i, side, n, hi, hc⟩
  · rintro ⟨i, side, n, hi, hc⟩
    exact ⟨n, List.mem_of_getElem? hi, side, hc⟩

theorem mem_links_iff_isParent {ns : List OperatorNode} {c : NodeId} :
    c ∈ links ns ↔ ∃ p, IsParent ns p c := by
  rw [mem_links]
  constructor
  · rintro ⟨i, side, h⟩
    exact ⟨.operator i, i, side, rfl, h⟩
  · rintro ⟨p, i, side, -, h⟩
    exact ⟨i, side, h⟩

/-- **Where no link occurs twice, a node is the child of one inner node on one side.** -/
theorem childAt?_injective {ns : List OperatorNode} (h : (links ns).Nodup) {i j : Nat}
    {s u : Side} {c : NodeId} (hi : childAt? ns i s = some c) (hj : childAt? ns j u = some c) :
    i = j ∧ s = u := by
  induction ns generalizing i j with
  | nil => simp [childAt?] at hi
  | cons n ns ih =>
    rw [links_cons, List.nodup_append'] at h
    obtain ⟨hn, hns, hdisj⟩ := h
    -- a child of `n` is no child of a later node
    have hapart {k : Nat} {v w : Side} (hv : n.child? v = some c)
        (hw : childAt? ns k w = some c) : False :=
      hdisj (OperatorNode.mem_children.mpr ⟨v, hv⟩) (mem_links.mpr ⟨k, w, hw⟩)
    cases i with
    | zero =>
      cases j with
      | zero => exact ⟨rfl, OperatorNode.child?_injective hn hi hj⟩
      | succ j => exact (hapart hi hj).elim
    | succ i =>
      cases j with
      | zero => exact (hapart hj hi).elim
      | succ j =>
        obtain ⟨hij, hsu⟩ := ih hns hi hj
        exact ⟨by rw [hij], hsu⟩

theorem isParent_unique {ns : List OperatorNode} (h : (links ns).Nodup) {p q c : NodeId}
    (hp : IsParent ns p c) (hq : IsParent ns q c) : p = q := by
  obtain ⟨i, s, rfl, hi⟩ := hp
  obtain ⟨j, u, rfl, hj⟩ := hq
  rw [(childAt?_injective h hi hj).1]

/-- A link below a node that is added at the end was there before or is one of the new
node. -/
theorem childAt?_append_singleton {ns : List OperatorNode} {n : OperatorNode} {i : Nat}
    {side : Side} {c : NodeId} :
    childAt? (ns ++ [n]) i side = some c ↔
      childAt? ns i side = some c ∨ i = ns.length ∧ n.child? side = some c := by
  simp only [childAt?_eq_some]
  rcases Nat.lt_trichotomy i ns.length with h | h | h
  · rw [List.getElem?_append_left h]
    constructor
    · exact Or.inl
    · rintro (h' | ⟨rfl, -⟩)
      · exact h'
      · exact absurd h (Nat.lt_irrefl _)
  · subst h
    simp
  · rw [List.getElem?_eq_none (by simp; omega), List.getElem?_eq_none (by omega)]
    simp
    omega

/-! ### Descent -/

theorem Reaches.refl {ns : List OperatorNode} (id : NodeId) : Reaches ns id id :=
  Relation.ReflTransGen.refl

/-- **The ancestors of a node lie on one path**: of two of them, one is above the other. -/
theorem reaches_total {ns : List OperatorNode} (h : (links ns).Nodup) {p q c : NodeId}
    (hp : Reaches ns p c) (hq : Reaches ns q c) : Reaches ns p q ∨ Reaches ns q p := by
  -- seen from the node upwards, every step is forced
  have hunique : Relator.RightUnique (Function.swap (IsParent ns)) :=
    fun _ _ _ hp hq => isParent_unique h hp hq
  rcases Relation.ReflTransGen.total_of_right_unique hunique hp.swap hq.swap with h | h
  · exact Or.inr (Relation.reflTransGen_swap.mp h)
  · exact Or.inl (Relation.reflTransGen_swap.mp h)

/-! ### Wiring -/

/-- The children of an inner node, without its slot. -/
def OperatorNode.wires (n : OperatorNode) : NodeId × Option NodeId := (n.left, n.right)

/-- The children of all inner nodes, without the slots. -/
def wiring (ns : List OperatorNode) : List (NodeId × Option NodeId) := ns.map OperatorNode.wires

@[simp] theorem length_wiring (ns : List OperatorNode) : (wiring ns).length = ns.length := by
  simp [wiring]

/-- Another slot in one of the nodes leaves the wiring as it is. -/
theorem wiring_set {ns : List OperatorNode} {i : Nat} {n m : OperatorNode}
    (hn : ns[i]? = some n) (hm : m.wires = n.wires) : wiring (ns.set i m) = wiring ns := by
  have hi : i < ns.length := (List.getElem?_eq_some_iff.mp hn).1
  apply List.ext_getElem?
  intro j
  rw [wiring, wiring, List.getElem?_map, List.getElem?_map]
  by_cases hij : i = j
  · subst hij
    rw [List.getElem?_set_self hi, hn, Option.map_some, Option.map_some, hm]
  · rw [List.getElem?_set_ne hij]

theorem links_eq_flatMap_wiring (ns : List OperatorNode) :
    links ns = (wiring ns).flatMap fun w => w.1 :: w.2.toList := by
  rw [wiring, List.flatMap_map]
  rfl

theorem links_congr {ns ms : List OperatorNode} (h : wiring ns = wiring ms) :
    links ns = links ms := by
  rw [links_eq_flatMap_wiring, h, ← links_eq_flatMap_wiring]

theorem childAt?_congr {ns ms : List OperatorNode} (h : wiring ns = wiring ms) :
    childAt? ns = childAt? ms := by
  funext i side
  have hi : (ns[i]?).map OperatorNode.wires = (ms[i]?).map OperatorNode.wires := by
    simpa [wiring] using congrArg (·[i]?) h
  have hside (n : OperatorNode) : n.child? side = match side with
      | .left => some n.wires.1
      | .right => n.wires.2 := by cases side <;> rfl
  cases hn : ns[i]? with
  | none =>
    have hm : ms[i]? = none := by simpa [hn] using hi.symm
    simp [childAt?, hn, hm]
  | some n =>
    rw [hn, Option.map_some] at hi
    obtain ⟨m, hm, hw⟩ := Option.map_eq_some_iff.mp hi.symm
    simp [childAt?, hn, hm, hside, hw]

theorem isParent_congr {ns ms : List OperatorNode} (h : wiring ns = wiring ms) :
    IsParent ns = IsParent ms := by
  funext p c
  rw [IsParent, IsParent, childAt?_congr h]

end TritPuzzle
