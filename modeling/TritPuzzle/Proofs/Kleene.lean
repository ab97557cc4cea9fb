import TritPuzzle.Proofs.Completeness

/-!
# Undecided leaves

A neutral leaf stands for a leaf that is not decided yet.  The connectives never take
back what they have concluded: if a tree has the value `false` or `true` while some of
its leaves are neutral, it keeps that value however they are decided.  Where no leaf is
neutral the connectives are those of two-valued logic.

## Main definitions

* `Trit.Approximates` — the information order: nothing is known of a neutral value.
* `Trit.ofBool`, `Operator.classical`, `Tree.classical` — two-valued evaluation.
* `Tree.Leafwise` — two trees that differ at most in the contents of their leaves.
* `Template.Decides` — a puzzle in which undecided leaves of another one are decided.

## Main results

* `Trit.Approximates.connective` — **the connectives are monotone in the information
  order.**
* `Leafwise.eval_approximates` — the value of a tree is monotone, too.
* `Unfolds.eval_eq_classical` — a tree without neutral leaves has its classical value.
* `evalAt_kleene_of_inPlay` — both, for every node of a puzzle in play.
-/

namespace TritPuzzle

/-! ### The information order -/

namespace Trit

/-- Is the second value what the first one says, as far as that is decided? -/
def Approximates (x y : Trit) : Prop := x = .neutral ∨ x = y

instance (x y : Trit) : Decidable (x.Approximates y) := inferInstanceAs (Decidable (_ ∨ _))

namespace Approximates

variable {x x' y y' : Trit}

theorem eq_of_ne_neutral (h : x.Approximates y) (hx : x ≠ .neutral) : y = x :=
  (h.resolve_left hx).symm

protected theorem not (h : x.Approximates x') : x.not.Approximates x'.not := by
  rcases h with rfl | rfl
  · exact Or.inl rfl
  · exact Or.inr rfl

protected theorem and (hx : x.Approximates x') (hy : y.Approximates y') :
    (x.and y).Approximates (x'.and y') := by
  revert hx hy
  cases x <;> cases x' <;> cases y <;> cases y' <;> decide

protected theorem or (hx : x.Approximates x') (hy : y.Approximates y') :
    (x.or y).Approximates (x'.or y') := by
  revert hx hy
  cases x <;> cases x' <;> cases y <;> cases y' <;> decide

protected theorem xor (hx : x.Approximates x') (hy : y.Approximates y') :
    (x.xor y).Approximates (x'.xor y') :=
  (hx.and hy.not).or (hx.not.and hy)

protected theorem imply (hx : x.Approximates x') (hy : y.Approximates y') :
    (x.imply y).Approximates (x'.imply y') :=
  hx.not.or hy

/-- **The connectives are monotone in the information order.** -/
theorem connective {op : Operator} {f : Trit → Trit → Trit} (hf : op.connective? = some f)
    (hx : x.Approximates x') (hy : y.Approximates y') : (f x y).Approximates (f x' y') := by
  cases op with
  | not => simp [Operator.connective?] at hf
  | and => exact Option.some.inj hf ▸ hx.and hy
  | or => exact Option.some.inj hf ▸ hx.or hy
  | xor => exact Option.some.inj hf ▸ hx.xor hy
  | imply => exact Option.some.inj hf ▸ hx.imply hy

end Approximates

/-! ### Two-valued logic -/

/-- The decided value for a truth value. -/
def ofBool : Bool → Trit
  | .false => .false
  | .true => .true

theorem not_ofBool (a : Bool) : (ofBool a).not = ofBool (!a) := by cases a <;> rfl

theorem and_ofBool (a b : Bool) : (ofBool a).and (ofBool b) = ofBool (a && b) := by
  cases a <;> cases b <;> rfl

theorem or_ofBool (a b : Bool) : (ofBool a).or (ofBool b) = ofBool (a || b) := by
  cases a <;> cases b <;> rfl

end Trit

/-- The truth tables of two-valued logic.  Negation reads the first operand only. -/
def Operator.classical : Operator → Bool → Bool → Bool
  | .not, a, _ => !a
  | .and, a, b => a && b
  | .or, a, b => a || b
  | .xor, a, b => a != b
  | .imply, a, b => !a || b

/-- On decided operands a connective is that of two-valued logic. -/
theorem Operator.connective?_ofBool {op : Operator} {f : Trit → Trit → Trit}
    (hf : op.connective? = some f) (a b : Bool) :
    f (.ofBool a) (.ofBool b) = .ofBool (op.classical a b) := by
  cases op with
  | not => simp [connective?] at hf
  | and =>
    obtain rfl := Option.some.inj hf
    exact Trit.and_ofBool a b
  | or =>
    obtain rfl := Option.some.inj hf
    exact Trit.or_ofBool a b
  | xor =>
    obtain rfl := Option.some.inj hf
    have hxor : (a && !b || !a && b) = (a != b) := by cases a <;> cases b <;> rfl
    rw [Trit.xor, Trit.not_ofBool, Trit.not_ofBool, Trit.and_ofBool, Trit.and_ofBool,
      Trit.or_ofBool, hxor, classical]
  | imply =>
    obtain rfl := Option.some.inj hf
    rw [Trit.imply, Trit.not_ofBool, Trit.or_ofBool, classical]

/-- Is the content of the second slot what that of the first one says, as far as it is
decided? -/
def Slot.DecidedBy (s s' : Slot Trit) : Prop :=
  ∀ x, s.content? = some x → ∃ y, s'.content? = some y ∧ x.Approximates y

namespace Tree

/-- The truth value of a tree in two-valued logic, where a leaf holds if it is `true`. -/
def classical : Tree → Bool
  | .missing _ => false
  | .leaf _ slot => slot.content? = some .true
  | .unary _ slot child =>
    match slot.content? with
    | none => false
    | some op => op.classical child.classical child.classical
  | .binary _ slot left right =>
    match slot.content? with
    | none => false
    | some op => op.classical left.classical right.classical

/-! ### Trees with other contents in the leaves -/

/-- Two trees of the same nodes and operators, with related slots in their leaves. -/
inductive Leafwise (R : Slot Trit → Slot Trit → Prop) : Tree → Tree → Prop
  | leaf {i : Nat} {s s' : Slot Trit} (h : R s s') : Leafwise R (.leaf i s) (.leaf i s')
  | unary {i : Nat} {s s' : Slot Operator} {c c' : Tree} (hs : s'.content? = s.content?)
      (hc : Leafwise R c c') : Leafwise R (.unary i s c) (.unary i s' c')
  | binary {i : Nat} {s s' : Slot Operator} {l l' r r' : Tree} (hs : s'.content? = s.content?)
      (hl : Leafwise R l l') (hr : Leafwise R r r') :
      Leafwise R (.binary i s l r) (.binary i s' l' r')

/-- **A tree keeps its value, as far as that is decided, when its leaves are decided.** -/
theorem Leafwise.eval_approximates {T T' : Tree} (h : Leafwise Slot.DecidedBy T T') {x : Trit}
    (hx : T.eval = .ok x) : ∃ y, T'.eval = .ok y ∧ x.Approximates y := by
  induction h generalizing x with
  | leaf h =>
    obtain ⟨y, hy, hxy⟩ := h x (eval_leaf_eq_ok_iff.mp hx)
    exact ⟨y, eval_leaf_eq_ok_iff.mpr hy, hxy⟩
  | unary hs _ ih =>
    obtain ⟨op, z, hop, hnot, hz, rfl⟩ := eval_unary_eq_ok_iff.mp hx
    obtain ⟨y, hy, hzy⟩ := ih hz
    exact ⟨y.not, eval_unary_eq_ok_iff.mpr ⟨op, y, hs.trans hop, hnot, hy, rfl⟩, hzy.not⟩
  | binary hs _ _ ihl ihr =>
    obtain ⟨op, f, z, w, hop, hf, hz, hw, rfl⟩ := eval_binary_eq_ok_iff.mp hx
    obtain ⟨y, hy, hzy⟩ := ihl hz
    obtain ⟨v, hv, hwv⟩ := ihr hw
    exact ⟨f y v, eval_binary_eq_ok_iff.mpr ⟨op, f, y, v, hs.trans hop, hf, hy, hv, rfl⟩,
      hzy.connective hf hwv⟩

end Tree

namespace Template

/-- The links of `t'` are those of `t`, the operators under a node are the same, and so
are the trits of the leaves there, except that a neutral one may be any trit. -/
structure Decides (t t' : Template) (id : NodeId) : Prop where
  wiring : wiring t'.operators = wiring t.operators
  length_values : t'.values.length = t.values.length
  /-- The operators under the node are the same. -/
  operators : ∀ i n n', Reaches t.operators id (.operator i) → t.operators[i]? = some n →
    t'.operators[i]? = some n' → n'.slot.content? = n.slot.content?
  /-- The leaves under the node are the same, as far as they are decided. -/
  values : ∀ i s s', Reaches t.operators id (.value i) → t.values[i]? = some s →
    t'.values[i]? = some s' → s.DecidedBy s'

/-- Another trit in a neutral leaf decides it. -/
theorem decides_set_of_neutral {t : Template} {i : Nat} {s : Slot Trit}
    (hs : t.values[i]? = some s) (hneutral : s.content? = some .neutral) (x : Trit)
    (id : NodeId) : t.Decides { t with values := t.values.set i (.opened x) } id where
  wiring := rfl
  length_values := List.length_set
  operators := by
    intro j n n' _ hn hn'
    rw [← Option.some.inj (hn.symm.trans hn')]
  values := by
    intro j r r' _ hr hr' y hy
    by_cases hij : i = j
    · subst hij
      rw [List.getElem?_set_self (List.getElem?_eq_some_iff.mp hs).1] at hr'
      obtain rfl := Option.some.inj hr'
      obtain rfl := Option.some.inj (hs.symm.trans hr)
      exact ⟨x, rfl, Or.inl (Option.some.inj (hy.symm.trans hneutral))⟩
    · rw [List.getElem?_set_ne hij, hr] at hr'
      obtain rfl := Option.some.inj hr'
      exact ⟨y, hy, Or.inr rfl⟩

/-- The links of a tree are enough to unfold its nodes. -/
theorem Arboreal.unfolds_tree_of_wiring {t t' : Template} (h : t.Arboreal)
    (hwiring : wiring t'.operators = wiring t.operators)
    (hlength : t'.values.length = t.values.length) {id : NodeId} (hid : t.Has id) :
    t'.Unfolds id (t'.tree id) := by
  have hlength' : t'.operators.length = t.operators.length := by
    rw [← length_wiring, hwiring, length_wiring]
  have hhas {c : NodeId} : t'.Has c ↔ t.Has c := by
    cases c with
    | value i => rw [Has, Has, hlength]
    | operator i => rw [Has, Has, hlength']
  have hparent := isParent_congr hwiring
  obtain ⟨rank, hrank, hbound⟩ := h.ranked
  have hrank' : Ranks t'.operators rank := by
    rw [Ranks, hparent]
    exact hrank
  refine unfolds_treeWithin hrank' (fun p c hpc => ?_) (hhas.mpr hid) ?_
  · rw [hparent] at hpc
    exact hhas.mpr (h.has_child hpc)
  · rw [hlength']
    exact hbound id hid

/-- Two puzzles with the same links unfold to trees that differ as their slots do. -/
theorem Unfolds.leafwise {t t' : Template} {R : Slot Trit → Slot Trit → Prop} {id : NodeId}
    {T T' : Tree} (hT : t.Unfolds id T) (hT' : t'.Unfolds id T')
    (hwiring : wiring t'.operators = wiring t.operators)
    (hops : ∀ i n n', .operator i ∈ T.ids → t.operators[i]? = some n →
      t'.operators[i]? = some n' → n'.slot.content? = n.slot.content?)
    (hleaves : ∀ i s s', .value i ∈ T.ids → t.values[i]? = some s →
      t'.values[i]? = some s' → R s s') : Tree.Leafwise R T T' := by
  -- nodes at the same address have the same children
  have hwires {i : Nat} {n n' : OperatorNode} (hn : t.operators[i]? = some n)
      (hn' : t'.operators[i]? = some n') : n'.left = n.left ∧ n'.right = n.right := by
    have hi := congrArg (·[i]?) hwiring
    simpa [TritPuzzle.wiring, hn, hn', OperatorNode.wires] using hi
  induction hT generalizing T' with
  | @leaf i s hs =>
    cases hT' with
    | leaf hs' => exact .leaf (hleaves i _ _ List.mem_cons_self hs hs')
  | @unary i n C hn hright _ ih =>
    cases hT' with
    | unary hn' hright' hleft' =>
      obtain ⟨hl, -⟩ := hwires hn hn'
      refine .unary (hops i _ _ List.mem_cons_self hn hn') (ih (hl ▸ hleft') ?_ ?_)
      · exact fun j m m' hj => hops j m m' (List.mem_cons_of_mem _ hj)
      · exact fun j s s' hj => hleaves j s s' (List.mem_cons_of_mem _ hj)
    | binary hn' hr' =>
      obtain ⟨-, hr⟩ := hwires hn hn'
      simp [hr, hright] at hr'
  | @binary i n r L R hn hr _ _ ihl ihr =>
    cases hT' with
    | unary hn' hright' =>
      obtain ⟨-, hr'⟩ := hwires hn hn'
      simp [hr', hr] at hright'
    | binary hn' hr' hleft' hright' =>
      obtain ⟨hl, hr''⟩ := hwires hn hn'
      obtain rfl := Option.some.inj ((hr''.symm.trans hr').symm.trans hr)
      have hmemL {c : NodeId} (hc : c ∈ L.ids) : c ∈ (Tree.binary i n.slot L R).ids := by
        simp [Tree.ids, hc]
      have hmemR {c : NodeId} (hc : c ∈ R.ids) : c ∈ (Tree.binary i n.slot L R).ids := by
        simp [Tree.ids, hc]
      refine .binary (hops i _ _ List.mem_cons_self hn hn') (ihl (hl ▸ hleft') ?_ ?_)
        (ihr hright' ?_ ?_)
      · exact fun j m m' hj => hops j m m' (hmemL hj)
      · exact fun j s s' hj => hleaves j s s' (hmemL hj)
      · exact fun j m m' hj => hops j m m' (hmemR hj)
      · exact fun j s s' hj => hleaves j s s' (hmemR hj)

/-- **A tree without neutral leaves has its classical value**, if it has one. -/
theorem Unfolds.eval_eq_classical {t : Template} {id : NodeId} {T : Tree} (hT : t.Unfolds id T)
    (hleaves : ∀ i s, .value i ∈ T.ids → t.values[i]? = some s → s.content? ≠ some .neutral)
    {x : Trit} (hx : T.eval = .ok x) : x = .ofBool T.classical := by
  induction hT generalizing x with
  | @leaf i s hs =>
    have hsx := Tree.eval_leaf_eq_ok_iff.mp hx
    have hne := hleaves i s List.mem_cons_self hs
    rw [hsx] at hne
    rw [Tree.classical, hsx]
    cases x with
    | false => rfl
    | neutral => exact absurd rfl hne
    | true => rfl
  | @unary i n C hn hright _ ih =>
    obtain ⟨op, y, hop, hnot, hy, rfl⟩ := Tree.eval_unary_eq_ok_iff.mp hx
    obtain rfl : op = .not := by cases op <;> simp [Operator.connective?] at hnot ⊢
    obtain rfl := ih (fun j s hj => hleaves j s (List.mem_cons_of_mem _ hj)) hy
    rw [Tree.classical, hop, Trit.not_ofBool]
    rfl
  | @binary i n r L R hn hr _ _ ihl ihr =>
    obtain ⟨op, f, y, z, hop, hf, hy, hz, rfl⟩ := Tree.eval_binary_eq_ok_iff.mp hx
    obtain rfl := ihl (fun j s hj => hleaves j s (by simp [Tree.ids, hj])) hy
    obtain rfl := ihr (fun j s hj => hleaves j s (by simp [Tree.ids, hj])) hz
    rw [Tree.classical, hop, Operator.connective?_ofBool hf]

namespace Arboreal

variable {t : Template}

/-- A decided value of a node stays when leaves under it are decided. -/
theorem evalAt_of_decides (h : t.Arboreal) {id : NodeId} (hid : t.Has id) {t' : Template}
    (ht' : t.Decides t' id) {x : Trit} (hx : t.evalAt id = .ok x) (hne : x ≠ .neutral) :
    t'.evalAt id = .ok x := by
  have hT := h.unfolds_tree hid
  have hT' := h.unfolds_tree_of_wiring ht'.wiring ht'.length_values hid
  have hrel : (t.tree id).Leafwise Slot.DecidedBy (t'.tree id) :=
    hT.leafwise hT' ht'.wiring (fun i n n' hi => ht'.operators i n n' (hT.mem_ids_iff.mp hi))
      fun i s s' hi => ht'.values i s s' (hT.mem_ids_iff.mp hi)
  obtain ⟨y, hy, hxy⟩ := hrel.eval_approximates hx
  rw [evalAt, hy, hxy.eq_of_ne_neutral hne]

/-- A filled node without neutral leaves has its classical value. -/
theorem evalAt_eq_classical (h : t.Arboreal) (hfits : t.Fits) {id : NodeId} (hid : t.Has id)
    (hfilled : ∀ c, Reaches t.operators id c → t.assigned c = true)
    (hleaves : ∀ i s, Reaches t.operators id (.value i) → t.values[i]? = some s →
      s.content? ≠ some .neutral) : t.evalAt id = .ok (.ofBool (t.tree id).classical) := by
  have hT := h.unfolds_tree hid
  obtain ⟨x, hx⟩ := (h.evalAt_eq_ok_iff hfits hid).mpr hfilled
  obtain rfl := hT.eval_eq_classical (fun i s hi => hleaves i s (hT.mem_ids_iff.mp hi)) hx
  exact hx

end Arboreal

/-- **A node keeps a decided value however its neutral leaves are decided, and has its
classical value if it has no such leaves.**  This holds of every filled node of every
puzzle in play; at the root it speaks of the whole puzzle. -/
theorem evalAt_kleene_of_inPlay {t : Template} (h : t.InPlay) {id : NodeId} (hid : t.Has id)
    (hfilled : ∀ c, Reaches t.operators id c → t.assigned c = true) :
    (∀ t' x, t.Decides t' id → t.evalAt id = .ok x → x ≠ .neutral → t'.evalAt id = .ok x) ∧
    ((∀ i s, Reaches t.operators id (.value i) → t.values[i]? = some s →
        s.content? ≠ some .neutral) →
      t.evalAt id = .ok (.ofBool (t.tree id).classical)) :=
  ⟨fun _ _ ht' => h.arboreal.evalAt_of_decides hid ht',
    h.arboreal.evalAt_eq_classical h.fits hid hfilled⟩

/-- The disjunction of a neutral difference and `true` is `true`, and stays so when the
difference is decided; it is also the classical value once no leaf is neutral. -/
theorem evalAt_kleene_of_inPlay_disjunction :
    let steps : List AssemblyStep := [.openValue, .lockedValue .false, .lockedValue .true,
      .operator (.locked .xor) (.value 0) (some (.value 1)),
      .operator (.locked .or) (.operator 0) (some (.value 2))]
    let t : Template := {
      root := .operator 1
      answer := .true
      values := [.unset, .locked .false, .locked .true]
      operators := [{ slot := .locked .xor, left := .value 0, right := some (.value 1) },
        { slot := .locked .or, left := .operator 0, right := some (.value 2) }] }
    let u := t.play [.event (.setValue 0 .neutral)]
    let v := t.play [.event (.setValue 0 .true)]
    (Assembly.run steps).finish (.operator 1) .true = .ok t ∧ u.isComplete = true ∧
      u.evalAt (.operator 0) = .ok .neutral ∧ u.evalAt (.operator 1) = .ok .true ∧
      v.evalAt (.operator 1) = .ok .true ∧
      v.evalAt (.operator 1) = .ok (.ofBool (v.tree (.operator 1)).classical) := by
  intro steps t u v
  have hbuilt : (Assembly.run steps).finish (.operator 1) .true = .ok t := by decide
  have hu : u.isComplete = true := by decide
  have hv : v.isComplete = true := by decide
  have hroot (moves : List Move) : (t.play moves).Has (.operator 1) :=
    (t.sameFrame_play moves).has_iff.mpr (show 1 < 2 by decide)
  have hfilled {moves : List Move} (h : (t.play moves).isComplete = true) (c : NodeId)
      (hc : Reaches (t.play moves).operators (.operator 1) c) :
      (t.play moves).assigned c = true :=
    isComplete_iff.mp h c (((Built.finish hbuilt).arboreal.play moves).has_of_reaches
      (hroot moves) hc)
  have hdecides : u.Decides v (.operator 1) :=
    decides_set_of_neutral (t := u) (i := 0) (s := .opened .neutral) rfl rfl .true _
  have hleaves (i : Nat) (s : Slot Trit) (hs : v.values[i]? = some s) :
      s.content? ≠ some .neutral := by
    have hall : ∀ s ∈ v.values, s.content? ≠ some .neutral := by decide
    exact hall s (List.mem_of_getElem? hs)
  have hstays := (evalAt_kleene_of_inPlay ((Built.finish hbuilt).inPlay _) (hroot _)
    (hfilled hu)).1
  have hclassical := (evalAt_kleene_of_inPlay ((Built.finish hbuilt).inPlay _) (hroot _)
    (hfilled hv)).2
  exact ⟨hbuilt, hu, by decide, by decide, hstays v .true hdecides (by decide) (by decide),
    hclassical fun i s _ => hleaves i s⟩

end Template

end TritPuzzle
