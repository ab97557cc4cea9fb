import TritPuzzle.Proofs.Finished

/-!
# Expressions

An expression is a tree of slots without addresses.  Assembled from the leaves upwards,
it becomes a puzzle: its leaves are listed from left to right and its inner nodes in
post-order, and the value of the puzzle is that of the expression.

## Main definitions

* `Operator.table` — the truth tables, as minima and maxima of digits.
* `Expression` — a tree of slots, each of which fits its place.
* `Expression.assemble` — its assembly, operands first.
* `Expression.leaves`, `Expression.operatorSlots` — its slots, as they will be listed.
* `Expression.evalFrom` — its value, by recursion on the expression alone.

## Main results

* `not_eq_opposite`, `apply_table` — the operators compute their tables.
* `Expression.assembles` — an assembly grows by exactly the nodes of the expression.
* `Expression.eval_treeFrom` — the tree that is assembled has the value of the expression.
* `finish_assemble` — **every expression is assembled to a puzzle with its value.**
-/

namespace TritPuzzle

/-! ### Truth tables -/

/-- The trit at the other end, whose digit is two less the digit. -/
def Trit.opposite (x : Trit) : Trit :=
  match 2 - x.digit with
  | 0 => .false
  | 1 => .neutral
  | _ => .true

/-- The truth table of an operator.  Negation reads the first operand only. -/
def Operator.table : Operator → Trit → Trit → Trit
  | .not, x, _ => x.opposite
  | .and, x, y => min x y
  | .or, x, y => max x y
  | .xor, x, y => max (min x y.opposite) (min x.opposite y)
  | .imply, x, y => max x.opposite y

theorem Trit.digit_opposite (x : Trit) : x.opposite.digit = 2 - x.digit := by
  cases x <;> rfl

theorem Trit.not_eq_opposite (x : Trit) : x.not = x.opposite :=
  digit_injective (x.digit_not.trans x.digit_opposite.symm)

theorem Operator.apply_table (op : Operator) (x y : Trit) :
    op.apply x (some y) = some (op.table x y) := by
  cases op <;> cases x <;> cases y <;> rfl

/-- An operator with two operands combines them by its table. -/
theorem Operator.connective?_eq_table {op : Operator} (h : op.arity = .binary) :
    op.connective? = some op.table := by
  obtain ⟨f, hf⟩ := exists_connective? h
  rw [hf]
  congr 1
  funext x y
  have htable := op.apply_table x y
  rw [apply, hf] at htable
  exact Option.some.inj htable

/-! ### Expressions -/

/-- A slot for an operator with the given number of operands. -/
structure FittingSlot (arity : Arity) where
  slot : Slot Operator
  /-- Its operator, if there is one, takes that many operands. -/
  fits : ∀ op, slot.content? = some op → op.arity = arity

/-- A tree of slots, each of which fits its place. -/
inductive Expression where
  /-- A leaf. -/
  | leaf (slot : Slot Trit)
  /-- A slot for negation over one operand. -/
  | unary (op : FittingSlot .unary) (operand : Expression)
  /-- A slot for another operator over two operands. -/
  | binary (op : FittingSlot .binary) (left right : Expression)

namespace Expression

/-- Assembles the operands from left to right, then the node over them. -/
def assemble (a : Assembly) : Expression → Except AssemblyError (NodeId × Assembly)
  | leaf s => .ok (a.addValue s)
  | unary op e => do
    let (c, a) ← e.assemble a
    a.addOperator op.slot c none
  | binary op l r => do
    let (c, a) ← l.assemble a
    let (d, a) ← r.assemble a
    a.addOperator op.slot c (some d)

/-- The leaves from left to right. -/
def leaves : Expression → List (Slot Trit)
  | leaf s => [s]
  | unary _ e => e.leaves
  | binary _ l r => l.leaves ++ r.leaves

/-- The slots for operators in post-order. -/
def operatorSlots : Expression → List (Slot Operator)
  | leaf _ => []
  | unary op e => e.operatorSlots ++ [op.slot]
  | binary op l r => l.operatorSlots ++ r.operatorSlots ++ [op.slot]

/-- The value of an expression whose leaves are numbered from `v` on, from left to right,
and whose operators from `o` on, in post-order.  An empty slot is reported before the
operands are looked at, and the left operand comes before the right one. -/
def evalFrom (v o : Nat) : Expression → Except EvalError Trit
  | leaf s =>
    match s.content? with
    | none => .error (.emptyValue (.value v))
    | some x => .ok x
  | unary op e =>
    match op.slot.content? with
    | none => .error (.emptyOperator (.operator (o + e.operatorSlots.length)))
    | some f => do
      let x ← e.evalFrom v o
      return f.table x x
  | binary op l r =>
    match op.slot.content? with
    | none =>
      .error (.emptyOperator (.operator (o + l.operatorSlots.length + r.operatorSlots.length)))
    | some f => do
      let x ← l.evalFrom v o
      let y ← r.evalFrom (v + l.leaves.length) (o + l.operatorSlots.length)
      return f.table x y

/-! ### The nodes of an expression -/

/-- The address of the topmost node. -/
def rootFrom (v o : Nat) : Expression → NodeId
  | leaf _ => .value v
  | unary _ e => .operator (o + e.operatorSlots.length)
  | binary _ l r => .operator (o + l.operatorSlots.length + r.operatorSlots.length)

/-- The inner nodes in post-order. -/
def nodesFrom (v o : Nat) : Expression → List OperatorNode
  | leaf _ => []
  | unary op e => e.nodesFrom v o ++ [{ slot := op.slot, left := e.rootFrom v o, right := none }]
  | binary op l r =>
    let v' := v + l.leaves.length
    let o' := o + l.operatorSlots.length
    l.nodesFrom v o ++ r.nodesFrom v' o' ++
      [{ slot := op.slot, left := l.rootFrom v o, right := some (r.rootFrom v' o') }]

/-- The tree with the addresses of the nodes. -/
def treeFrom (v o : Nat) : Expression → Tree
  | leaf s => .leaf v s
  | unary op e => .unary (o + e.operatorSlots.length) op.slot (e.treeFrom v o)
  | binary op l r =>
    .binary (o + l.operatorSlots.length + r.operatorSlots.length) op.slot (l.treeFrom v o)
      (r.treeFrom (v + l.leaves.length) (o + l.operatorSlots.length))

theorem map_slot_nodesFrom (v o : Nat) (e : Expression) :
    (e.nodesFrom v o).map (·.slot) = e.operatorSlots := by
  induction e generalizing v o with
  | leaf s => rfl
  | unary op e ih => rw [nodesFrom, operatorSlots, List.map_append, ih, List.map_singleton]
  | binary op l r ihl ihr =>
    rw [nodesFrom, operatorSlots, List.map_append, List.map_append, ihl, ihr, List.map_singleton]

@[simp] theorem length_nodesFrom (v o : Nat) (e : Expression) :
    (e.nodesFrom v o).length = e.operatorSlots.length := by
  rw [← map_slot_nodesFrom v o e, List.length_map]

/-- **The tree has the value of the expression.** -/
theorem eval_treeFrom (v o : Nat) (e : Expression) : (e.treeFrom v o).eval = e.evalFrom v o := by
  induction e generalizing v o with
  | leaf s => rfl
  | unary op e ih =>
    rw [treeFrom, Tree.eval, evalFrom, ih]
    cases hop : op.slot.content? with
    | none => rfl
    | some f =>
      have harity : f.arity = .unary := op.fits f hop
      obtain rfl : f = .not := by cases f <;> simp_all [Operator.arity]
      simp only [Trit.not_eq_opposite]
      rfl
  | binary op l r ihl ihr =>
    rw [treeFrom, Tree.eval, evalFrom, ihl, ihr]
    cases hop : op.slot.content? with
    | none => rfl
    | some f => simp only [Operator.connective?_eq_table (op.fits f hop)]

private theorem getElem?_append_cons {α : Type} {xs ys : List α} {x : α} {k : Nat}
    (h : xs.length = k) : (xs ++ x :: ys)[k]? = some x := by
  subst h
  simp

/-- Wherever the leaves and the inner nodes of an expression stand in the lists of a puzzle,
its topmost node unfolds to its tree. -/
theorem unfolds_treeFrom {t : Template} (e : Expression) {v o : Nat} {vs vs' : List (Slot Trit)}
    {ns ns' : List OperatorNode} (hv : vs.length = v) (ho : ns.length = o)
    (hvalues : t.values = vs ++ e.leaves ++ vs')
    (hoperators : t.operators = ns ++ e.nodesFrom v o ++ ns') :
    t.Unfolds (e.rootFrom v o) (e.treeFrom v o) := by
  induction e generalizing v o vs vs' ns ns' with
  | leaf s =>
    refine .leaf ?_
    rw [hvalues, leaves, List.append_assoc]
    exact getElem?_append_cons hv
  | unary op e ih =>
    let n : OperatorNode := { slot := op.slot, left := e.rootFrom v o, right := none }
    have hops : t.operators = ns ++ e.nodesFrom v o ++ n :: ns' := by
      simpa [nodesFrom] using hoperators
    have hn : t.operators[o + e.operatorSlots.length]? = some n := by
      rw [hops]
      exact getElem?_append_cons (by simp [ho])
    exact .unary hn rfl (ih hv ho hvalues hops)
  | binary op l r ihl ihr =>
    let v' := v + l.leaves.length
    let o' := o + l.operatorSlots.length
    let n : OperatorNode :=
      { slot := op.slot, left := l.rootFrom v o, right := some (r.rootFrom v' o') }
    -- the lists end in the right operand's part and the node, and begin with the left one's
    have hops : t.operators = ns ++ l.nodesFrom v o ++ r.nodesFrom v' o' ++ n :: ns' := by
      simpa [nodesFrom] using hoperators
    have hn : t.operators[o' + r.operatorSlots.length]? = some n := by
      rw [hops]
      exact getElem?_append_cons (by simp [ho, o', Nat.add_assoc])
    have hvl : t.values = vs ++ l.leaves ++ (r.leaves ++ vs') := by simpa [leaves] using hvalues
    have hol : t.operators = ns ++ l.nodesFrom v o ++ (r.nodesFrom v' o' ++ n :: ns') := by
      simpa using hops
    have hvr : t.values = vs ++ l.leaves ++ r.leaves ++ vs' := by simpa using hvl
    exact .binary hn rfl (ihl hv ho hvl hol)
      (ihr (by simp [hv, v']) (by simp [ho, o']) hvr hops)

/-! ### Assembling an expression -/

theorem rootFrom_notMem_addresses (v o : Nat) (e : Expression) :
    e.rootFrom v o ∉ addresses v o := by
  cases e with
  | leaf s => simp [rootFrom]
  | unary op e => simp [rootFrom]
  | binary op l r =>
    rw [rootFrom, operator_mem_addresses]
    omega

theorem parented?_rootFrom_ne (e : Expression) {a : Assembly} (h : a.Forest) :
    a.parented? (e.rootFrom a.values.length a.operators.length) ≠ some false := by
  intro hfalse
  exact rootFrom_notMem_addresses _ _ e (h.mem_addresses_of_parented hfalse)

/-- The assembly `b` is `a` with the nodes of an expression, of which only the topmost one
has no parent. -/
structure Extends (e : Expression) (a b : Assembly) : Prop where
  values : b.values = a.values ++ e.leaves
  operators : b.operators = a.operators ++ e.nodesFrom a.values.length a.operators.length
  forest : b.Forest
  free_iff : ∀ id, b.parented? id = some false ↔
    id = e.rootFrom a.values.length a.operators.length ∨ a.parented? id = some false

namespace Extends

variable {e : Expression} {a b : Assembly}

theorem length_values (h : e.Extends a b) :
    b.values.length = a.values.length + e.leaves.length := by
  rw [h.values, List.length_append]

theorem length_operators (h : e.Extends a b) :
    b.operators.length = a.operators.length + e.operatorSlots.length := by
  rw [h.operators, List.length_append, length_nodesFrom]

end Extends

/-- A node over the free nodes that an older assembly did not have can be added, and
leaves only itself and the older ones free. -/
theorem addOperator_of_new {a b : Assembly} (h : b.Forest) {n : OperatorNode}
    (hfree : ∀ id, b.parented? id = some false ↔ id ∈ n.children ∨ a.parented? id = some false)
    (hnew : ∀ c ∈ n.children, a.parented? c ≠ some false) (hnodup : n.children.Nodup)
    (hfits : n.Fits) :
    b.addOperator n.slot n.left n.right = .ok (.operator b.operators.length, b.adopt n) ∧
      (b.adopt n).Forest ∧
      ∀ id, (b.adopt n).parented? id = some false ↔
        id = .operator b.operators.length ∨ a.parented? id = some false := by
  have hchild : ∀ c ∈ n.children, b.parented? c = some false :=
    fun c hc => (hfree c).mpr (Or.inl hc)
  refine ⟨Assembly.addOperator_eq_ok_iff.mpr ⟨n, rfl, hchild, hnodup, hfits, rfl, rfl⟩,
    h.adopt hchild hnodup hfits, fun id => ?_⟩
  rw [h.adopt_free_iff n id, hfree id]
  constructor
  · rintro (hid | ⟨hid | hid, hc⟩)
    · exact Or.inl hid
    · exact absurd hid hc
    · exact Or.inr hid
  · rintro (hid | hid)
    · exact Or.inl hid
    · exact Or.inr ⟨Or.inr hid, fun hc => hnew id hc hid⟩

/-- **An assembly grows by exactly the nodes of an expression.** -/
theorem assemble_eq_ok (e : Expression) {a : Assembly} (h : a.Forest) :
    ∃ b, e.assemble a = .ok (e.rootFrom a.values.length a.operators.length, b) ∧
      e.Extends a b := by
  induction e generalizing a with
  | leaf s =>
    exact ⟨_, rfl, rfl, (List.append_nil _).symm, h.addValue s, h.addValue_free_iff s⟩
  | unary op e ih =>
    obtain ⟨b, hb, hext⟩ := ih h
    obtain ⟨c, hc⟩ : ∃ c, e.rootFrom a.values.length a.operators.length = c := ⟨_, rfl⟩
    have hcNew : a.parented? c ≠ some false := hc ▸ e.parented?_rootFrom_ne h
    have hfree (id : NodeId) :
        b.parented? id = some false ↔ id ∈ [c] ∨ a.parented? id = some false := by
      rw [hext.free_iff id, hc, List.mem_singleton]
    obtain ⟨hadd, hforest, hfree'⟩ := addOperator_of_new
      (n := { slot := op.slot, left := c, right := none }) hext.forest hfree
      (by simpa [OperatorNode.children] using hcNew) (List.nodup_singleton c) op.fits
    refine ⟨_, ?_, ?_, ?_, hforest, ?_⟩
    · rw [assemble, hb, hc, rootFrom, ← hext.length_operators]
      exact hadd
    · rw [Assembly.values_adopt, hext.values, leaves]
    · rw [Assembly.operators_adopt, hext.operators, nodesFrom, hc, List.append_assoc]
    · rw [rootFrom, ← hext.length_operators]
      exact hfree'
  | binary op l r ihl ihr =>
    obtain ⟨b, hb, hextl⟩ := ihl h
    obtain ⟨b', hb', hextr⟩ := ihr hextl.forest
    obtain ⟨c, hc⟩ : ∃ c, l.rootFrom a.values.length a.operators.length = c := ⟨_, rfl⟩
    obtain ⟨d, hd⟩ : ∃ d, r.rootFrom b.values.length b.operators.length = d := ⟨_, rfl⟩
    have hcNew : a.parented? c ≠ some false := hc ▸ l.parented?_rootFrom_ne h
    have hdNew : b.parented? d ≠ some false := hd ▸ r.parented?_rootFrom_ne hextl.forest
    have hcFree : b.parented? c = some false := (hextl.free_iff c).mpr (Or.inl hc.symm)
    -- the left operand was free before the right one was there
    have hcd : c ≠ d := fun hcd => hdNew (hcd ▸ hcFree)
    have hdNew' : a.parented? d ≠ some false := fun hfalse =>
      hdNew ((hextl.free_iff d).mpr (Or.inr hfalse))
    have hfree (id : NodeId) :
        b'.parented? id = some false ↔ id ∈ [c, d] ∨ a.parented? id = some false := by
      rw [hextr.free_iff id, hextl.free_iff id, hc, hd, List.mem_pair]
      tauto
    obtain ⟨hadd, hforest, hfree'⟩ := addOperator_of_new
      (n := { slot := op.slot, left := c, right := some d }) hextr.forest hfree
      (by simp [OperatorNode.children, hcNew, hdNew']) (by simp [OperatorNode.children, hcd])
      op.fits
    have hroot : (binary op l r).rootFrom a.values.length a.operators.length =
        .operator b'.operators.length := by
      rw [rootFrom, hextr.length_operators, hextl.length_operators]
    refine ⟨_, ?_, ?_, ?_, hforest, ?_⟩
    · rw [hroot, assemble, hb, hc]
      simp only [bind, Except.bind, hb', hd]
      exact hadd
    · rw [Assembly.values_adopt, hextr.values, hextl.values, leaves, List.append_assoc]
    · rw [Assembly.operators_adopt, hextr.operators, nodesFrom, hc, ← hextl.length_operators,
        ← hextl.length_values, hd, hextl.operators]
      simp only [List.append_assoc]
    · rw [hroot]
      exact hfree'

/-- A puzzle with the nodes of an expression has its value. -/
theorem eval_eq_evalFrom {t : Template} (e : Expression) (h : t.Arboreal)
    (hroot : t.root = e.rootFrom 0 0) (hvalues : t.values = e.leaves)
    (hoperators : t.operators = e.nodesFrom 0 0) : t.eval = e.evalFrom 0 0 := by
  have hv : t.values = [] ++ e.leaves ++ [] := by
    rw [hvalues, List.nil_append, List.append_nil]
  have ho : t.operators = [] ++ e.nodesFrom 0 0 ++ [] := by
    rw [hoperators, List.nil_append, List.append_nil]
  have hT := e.unfolds_treeFrom List.length_nil List.length_nil hv ho
  rw [Template.eval, Template.evalAt, hroot, h.tree_eq hT, eval_treeFrom]

/-- **Every expression is assembled to a puzzle with its value**: no call fails, the leaves
are listed from left to right and the operators in post-order, and evaluation computes the
truth tables and reports the first empty slot, as the expression prescribes. -/
theorem finish_assemble (e : Expression) (answer : Trit) :
    ∃ root a t, e.assemble .empty = .ok (root, a) ∧ a.finish root answer = .ok t ∧
      t.values = e.leaves ∧ t.operators.map (·.slot) = e.operatorSlots ∧
      t.eval = e.evalFrom 0 0 ∧
      t.isSolved = (e.evalFrom 0 0).map fun x => decide (x = answer) := by
  obtain ⟨a, ha, hext⟩ := e.assemble_eq_ok Assembly.forest_empty
  have hvalues : a.values = e.leaves := hext.values
  have hoperators : a.operators = e.nodesFrom 0 0 := hext.operators
  -- the assembly was empty before, so only the topmost node has no parent
  have hroot : a.rootFault? (e.rootFrom 0 0) = none := by
    refine Assembly.rootFault?_eq_none_iff.mpr fun id => (hext.free_iff id).trans ?_
    refine or_iff_left ?_
    cases id <;> simp [Assembly.parented?, Assembly.empty]
  obtain ⟨t, ht⟩ : ∃ t, a.finish (e.rootFrom 0 0) answer = .ok t :=
    ⟨_, Assembly.finish_eq_ok_iff.mpr ⟨hroot, rfl⟩⟩
  have htree : t.Arboreal := hext.forest.arboreal ht
  obtain ⟨-, rfl⟩ := Assembly.finish_eq_ok_iff.mp ht
  have heval := e.eval_eq_evalFrom htree rfl hvalues hoperators
  refine ⟨_, a, _, ha, ht, hvalues, ?_, heval, ?_⟩
  · rw [hoperators, map_slot_nodesFrom]
  · rw [Template.isSolved, heval]

end Expression

end TritPuzzle
