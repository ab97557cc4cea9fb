import TritPuzzle.Proofs.Completeness
import TritPuzzle.Proofs.Entries
import TritPuzzle.Proofs.Outcomes

/-!
# Ready-made shapes in play

A ready-made shape is addressed by positions only: its leaves count from left to right,
its inner nodes in the order of their assembly.  Here the positions are tied to the
places in the expression.  A shape is assembled exactly when its operators fit their
places, and whatever is played on it afterwards, its value is one formula in the
contents of its slots.

## Main definitions

* `Shape.operators`, `Shape.presets`, `Shape.wires` — what a shape lists, by position.
* `Shape.Suits` — every operator takes as many operands as its place has.
* `Shape.formula` — the value of a shape from the contents of its slots.

## Main results

* `Shape.template_eq` — a shape is assembled as listed, unless an operator does not fit.
* `Arboreal.resultAt?_unary`, `Arboreal.resultAt?_binary` — the value of an inner node is
  that of its operator on the values of its children.
* `Shape.eval_play_eq_formula` — **a shape in play has the value of its formula.**
-/

namespace TritPuzzle

@[simp] theorem Slot.content?_holding {α : Type} (locked : Bool) (x : α) :
    (holding locked x).content? = some x := by
  cases locked <;> rfl

/-! ### Operators on contents -/

namespace Operator

/-- An operator on a single operand, if both are there. -/
def onOne? (op : Option Operator) (x : Option Trit) : Option Trit := do
  (← op).apply (← x) none

/-- An operator on two operands, if all three are there. -/
def onTwo? (op : Option Operator) (x y : Option Trit) : Option Trit := do
  (← op).apply (← x) (some (← y))

end Operator

namespace Template

/-- The content of the leaf at a position, if it has one. -/
def trit? (t : Template) (i : Nat) : Option Trit := t.values[i]?.bind Slot.content?

/-- The operator of the inner node at a position, if it has one. -/
def operator? (t : Template) (i : Nat) : Option Operator :=
  t.operators[i]?.bind fun n => n.slot.content?

/-- The value of the tree under a node, if it has one. -/
def resultAt? (t : Template) (id : NodeId) : Option Trit := (t.evalAt id).toOption

theorem eval_eq_ok_iff_resultAt? {t : Template} {x : Trit} :
    t.eval = .ok x ↔ t.resultAt? t.root = some x := by
  rw [eval, resultAt?]
  cases t.evalAt t.root <;> simp [Except.toOption]

theorem assigned_value_eq_isSome (t : Template) (i : Nat) :
    t.assigned (.value i) = (t.trit? i).isSome := by
  rw [assigned, trit?]
  cases t.values[i]? with
  | none => rfl
  | some s => exact s.isAssigned_eq_isSome

theorem assigned_operator_eq_isSome (t : Template) (i : Nat) :
    t.assigned (.operator i) = (t.operator? i).isSome := by
  rw [assigned, operator?]
  cases t.operators[i]? with
  | none => rfl
  | some n => exact n.slot.isAssigned_eq_isSome

theorem resultAt?_leaf (t : Template) (i : Nat) : t.resultAt? (.value i) = t.trit? i := by
  rw [resultAt?, evalAt, tree, treeWithin, trit?]
  cases t.values[i]? with
  | none => rfl
  | some s =>
    simp only [Tree.eval, Option.bind_some]
    cases s.content? <;> rfl

namespace Arboreal

variable {t : Template} {i : Nat} {l r : NodeId}

/-- The value of an inner node with one child. -/
theorem resultAt?_unary (h : t.Arboreal) (hfits : t.Fits)
    (hl : childAt? t.operators i .left = some l) (hr : childAt? t.operators i .right = none) :
    t.resultAt? (.operator i) = Operator.onOne? (t.operator? i) (t.resultAt? l) := by
  obtain ⟨n, hn, hleft⟩ := childAt?_eq_some.mp hl
  obtain rfl : n.left = l := by simpa using hleft
  have hright : n.right = none := by rwa [childAt?_of_getElem? hn] at hr
  have htree := h.tree_eq (.unary hn hright (h.unfolds_tree (h.has_child ⟨i, .left, rfl, hl⟩)))
  rw [resultAt?, evalAt, htree, Tree.eval, operator?, hn, Option.bind_some]
  cases hop : n.slot.content? with
  | none => rfl
  | some op =>
    -- the only operator that fits a node with one child is the negation
    obtain rfl : op = .not := (hfits.eq_not_iff (List.mem_of_getElem? hn) hop).mpr hright
    rw [resultAt?, evalAt]
    cases (t.tree n.left).eval <;> rfl

/-- The value of an inner node with two children. -/
theorem resultAt?_binary (h : t.Arboreal) (hfits : t.Fits)
    (hl : childAt? t.operators i .left = some l) (hr : childAt? t.operators i .right = some r) :
    t.resultAt? (.operator i) =
      Operator.onTwo? (t.operator? i) (t.resultAt? l) (t.resultAt? r) := by
  obtain ⟨n, hn, hleft⟩ := childAt?_eq_some.mp hl
  obtain rfl : n.left = l := by simpa using hleft
  have hright : n.right = some r := by rwa [childAt?_of_getElem? hn] at hr
  have htree := h.tree_eq (.binary hn hright
    (h.unfolds_tree (h.has_child ⟨i, .left, rfl, hl⟩))
    (h.unfolds_tree (h.has_child ⟨i, .right, rfl, hr⟩)))
  rw [resultAt?, evalAt, htree, Tree.eval, operator?, hn, Option.bind_some]
  cases hop : n.slot.content? with
  | none => rfl
  | some op =>
    have harity : op.arity = .binary := by
      rw [hfits n (List.mem_of_getElem? hn) op hop, OperatorNode.arity, hright]
      rfl
    obtain ⟨f, hf⟩ := Operator.exists_connective? harity
    simp only [hf, resultAt?, evalAt]
    cases (t.tree n.left).eval with
    | error e => rfl
    | ok x =>
      cases (t.tree r).eval with
      | error e => rfl
      | ok y =>
        simp [Operator.onTwo?, Operator.apply, hf, bind, Except.bind, pure, Except.pure,
          Except.toOption]

end Arboreal

/-! ### Locked slots -/

/-- A locked leaf keeps its content through every run of moves. -/
theorem getElem?_values_play {t : Template} {i : Nat} {x : Trit}
    (h : t.values[i]? = some (.locked x)) (moves : List Move) :
    (t.play moves).values[i]? = some (.locked x) := by
  have hnode := (t.node?_play_of_isLockedAt moves (.value i)).2 (isLockedAt_value h)
  simpa [node?, h] using hnode

/-- A locked inner node keeps its operator through every run of moves. -/
theorem getElem?_operators_play {t : Template} {i : Nat} {n : OperatorNode}
    (h : t.operators[i]? = some n) (hlocked : n.slot.isLocked = true) (moves : List Move) :
    (t.play moves).operators[i]? = some n := by
  have hnode := (t.node?_play_of_isLockedAt moves (.operator i)).2
    ((isLockedAt_operator h).trans hlocked)
  simpa [node?, h] using hnode

end Template

namespace Shape

/-! ### What a shape lists -/

/-- The operators by the positions of their nodes. -/
def operators : Shape → List Operator
  | .unary op _ => [op]
  | .binary op _ _ => [op]
  | .chainLeft inner outer _ _ _ => [inner, outer]
  | .chainRight outer inner _ _ _ => [inner, outer]
  | .complex left right root _ _ _ _ => [left, right, root]

/-- The fixed contents of the leaves from left to right. -/
def presets : Shape → List (Option Trit)
  | .unary _ x => [x]
  | .binary _ x y => [x, y]
  | .chainLeft _ _ x y z => [x, y, z]
  | .chainRight _ _ x y z => [x, y, z]
  | .complex _ _ _ w x y z => [w, x, y, z]

/-- The children of the inner nodes. -/
def wires : Shape → List (NodeId × Option NodeId)
  | .unary _ _ => [(.value 0, none)]
  | .binary _ _ _ => [(.value 0, some (.value 1))]
  | .chainLeft _ _ _ _ _ => [(.value 0, some (.value 1)), (.operator 0, some (.value 2))]
  | .chainRight _ _ _ _ _ => [(.value 1, some (.value 2)), (.value 0, some (.operator 0))]
  | .complex _ _ _ _ _ _ _ =>
    [(.value 0, some (.value 1)), (.value 2, some (.value 3)), (.operator 0, some (.operator 1))]

/-- The number of operands that every place for an operator has. -/
def arity : Shape → Arity
  | .unary _ _ => .unary
  | _ => .binary

/-- Does every operator take as many operands as its place has? -/
def Suits (shape : Shape) : Prop := ∀ op ∈ shape.operators, op.arity = shape.arity

/-- The inner nodes. -/
def nodes (shape : Shape) (locked : Bool) : List OperatorNode :=
  List.zipWith (fun op w => { slot := .holding locked op, left := w.1, right := w.2 })
    shape.operators shape.wires

/-- The puzzle with the listed nodes, of which the last one is the root. -/
def listed (shape : Shape) (answer : Trit) (locked : Bool) : Template where
  root := .operator (shape.operators.length - 1)
  answer := answer
  values := shape.presets.map .preset
  operators := shape.nodes locked

/-- The value of a shape whose slots have the given contents, if all of them are there. -/
def formula (shape : Shape) (p : Nat → Option Operator) (x : Nat → Option Trit) : Option Trit :=
  match shape with
  | .unary _ _ => Operator.onOne? (p 0) (x 0)
  | .binary _ _ _ => Operator.onTwo? (p 0) (x 0) (x 1)
  | .chainLeft _ _ _ _ _ => Operator.onTwo? (p 1) (Operator.onTwo? (p 0) (x 0) (x 1)) (x 2)
  | .chainRight _ _ _ _ _ => Operator.onTwo? (p 1) (x 0) (Operator.onTwo? (p 0) (x 1) (x 2))
  | .complex _ _ _ _ _ _ _ =>
    Operator.onTwo? (p 2) (Operator.onTwo? (p 0) (x 0) (x 1)) (Operator.onTwo? (p 1) (x 2) (x 3))

/-! ### The assembly of a shape -/

/-- The operator of a new node over free children is all that can be refused. -/
theorem addOperator_holding (arity : Arity) {a : Assembly} (locked : Bool) (op : Operator)
    {left : NodeId} {right : Option NodeId} (hfree : a.refusalOfChildren? left right = none)
    (harity : OperatorNode.arity { slot := .holding locked op, left, right } = arity) :
    a.addOperator (.holding locked op) left right =
      match op.misfit? arity with
      | some e => .error (.slot e)
      | none => .ok (.operator a.operators.length,
          a.adopt { slot := .holding locked op, left, right }) := by
  rw [Assembly.addOperator, hfree, OperatorNode.make, Slot.content?_holding, ← harity]
  simp only [Option.bind_some, OperatorNode.misfit?]
  cases op.misfit? _ <;> rfl

/-- **A shape is assembled as listed**, unless an operator does not fit its place; then
the first of them is reported. -/
theorem template_eq (shape : Shape) (answer : Trit) (locked : Bool) :
    shape.template answer locked =
      match shape.operators.findSome? (·.misfit? shape.arity) with
      | some e => .error (.slot e)
      | none => .ok (shape.listed answer locked) := by
  cases shape with
  | unary op x =>
    simp only [template, operators, List.findSome?_cons]
    rw [addOperator_holding .unary locked op rfl rfl]
    cases hop : op.misfit? .unary <;> simp only [arity, hop] <;> rfl
  | binary op x y =>
    simp only [template, operators, List.findSome?_cons]
    rw [addOperator_holding .binary locked op rfl rfl]
    cases hop : op.misfit? .binary <;> simp only [arity, hop] <;> rfl
  | chainLeft inner outer x y z | chainRight outer inner x y z =>
    simp only [template, operators, List.findSome?_cons]
    rw [addOperator_holding .binary locked inner rfl rfl]
    cases hinner : inner.misfit? .binary with
    | some e =>
      simp only [arity, hinner]
      rfl
    | none =>
      simp only [arity, hinner, bind, Except.bind]
      rw [addOperator_holding .binary locked outer rfl rfl]
      cases outer.misfit? .binary <;> rfl
  | complex left right root w x y z =>
    simp only [template, operators, List.findSome?_cons]
    rw [addOperator_holding .binary locked left rfl rfl]
    cases hleft : left.misfit? .binary with
    | some e =>
      simp only [arity, hleft]
      rfl
    | none =>
      simp only [arity, hleft, bind, Except.bind]
      rw [addOperator_holding .binary locked right rfl rfl]
      cases right.misfit? .binary with
      | some e => rfl
      | none =>
        simp only
        rw [addOperator_holding .binary locked root rfl rfl]
        cases root.misfit? .binary <;> rfl

theorem findSome?_misfit?_eq_none_iff (shape : Shape) :
    shape.operators.findSome? (·.misfit? shape.arity) = none ↔ shape.Suits := by
  simp only [List.findSome?_eq_none_iff, Operator.misfit?_eq_none_iff, Suits]

theorem template_of_suits {shape : Shape} (h : shape.Suits) (answer : Trit) (locked : Bool) :
    shape.template answer locked = .ok (shape.listed answer locked) := by
  rw [template_eq, (findSome?_misfit?_eq_none_iff shape).mpr h]

theorem exists_error_of_not_suits {shape : Shape} (h : ¬ shape.Suits) (answer : Trit)
    (locked : Bool) : ∃ e, shape.template answer locked = .error (.slot e) := by
  rw [← findSome?_misfit?_eq_none_iff] at h
  obtain ⟨e, he⟩ := Option.ne_none_iff_exists'.mp h
  exact ⟨e, by rw [template_eq, he]⟩

/-! ### A shape in play -/

/-- **A puzzle that is wired like a shape has the value of its formula.** -/
theorem resultAt?_root (shape : Shape) {answer : Trit} {locked : Bool} {u : Template}
    (hframe : (shape.listed answer locked).SameFrame u) (h : u.Arboreal) (hfits : u.Fits) :
    u.resultAt? u.root = shape.formula u.operator? u.trit? := by
  have hchild : childAt? u.operators = childAt? (shape.nodes locked) :=
    childAt?_congr hframe.wiring
  -- Moves change no wire, so the equations of the nodes hold with the wires of the shape.
  have hone {i : Nat} {l : NodeId} (hl : childAt? (shape.nodes locked) i .left = some l)
      (hr : childAt? (shape.nodes locked) i .right = none) :=
    h.resultAt?_unary hfits ((congrFun₂ hchild i .left).trans hl)
      ((congrFun₂ hchild i .right).trans hr)
  have htwo {i : Nat} {l r : NodeId} (hl : childAt? (shape.nodes locked) i .left = some l)
      (hr : childAt? (shape.nodes locked) i .right = some r) :=
    h.resultAt?_binary hfits ((congrFun₂ hchild i .left).trans hl)
      ((congrFun₂ hchild i .right).trans hr)
  rw [hframe.root]
  cases shape with
  | unary op x => exact (hone rfl rfl).trans (by simp only [u.resultAt?_leaf]; rfl)
  | binary op x y => exact (htwo rfl rfl).trans (by simp only [u.resultAt?_leaf]; rfl)
  | chainLeft inner outer x y z =>
    have hinner := htwo (i := 0) rfl rfl
    exact (htwo rfl rfl).trans (by simp only [hinner, u.resultAt?_leaf]; rfl)
  | chainRight outer inner x y z =>
    have hinner := htwo (i := 0) rfl rfl
    exact (htwo rfl rfl).trans (by simp only [hinner, u.resultAt?_leaf]; rfl)
  | complex left right root w x y z =>
    have hleft := htwo (i := 0) rfl rfl
    have hright := htwo (i := 1) rfl rfl
    exact (htwo rfl rfl).trans (by simp only [hleft, hright, u.resultAt?_leaf]; rfl)

theorem length_nodes (shape : Shape) (locked : Bool) :
    (shape.nodes locked).length = shape.operators.length := by
  cases shape <;> rfl

theorem getElem?_nodes {shape : Shape} {i : Nat} {op : Operator}
    (h : shape.operators[i]? = some op) (locked : Bool) :
    ∃ n, (shape.nodes locked)[i]? = some n ∧ n.slot = .holding locked op := by
  have hi : i < (shape.nodes locked).length := by
    rw [length_nodes]
    exact (List.getElem?_eq_some_iff.mp h).1
  refine ⟨_, List.getElem?_eq_getElem hi, ?_⟩
  simp only [nodes, List.getElem_zipWith]
  congr 1
  exact (List.getElem?_eq_some_iff.mp h).2

/-- **A shape in play has the value of its formula.**  It is assembled exactly when its
operators fit their places.  After any run of moves it has a value exactly when all its
slots have a content, and the value is that of the formula; a fixed leaf still has its
trit, and operators that were fixed are still the given ones. -/
theorem eval_play_eq_formula (shape : Shape) (answer : Trit) (locked : Bool) :
    (shape.Suits → ∃ t, shape.template answer locked = .ok t ∧ ∀ moves : List Move,
      let u := t.play moves
      u.answer = answer ∧ u.values.length = shape.presets.length ∧
      u.operators.length = shape.operators.length ∧
      ((∃ v, u.eval = .ok v) ↔ (∀ i < shape.presets.length, ∃ x, u.trit? i = some x) ∧
        ∀ i < shape.operators.length, ∃ op, u.operator? i = some op) ∧
      (∀ v, u.eval = .ok v ↔ shape.formula u.operator? u.trit? = some v) ∧
      (∀ (i : Nat) (x : Trit), shape.presets[i]? = some (some x) →
        u.values[i]? = some (.locked x)) ∧
      (locked = true → ∀ (i : Nat) (op : Operator), shape.operators[i]? = some op →
        ∃ n, u.operators[i]? = some n ∧ n.slot = .locked op)) ∧
    (¬ shape.Suits → ∃ e, shape.template answer locked = .error (.slot e)) := by
  refine ⟨fun hsuits => ?_, fun hsuits => exists_error_of_not_suits hsuits answer locked⟩
  have htemplate := template_of_suits hsuits answer locked
  have hbuilt : (shape.listed answer locked).Built :=
    shape.builds_template answer locked _ htemplate
  refine ⟨_, htemplate, fun moves => ?_⟩
  intro u
  have hplay : u.InPlay := hbuilt.inPlay moves
  have hframe : (shape.listed answer locked).SameFrame u := Template.sameFrame_play _ moves
  have hvalues : u.values.length = shape.presets.length :=
    hframe.length_values.trans (List.length_map _)
  have hoperators : u.operators.length = shape.operators.length :=
    hframe.length_operators.trans (shape.length_nodes locked)
  refine ⟨hframe.answer, hvalues, hoperators, ?_, fun v => ?_, fun i x hx => ?_,
    fun hlocked i op hop => ?_⟩
  · rw [← hplay.arboreal.isComplete_iff_eval hplay.fits, Template.isComplete_iff, ← hvalues,
      ← hoperators]
    simp only [← Option.isSome_iff_exists, ← Template.assigned_value_eq_isSome,
      ← Template.assigned_operator_eq_isSome]
    constructor
    · exact fun h => ⟨fun i hi => h (.value i) hi, fun i hi => h (.operator i) hi⟩
    · rintro ⟨hv, ho⟩ id hid
      cases id with
      | value i => exact hv i hid
      | operator i => exact ho i hid
  · rw [Template.eval_eq_ok_iff_resultAt?,
      shape.resultAt?_root hframe hplay.arboreal hplay.fits]
  · refine Template.getElem?_values_play ?_ moves
    simp [listed, hx, Slot.preset]
  · subst hlocked
    obtain ⟨n, hn, hslot⟩ := getElem?_nodes hop true
    refine ⟨n, Template.getElem?_operators_play hn (by rw [hslot]; rfl) moves, hslot⟩

/-- A locked implication over a disjunction with a given leaf, filled by a setter and by an
event, and a disjunction with one operand only. -/
theorem eval_play_eq_formula_implication :
    let shape : Shape := .chainLeft .or .imply (some .neutral) none none
    let misfit : Shape := .unary .or none
    shape.Suits ∧ (∃ t, shape.template .true true = .ok t ∧
      let u := t.play [.setValue 1 .false, .event (.cycleValue 0), .setValue 2 .true]
      (∀ v, u.eval = .ok v ↔ shape.formula u.operator? u.trit? = some v) ∧
      u.values[0]? = some (.locked .neutral) ∧
      ∃ n, u.operators[1]? = some n ∧ n.slot = .locked .imply) ∧
    ¬ misfit.Suits ∧ ∃ e, misfit.template .true true = .error (.slot e) := by
  intro shape misfit
  have hsuits : shape.Suits := by simp [Suits, shape, operators, arity, Operator.arity]
  have hmisfit : ¬ misfit.Suits := by simp [Suits, misfit, operators, arity, Operator.arity]
  obtain ⟨t, ht, hplay⟩ := (eval_play_eq_formula shape .true true).1 hsuits
  obtain ⟨-, -, -, -, heval, hpreset, hlocked⟩ :=
    hplay [.setValue 1 .false, .event (.cycleValue 0), .setValue 2 .true]
  exact ⟨hsuits, ⟨t, ht, heval, hpreset 0 .neutral rfl, hlocked rfl 1 .imply rfl⟩, hmisfit,
    (eval_play_eq_formula misfit .true true).2 hmisfit⟩

end Shape

end TritPuzzle
