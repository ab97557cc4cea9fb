import TritPuzzle.Proofs.Arboreal
import TritPuzzle.Puzzle.Shape

/-!
# Assembling a puzzle step by step

An assembly is changed by a few kinds of calls, in any order, some of which fail.
All that one call can do is said once, in `Assembly.Grows`.  Each of these changes
keeps the nodes a forest: the marks say which nodes are children, no node is a child
twice, and children are older than their parents.  When the last unmarked node is
the root, the forest is a tree.

## Main definitions

* `AssemblyStep`, `Assembly.perform`, `Assembly.run` — a call, and the calls from the
  empty assembly on.
* `Assembly.Grows` — what one call can do.
* `Assembly.Forest` — the invariant of an assembly.

## Main results

* `addOperator_eq_ok_iff`, `lockValue_eq_ok_iff`, `lockOperator_eq_ok_iff`,
  `rootFault?_eq_none_iff` — when a call succeeds, and what it returns.
* `forest_run` — **the marks and the order of creation keep every assembly a forest.**
* `Forest.arboreal` — a forest with a single unmarked node is a tree.
-/

namespace TritPuzzle

/-- A call that changes an assembly. -/
inductive AssemblyStep where
  /-- A new leaf with the given slot. -/
  | value (slot : Slot Trit)
  /-- A new empty leaf. -/
  | openValue
  /-- A new leaf that is fixed to a trit. -/
  | lockedValue (x : Trit)
  /-- A new leaf that is fixed to a trit if one is given. -/
  | presetValue (x : Option Trit)
  /-- A new inner node over the given children. -/
  | operator (slot : Slot Operator) (left : NodeId) (right : Option NodeId)
  /-- The content of a leaf is fixed. -/
  | lockValue (id : NodeId) (x : Trit)
  /-- The operator of an inner node is fixed. -/
  | lockOperator (id : NodeId) (op : Operator)
  deriving DecidableEq, Repr

namespace Assembly

/-- What a call leaves of an assembly: the assembly as it was if the call fails. -/
def afterCall (a : Assembly) : Except AssemblyError Assembly → Assembly
  | .ok b => b
  | .error _ => a

/-- The assembly after a call. -/
def perform (a : Assembly) : AssemblyStep → Assembly
  | .value slot => (a.addValue slot).2
  | .openValue => (a.addValue .unset).2
  | .lockedValue x => (a.addValue (.locked x)).2
  | .presetValue x => (a.addPreset x).2
  | .operator slot left right => a.afterCall ((a.addOperator slot left right).map (·.2))
  | .lockValue id x => a.afterCall (a.lockValue id x)
  | .lockOperator id op => a.afterCall (a.lockOperator id op)

/-- The assembly after a run of calls. -/
def run (steps : List AssemblyStep) : Assembly := steps.foldl perform empty

/-! ### When calls succeed -/

theorem refusal?_eq_none_iff {a : Assembly} {id : NodeId} :
    a.refusal? id = none ↔ a.parented? id = some false := by
  unfold refusal?
  split <;> simp_all

theorem refusalOfChildren?_eq_none_iff {a : Assembly} {left : NodeId} {right : Option NodeId} :
    a.refusalOfChildren? left right = none ↔
      (∀ c ∈ left :: right.toList, a.parented? c = some false) ∧ (left :: right.toList).Nodup := by
  unfold refusalOfChildren?
  cases hleft : a.refusal? left with
  | some e =>
    have hbusy : ¬ a.parented? left = some false := by
      rw [← refusal?_eq_none_iff, hleft]
      simp
    simp [hbusy]
  | none =>
    have hfree := refusal?_eq_none_iff.mp hleft
    cases right with
    | none => simp [hfree]
    | some r =>
      by_cases h : r = left
      · simp [h]
      · simp [h, hfree, refusal?_eq_none_iff, Ne.symm h]

/-- A new inner node needs children that exist, have no parent and differ, and an
operator that fits them. -/
theorem addOperator_eq_ok_iff {a b : Assembly} {slot : Slot Operator} {left id : NodeId}
    {right : Option NodeId} :
    a.addOperator slot left right = .ok (id, b) ↔
      ∃ n : OperatorNode, n = { slot, left, right } ∧
        (∀ c ∈ n.children, a.parented? c = some false) ∧ n.children.Nodup ∧ n.Fits ∧
        id = .operator a.operators.length ∧ b = a.adopt n := by
  unfold addOperator
  cases hchildren : a.refusalOfChildren? left right with
  | some e =>
    simp only [reduceCtorEq, false_iff, not_exists, not_and]
    rintro n rfl hfree hnodup
    rw [refusalOfChildren?_eq_none_iff.mpr ⟨hfree, hnodup⟩] at hchildren
    simp at hchildren
  | none =>
    obtain ⟨hfree, hnodup⟩ := refusalOfChildren?_eq_none_iff.mp hchildren
    cases hmake : OperatorNode.make slot left right with
    | error e =>
      simp only [reduceCtorEq, false_iff, not_exists, not_and]
      rintro n rfl - - hfits
      rw [OperatorNode.make_eq_ok_iff.mpr ⟨rfl, hfits⟩] at hmake
      simp at hmake
    | ok n =>
      obtain ⟨rfl, hfits⟩ := OperatorNode.make_eq_ok_iff.mp hmake
      simp only [Except.ok.injEq, Prod.mk.injEq]
      constructor
      · rintro ⟨rfl, rfl⟩
        exact ⟨_, rfl, hfree, hnodup, hfits, rfl, rfl⟩
      · rintro ⟨n, rfl, -, -, -, rfl, rfl⟩
        exact ⟨rfl, rfl⟩

/-- Only an existing leaf that is not locked can be locked. -/
theorem lockValue_eq_ok_iff {a b : Assembly} {id : NodeId} {x : Trit} :
    a.lockValue id x = .ok b ↔
      ∃ i s, id = .value i ∧ a.values[i]? = some s ∧ s.isLocked = false ∧
        b = { a with values := a.values.set i (.locked x) } := by
  cases id with
  | operator i => simp [lockValue]
  | value i =>
    unfold lockValue
    cases hs : a.values[i]? with
    | none => simp [hs]
    | some s =>
      cases hlock : s.lock x with
      | error e =>
        have hlocked : ¬ s.isLocked = false := fun h => by
          rw [Slot.lock_eq_ok_iff.mpr ⟨h, rfl⟩] at hlock
          simp at hlock
        simp [hs, hlock, hlocked]
      | ok s' =>
        obtain ⟨hopen, rfl⟩ := Slot.lock_eq_ok_iff.mp hlock
        simp only [hs, hlock, Except.ok.injEq]
        constructor
        · rintro rfl
          exact ⟨i, s, rfl, hs, hopen, rfl⟩
        · rintro ⟨j, s', hj, -, -, rfl⟩
          rw [NodeId.value.inj hj]

/-- Only an existing inner node that is not locked can be locked, and only to an operator
that fits its children. -/
theorem lockOperator_eq_ok_iff {a b : Assembly} {id : NodeId} {op : Operator} :
    a.lockOperator id op = .ok b ↔
      ∃ i n, id = .operator i ∧ a.operators[i]? = some n ∧
        (n.slot.isLocked = false ∧ op.arity = n.arity) ∧
        b = { a with operators := a.operators.set i { n with slot := .locked op } } := by
  cases id with
  | value i => simp [lockOperator]
  | operator i =>
    unfold lockOperator
    cases hn : a.operators[i]? with
    | none => simp [hn]
    | some n =>
      cases hlock : n.lock op with
      | error e =>
        have hlocked : ¬ (n.slot.isLocked = false ∧ op.arity = n.arity) := fun h => by
          rw [OperatorNode.lock_eq_ok_iff.mpr ⟨h, rfl⟩] at hlock
          simp at hlock
        simp [hn, hlock, hlocked]
      | ok n' =>
        obtain ⟨hopen, rfl⟩ := OperatorNode.lock_eq_ok_iff.mp hlock
        simp only [hn, hlock, Except.ok.injEq]
        constructor
        · rintro rfl
          exact ⟨i, n, rfl, hn, hopen, rfl⟩
        · rintro ⟨j, m, hj, hm, -, rfl⟩
          obtain rfl := NodeId.operator.inj hj
          rw [Option.some.inj (hn.symm.trans hm)]

/-! ### Marks -/

/-- Marking nodes changes nothing but marks, and keeps their number. -/
theorem foldl_mark (a : Assembly) (cs : List NodeId) :
    (cs.foldl mark a).values = a.values ∧ (cs.foldl mark a).operators = a.operators ∧
      (cs.foldl mark a).valueMarks.length = a.valueMarks.length ∧
      (cs.foldl mark a).operatorMarks.length = a.operatorMarks.length := by
  induction cs generalizing a with
  | nil => exact ⟨rfl, rfl, rfl, rfl⟩
  | cons c cs ih =>
    obtain ⟨hv, ho, hvm, hom⟩ := ih (a.mark c)
    rw [List.foldl_cons, hv, ho, hvm, hom]
    cases c <;> simp [mark]

@[simp] theorem values_adopt (a : Assembly) (n : OperatorNode) :
    (a.adopt n).values = a.values :=
  (foldl_mark a n.children).1

@[simp] theorem operators_adopt (a : Assembly) (n : OperatorNode) :
    (a.adopt n).operators = a.operators ++ [n] :=
  congrArg (· ++ [n]) (foldl_mark a n.children).2.1

theorem parented?_mark (a : Assembly) (c id : NodeId) :
    (a.mark c).parented? id = (a.parented? id).map fun b => b || decide (id = c) := by
  cases c with
  | value i =>
    cases id with
    | value j =>
      simp only [mark, parented?, List.getElem?_set]
      by_cases h : i = j
      · subst h
        cases hb : a.valueMarks[i]? with
        | none => simpa using List.getElem?_eq_none_iff.mp hb
        | some b => simp [(List.getElem?_eq_some_iff.mp hb).1]
      · simp [h, Ne.symm h]
    | operator j => simp [mark, parented?]
  | operator i =>
    cases id with
    | value j => simp [mark, parented?]
    | operator j =>
      simp only [mark, parented?, List.getElem?_set]
      by_cases h : i = j
      · subst h
        cases hb : a.operatorMarks[i]? with
        | none => simpa using List.getElem?_eq_none_iff.mp hb
        | some b => simp [(List.getElem?_eq_some_iff.mp hb).1]
      · simp [h, Ne.symm h]

theorem parented?_foldl_mark (a : Assembly) (cs : List NodeId) (id : NodeId) :
    (cs.foldl mark a).parented? id = (a.parented? id).map fun b => b || decide (id ∈ cs) := by
  induction cs generalizing a with
  | nil => simp
  | cons c cs ih =>
    rw [List.foldl_cons, ih, parented?_mark, Option.map_map]
    congr 1
    funext b
    simp [Bool.or_assoc]

theorem mem_orphans {a : Assembly} {id : NodeId} :
    id ∈ a.orphans ↔ a.parented? id = some false := by
  cases id <;> simp [orphans, parented?, mem_positions]

/-! ### One call -/

/-- What one call can make of an assembly. -/
inductive Grows (a : Assembly) : Assembly → Prop
  /-- Nothing changes. -/
  | same : Grows a a
  /-- There is a new leaf. -/
  | value (slot : Slot Trit) : Grows a (a.addValue slot).2
  /-- There is a new inner node over nodes that had no parent. -/
  | operator {n : OperatorNode} (hfree : ∀ c ∈ n.children, a.parented? c = some false)
      (hnodup : n.children.Nodup) (hfits : n.Fits) : Grows a (a.adopt n)
  /-- A leaf is fixed. -/
  | lockValue {i : Nat} {s : Slot Trit} (x : Trit) (hs : a.values[i]? = some s)
      (hopen : s.isLocked = false) : Grows a { a with values := a.values.set i (.locked x) }
  /-- An inner node is fixed to an operator that fits its children. -/
  | lockOperator {i : Nat} {n : OperatorNode} {op : Operator} (hn : a.operators[i]? = some n)
      (hopen : n.slot.isLocked = false) (hfit : op.arity = n.arity) :
      Grows a { a with operators := a.operators.set i { n with slot := .locked op } }

theorem grows_afterCall {a : Assembly} {r : Except AssemblyError Assembly}
    (h : ∀ b, r = .ok b → a.Grows b) : a.Grows (a.afterCall r) := by
  unfold afterCall
  split
  · exact h _ rfl
  · exact .same

/-- **A call does nothing, adds one node or fixes one.** -/
theorem grows_perform (a : Assembly) (step : AssemblyStep) : a.Grows (a.perform step) := by
  cases step with
  | value slot => exact .value slot
  | openValue => exact .value .unset
  | lockedValue x => exact .value (.locked x)
  | presetValue x => exact .value (.preset x)
  | operator slot left right =>
    refine grows_afterCall fun b hb => ?_
    cases hadd : a.addOperator slot left right with
    | error e => rw [hadd] at hb; simp [Except.map] at hb
    | ok r =>
      obtain ⟨n, -, hfree, hnodup, hfits, -, hr⟩ := addOperator_eq_ok_iff.mp hadd
      rw [hadd, Except.map, Except.ok.injEq, hr] at hb
      exact hb ▸ .operator hfree hnodup hfits
  | lockValue id x =>
    refine grows_afterCall fun b hb => ?_
    obtain ⟨i, s, -, hs, hopen, rfl⟩ := lockValue_eq_ok_iff.mp hb
    exact .lockValue x hs hopen
  | lockOperator id op =>
    refine grows_afterCall fun b hb => ?_
    obtain ⟨i, n, -, hn, ⟨hopen, hfit⟩, rfl⟩ := lockOperator_eq_ok_iff.mp hb
    exact .lockOperator hn hopen hfit

/-! ### The invariant -/

/-- The rank of a node by its creation: a leaf needs no other node, and an inner node
only older ones. -/
def age : NodeId → Nat
  | .value _ => 0
  | .operator i => i + 1

/-- The nodes form a forest, and the marks tell its roots. -/
structure Forest (a : Assembly) : Prop where
  /-- Every leaf has a mark. -/
  length_valueMarks : a.valueMarks.length = a.values.length
  /-- Every inner node has a mark. -/
  length_operatorMarks : a.operatorMarks.length = a.operators.length
  /-- The marked nodes are the children. -/
  parented_iff : ∀ id, a.parented? id = some true ↔ id ∈ links a.operators
  /-- No node is a child twice. -/
  nodup_links : (links a.operators).Nodup
  /-- Children are older than their parents. -/
  older : Ranks a.operators age
  /-- Every operator fits its children. -/
  fits : ∀ n ∈ a.operators, n.Fits

theorem forest_empty : empty.Forest where
  length_valueMarks := rfl
  length_operatorMarks := rfl
  parented_iff := fun id => by cases id <;> simp [empty, parented?]
  nodup_links := List.nodup_nil
  older := by
    rintro p c ⟨i, side, -, hc⟩
    simp [empty, childAt?] at hc
  fits := by simp [empty]

namespace Forest

variable {a : Assembly}

/-- A node has a mark, set or not, exactly when it exists. -/
theorem parented_isSome_iff (h : a.Forest) (id : NodeId) :
    (a.parented? id).isSome ↔ id ∈ addresses a.values.length a.operators.length := by
  cases id with
  | value i => simp [parented?, h.length_valueMarks]
  | operator i => simp [parented?, h.length_operatorMarks]

theorem mem_addresses_of_parented (h : a.Forest) {id : NodeId} {b : Bool}
    (hid : a.parented? id = some b) : id ∈ addresses a.values.length a.operators.length :=
  (h.parented_isSome_iff id).mp (by rw [hid]; rfl)

theorem notMem_links_of_free (h : a.Forest) {id : NodeId} (hid : a.parented? id = some false) :
    id ∉ links a.operators := by
  intro hlink
  rw [(h.parented_iff id).mpr hlink] at hid
  simp at hid

/-! ### Each call keeps the invariant -/

theorem parented?_addValue (h : a.Forest) (slot : Slot Trit) (id : NodeId) :
    (a.addValue slot).2.parented? id =
      if id = .value a.values.length then some false else a.parented? id := by
  cases id with
  | value i =>
    simp only [addValue, parented?, List.getElem?_append, h.length_valueMarks, NodeId.value.injEq]
    rcases Nat.lt_trichotomy i a.values.length with hi | hi | hi
    · rw [if_pos hi, if_neg (by omega)]
    · simp [hi]
    · rw [if_neg (by omega), if_neg (by omega), List.getElem?_eq_none (by simp; omega),
        List.getElem?_eq_none (by rw [h.length_valueMarks]; omega)]
  | operator i => simp [addValue, parented?]

theorem parented?_adopt (h : a.Forest) (n : OperatorNode) (id : NodeId) :
    (a.adopt n).parented? id =
      if id = .operator a.operators.length then some false
      else (a.parented? id).map fun b => b || decide (id ∈ n.children) := by
  obtain ⟨-, -, -, hom⟩ := foldl_mark a n.children
  rw [← parented?_foldl_mark]
  cases id with
  | value i => simp [adopt, parented?]
  | operator i =>
    simp only [adopt, parented?, List.getElem?_append, hom, h.length_operatorMarks,
      NodeId.operator.injEq]
    rcases Nat.lt_trichotomy i a.operators.length with hi | hi | hi
    · rw [if_pos hi, if_neg (by omega)]
    · simp [hi]
    · rw [if_neg (by omega), if_neg (by omega), List.getElem?_eq_none (by simp; omega),
        List.getElem?_eq_none (by rw [hom, h.length_operatorMarks]; omega)]

theorem addValue_free_iff (h : a.Forest) (slot : Slot Trit) (id : NodeId) :
    (a.addValue slot).2.parented? id = some false ↔
      id = .value a.values.length ∨ a.parented? id = some false := by
  rw [h.parented?_addValue slot id]
  by_cases hid : id = .value a.values.length <;> simp [hid]

theorem adopt_free_iff (h : a.Forest) (n : OperatorNode) (id : NodeId) :
    (a.adopt n).parented? id = some false ↔
      id = .operator a.operators.length ∨ a.parented? id = some false ∧ id ∉ n.children := by
  rw [h.parented?_adopt n id]
  by_cases hid : id = .operator a.operators.length <;> simp [hid]

/-- A new leaf is a tree of its own. -/
theorem addValue (h : a.Forest) (slot : Slot Trit) : (a.addValue slot).2.Forest where
  length_valueMarks := by simp [Assembly.addValue, h.length_valueMarks]
  length_operatorMarks := h.length_operatorMarks
  parented_iff := by
    intro id
    rw [h.parented?_addValue slot id]
    by_cases hid : id = .value a.values.length
    · -- the new leaf is no address of the old assembly, hence no child
      rw [if_pos hid]
      refine iff_of_false (by simp) fun hlink => ?_
      have hmem := h.mem_addresses_of_parented ((h.parented_iff id).mpr hlink)
      rw [hid, value_mem_addresses] at hmem
      exact Nat.lt_irrefl _ hmem
    · rw [if_neg hid]
      exact h.parented_iff id
  nodup_links := h.nodup_links
  older := h.older
  fits := h.fits

/-- A new inner node joins the trees of its children. -/
theorem adopt (h : a.Forest) {n : OperatorNode}
    (hfree : ∀ c ∈ n.children, a.parented? c = some false) (hnodup : n.children.Nodup)
    (hfits : n.Fits) : (a.adopt n).Forest := by
  obtain ⟨-, -, hvm, hom⟩ := foldl_mark a n.children
  have hlinks : links (a.adopt n).operators = links a.operators ++ n.children := by
    rw [operators_adopt, links_append]
    simp
  constructor
  case length_valueMarks =>
    rw [values_adopt, ← h.length_valueMarks]
    exact hvm
  case length_operatorMarks =>
    rw [operators_adopt]
    simp [Assembly.adopt, hom, h.length_operatorMarks]
  case parented_iff =>
    intro id
    rw [h.parented?_adopt n id, hlinks, List.mem_append]
    by_cases hid : id = .operator a.operators.length
    · -- the new node is no address of the old assembly, hence no child
      rw [if_pos hid]
      refine iff_of_false (by simp) fun hlink => ?_
      have hmem : id ∈ addresses a.values.length a.operators.length := by
        rcases hlink with hlink | hchild
        · exact h.mem_addresses_of_parented ((h.parented_iff id).mpr hlink)
        · exact h.mem_addresses_of_parented (hfree id hchild)
      rw [hid, operator_mem_addresses] at hmem
      exact Nat.lt_irrefl _ hmem
    · rw [if_neg hid, ← h.parented_iff id]
      by_cases hchild : id ∈ n.children
      · simp [hfree id hchild, hchild]
      · simp [hchild]
  case nodup_links =>
    rw [hlinks]
    refine h.nodup_links.append hnodup fun c hlink hchild => ?_
    exact h.notMem_links_of_free (hfree c hchild) hlink
  case older =>
    rintro p c ⟨i, side, rfl, hc⟩
    rw [operators_adopt, childAt?_append_singleton] at hc
    rcases hc with hc | ⟨rfl, hc⟩
    · exact h.older _ _ ⟨i, side, rfl, hc⟩
    · have hmem := h.mem_addresses_of_parented
        (hfree c (OperatorNode.mem_children.mpr ⟨side, hc⟩))
      cases c with
      | value j => exact Nat.succ_pos _
      | operator j => exact Nat.succ_lt_succ (operator_mem_addresses.mp hmem)
  case fits =>
    intro m hm
    rw [operators_adopt, List.mem_append, List.mem_singleton] at hm
    rcases hm with hm | rfl
    · exact h.fits m hm
    · exact hfits

/-- Fixing a leaf concerns no link. -/
theorem setValues (h : a.Forest) (i : Nat) (s : Slot Trit) :
    ({ a with values := a.values.set i s } : Assembly).Forest where
  length_valueMarks := by simp [h.length_valueMarks]
  length_operatorMarks := h.length_operatorMarks
  parented_iff := h.parented_iff
  nodup_links := h.nodup_links
  older := h.older
  fits := h.fits

/-- Fixing an inner node leaves its children as they are. -/
theorem setOperators (h : a.Forest) {i : Nat} {n : OperatorNode} {op : Operator}
    (hn : a.operators[i]? = some n) (hfit : op.arity = n.arity) :
    ({ a with
      operators := a.operators.set i { n with slot := .locked op } } : Assembly).Forest := by
  have hwiring : wiring (a.operators.set i { n with slot := .locked op }) = wiring a.operators :=
    wiring_set hn rfl
  constructor
  case length_valueMarks => exact h.length_valueMarks
  case length_operatorMarks => simp [h.length_operatorMarks]
  case parented_iff =>
    intro id
    rw [links_congr hwiring]
    exact h.parented_iff id
  case nodup_links => simpa only [links_congr hwiring] using h.nodup_links
  case older => simpa only [Ranks, isParent_congr hwiring] using h.older
  case fits =>
    intro m hm
    rcases List.mem_or_eq_of_mem_set hm with hm | rfl
    · exact h.fits m hm
    · intro op' hop
      obtain rfl : op = op' := by simpa [Slot.content?] using hop
      exact hfit

/-- **A call keeps an assembly a forest.** -/
theorem grows (h : a.Forest) {b : Assembly} (hab : a.Grows b) : b.Forest := by
  cases hab with
  | same => exact h
  | value slot => exact h.addValue slot
  | operator hfree hnodup hfits => exact h.adopt hfree hnodup hfits
  | lockValue x hs hopen => exact h.setValues _ _
  | lockOperator hn hopen hfit => exact h.setOperators hn hfit

end Forest

/-- What a call keeps, every run of calls keeps. -/
theorem run_induction {P : Assembly → Prop} (start : P empty)
    (step : ∀ a b, P a → a.Grows b → P b) (steps : List AssemblyStep) : P (run steps) := by
  suffices h : ∀ a, P a → P (steps.foldl perform a) from h _ start
  induction steps with
  | nil => exact fun _ ha => ha
  | cons s ss ih => exact fun a ha => ih _ (step a _ ha (a.grows_perform s))

/-- **The marks and the order of creation keep every assembly a forest.** -/
theorem forest_run (steps : List AssemblyStep) : (run steps).Forest :=
  run_induction forest_empty (fun _ _ h hab => h.grows hab) steps

/-! ### Finishing -/

/-- A root is accepted exactly when it is the only node without a parent. -/
theorem rootFault?_eq_none_iff {a : Assembly} {root : NodeId} :
    a.rootFault? root = none ↔ ∀ id, a.parented? id = some false ↔ id = root := by
  have hfault : a.rootFault? root = none ↔
      a.parented? root = some false ∧ ∀ id ∈ a.orphans, id = root := by
    unfold rootFault?
    split <;> simp_all
  rw [hfault]
  constructor
  · rintro ⟨hroot, hothers⟩ id
    constructor
    · exact fun hid => hothers id (mem_orphans.mpr hid)
    · rintro rfl
      exact hroot
  · intro h
    exact ⟨(h root).mpr rfl, fun id hid => (h id).mp (mem_orphans.mp hid)⟩

theorem finish_eq_ok_iff {a : Assembly} {root : NodeId} {answer : Trit} {t : Template} :
    a.finish root answer = .ok t ↔
      a.rootFault? root = none ∧
        t = { root, answer, values := a.values, operators := a.operators } := by
  unfold finish
  cases a.rootFault? root <;> simp [eq_comm]

/-- **A forest with a single node that has no parent is a tree.** -/
theorem Forest.arboreal {a : Assembly} (h : a.Forest) {root : NodeId} {answer : Trit}
    {t : Template} (ht : a.finish root answer = .ok t) : t.Arboreal := by
  obtain ⟨hroot, rfl⟩ := finish_eq_ok_iff.mp ht
  rw [rootFault?_eq_none_iff] at hroot
  have hfree : a.parented? root = some false := (hroot root).mpr rfl
  constructor
  case perm =>
    -- both lists are free of repetitions, and a node is unmarked, marked or not there
    refine (List.perm_ext_iff_of_nodup
      (List.nodup_cons.mpr ⟨h.notMem_links_of_free hfree, h.nodup_links⟩)
      (nodup_addresses _ _)).mpr fun id => ?_
    rw [List.mem_cons, ← h.parented_isSome_iff id, ← h.parented_iff id, ← hroot id]
    cases a.parented? id with
    | none => simp
    | some b => cases b <;> simp
  case ranked =>
    refine ⟨age, h.older, fun id hid => ?_⟩
    cases id with
    | value i => exact Nat.zero_le _
    | operator i => exact hid

theorem Forest.fits_finish {a : Assembly} (h : a.Forest) {root : NodeId} {answer : Trit}
    {t : Template} (ht : a.finish root answer = .ok t) : t.Fits := by
  obtain ⟨-, rfl⟩ := finish_eq_ok_iff.mp ht
  exact h.fits

end Assembly

end TritPuzzle
