import TritPuzzle.Proofs.Overwriting

/-!
# Filling a puzzle slot by slot

The evaluation of an incomplete puzzle names the first empty slot that it meets.  A player
can be led by that: fill the slot that is named, with whatever fits there, and evaluate
again.  Each round takes the first slot off the list of empty ones and leaves the rest of the
list as it is, so the player goes through the tree in the order of evaluation and is done
after as many rounds as there were empty slots.

## Main definitions

* `Template.order`, `Template.empties` — all nodes and the empty ones, in the order of
  evaluation.
* `Template.emptyCount` — the number of empty slots in the two lists.
* `Template.FirstEmpty` — the first empty slot under a node.
* `Template.Supplies`, `Template.Guided` — an event that fills a slot, and a list of events
  each of which fills the slot that the evaluation names.

## Main results

* `Arboreal.firstEmpty_of_evalAt` — **an error names the first empty slot.**
* `Arboreal.empties_eq_cons` — filling the slot that is named leaves the other empty ones.
* `Guided.empties_eq_append` — what a guided list of events has filled, and what is left.
* `guided_of_inPlay` — **a guided player moves forward and is done in time.**
-/

namespace TritPuzzle

/-- Has the slot of the node a content? -/
def Node.isAssigned : Node → Bool
  | .leaf s => s.isAssigned
  | .inner n => n.slot.isAssigned

/-- An empty slot is not locked. -/
theorem Node.isLocked_eq_false_of_empty {n : Node} (h : n.isAssigned = false) :
    n.isLocked = false := by
  cases n with
  | leaf s => cases s <;> simp_all [isAssigned, isLocked, Slot.isAssigned, Slot.isLocked]
  | inner m => cases hs : m.slot <;> simp_all [isAssigned, isLocked, Slot.isAssigned, Slot.isLocked]

/-- A slot with a new content is not empty. -/
theorem Slot.isAssigned_overwritten {α : Type} (s : Slot α) (x : α) :
    (s.overwritten (some x)).isAssigned = true := by
  cases s <;> rfl

/-- In a list without duplicates the positions of the entries ascend. -/
theorem pairwise_idxOf_of_nodup {α : Type} [DecidableEq α] {xs : List α} (h : xs.Nodup) :
    xs.Pairwise fun a b => xs.idxOf a < xs.idxOf b := by
  rw [List.pairwise_iff_getElem]
  intro i j hi hj hij
  rwa [h.idxOf_getElem i hi, h.idxOf_getElem j hj]

/-- The positions at which a list holds an entry without a property, counted. -/
theorem countP_range_getElem? {α : Type} (p : α → Bool) (xs : List α) :
    (List.range xs.length).countP (fun i => !xs[i]?.any p) = xs.countP (!p ·) := by
  induction xs with
  | nil => rfl
  | cons x xs ih =>
    have htail : ((List.range xs.length).map Nat.succ).countP (fun i => !(x :: xs)[i]?.any p) =
        xs.countP (!p ·) := by
      rw [List.countP_map, ← ih]
      rfl
    rw [List.length_cons, List.range_succ_eq_map, List.countP_cons, List.countP_cons, htail]
    rfl

namespace Template

/-! ### Empty slots -/

/-- The addresses of all nodes in the order of evaluation. -/
def order (t : Template) : List NodeId := (t.tree t.root).ids

/-- The addresses of the empty slots in the order of evaluation. -/
def empties (t : Template) : List NodeId := t.order.filter (!t.assigned ·)

/-- The number of empty slots in the two lists. -/
def emptyCount (t : Template) : Nat :=
  t.values.countP (!·.isAssigned) + t.operators.countP (!·.slot.isAssigned)

/-- The slot `c` is the first empty one under the node `id`, in the order of evaluation. -/
def FirstEmpty (t : Template) (id c : NodeId) : Prop :=
  ∃ T before after, t.Unfolds id T ∧ T.ids = before ++ c :: after ∧
    (∀ b ∈ before, t.assigned b = true) ∧ t.assigned c = false

variable {t : Template} {e : SlotEvent} {c : NodeId}

theorem assigned_eq_any (t : Template) (c : NodeId) :
    t.assigned c = (t.node? c).any (·.isAssigned) := by
  cases c with
  | value i =>
    rw [assigned, node?]
    cases t.values[i]? <;> rfl
  | operator i =>
    rw [assigned, node?]
    cases t.operators[i]? <;> rfl

/-- An empty slot is not locked. -/
theorem isLockedAt_eq_false_of_empty (h : t.assigned c = false) : t.isLockedAt c = false := by
  rw [assigned_eq_any] at h
  rw [isLockedAt]
  cases hn : t.node? c with
  | none => rfl
  | some n =>
    rw [hn] at h
    exact Node.isLocked_eq_false_of_empty h

/-- The order of evaluation is a matter of the frame alone. -/
theorem SameFrame.ids_treeWithin {t u : Template} (h : t.SameFrame u) (depth : Nat)
    (id : NodeId) : (u.treeWithin depth id).ids = (t.treeWithin depth id).ids := by
  have hleaf (depth i : Nat) (v : Template) :
      (v.treeWithin depth (.value i)).ids = [.value i] := by
    unfold treeWithin
    split <;> rfl
  induction depth generalizing id with
  | zero =>
    cases id with
    | value i => rw [hleaf, hleaf]
    | operator i => rfl
  | succ depth ih =>
    cases id with
    | value i => rw [hleaf, hleaf]
    | operator i =>
      have hwires : u.operators[i]?.map OperatorNode.wires =
          t.operators[i]?.map OperatorNode.wires := by
        have hi := congrArg (·[i]?) h.wiring
        simpa [TritPuzzle.wiring] using hi
      cases hn : t.operators[i]? with
      | none =>
        have hm : u.operators[i]? = none := by simpa [hn] using hwires
        simp [treeWithin, hn, hm]
      | some n =>
        rw [hn, Option.map_some] at hwires
        obtain ⟨m, hm, hw⟩ := Option.map_eq_some_iff.mp hwires
        have hleft : m.left = n.left := congrArg Prod.fst hw
        have hright : m.right = n.right := congrArg Prod.snd hw
        cases hr : n.right with
        | none =>
          rw [treeWithin_unary hn hr, treeWithin_unary hm (hright.trans hr), Tree.ids, Tree.ids,
            hleft, ih]
        | some r =>
          rw [treeWithin_binary hn hr, treeWithin_binary hm (hright.trans hr), Tree.ids, Tree.ids,
            hleft, ih, ih]

theorem SameFrame.order_eq {t u : Template} (h : t.SameFrame u) : u.order = t.order := by
  rw [order, tree, h.root, h.length_operators, h.ids_treeWithin]
  rfl

namespace Arboreal

/-- **An error names the first empty slot**, and that slot is not locked. -/
theorem firstEmpty_of_evalAt (h : t.Arboreal) (hfits : t.Fits) {id : NodeId} (hid : t.Has id)
    {err : EvalError} (herr : t.evalAt id = .error err) :
    ∃ c, t.FirstEmpty id c ∧ err = .empty c ∧ t.isLockedAt c = false := by
  have hT := h.unfolds_tree hid
  obtain ⟨c, hfind, rfl⟩ := (hT.eval_eq_error_iff hfits).mp herr
  obtain ⟨hempty, before, after, hids, hbefore⟩ := List.find?_eq_some_iff_append.mp hfind
  have hc : t.assigned c = false := by simpa using hempty
  refine ⟨c, ⟨_, before, after, hT, hids, ?_, hc⟩, rfl, isLockedAt_eq_false_of_empty hc⟩
  intro b hb
  simpa using hbefore b hb

theorem nodup_order (h : t.Arboreal) : t.order.Nodup := h.nodup_ids (h.unfolds_tree h.has_root)

theorem mem_order_iff (h : t.Arboreal) : c ∈ t.order ↔ t.Has c :=
  h.mem_ids_root_iff (h.unfolds_tree h.has_root)

theorem has_of_mem_empties (h : t.Arboreal) (hc : c ∈ t.empties) : t.Has c :=
  h.mem_order_iff.mp (List.mem_of_mem_filter hc)

/-- **The evaluation of the whole puzzle fails at the first of its empty slots.** -/
theorem eval_eq_error_iff (h : t.Arboreal) (hfits : t.Fits) {err : EvalError} :
    t.eval = .error err ↔ ∃ c, t.empties.head? = some c ∧ err = .empty c := by
  rw [eval, evalAt, (h.unfolds_tree h.has_root).eval_eq_error_iff hfits, empties, order,
    List.head?_filter]

theorem isComplete_iff_empties (h : t.Arboreal) : t.isComplete = true ↔ t.empties = [] := by
  rw [isComplete_iff, empties, List.filter_eq_nil_iff]
  constructor
  · intro hall c hc
    simp [hall c (h.mem_order_iff.mp hc)]
  · intro hall c hc
    simpa using hall c (h.mem_order_iff.mpr hc)

/-- **The list of the empty slots is as long as there are empty slots in the two lists.** -/
theorem length_empties (h : t.Arboreal) : t.empties.length = t.emptyCount := by
  have hperm : t.order.Perm (addresses t.values.length t.operators.length) := by
    refine (List.perm_ext_iff_of_nodup h.nodup_order (nodup_addresses _ _)).mpr fun c => ?_
    rw [h.mem_order_iff, mem_addresses]
  rw [empties, ← List.countP_eq_length_filter, hperm.countP_eq, addresses, List.countP_append,
    List.countP_map, List.countP_map, emptyCount, ← countP_range_getElem?,
    ← countP_range_getElem? (fun n : OperatorNode => n.slot.isAssigned)]
  rfl

end Arboreal

/-! ### One round -/

/-- The event sets the slot at an address to a content that fits there. -/
inductive Supplies (t : Template) : NodeId → SlotEvent → Prop
  /-- A leaf takes any trit. -/
  | value (i : Nat) (x : Trit) : Supplies t (.value i) (.setValue i x)
  /-- An inner node takes any operator with as many operands as it has children. -/
  | operator {i : Nat} {n : OperatorNode} {op : Operator} (hn : t.operators[i]? = some n)
      (hfit : op.arity = n.arity) : Supplies t (.operator i) (.setOperator i op)

theorem exists_supplies (hc : t.Has c) : ∃ e, t.Supplies c e := by
  cases c with
  | value i => exact ⟨_, .value i .false⟩
  | operator i =>
    exact ⟨_, .operator (List.getElem?_eq_getElem hc) (Operator.arity_firstOf _)⟩

namespace Supplies

theorem target_eq (h : t.Supplies c e) : e.target = c := by
  cases h <;> rfl

theorem not_misfits (h : t.Supplies c e) (err : SlotError) : ¬ e.Misfits t err := by
  rintro ⟨i, op, n, rfl, hn, hmisfit, -⟩
  cases h with
  | operator hn' hfit =>
    obtain rfl := Option.some.inj (hn.symm.trans hn')
    exact hmisfit hfit

/-- What fits an empty slot is applied. -/
theorem outcome_eq (h : t.Supplies c e) (hc : t.Has c) (hopen : t.isLockedAt c = false) :
    t.outcome e = .ok (.applied e.target) := by
  have htarget := h.target_eq
  refine outcome_eq_ok_iff.mpr (Or.inr ⟨?_, ?_, h.not_misfits, rfl⟩)
  · rwa [htarget]
  · rwa [htarget]

/-- The slot has a content afterwards. -/
theorem assigned_afterEvent (h : t.Supplies c e) (hc : t.Has c) :
    (t.afterEvent e).assigned c = true := by
  have hnode := t.node?_afterEvent e
  rw [h.target_eq] at hnode
  rw [assigned_eq_any, hnode]
  cases h with
  | value i x =>
    rw [node?, List.getElem?_eq_getElem hc, Option.map_some, Option.map_some,
      SlotEvent.refilled_setValue]
    exact Slot.isAssigned_overwritten _ x
  | operator hn hfit =>
    rw [node?, hn, Option.map_some, Option.map_some, SlotEvent.refilled_setOperator _ fun _ => hfit]
    exact Slot.isAssigned_overwritten _ _

/-- Filling a slot takes it off the list of the empty ones. -/
theorem empties_afterEvent (h : t.Supplies c e) (hc : t.Has c) :
    (t.afterEvent e).empties = t.empties.filter (· ≠ c) := by
  have hframe : t.SameFrame (t.afterEvent e) := t.sameFrame_afterEvents [e]
  rw [empties, empties, hframe.order_eq, List.filter_filter]
  refine List.filter_congr fun d _ => ?_
  by_cases hd : d = c
  · subst hd
    simp [h.assigned_afterEvent hc]
  · have hne : d ≠ e.target := fun heq => hd (heq.trans h.target_eq)
    rw [assigned_eq_any, node?_afterEvent_of_ne hne, ← assigned_eq_any]
    simp [hd]

end Supplies

/-- **Filling the slot that is named leaves the other empty ones**, in their order. -/
theorem Arboreal.empties_eq_cons (h : t.Arboreal) (hfits : t.Fits) {err : EvalError}
    (herr : t.eval = .error err) (hsupplies : t.Supplies err.node e) :
    t.outcome e = .ok (.applied e.target) ∧
      t.empties = e.target :: (t.afterEvent e).empties := by
  obtain ⟨c, hhead, rfl⟩ := (h.eval_eq_error_iff hfits).mp herr
  obtain ⟨rest, hrest⟩ : ∃ rest, t.empties = c :: rest := List.head?_eq_some_iff.mp hhead
  have hnode : (EvalError.empty c).node = c := by cases c <;> rfl
  rw [hnode] at hsupplies
  have hmem : c ∈ t.empties := by
    rw [hrest]
    exact List.mem_cons_self
  have hc : t.Has c := h.has_of_mem_empties hmem
  have hempty : t.assigned c = false := by simpa using (List.mem_filter.mp hmem).2
  refine ⟨hsupplies.outcome_eq hc (isLockedAt_eq_false_of_empty hempty), ?_⟩
  have hnodup : (c :: rest).Nodup := hrest ▸ h.nodup_order.filter _
  -- the slot occurs once in the list, so nothing else is taken off
  have hfilter : rest.filter (· ≠ c) = rest := by
    refine List.filter_eq_self.mpr fun d hd => ?_
    have hne : d ≠ c := fun heq => (List.nodup_cons.mp hnodup).1 (heq ▸ hd)
    simpa using hne
  rw [hsupplies.empties_afterEvent hc, hsupplies.target_eq, hrest, List.filter_cons_of_neg
    (by simp), hfilter]

/-! ### All rounds -/

/-- Every event of the list fills the slot that the evaluation names by then. -/
inductive Guided : Template → List SlotEvent → Prop
  | nil (t : Template) : Guided t []
  | cons {t : Template} {e : SlotEvent} {es : List SlotEvent} {err : EvalError}
      (hnamed : t.eval = .error err) (hsupplies : t.Supplies err.node e)
      (hrest : Guided (t.afterEvent e) es) : Guided t (e :: es)

theorem Guided.append {es fs : List SlotEvent} (hes : t.Guided es)
    (hfs : (t.afterEvents es).Guided fs) : t.Guided (es ++ fs) := by
  induction hes with
  | nil t => exact hfs
  | cons hnamed hsupplies _ ih => exact .cons hnamed hsupplies (ih hfs)

/-- **What a guided list of events has filled, and what is left**: every event is applied,
and their slots are the first ones of the list of the empty slots. -/
theorem Guided.empties_eq_append {es : List SlotEvent} (hes : t.Guided es) (h : t.Arboreal)
    (hfits : t.Fits) :
    (t.outcomes es = es.map fun e => (e, .ok (.applied e.target))) ∧
      t.empties = es.map SlotEvent.target ++ (t.afterEvents es).empties := by
  induction hes with
  | nil t => exact ⟨rfl, rfl⟩
  | @cons t e es err hnamed hsupplies _ ih =>
    obtain ⟨hfirst, hcons⟩ := h.empties_eq_cons hfits hnamed hsupplies
    obtain ⟨hrest, happend⟩ := ih (h.play [.event e]) (fits_play hfits [.event e])
    constructor
    · rw [outcomes_cons, List.map_cons, hfirst, hrest]
    · rw [hcons, happend, List.map_cons, List.cons_append, afterEvents_cons]

/-- A guided list of events can be continued until the puzzle is complete. -/
theorem Arboreal.exists_guided (h : t.Arboreal) (hfits : t.Fits) :
    ∃ es, t.Guided es ∧ (t.afterEvents es).isComplete = true := by
  -- induction on the number of empty slots
  induction hcount : t.empties.length generalizing t with
  | zero => exact ⟨[], .nil t, h.isComplete_iff_empties.mpr (List.length_eq_zero_iff.mp hcount)⟩
  | succ count ih =>
    obtain ⟨c, rest, hrest⟩ := List.exists_cons_of_length_eq_add_one hcount
    have hnamed : t.eval = .error (.empty c) :=
      (h.eval_eq_error_iff hfits).mpr ⟨c, by rw [hrest, List.head?_cons], rfl⟩
    have hnode : (EvalError.empty c).node = c := by cases c <;> rfl
    have hc : t.Has c := h.has_of_mem_empties (hrest ▸ List.mem_cons_self)
    obtain ⟨e, he⟩ := exists_supplies hc
    rw [← hnode] at he
    obtain ⟨-, hcons⟩ := h.empties_eq_cons hfits hnamed he
    have hlength : (t.afterEvent e).empties.length = count := by
      rw [hcons, List.length_cons] at hcount
      omega
    obtain ⟨es, hes, hcomplete⟩ :=
      ih (h.play [.event e]) (fits_play hfits [.event e]) hlength
    exact ⟨e :: es, .cons hnamed he hes, hcomplete⟩

/-- **A guided player moves forward and is done in time.**  In every puzzle in play an error
names the first empty slot under the node, which is not locked.  A player who keeps filling
the slot that the evaluation of the puzzle names, with anything that fits there, has every
event applied, comes to the empty slots one after the other in the order of evaluation, and
has completed the puzzle after exactly as many events as there were empty slots; until then
there is a slot that is named, and anything that fits there will do. -/
theorem guided_of_inPlay {t : Template} (h : t.InPlay) :
    (∀ id err, t.Has id → t.evalAt id = .error err →
      ∃ c, t.FirstEmpty id c ∧ err = .empty c ∧ t.isLockedAt c = false) ∧
    ∀ es, t.Guided es →
      (t.outcomes es = es.map fun e => (e, .ok (.applied e.target))) ∧
      es.map SlotEvent.target <+: t.empties ∧
      ((es.map SlotEvent.target).Pairwise fun c d => t.order.idxOf c < t.order.idxOf d) ∧
      ((t.afterEvents es).isComplete = true ↔ es.length = t.emptyCount) ∧
      ((t.afterEvents es).isComplete = false → ∃ err, (t.afterEvents es).eval = .error err ∧
        ∀ e, (t.afterEvents es).Supplies err.node e → t.Guided (es ++ [e])) ∧
      ∃ fs, t.Guided (es ++ fs) ∧ (t.afterEvents (es ++ fs)).isComplete = true := by
  have htree := h.arboreal
  refine ⟨fun id err hid herr => htree.firstEmpty_of_evalAt h.fits hid herr, fun es hes => ?_⟩
  obtain ⟨houtcomes, happend⟩ := hes.empties_eq_append htree h.fits
  have hfront : es.map SlotEvent.target <+: t.empties := ⟨_, happend.symm⟩
  have hafter : (t.afterEvents es).Arboreal := htree.of_sameFrame (t.sameFrame_afterEvents es)
  have hfits : (t.afterEvents es).Fits := by
    rw [afterEvents_eq_play]
    exact fits_play h.fits _
  have hsorted := pairwise_idxOf_of_nodup htree.nodup_order
  have hcount : es.length + (t.afterEvents es).empties.length = t.emptyCount := by
    rw [← htree.length_empties, happend, List.length_append, List.length_map]
  obtain ⟨fs, hfs, hcomplete⟩ := hafter.exists_guided hfits
  refine ⟨houtcomes, hfront, hsorted.sublist (hfront.sublist.trans List.filter_sublist), ?_,
    fun hincomplete => ?_, fs, hes.append hfs, ?_⟩
  · rw [hafter.isComplete_iff_empties, ← List.length_eq_zero_iff]
    omega
  · obtain ⟨err, herr⟩ : ∃ err, (t.afterEvents es).eval = .error err := by
      cases heval : (t.afterEvents es).eval with
      | error err => exact ⟨err, rfl⟩
      | ok x =>
        rw [(hafter.isComplete_iff_eval hfits).mpr ⟨x, heval⟩] at hincomplete
        simp at hincomplete
    exact ⟨err, herr, fun e he => hes.append (.cons herr he (.nil _))⟩
  · rwa [afterEvents, List.foldl_append]

/-- A binary node that is empty, over an empty negation and a locked disjunction with an
empty leaf, all listed backwards: the disjunction is incomplete because of that leaf, and a
guided player comes to it last. -/
theorem guided_of_inPlay_backwards :
    let steps : List AssemblyStep := [.openValue, .lockedValue .true, .openValue,
      .operator .unset (.value 0) none,
      .operator (.locked .or) (.value 1) (some (.value 2)),
      .operator .unset (.operator 0) (some (.operator 1))]
    let t : Template := {
      root := .operator 0
      answer := .true
      values := [.unset, .locked .true, .unset]
      operators := [{ slot := .unset, left := .operator 2, right := some (.operator 1) },
        { slot := .locked .or, left := .value 1, right := some (.value 0) },
        { slot := .unset, left := .value 2, right := none }] }
    let es : List SlotEvent := [.setOperator 0 .and, .setOperator 2 .not, .setValue 2 .neutral]
    (Assembly.run steps).finishListed (.operator 2) .true [.value 2, .value 1, .value 0]
        [.operator 2, .operator 1, .operator 0] = .ok t ∧
      t.evalAt (.operator 1) = .error (.emptyValue (.value 0)) ∧
      t.FirstEmpty (.operator 1) (.value 0) ∧ t.isLockedAt (.value 0) = false ∧
      t.Guided es ∧ (t.outcomes es = es.map fun e => (e, .ok (.applied e.target))) ∧
      es.map SlotEvent.target <+: t.empties ∧ t.emptyCount = 4 ∧
      (t.afterEvents es).isComplete = false ∧ t.Guided (es ++ [.setValue 0 .false]) ∧
      (t.afterEvents (es ++ [.setValue 0 .false])).isComplete = true := by
  intro steps t es
  have hlisted : (Assembly.run steps).finishListed (.operator 2) .true
      [.value 2, .value 1, .value 0] [.operator 2, .operator 1, .operator 0] = .ok t := by decide
  obtain ⟨hnames, hguided⟩ := guided_of_inPlay ((Built.finishListed hlisted).inPlay [])
  have herr : t.evalAt (.operator 1) = .error (.emptyValue (.value 0)) := by decide
  obtain ⟨c, hleaf, hc, hopen⟩ := hnames (.operator 1) _ (show 1 < 3 by decide) herr
  obtain rfl : c = .value 0 := by
    cases c with
    | value i => exact (EvalError.emptyValue.inj hc).symm
    | operator i => simp [EvalError.empty] at hc
  have hfirst : t.eval = .error (.emptyOperator (.operator 0)) := by decide
  have hsecond : (t.afterEvent (.setOperator 0 .and)).eval =
      .error (.emptyOperator (.operator 2)) := by decide
  have hthird : ((t.afterEvent (.setOperator 0 .and)).afterEvent (.setOperator 2 .not)).eval =
      .error (.emptyValue (.value 2)) := by decide
  have hes : t.Guided es :=
    .cons hfirst (.operator rfl rfl) (.cons hsecond (.operator rfl rfl)
      (.cons hthird (.value 2 .neutral) (.nil _)))
  obtain ⟨houtcomes, hfront, -, hdone, hnext, -⟩ := hguided es hes
  have hincomplete : (t.afterEvents es).isComplete = false := by decide
  obtain ⟨err, herr', hadd⟩ := hnext hincomplete
  have hnamed : (t.afterEvents es).eval = .error (.emptyValue (.value 0)) := by decide
  obtain rfl := Except.error.inj (herr'.symm.trans hnamed)
  have hlast : t.Guided (es ++ [.setValue 0 .false]) := hadd _ (.value 0 .false)
  obtain ⟨-, -, -, hall, -, -⟩ := hguided _ hlast
  exact ⟨hlisted, herr, hleaf, hopen, hes, houtcomes, hfront, by decide, hincomplete, hlast,
    hall.mpr (by decide)⟩

end Template

end TritPuzzle
