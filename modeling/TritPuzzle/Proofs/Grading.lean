import Mathlib.Data.List.Forall2
import Mathlib.Data.List.Sort
import TritPuzzle.CommandLine.Report
import TritPuzzle.Proofs.Entries
import TritPuzzle.Proofs.Fields
import TritPuzzle.Proofs.Overwriting
import TritPuzzle.Proofs.Scoring

/-!
# Grading a fill

The command that checks a puzzle reads two fills, one for the leaves and one for the inner
nodes, and turns their words into events, one for each slot that a word is given for.  As the
events are for different slots, each one fares as if it were alone, and the puzzle that is
judged is the one of the catalog with every word in its slot, locked slots apart.  The exit
code then tells whether the input was good and the puzzle filled and solved.

## Main definitions

* `wordFor?` — the word that two fills have for a slot.
* `Admissible` — every word can be read, has a slot, and fits it unless the slot is locked.
* `ignoredSlots`, `lockedLine` — the locked slots for which there is a word, and what is said
  of each.

## Main results

* `applyAll_eq_ok`, `exists_applyAll_error` — when a list of events on different slots ends
  in a puzzle, and in which.
* `admissible_iff` — good input is what is read and then received without an error.
* `afterEvents_eq_overwritten` — the events put every word in its slot.
* `check_code_iff` — **the exit code of the command, and what it prints on good input.**
-/

namespace TritPuzzle

namespace CommandLine

/-! ### The words of a fill -/

/-- The word that two fills have for the slot at an address. -/
def wordFor? (values operators : String) : NodeId → Option String
  | .value i => wordAt? values i
  | .operator i => wordAt? operators i

/-- The positions with a word, in ascending order, if they are all below a bound. -/
theorem map_fillEntries {s : String} {n : Nat} (h : ∀ i w, wordAt? s i = some w → i < n) :
    (fillEntries s).map (·.1) = (List.range n).filter fun i => (wordAt? s i).isSome := by
  refine (pairwise_fillEntries s).eq_of_mem_iff (List.pairwise_lt_range.filter _) fun i => ?_
  rw [List.mem_map, List.mem_filter, List.mem_range, Option.isSome_iff_exists]
  constructor
  · rintro ⟨⟨j, w⟩, hmem, rfl⟩
    have hw := mem_fillEntries.mp hmem
    exact ⟨h _ _ hw, w, hw⟩
  · rintro ⟨-, w, hw⟩
    exact ⟨(i, w), mem_fillEntries.mpr hw, rfl⟩

/-! ### Reading both fills -/

section

variable {α β γ ε : Type} {f : α → Except ε β} {xs : List α} {ys : List β}

/-- Reading every entry of a list succeeds with the list of the results. -/
private theorem mapM_eq_ok_iff :
    xs.mapM f = .ok ys ↔ List.Forall₂ (fun x y => f x = .ok y) xs ys := by
  induction xs generalizing ys with
  | nil => simp [pure, Except.pure, eq_comm]
  | cons x xs ih =>
    rw [List.mapM_cons, List.forall₂_cons_left_iff]
    cases hx : f x with
    | error e => simp [bind, Except.bind]
    | ok y =>
      cases hxs : xs.mapM f with
      | error e => simp [bind, Except.bind, ← ih, hxs]
      | ok ys' => simp [bind, Except.bind, pure, Except.pure, ← ih, hxs, eq_comm]

/-- Reading every entry of a list succeeds when each of them can be read. -/
private theorem exists_mapM_eq_ok_iff :
    (∃ ys, xs.mapM f = .ok ys) ↔ ∀ x ∈ xs, ∃ y, f x = .ok y := by
  simp only [mapM_eq_ok_iff]
  induction xs with
  | nil => simp
  | cons x xs ih =>
    rw [List.forall_mem_cons, ← ih]
    simp [List.forall₂_cons_left_iff]

/-- The results are those of the entries. -/
private theorem mem_iff_of_mapM_eq_ok (h : xs.mapM f = .ok ys) (y : β) :
    y ∈ ys ↔ ∃ x ∈ xs, f x = .ok y := by
  rw [mapM_eq_ok_iff] at h
  induction h with
  | nil => simp
  | cons hx _ ih => simp [ih, hx, eq_comm]

/-- What can be told of a result from its entry. -/
private theorem map_eq_of_mapM_eq_ok (h : xs.mapM f = .ok ys) {g : β → γ} {k : α → γ}
    (hg : ∀ x y, f x = .ok y → g y = k x) : ys.map g = xs.map k := by
  rw [mapM_eq_ok_iff] at h
  induction h with
  | nil => rfl
  | cons hx _ ih => rw [List.map_cons, List.map_cons, hg _ _ hx, ih]

end

/-- The event puts a word of one of the fills in its slot. -/
inductive FillEvent (values operators : String) : SlotEvent → Prop
  /-- A leaf gets the trit that its word stands for. -/
  | setValue {i : Nat} {w : String} {x : Trit} (hw : wordAt? values i = some w)
      (hx : Trit.read w = .ok x) : FillEvent values operators (.setValue i x)
  /-- An inner node gets the operator that its word stands for. -/
  | setOperator {i : Nat} {w : String} {op : Operator} (hw : wordAt? operators i = some w)
      (hop : Operator.read w = .ok op) : FillEvent values operators (.setOperator i op)

/-- The slots for which there is a word, leaves first. -/
def fillTargets (values operators : String) : List NodeId :=
  ((fillEntries values).map (·.1)).map .value ++ ((fillEntries operators).map (·.1)).map .operator

theorem readValue_eq_ok_iff {f : Nat × String} {e : SlotEvent} :
    readValue f = .ok e ↔ ∃ x, Trit.read f.2 = .ok x ∧ e = .setValue f.1 x := by
  unfold readValue
  cases Trit.read f.2 <;> simp [eq_comm]

theorem readOperator_eq_ok_iff {f : Nat × String} {e : SlotEvent} :
    readOperator f = .ok e ↔ ∃ op, Operator.read f.2 = .ok op ∧ e = .setOperator f.1 op := by
  unfold readOperator
  cases Operator.read f.2 <;> simp [eq_comm]

section

variable {values operators : String} {es : List SlotEvent}

theorem readFill_eq_ok_iff :
    readFill values operators = .ok es ↔ ∃ vs os, (fillEntries values).mapM readValue = .ok vs ∧
      (fillEntries operators).mapM readOperator = .ok os ∧ es = vs ++ os := by
  unfold readFill
  cases (fillEntries values).mapM readValue with
  | error e => simp [bind, Except.bind]
  | ok vs =>
    cases (fillEntries operators).mapM readOperator with
    | error e => simp [bind, Except.bind]
    | ok os => simp [bind, Except.bind, pure, Except.pure, eq_comm]

/-- Two fills can be read when each of their words can. -/
theorem exists_readFill_iff :
    (∃ es, readFill values operators = .ok es) ↔
      (∀ i w, wordAt? values i = some w → ∃ x, Trit.read w = .ok x) ∧
      ∀ i w, wordAt? operators i = some w → ∃ op, Operator.read w = .ok op := by
  have hvalues : (∃ vs, (fillEntries values).mapM readValue = .ok vs) ↔
      ∀ i w, wordAt? values i = some w → ∃ x, Trit.read w = .ok x := by
    simp [exists_mapM_eq_ok_iff, mem_fillEntries, readValue_eq_ok_iff]
  have hoperators : (∃ os, (fillEntries operators).mapM readOperator = .ok os) ↔
      ∀ i w, wordAt? operators i = some w → ∃ op, Operator.read w = .ok op := by
    simp [exists_mapM_eq_ok_iff, mem_fillEntries, readOperator_eq_ok_iff]
  rw [← hvalues, ← hoperators]
  constructor
  · rintro ⟨es, hes⟩
    obtain ⟨vs, os, hvs, hos, -⟩ := readFill_eq_ok_iff.mp hes
    exact ⟨⟨vs, hvs⟩, ⟨os, hos⟩⟩
  · rintro ⟨⟨vs, hvs⟩, ⟨os, hos⟩⟩
    exact ⟨vs ++ os, readFill_eq_ok_iff.mpr ⟨vs, os, hvs, hos, rfl⟩⟩

/-- The events are for the slots with a word, in their order. -/
theorem map_target_of_readFill (h : readFill values operators = .ok es) :
    es.map SlotEvent.target = fillTargets values operators := by
  obtain ⟨vs, os, hvs, hos, rfl⟩ := readFill_eq_ok_iff.mp h
  rw [List.map_append, fillTargets, List.map_map, List.map_map]
  congr 1
  · refine map_eq_of_mapM_eq_ok hvs fun f e he => ?_
    obtain ⟨x, -, rfl⟩ := readValue_eq_ok_iff.mp he
    rfl
  · refine map_eq_of_mapM_eq_ok hos fun f e he => ?_
    obtain ⟨op, -, rfl⟩ := readOperator_eq_ok_iff.mp he
    rfl

/-- The events are those that put a word in its slot. -/
theorem mem_of_readFill (h : readFill values operators = .ok es) (e : SlotEvent) :
    e ∈ es ↔ FillEvent values operators e := by
  obtain ⟨vs, os, hvs, hos, rfl⟩ := readFill_eq_ok_iff.mp h
  rw [List.mem_append, mem_iff_of_mapM_eq_ok hvs, mem_iff_of_mapM_eq_ok hos]
  constructor
  · rintro (⟨⟨i, w⟩, hmem, he⟩ | ⟨⟨i, w⟩, hmem, he⟩)
    · obtain ⟨x, hx, rfl⟩ := readValue_eq_ok_iff.mp he
      exact .setValue (mem_fillEntries.mp hmem) hx
    · obtain ⟨op, hop, rfl⟩ := readOperator_eq_ok_iff.mp he
      exact .setOperator (mem_fillEntries.mp hmem) hop
  · rintro (⟨hw, hx⟩ | ⟨hw, hop⟩)
    · exact Or.inl ⟨_, mem_fillEntries.mpr hw, readValue_eq_ok_iff.mpr ⟨_, hx, rfl⟩⟩
    · exact Or.inr ⟨_, mem_fillEntries.mpr hw, readOperator_eq_ok_iff.mpr ⟨_, hop, rfl⟩⟩

theorem mem_fillTargets {id : NodeId} :
    id ∈ fillTargets values operators ↔ ∃ w, wordFor? values operators id = some w := by
  cases id <;> simp [fillTargets, wordFor?, mem_fillEntries]

/-- No slot gets two words. -/
theorem nodup_fillTargets (values operators : String) : (fillTargets values operators).Nodup := by
  have hpositions (s : String) : ((fillEntries s).map (·.1)).Nodup :=
    (pairwise_fillEntries s).imp Nat.ne_of_lt
  rw [fillTargets]
  refine List.Nodup.append ?_ ?_ ?_
  · exact (hpositions values).map fun i j h => NodeId.value.inj h
  · exact (hpositions operators).map fun i j h => NodeId.operator.inj h
  · intro id hv ho
    obtain ⟨i, -, rfl⟩ := List.mem_map.mp hv
    obtain ⟨j, -, hj⟩ := List.mem_map.mp ho
    simp at hj

/-- No slot gets two events. -/
theorem nodup_target_of_readFill (h : readFill values operators = .ok es) :
    (es.map SlotEvent.target).Nodup := by
  rw [map_target_of_readFill h]
  exact nodup_fillTargets values operators

end

/-! ### A list of events -/

section

variable {t : Template} {es : List SlotEvent}

theorem applyAll_cons (t : Template) (e : SlotEvent) (es : List SlotEvent) :
    applyAll t (e :: es) =
      match t.outcome e with
      | .error err => ([], .error err)
      | .ok (.applied _) => applyAll (t.afterEvent e) es
      | .ok (.ignored id) =>
        (id :: (applyAll (t.afterEvent e) es).1, (applyAll (t.afterEvent e) es).2) := by
  rw [applyAll, Template.outcome, Template.afterEvent]
  cases t.apply e with
  | error err => rfl
  | ok r => cases r with | mk o u => cases o <;> rfl

/-- **A list of events on different slots without an error** ignores the locked ones among
them and leaves the puzzle that they leave in any order. -/
theorem applyAll_eq_ok (hnodup : (es.map SlotEvent.target).Nodup)
    (h : ∀ e ∈ es, ∃ o, t.outcome e = .ok o) :
    applyAll t es =
      ((es.map SlotEvent.target).filter (t.isLockedAt ·), .ok (t.afterEvents es)) := by
  induction es generalizing t with
  | nil => rfl
  | cons e es ih =>
    have hrest : ∀ f ∈ es, ∃ o, (t.afterEvent e).outcome f = .ok o := by
      intro f hf
      rw [Template.outcome_afterEvent_of_nodup hnodup hf]
      exact h f (List.mem_cons_of_mem e hf)
    have hlocks : (fun id => (t.afterEvent e).isLockedAt id) = fun id => t.isLockedAt id :=
      funext fun id => t.isLockedAt_afterEvent e id
    have ih := ih (List.nodup_cons.mp hnodup).2 hrest
    rw [hlocks] at ih
    obtain ⟨o, ho⟩ := h e List.mem_cons_self
    rw [applyAll_cons, ho, ih, List.map_cons]
    rcases Template.outcome_eq_ok_iff.mp ho with ⟨hlocked, rfl⟩ | ⟨-, hopen, -, rfl⟩
    · rw [List.filter_cons_of_pos hlocked, Template.afterEvents_cons]
    · rw [List.filter_cons_of_neg (by simp [hopen]), Template.afterEvents_cons]

/-- A list of events on different slots ends with an error if one of them is one. -/
theorem exists_applyAll_error (hnodup : (es.map SlotEvent.target).Nodup)
    (h : ∃ e ∈ es, ∀ o, t.outcome e ≠ .ok o) :
    ∃ ids err, applyAll t es = (ids, .error err) := by
  induction es generalizing t with
  | nil => simp at h
  | cons e es ih =>
    rw [applyAll_cons]
    cases ho : t.outcome e with
    | error err => exact ⟨[], err, rfl⟩
    | ok o =>
      -- the error is that of a later event
      obtain ⟨f, hf, hfail⟩ := h
      have hlater : f ∈ es := by
        rcases List.mem_cons.mp hf with rfl | hf
        · exact absurd ho (hfail o)
        · exact hf
      have hrest : ∃ f ∈ es, ∀ o, (t.afterEvent e).outcome f ≠ .ok o :=
        ⟨f, hlater, by rwa [Template.outcome_afterEvent_of_nodup hnodup hlater]⟩
      obtain ⟨ids, err, hids⟩ := ih (List.nodup_cons.mp hnodup).2 hrest
      cases o with
      | applied id => exact ⟨ids, err, hids⟩
      | ignored id => exact ⟨id :: ids, err, by rw [hids]⟩

end

/-! ### Good input -/

/-- Is the input good?  Every word can be read and has a slot, and an operator fits its
node unless that is locked. -/
structure Admissible (t : Template) (values operators : String) : Prop where
  /-- Every word for a leaf is a trit. -/
  values_read : ∀ i w, wordAt? values i = some w → ∃ x, Trit.read w = .ok x
  /-- Every word for an inner node is an operator. -/
  operators_read : ∀ i w, wordAt? operators i = some w → ∃ op, Operator.read w = .ok op
  /-- Every word has a slot. -/
  has_slot : ∀ id w, wordFor? values operators id = some w → t.Has id
  /-- An operator for an inner node that is not locked takes as many operands as there are
  children. -/
  fits : ∀ i w op n, wordAt? operators i = some w → Operator.read w = .ok op →
    t.operators[i]? = some n → n.slot.isLocked = false → op.arity = n.arity

/-- The trit that a fill has for the leaf at a position. -/
def valueFor? (s : String) (i : Nat) : Option Trit :=
  (wordAt? s i).bind fun w => (Trit.read w).toOption

/-- The operator that a fill has for the inner node at a position. -/
def operatorFor? (s : String) (i : Nat) : Option Operator :=
  (wordAt? s i).bind fun w => (Operator.read w).toOption

/-- The locked slots for which there is a word: leaves first, each kind in ascending
order. -/
def ignoredSlots (t : Template) (values operators : String) : List NodeId :=
  (addresses t.values.length t.operators.length).filter fun id =>
    t.isLockedAt id && (wordFor? values operators id).isSome

section

variable {t : Template} {values operators : String} {es : List SlotEvent}

theorem wordFor?_of_fillEvent {e : SlotEvent} (h : FillEvent values operators e) :
    ∃ w, wordFor? values operators e.target = some w := by
  cases h with
  | setValue hw hx => exact ⟨_, hw⟩
  | setOperator hw hop => exact ⟨_, hw⟩

/-- **Good input is what can be read and is then received without an error.** -/
theorem admissible_iff :
    Admissible t values operators ↔
      ∃ es, readFill values operators = .ok es ∧ ∀ e ∈ es, ∃ o, t.outcome e = .ok o := by
  simp only [Template.exists_outcome_iff]
  constructor
  · intro h
    obtain ⟨es, hes⟩ := exists_readFill_iff.mpr ⟨h.values_read, h.operators_read⟩
    refine ⟨es, hes, fun e he => ?_⟩
    have hfill := (mem_of_readFill hes e).mp he
    obtain ⟨w, hw⟩ := wordFor?_of_fillEvent hfill
    refine ⟨h.has_slot _ w hw, fun hopen err hmisfit => ?_⟩
    obtain ⟨i, op, n, rfl, hn, hne, -⟩ := hmisfit
    cases hfill with
    | setOperator hw hop =>
      have hlocked : n.slot.isLocked = false := (Template.isLockedAt_operator hn).symm.trans hopen
      exact hne (h.fits i _ op n hw hop hn hlocked)
  · rintro ⟨es, hes, hok⟩
    obtain ⟨hvalues, hoperators⟩ := exists_readFill_iff.mp ⟨es, hes⟩
    have hok {e : SlotEvent} (he : FillEvent values operators e) :=
      hok e ((mem_of_readFill hes e).mpr he)
    constructor
    case values_read => exact hvalues
    case operators_read => exact hoperators
    case has_slot =>
      intro id w hw
      cases id with
      | value i =>
        obtain ⟨x, hx⟩ := hvalues i w hw
        exact (hok (.setValue hw hx)).1
      | operator i =>
        obtain ⟨op, hop⟩ := hoperators i w hw
        exact (hok (.setOperator hw hop)).1
    case fits =>
      intro i w op n hw hop hn hopen
      have hfit := (hok (.setOperator hw hop)).2 ((Template.isLockedAt_operator hn).trans hopen)
      by_contra hne
      exact hfit _ ⟨i, op, n, rfl, hn, hne, rfl⟩

/-- **The events put every word in its slot**, and change nothing else. -/
theorem afterEvents_eq_overwritten (hes : readFill values operators = .ok es)
    (h : Admissible t values operators) :
    t.afterEvents es = t.overwritten (valueFor? values) (operatorFor? operators) := by
  have hnodup := nodup_target_of_readFill hes
  have hframe : t.SameFrame (t.afterEvents es) := t.sameFrame_afterEvents es
  have huntouched {id : NodeId} (hw : wordFor? values operators id = none) :
      (t.afterEvents es).node? id = t.node? id := by
    refine Template.node?_afterEvents_of_notMem ?_
    rw [map_target_of_readFill hes, mem_fillTargets, hw]
    simp
  refine Template.ext_node? hframe.root hframe.answer fun id => ?_
  cases id with
  | value i =>
    rw [Template.node?_overwritten_value]
    cases hw : wordAt? values i with
    | none =>
      have hsame : (t.afterEvents es).node? (.value i) = t.node? (.value i) := huntouched hw
      rw [hsame, Template.node?]
      simp [valueFor?, hw]
    | some w =>
      obtain ⟨x, hx⟩ := h.values_read i w hw
      have he : SlotEvent.setValue i x ∈ es := (mem_of_readFill hes _).mpr (.setValue hw hx)
      have hvalue : valueFor? values i = some x := by simp [valueFor?, hw, hx, Except.toOption]
      calc (t.afterEvents es).node? (.value i)
          = (t.values[i]?.map .leaf).map (SlotEvent.setValue i x).refilled :=
            Template.node?_afterEvents hnodup he
        _ = t.values[i]?.map fun s => .leaf (s.overwritten (valueFor? values i)) := by
            rw [Option.map_map, hvalue]
            exact Option.map_congr fun s _ => SlotEvent.refilled_setValue i x s
  | operator i =>
    rw [Template.node?_overwritten_operator]
    cases hw : wordAt? operators i with
    | none =>
      have hsame : (t.afterEvents es).node? (.operator i) = t.node? (.operator i) := huntouched hw
      rw [hsame, Template.node?]
      simp [operatorFor?, hw]
    | some w =>
      obtain ⟨op, hop⟩ := h.operators_read i w hw
      have he : SlotEvent.setOperator i op ∈ es :=
        (mem_of_readFill hes _).mpr (.setOperator hw hop)
      have hoperator : operatorFor? operators i = some op := by
        simp [operatorFor?, hw, hop, Except.toOption]
      calc (t.afterEvents es).node? (.operator i)
          = (t.operators[i]?.map .inner).map (SlotEvent.setOperator i op).refilled :=
            Template.node?_afterEvents hnodup he
        _ = t.operators[i]?.map fun n =>
              .inner { n with slot := n.slot.overwritten (operatorFor? operators i) } := by
            rw [Option.map_map, hoperator]
            exact Option.map_congr fun n hn =>
              SlotEvent.refilled_setOperator i (h.fits i w op n hw hop hn)

/-- The slots that are ignored are the locked ones for which there is a word. -/
theorem filter_fillTargets (h : Admissible t values operators) :
    (fillTargets values operators).filter (t.isLockedAt ·) = ignoredSlots t values operators := by
  have hvalues := map_fillEntries fun i w hw => h.has_slot (.value i) w hw
  have hoperators := map_fillEntries fun i w hw => h.has_slot (.operator i) w hw
  rw [fillTargets, hvalues, hoperators, ignoredSlots, addresses]
  simp only [List.filter_append, List.filter_map, List.filter_filter]
  rfl

end

/-! ### Reports -/

/-- The line on a locked slot for which there is a word. -/
def lockedLine : NodeId → String
  | .value i => "⚠️  v" ++ toString i ++ " is locked, input ignored"
  | .operator i => "⚠️  o" ++ toString i ++ " is locked, input ignored"

theorem ignoredLine_eq_lockedLine : ignoredLine = lockedLine := by
  funext id
  cases id with
  | value i =>
    rw [ignoredLine, NodeId.text, ← String.append_assoc]
    rfl
  | operator i =>
    rw [ignoredLine, NodeId.text, ← String.append_assoc]
    rfl

/-- The last line of the report on a filled puzzle. -/
def verdictLine (u : Template) : String :=
  match u.eval with
  | .ok x =>
    if x = u.answer then "✓ Correct!"
    else "✗ Incorrect: left side is " ++ x.text ++ ", expected " ++ u.answer.text
  | .error e => "… Incomplete: " ++ e.message

/-- The report on a puzzle in play tells by its exit code whether it is filled and solved. -/
structure Reports (out : List String) (u : Template) (r : Report) : Prop where
  /-- The code zero says that the puzzle is solved. -/
  solved : r.code = 0 ↔ u.isSolved = .ok true
  /-- The code two says that a slot is empty. -/
  incomplete : r.code = 2 ↔ u.isComplete = false
  /-- There is one code besides. -/
  wrong : r.code ≠ 0 → r.code ≠ 2 → r.code = 1
  /-- The expression and the verdict come after the given lines. -/
  out : r.out = out ++ [u.written false, verdictLine u]

theorem reports_verdictReport (config : ScoringConfig) (out : List String) {u : Template}
    (h : u.InPlay) : Reports out u (verdictReport config out u) := by
  have hfilled : u.isComplete = true ↔ ∃ x, u.eval = .ok x :=
    h.arboreal.isComplete_iff_eval h.fits
  obtain ⟨v, s, hs, hjudges⟩ := Scorer.exists_judges h (Scorer.new config)
  unfold verdictReport
  rw [hs]
  cases hjudges with
  | correct hx =>
    have hsolved : u.isSolved = .ok true := by simp [Template.isSolved, hx, Except.map]
    have hcomplete : u.isComplete = true := hfilled.mpr ⟨_, hx⟩
    constructor <;> simp [success, hsolved, hcomplete, verdictLine, hx]
  | incorrect hx hne =>
    have hsolved : u.isSolved = .ok false := by simp [Template.isSolved, hx, hne, Except.map]
    have hcomplete : u.isComplete = true := hfilled.mpr ⟨_, hx⟩
    constructor <;> simp [hsolved, hcomplete, verdictLine, hx, hne]
  | incomplete he hempty =>
    have hsolved : u.isSolved ≠ .ok true := by simp [Template.isSolved, he, Except.map]
    have hcomplete : u.isComplete = false := by
      rw [← Bool.not_eq_true, hfilled, he]
      simp
    constructor <;> simp [hsolved, hcomplete, verdictLine, he]

/-- The input is good for the puzzle `t` of the catalog, which has the given name, and fills
it to `u`. -/
def Fills (name values operators : String) (t u : Template) : Prop :=
  (∃ e ∈ Catalog.entries, e.name = name ∧ e.assembled = .ok t) ∧ Admissible t values operators ∧
    u = t.overwritten (valueFor? values) (operatorFor? operators)

section

variable {name values operators : String} {t u : Template}

/-- Good input leads to the report on the filled puzzle. -/
theorem reports_of_fills (config : ScoringConfig) (h : Fills name values operators t u) :
    Reports ((ignoredSlots t values operators).map lockedLine) u
      (checkReport config name values operators) := by
  obtain ⟨hentry, hadmissible, rfl⟩ := h
  have ht : Catalog.template name = .ok t := Catalog.template_eq_ok_iff.mpr hentry
  obtain ⟨es, hes, hok⟩ := admissible_iff.mp hadmissible
  have hnodup := nodup_target_of_readFill hes
  have hafter := afterEvents_eq_overwritten hes hadmissible
  have hplay : (t.overwritten (valueFor? values) (operatorFor? operators)).InPlay := by
    rw [← hafter, Template.afterEvents_eq_play]
    exact (Catalog.built_of_template ht).inPlay _
  rw [checkReport, ht]
  simp only [hes, applyAll_eq_ok hnodup hok]
  rw [hafter, map_target_of_readFill hes, filter_fillTargets hadmissible,
    ignoredLine_eq_lockedLine]
  exact reports_verdictReport config _ hplay

/-- Bad input ends with the code one. -/
theorem code_of_not_fills (config : ScoringConfig)
    (h : ∀ t u, ¬ Fills name values operators t u) :
    (checkReport config name values operators).code = 1 := by
  rw [checkReport]
  cases ht : Catalog.template name with
  | error err => rfl
  | ok t =>
    have hbad : ¬ Admissible t values operators := fun hadmissible =>
      h t _ ⟨Catalog.template_eq_ok_iff.mp ht, hadmissible, rfl⟩
    cases hes : readFill values operators with
    | error err => rfl
    | ok es =>
      have hnodup := nodup_target_of_readFill hes
      have hfail : ∃ e ∈ es, ∀ o, t.outcome e ≠ .ok o := by
        by_contra hok
        push Not at hok
        exact hbad (admissible_iff.mpr ⟨es, hes, hok⟩)
      obtain ⟨ids, err, herr⟩ := exists_applyAll_error hnodup hfail
      simp only [herr]
      rfl

end

/-- **The exit code of the command that checks a puzzle.**  It is zero exactly when the input
is good and the puzzle, with every word in its slot unless that is locked, is solved; two
exactly when the input is good and a slot of that puzzle is still empty; and one in every
other case.  On good input the lines before the expression are about the locked slots for
which there is a word, and say that the word was ignored, leaves first and each kind in
ascending order. -/
theorem check_code_iff (config : Config) (name values operators : String) :
    ∃ r, (Command.check name values operators).respond config = .report r ∧
      (r.code = 0 ↔ ∃ t u, Fills name values operators t u ∧ u.isSolved = .ok true) ∧
      (r.code = 2 ↔ ∃ t u, Fills name values operators t u ∧ u.isComplete = false) ∧
      (r.code = 1 ↔ ∀ t u, Fills name values operators t u →
        u.isSolved ≠ .ok true ∧ u.isComplete = true) ∧
      ∀ t u, Fills name values operators t u →
        r.out = (ignoredSlots t values operators).map lockedLine ++
          [u.written false, verdictLine u] := by
  have hreports {t u : Template} (h : Fills name values operators t u) :=
    reports_of_fills config.scoring h
  refine ⟨checkReport config.scoring name values operators, rfl, ?_⟩
  generalize hr : checkReport config.scoring name values operators = r at hreports ⊢
  by_cases hgood : ∃ t u, Fills name values operators t u
  · obtain ⟨t, u, h⟩ := hgood
    refine ⟨?_, ?_, ?_, fun _ _ h => (hreports h).out⟩
    · constructor
      · exact fun hcode => ⟨t, u, h, (hreports h).solved.mp hcode⟩
      · rintro ⟨t', u', h', hsolved⟩
        exact (hreports h').solved.mpr hsolved
    · constructor
      · exact fun hcode => ⟨t, u, h, (hreports h).incomplete.mp hcode⟩
      · rintro ⟨t', u', h', hincomplete⟩
        exact (hreports h').incomplete.mpr hincomplete
    · constructor
      · intro hcode t' u' h'
        rw [ne_eq, ← (hreports h').solved, ← Bool.not_eq_false, ← (hreports h').incomplete, hcode]
        simp
      · intro hwrong
        obtain ⟨hsolved, hcomplete⟩ := hwrong t u h
        refine (hreports h).wrong (fun hcode => hsolved ((hreports h).solved.mp hcode)) ?_
        intro hcode
        rw [(hreports h).incomplete.mp hcode] at hcomplete
        simp at hcomplete
  · have hbad (t u : Template) : ¬ Fills name values operators t u := fun h => hgood ⟨t, u, h⟩
    have hcode : r.code = 1 := hr ▸ code_of_not_fills config.scoring hbad
    simp [hcode, hbad]

/-- Words for locked slots do no harm. -/
theorem check_code_iff_neutral_or_x :
    ∃ r t u, (Command.check "neutral-or-x" "0, 2" "not").respond .standard = .report r ∧
      Fills "neutral-or-x" "0, 2" "not" t u ∧ u.isSolved = .ok true ∧ r.code = 0 ∧
      r.out = ["⚠️  v0 is locked, input ignored", "⚠️  o0 is locked, input ignored",
        "1 OR 2 = 2", "✓ Correct!"] := by
  obtain ⟨r, hr, hcorrect, -, -, hout⟩ := check_code_iff .standard "neutral-or-x" "0, 2" "not"
  let t : Template := {
    root := .operator 0
    answer := .true
    values := [.locked .neutral, .unset]
    operators := [{ slot := .locked .or, left := .value 0, right := some (.value 1) }] }
  let es : List SlotEvent := [.setValue 0 .false, .setValue 1 .true, .setOperator 0 .not]
  have hread : readFill "0, 2" "not" = .ok es := by decide
  have hreceived : ∀ e ∈ es, ∃ o, t.outcome e = .ok o := by
    simp only [es, List.forall_mem_cons]
    exact ⟨⟨_, rfl⟩, ⟨_, rfl⟩, ⟨_, rfl⟩, nofun⟩
  have hfills : Fills "neutral-or-x" "0, 2" "not" t
      (t.overwritten (valueFor? "0, 2") (operatorFor? "not")) :=
    ⟨Catalog.template_eq_ok_iff.mp (by decide), admissible_iff.mpr ⟨es, hread, hreceived⟩, rfl⟩
  have hsolved : (t.overwritten (valueFor? "0, 2") (operatorFor? "not")).isSolved = .ok true := by
    decide
  refine ⟨r, t, _, hr, hfills, hsolved, hcorrect.mpr ⟨_, _, hfills, hsolved⟩, ?_⟩
  rw [hout _ _ hfills]
  decide

/-- The same word is bad input where the slot is open and does not take it. -/
example : (checkReport .standard "neutral-or-x-unlocked" "?,2" "not").code = 1 := by decide

end CommandLine

end TritPuzzle
