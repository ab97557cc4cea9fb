import Mathlib.Data.List.Rotate
import TritPuzzle.Proofs.Hosting
import TritPuzzle.Screen.Draw

/-!
# The cursor and the list of slots

The cursor, the slot that is selected and the lines of the list of slots each count the
slots of the puzzle in play on their own.  All three follow one enumeration: the leaves
in order, then the inner nodes.

## Main definitions

* `Template.slotIds` — the enumeration.
* `Node.row` — the line for a slot.

## Main results

* `selected?_eq_getElem?` — the cursor is an index into the enumeration.
* `getElem?_slotRows` — so are the lines of the list.
* `moveBack_moveForward`, `moveForward_moveBack` — the two moves undo each other.
* `map_selected?_eq_rotate` — going round once, the cursor visits the enumeration.
* `cursor_follows_slotIds` — **the cursor, the selection and the list agree**, and without
  a slot under the cursor nothing is played.
-/

namespace TritPuzzle

/-! ### The enumeration -/

namespace Template

/-- The slots in order, the leaves before the inner nodes. -/
def slotIds (t : Template) : List NodeId := addresses t.values.length t.operators.length

@[simp] theorem length_slotIds (t : Template) : t.slotIds.length = t.slotCount := by
  simp [slotIds, addresses, slotCount]

theorem nodup_slotIds (t : Template) : t.slotIds.Nodup := nodup_addresses _ _

/-- A leaf stands at its own position. -/
theorem getElem?_slotIds_of_lt {t : Template} {i : Nat} (h : i < t.values.length) :
    t.slotIds[i]? = some (.value i) := by
  rw [slotIds, addresses, List.getElem?_append_left (by simpa using h)]
  simp [h]

/-- An inner node stands behind all leaves. -/
theorem getElem?_slotIds_add {t : Template} (j : Nat) :
    t.slotIds[t.values.length + j]? =
      if j < t.operators.length then some (.operator j) else none := by
  rw [slotIds, addresses, List.getElem?_append_right (by simp)]
  simp only [List.length_map, List.length_range, Nat.add_sub_cancel_left, List.getElem?_map]
  split
  · next h => rw [List.getElem?_range h, Option.map_some]
  · next h => rw [List.getElem?_eq_none (by simpa using h), Option.map_none]

/-- There is a node at every address of the enumeration. -/
theorem exists_node?_of_getElem?_slotIds {t : Template} {i : Nat} {id : NodeId}
    (h : t.slotIds[i]? = some id) : ∃ n, t.node? id = some n := by
  have hid : t.Has id := mem_addresses.mp (List.mem_of_getElem? h)
  cases id with
  | value i => exact ⟨_, by rw [node?, List.getElem?_eq_getElem hid]; rfl⟩
  | operator i => exact ⟨_, by rw [node?, List.getElem?_eq_getElem hid]; rfl⟩

theorem getElem?_slotIds_eq_none_iff {t : Template} {i : Nat} :
    t.slotIds[i]? = none ↔ t.slotCount ≤ i := by
  rw [List.getElem?_eq_none_iff, length_slotIds]

end Template

/-! ### The lines of the list -/

namespace Slot

variable {α : Type}

/-- The content of a slot and whether it is locked, as the list shows them. -/
def shown (word : α → String) (s : Slot α) : String :=
  (s.content?.map word).getD emptyMark ++ if s.isLocked then " (locked)" else ""

/-- The look of the line for a slot. -/
def look (s : Slot α) (marked : Bool) : Style :=
  if marked then .boldYellow else if s.isLocked then .darkGray else .white

/-- The text of the line for a slot: a mark or two blanks, the address, and what the slot
holds. -/
def line (word : α → String) (id : NodeId) (marked : Bool) (s : Slot α) : String :=
  (if marked then "▶ " else "  ") ++ id.text ++ ": " ++ s.shown word

end Slot

namespace Node

/-- The text of the line for a node. -/
def line (id : NodeId) (marked : Bool) : Node → String
  | .leaf s => s.line Trit.text id marked
  | .inner n => n.slot.line Operator.keyword id marked

/-- The look of the line for a node. -/
def look (marked : Bool) : Node → Style
  | .leaf s => s.look marked
  | .inner n => n.slot.look marked

/-- The line for a node. -/
def row (id : NodeId) (marked : Bool) (n : Node) : Row :=
  uniformRow (n.look marked) (n.line id marked)

end Node

namespace Player

theorem slotRow_eq_uniformRow {α : Type} (selected : Option NodeId) (id : NodeId)
    (word : α → String) (s : Slot α) :
    slotRow selected id word s =
      uniformRow (s.look (decide (selected = some id)))
        (s.line word id (decide (selected = some id))) := by
  have hline (mark : String) : mark ++ id.text ++ ": " ++ slotText false id word s ++
      (if s.isLocked then " (locked)" else "") = mark ++ id.text ++ ": " ++ s.shown word := by
    simp [slotText, Slot.shown, String.append_assoc]
  unfold slotRow
  by_cases h : selected = some id
  · simp only [h, if_true, decide_true, hline]
    rfl
  · simp only [h, if_false, decide_false, hline]
    rfl

/-- **The lines follow the enumeration**, one for each slot. -/
theorem getElem?_slotRows (selected : Option NodeId) (t : Template) (i : Nat) :
    (slotRows selected t)[i]? = t.slotIds[i]?.bind fun id =>
      (t.node? id).map (Node.row id (decide (selected = some id))) := by
  by_cases hi : i < t.values.length
  · rw [slotRows, List.getElem?_append_left (by simpa using hi),
      Template.getElem?_slotIds_of_lt hi]
    simp only [List.getElem?_map, List.getElem?_zipIdx, List.getElem?_eq_getElem hi,
      Option.map_some, Option.bind_some, Template.node?, slotRow_eq_uniformRow, Nat.zero_add]
    rfl
  · -- behind the leaves the inner nodes are counted from zero again
    obtain ⟨j, rfl⟩ := Nat.exists_eq_add_of_le (Nat.not_lt.mp hi)
    rw [slotRows, List.getElem?_append_right (by simp), Template.getElem?_slotIds_add]
    by_cases hj : j < t.operators.length
    · simp only [List.length_map, List.length_zipIdx, Nat.add_sub_cancel_left, List.getElem?_map,
        List.getElem?_zipIdx, List.getElem?_eq_getElem hj, Option.map_some, Option.bind_some,
        if_pos hj, Template.node?, slotRow_eq_uniformRow, Nat.zero_add]
      rfl
    · simp [hj]

@[simp] theorem length_slotRows (selected : Option NodeId) (t : Template) :
    (slotRows selected t).length = t.slotCount := by
  simp [slotRows, Template.slotCount]

/-! ### The cursor -/

variable {p : Player} {t : Template}

/-- **The cursor is an index into the enumeration.** -/
theorem selected?_eq_getElem? (ht : p.board.active = some t) :
    p.selected? = t.slotIds[p.cursor]? := by
  simp only [selected?, ht]
  by_cases hvalue : p.cursor < t.values.length
  · rw [if_pos hvalue, Template.getElem?_slotIds_of_lt hvalue]
  · obtain ⟨j, hj⟩ := Nat.exists_eq_add_of_le (Nat.not_lt.mp hvalue)
    rw [if_neg hvalue, hj, Template.getElem?_slotIds_add, Template.slotCount]
    simp only [Nat.add_lt_add_iff_left, Nat.add_sub_cancel_left]

theorem moveForward_withCursor (h : 0 < p.slotCount) (c : Nat) :
    moveForward { p with cursor := c } = { p with cursor := (c + 1) % p.slotCount } :=
  if_neg (Nat.ne_of_gt h)

theorem moveBack_withCursor (h : 0 < p.slotCount) (c : Nat) :
    moveBack { p with cursor := c } = { p with cursor := (c + p.slotCount - 1) % p.slotCount } :=
  if_neg (Nat.ne_of_gt h)

/-- A move back undoes a move forward. -/
theorem moveBack_moveForward (h : p.cursor < p.slotCount) : p.moveForward.moveBack = p := by
  have hpos : 0 < p.slotCount := by omega
  have hround : ((p.cursor + 1) % p.slotCount + p.slotCount - 1) % p.slotCount = p.cursor := by
    rcases Nat.lt_or_ge (p.cursor + 1) p.slotCount with hlt | hge
    · rw [Nat.mod_eq_of_lt hlt, Nat.add_right_comm, Nat.add_sub_cancel, Nat.add_mod_right,
        Nat.mod_eq_of_lt h]
    · -- the cursor is at the last slot, and goes round
      have hlast : p.cursor + 1 = p.slotCount := by omega
      rw [hlast, Nat.mod_self, Nat.zero_add, Nat.mod_eq_of_lt (by omega)]
      omega
  calc p.moveForward.moveBack
      = moveBack { p with cursor := (p.cursor + 1) % p.slotCount } :=
        congrArg moveBack (moveForward_withCursor hpos p.cursor)
    _ = { p with cursor := ((p.cursor + 1) % p.slotCount + p.slotCount - 1) % p.slotCount } :=
        moveBack_withCursor hpos _
    _ = p := by rw [hround]

/-- A move forward undoes a move back. -/
theorem moveForward_moveBack (h : p.cursor < p.slotCount) : p.moveBack.moveForward = p := by
  have hpos : 0 < p.slotCount := by omega
  have hround : ((p.cursor + p.slotCount - 1) % p.slotCount + 1) % p.slotCount = p.cursor := by
    rw [Nat.mod_add_mod, Nat.sub_add_cancel (by omega), Nat.add_mod_right, Nat.mod_eq_of_lt h]
  calc p.moveBack.moveForward
      = moveForward { p with cursor := (p.cursor + p.slotCount - 1) % p.slotCount } :=
        congrArg moveForward (moveBack_withCursor hpos p.cursor)
    _ = { p with cursor := ((p.cursor + p.slotCount - 1) % p.slotCount + 1) % p.slotCount } :=
        moveForward_withCursor hpos _
    _ = p := by rw [hround]

theorem selected?_play_forward (ht : p.board.active = some t) (hcursor : p.cursor < p.slotCount)
    (k : Nat) : (p.play (List.replicate k (.move .forward))).selected? =
      t.slotIds[(p.cursor + k) % t.slotCount]? := by
  rw [← slotCount_of_active ht, ← List.map_replicate, play_forward hcursor]
  exact selected?_eq_getElem? (p := { p with cursor := (p.cursor + k) % p.slotCount }) ht

/-- **Going round once, the cursor visits the enumeration**, from the next slot on. -/
theorem map_selected?_eq_rotate (ht : p.board.active = some t)
    (hcursor : p.cursor < p.slotCount) :
    ((List.range t.slotCount).map fun k =>
        (p.play (List.replicate (k + 1) (.move .forward))).selected?) =
      (t.slotIds.rotate (p.cursor + 1)).map some := by
  apply List.ext_getElem
  · simp
  · intro k hk _
    have hk : k < t.slotCount := by simpa using hk
    have hround : (p.cursor + (k + 1)) % t.slotCount =
        (k + (p.cursor + 1)) % t.slotIds.length := by
      rw [t.length_slotIds]
      congr 1
      omega
    rw [List.getElem_map, List.getElem_map, List.getElem_range, List.getElem_rotate,
      selected?_play_forward ht hcursor, hround, List.getElem?_eq_getElem]

/-! ### No slot under the cursor -/

theorem slotCount_eq_zero (ht : p.board.active = none) : p.slotCount = 0 := by
  rw [slotCount, ht]

theorem cycle_of_selected? (h : p.selected? = none) : p.cycle = p := by
  simp only [cycle, h]

theorem setValue_of_selected? (h : p.selected? = none) (x : Trit) :
    p.setValue x = { p with status := .noValueSelected } := by
  simp only [setValue, h]

/-- **The cursor, the selection and the list agree** on one enumeration of the slots of any
puzzle in play.  The line at the cursor is the one that is marked, moving forwards goes
through the enumeration and round, and the two moves undo each other.  Behind the last slot
nothing is selected, marked or played, and any move leads back to a slot.  Without a puzzle
the moves do nothing either. -/
theorem cursor_follows_slotIds (p : Player) :
    (∀ t, p.board.active = some t →
      p.selected? = t.slotIds[p.cursor]? ∧ p.slotsBox.rows.length = t.slotCount ∧
      (∀ i id, t.slotIds[i]? = some id → ∃ n, t.node? id = some n ∧
        p.slotsBox.rows[i]? = some (n.row id (decide (i = p.cursor)))) ∧
      (p.cursor < t.slotCount →
        (∀ k, (p.play (List.replicate k (.move .forward))).selected? =
          t.slotIds[(p.cursor + k) % t.slotCount]?) ∧
        ((List.range t.slotCount).map fun k =>
          (p.play (List.replicate (k + 1) (.move .forward))).selected?).Perm
            (t.slotIds.map some) ∧
        p.play (List.replicate t.slotCount (.move .forward)) = p ∧
        p.moveForward.moveBack = p ∧ p.moveBack.moveForward = p) ∧
      (0 < t.slotCount → p.cursor = t.slotCount →
        p.selected? = none ∧ p.cycle = p ∧
        (∀ x, p.setValue x = { p with status := .noValueSelected }) ∧
        (∃ c < t.slotCount, p.moveForward = { p with cursor := c }) ∧
        ∃ c < t.slotCount, p.moveBack = { p with cursor := c })) ∧
    (p.board.active = none →
      p.moveForward = p ∧ p.moveBack = p ∧ p.cycle = p ∧
      ∀ x, p.setValue x = { p with status := .noValueSelected }) := by
  refine ⟨fun t ht => ?_, fun hnone => ?_⟩
  · have hselected := selected?_eq_getElem? ht
    have hcount := slotCount_of_active ht
    have hrows : p.slotsBox.rows = slotRows p.selected? t := by rw [slotsBox, ht]
    refine ⟨hselected, by rw [hrows, length_slotRows], fun i id hid => ?_, fun hcursor => ?_,
      fun hpos hcursor => ?_⟩
    · obtain ⟨n, hn⟩ := t.exists_node?_of_getElem?_slotIds hid
      refine ⟨n, hn, ?_⟩
      have hmark : p.selected? = some id ↔ i = p.cursor := by
        rw [hselected, ← hid, eq_comm]
        exact List.getElem?_inj (List.getElem?_eq_some_iff.mp hid).1 t.nodup_slotIds
      rw [hrows, getElem?_slotRows, hid, Option.bind_some, hn, Option.map_some]
      simp only [hmark]
    · have hcursor' : p.cursor < p.slotCount := hcount ▸ hcursor
      refine ⟨selected?_play_forward ht hcursor', ?_, ?_, moveBack_moveForward hcursor',
        moveForward_moveBack hcursor'⟩
      · rw [map_selected?_eq_rotate ht hcursor']
        exact (List.rotate_perm _ _).map some
      · rw [← List.map_replicate, play_forward hcursor', hcount, Nat.add_mod_right,
          Nat.mod_eq_of_lt hcursor]
    · have hnone : p.selected? = none := by
        rw [hselected, Template.getElem?_slotIds_eq_none_iff, hcursor]
      have hpos' : 0 < p.slotCount := hcount ▸ hpos
      exact ⟨hnone, cycle_of_selected? hnone, setValue_of_selected? hnone,
        ⟨_, hcount ▸ Nat.mod_lt _ hpos', moveForward_withCursor hpos' p.cursor⟩,
        ⟨_, hcount ▸ Nat.mod_lt _ hpos', moveBack_withCursor hpos' p.cursor⟩⟩
  · have hcount := slotCount_eq_zero hnone
    have hselected : p.selected? = none := by simp only [selected?, hnone]
    exact ⟨if_pos hcount, if_pos hcount, cycle_of_selected? hselected,
      setValue_of_selected? hselected⟩

/-- The cursor at the last slot, behind it, and on an empty board. -/
theorem cursor_follows_slotIds_last :
    let t : Template := {
      root := .operator 0
      answer := .true
      values := [.locked .neutral, .unset]
      operators := [{ slot := .locked .or, left := .value 0, right := some (.value 1) }] }
    let p (cursor : Nat) : Player := {
      board := Board.empty.put t none
      scorer := .new .standard
      puzzle := ⟨0, by decide⟩
      cursor
      status := .noPuzzle }
    ((p 2).board.active = some t ∧ (p 2).cursor < t.slotCount ∧
      (p 2).selected? = some (.operator 0) ∧ (p 2).moveForward.moveBack = p 2 ∧
      (p 2).play (List.replicate 3 (.move .forward)) = p 2) ∧
    ((p 3).cursor = t.slotCount ∧ (p 3).selected? = none ∧ (p 3).cycle = p 3) ∧
    ({ p 3 with board := .empty }).moveForward = { p 3 with board := .empty } := by
  intro t p
  have hactive (cursor : Nat) : (p cursor).board.active = some t := rfl
  obtain ⟨hselected, -, -, hround, -⟩ := (cursor_follows_slotIds (p 2)).1 t (hactive 2)
  obtain ⟨-, -, -, -, hbehind⟩ := (cursor_follows_slotIds (p 3)).1 t (hactive 3)
  have hlt : (p 2).cursor < t.slotCount := by decide
  have heq : (p 3).cursor = t.slotCount := by decide
  obtain ⟨-, -, hplay, hback, -⟩ := hround hlt
  obtain ⟨hnone, hcycle, -⟩ := hbehind (by decide) heq
  exact ⟨⟨hactive 2, hlt, hselected, hback, hplay⟩, ⟨heq, hnone, hcycle⟩,
    ((cursor_follows_slotIds _).2 rfl).1⟩

end Player

end TritPuzzle
