import TritPuzzle.Proofs.Cursor
import TritPuzzle.Proofs.Framing
import TritPuzzle.Proofs.Starting

/-!
# The screens of a player

Whatever a player does, and even if the puzzle is taken off the board or the cursor is put
behind the last slot, the screen has the size of the terminal.  Its four boxes lie side by
side, their frames are whole, and the list of slots has a line for every slot, of which
nothing is cut off: the puzzles of the catalog are small enough for the smallest screen.

## Main definitions

* `PlayerChange`, `Player.after` — what may happen between two screens.
* `Board.FromCatalog` — the puzzle in play is one of the catalog after some moves.
* `Area`, `Tiles`, `Player.panes` — the parts of the screen and the boxes in them.
* `Player.Lists` — the list of slots is on the screen.

## Main results

* `board_perform` — what an action does to the board.
* `fromCatalog_after` — the puzzle in play always comes from the catalog.
* `cellAt?_draw` — a box is drawn in its own area.
* `draw_of_start` — **every screen is whole and lists every slot.**
-/

namespace TritPuzzle

/-! ### Puzzles from the catalog -/

/-- Is the puzzle in play, if there is one, from the catalog, after some moves? -/
def Board.FromCatalog (b : Board) : Prop :=
  ∀ u, b.active = some u → ∃ name t moves, Catalog.template name = .ok t ∧ u = t.play moves

namespace Board

variable {b : Board}

theorem fromCatalog_clear (b : Board) : b.clear.FromCatalog := by
  intro u hu
  simp [clear] at hu

theorem fromCatalog_put {name : String} {t : Template} (ht : Catalog.template name = .ok t)
    (b : Board) (shown : Option String) : (b.put t shown).FromCatalog := by
  intro u hu
  obtain rfl := Option.some.inj hu
  exact ⟨name, t, [], ht, rfl⟩

theorem FromCatalog.move (h : b.FromCatalog) (m : Move) : (b.move m).FromCatalog := by
  intro u hu
  obtain ⟨u', hu', rfl⟩ := Option.map_eq_some_iff.mp hu
  obtain ⟨name, t, moves, ht, rfl⟩ := h u' hu'
  exact ⟨name, t, moves ++ [m], ht, (Template.play_append t moves [m]).symm⟩

end Board

namespace Catalog

/-- The puzzles of the catalog are small. -/
theorem length_le_of_template {name : String} {t : Template} (h : template name = .ok t) :
    t.values.length ≤ 4 ∧ t.operators.length ≤ 3 := by
  have hall : ∀ e ∈ entries, ∀ t ∈ e.assembled.toOption,
      t.values.length ≤ 4 ∧ t.operators.length ≤ 3 := by decide
  obtain ⟨e, he, -, ht⟩ := template_eq_ok_iff.mp h
  exact hall e he t (by rw [ht]; rfl)

end Catalog

namespace Board

/-- So are the puzzles in play. -/
theorem FromCatalog.length_le {b : Board} (h : b.FromCatalog) {u : Template}
    (hu : b.active = some u) : u.values.length ≤ 4 ∧ u.operators.length ≤ 3 := by
  obtain ⟨name, t, moves, ht, rfl⟩ := h u hu
  have hframe := t.sameFrame_play moves
  rw [hframe.length_values, hframe.length_operators]
  exact Catalog.length_le_of_template ht

end Board

/-! ### What happens between two screens -/

/-- What may happen to a player. -/
inductive PlayerChange where
  /-- The player acts. -/
  | action (a : PlayerAction)
  /-- The puzzle is taken off the board. -/
  | clear
  /-- The cursor is put somewhere, at a slot or not. -/
  | point (c : Nat)
  deriving DecidableEq, Repr

namespace Player

/-- The player after a change. -/
def change (p : Player) : PlayerChange → Player
  | .action a => p.perform a
  | .clear => { p with board := p.board.clear }
  | .point c => { p with cursor := c }

/-- The player after a run of changes. -/
def after (p : Player) (changes : List PlayerChange) : Player := changes.foldl change p

/-- An event makes its move on the board, or fails and leaves it alone. -/
theorem board_send (p : Player) (e : SlotEvent) :
    (p.send e).board = p.board ∨ (p.send e).board = p.board.move (.event e) := by
  unfold send
  cases h : p.board.apply e with
  | error err => exact .inl rfl
  | ok r =>
    obtain ⟨-, -, hboard⟩ := Board.apply_eq_ok h
    exact .inr hboard

/-- Starting over puts a puzzle of the catalog on the board. -/
theorem board_restart (p : Player) : ∃ name t, Catalog.template name = .ok t ∧
    p.restart.board = p.board.put t (some name) := by
  obtain ⟨t, ht, -⟩ := exists_template p.puzzle
  exact ⟨_, t, ht, congrArg board (restart_of_template ht)⟩

/-- **All that an action can do to the board**: nothing, a move on the puzzle in play, or
a puzzle of the catalog is put on it. -/
theorem board_perform (p : Player) (a : PlayerAction) :
    (p.perform a).board = p.board ∨ (∃ e, (p.perform a).board = p.board.move (.event e)) ∨
      ∃ name t, Catalog.template name = .ok t ∧
        (p.perform a).board = p.board.put t (some name) := by
  have hsend (e : SlotEvent) : (p.send e).board = p.board ∨
      ∃ e', (p.send e).board = p.board.move (.event e') :=
    (p.board_send e).imp_right fun h => ⟨e, h⟩
  cases a with
  | move d =>
    left
    cases d with
    | forward =>
      simp only [perform, move, moveForward]
      split <;> rfl
    | back =>
      simp only [perform, move, moveBack]
      split <;> rfl
  | cycle =>
    rw [← or_assoc]
    left
    simp only [perform, cycle]
    split
    · exact hsend _
    · exact hsend _
    · exact .inl rfl
  | setValue x =>
    rw [← or_assoc]
    left
    simp only [perform, setValue]
    split
    · exact hsend _
    · exact .inl rfl
  | check =>
    left
    simp only [perform, check]
    split
    · rfl
    · split <;> rfl
  | switch d =>
    right; right
    cases d with
    | forward => exact board_restart { p with puzzle := p.puzzleAfter 1 }
    | back => exact board_restart { p with puzzle := p.puzzleAfter (Catalog.entries.length - 1) }
  | restart => exact .inr (.inr p.board_restart)

/-- **A change keeps to the catalog.** -/
theorem fromCatalog_change {p : Player} (h : p.board.FromCatalog) (x : PlayerChange) :
    (p.change x).board.FromCatalog := by
  cases x with
  | action a =>
    rw [change]
    rcases p.board_perform a with hsame | ⟨e, hmove⟩ | ⟨name, t, ht, hput⟩
    · rwa [hsame]
    · rw [hmove]
      exact h.move _
    · rw [hput]
      exact Board.fromCatalog_put ht _ _
  | clear => exact p.board.fromCatalog_clear
  | point c => exact h

/-- **The puzzle in play always comes from the catalog.** -/
theorem fromCatalog_after {p : Player} (h : p.board.FromCatalog) (changes : List PlayerChange) :
    (p.after changes).board.FromCatalog := by
  induction changes generalizing p with
  | nil => exact h
  | cons x changes ih => exact ih (fromCatalog_change h x)

end Player

/-! ### The parts of the screen -/

/-- A rectangle on the screen. -/
structure Area where
  /-- The first line. -/
  top : Nat
  /-- The first column. -/
  left : Nat
  /-- The number of columns. -/
  width : Nat
  /-- The number of lines. -/
  height : Nat
  deriving DecidableEq, Repr

/-- Does the place lie in the area? -/
def Area.Holds (a : Area) (r c : Nat) : Prop :=
  a.top ≤ r ∧ r < a.top + a.height ∧ a.left ≤ c ∧ c < a.left + a.width

/-- Do the areas fill a screen of the given size, without sharing a place? -/
structure Tiles (width height : Nat) (areas : List Area) : Prop where
  /-- No area reaches beyond the screen. -/
  inside : ∀ a ∈ areas, ∀ r c, a.Holds r c → r < height ∧ c < width
  /-- Every place lies in one of the areas. -/
  cover : ∀ r c, r < height → c < width → ∃ a ∈ areas, a.Holds r c
  /-- No place lies in two of them. -/
  disjoint : areas.Pairwise fun a b => ∀ r c, ¬ (a.Holds r c ∧ b.Holds r c)

namespace Player

/-- The boxes of the screen, each with its area. -/
def panes (p : Player) (width height : Nat) : List (Area × Box) :=
  let left := width / 5 * 3
  let right := width / 5 * 2
  [(⟨0, 0, left, height - 3⟩, p.puzzleBox), (⟨height - 3, 0, left, 3⟩, p.statusBox),
    (⟨0, left, right, height - 6⟩, p.slotsBox), (⟨height - 6, left, right, 6⟩, helpBox)]

variable {width height : Nat}

/-- The two columns share a width that divides by five. -/
theorem leftWidth_of_dvd (h : 5 ∣ width) :
    leftWidth width = width / 5 * 3 ∧ width - leftWidth width = width / 5 * 2 := by
  obtain ⟨n, rfl⟩ := h
  rw [leftWidth]
  omega

/-- **The boxes lie side by side.** -/
theorem tiles_panes (p : Player) (hdvd : 5 ∣ width) (hheight : 16 ≤ height) :
    Tiles width height ((p.panes width height).map Prod.fst) where
  inside := by
    simp only [panes, List.map_cons, List.map_nil, List.forall_mem_cons, Area.Holds]
    refine ⟨?_, ?_, ?_, ?_, by simp⟩ <;> omega
  cover := by
    intro r c hr hc
    simp only [panes, List.map_cons, List.map_nil, List.exists_mem_cons_iff, Area.Holds]
    omega
  disjoint := by
    simp only [panes, List.map_cons, List.map_nil, List.pairwise_cons, List.forall_mem_cons,
      Area.Holds]
    refine ⟨⟨?_, ?_, ?_, by simp⟩, ⟨?_, ?_, by simp⟩, ⟨?_, by simp⟩, by simp, .nil⟩ <;> omega

/-- The screen is made of the boxes. -/
theorem draw_of_dvd (p : Player) (hdvd : 5 ∣ width) :
    p.draw width height =
      List.zipWith (· ++ ·)
        (p.puzzleBox.draw (width / 5 * 3) (height - 3) ++ p.statusBox.draw (width / 5 * 3) 3)
        (p.slotsBox.draw (width / 5 * 2) (height - 6) ++ helpBox.draw (width / 5 * 2) 6) := by
  obtain ⟨hleft, hright⟩ := leftWidth_of_dvd hdvd
  rw [draw, hright, hleft]

section

variable (p : Player) (hwidth : 60 ≤ width) (hheight : 16 ≤ height)

include hwidth hheight in
/-- The left column has the height of the screen. -/
theorem measures_left : Measures (width / 5 * 3) height
    (p.puzzleBox.draw (width / 5 * 3) (height - 3) ++ p.statusBox.draw (width / 5 * 3) 3) :=
  Box.measures_stack _ _ (by omega) (by omega) (by omega)

include hwidth hheight in
/-- So has the right one. -/
theorem measures_right : Measures (width / 5 * 2) height
    (p.slotsBox.draw (width / 5 * 2) (height - 6) ++ helpBox.draw (width / 5 * 2) 6) :=
  Box.measures_stack _ _ (by omega) (by omega) (by omega)

include hwidth hheight in
/-- **The screen has the size of the terminal.** -/
theorem measures_screen (hdvd : 5 ∣ width) : Measures width height (p.draw width height) := by
  have h := (p.measures_left hwidth hheight).beside (p.measures_right hwidth hheight)
  rw [p.draw_of_dvd hdvd]
  rwa [show width / 5 * 3 + width / 5 * 2 = width by omega] at h

include hwidth hheight in
/-- **A box is drawn in its own area.** -/
theorem cellAt?_draw (hdvd : 5 ∣ width) {x : Area × Box} (hx : x ∈ p.panes width height)
    {r c : Nat} (hr : r < x.1.height) (hc : c < x.1.width) :
    cellAt? (p.draw width height) (x.1.top + r) (x.1.left + c) =
      cellAt? (x.2.draw x.1.width x.1.height) r c := by
  rw [p.draw_of_dvd hdvd, cellAt?_beside (p.measures_left hwidth hheight)
    (p.measures_right hwidth hheight), cellAt?_append, cellAt?_append,
    p.puzzleBox.length_draw _ (by omega), p.slotsBox.length_draw _ (by omega)]
  simp only [panes, List.mem_cons, List.not_mem_nil, or_false] at hx
  rcases hx with rfl | rfl | rfl | rfl
  · dsimp only at hr hc ⊢
    rw [if_pos (by omega), if_pos (by omega), Nat.zero_add, Nat.zero_add]
  · dsimp only at hr hc ⊢
    rw [if_pos (by omega), if_neg (by omega), Nat.zero_add, Nat.add_sub_cancel_left]
  · dsimp only at hr hc ⊢
    rw [if_neg (by omega), if_pos (by omega), Nat.zero_add, Nat.add_sub_cancel_left]
  · dsimp only at hr hc ⊢
    rw [if_neg (by omega), if_neg (by omega), Nat.add_sub_cancel_left, Nat.add_sub_cancel_left]

include hwidth hheight in
/-- **The frame of a box is on the screen.** -/
theorem cellAt?_draw_frame (hdvd : 5 ∣ width) {x : Area × Box} (hx : x ∈ p.panes width height)
    {r c : Nat} (h : OnFrame x.1.width x.1.height r c) :
    cellAt? (p.draw width height) (x.1.top + r) (x.1.left + c) =
      some ⟨x.2.frameChar x.1.width x.1.height r c, x.2.frame⟩ := by
  have hsize : 2 ≤ x.1.width ∧ 2 ≤ x.1.height := by
    simp only [panes, List.mem_cons, List.not_mem_nil, or_false] at hx
    rcases hx with rfl | rfl | rfl | rfl <;> dsimp only <;> omega
  rw [p.cellAt?_draw hwidth hheight hdvd hx h.1 h.2.1, x.2.cellAt?_draw_frame hsize.1 hsize.2 h]

end

end Player

/-! ### The lines for the slots -/

theorem Text.length_decimal {n : Nat} (h : n < 10) : (Text.decimal n).length = 1 := by
  have hall : ∀ n < 10, (Text.decimal n).length = 1 := by decide
  exact hall n h

/-- The cells of a text. -/
theorem getD_styled (style : Style) (s : String) (c : Nat) :
    (styled style s)[c]?.getD ⟨' ', style⟩ = ⟨s.toList[c]?.getD ' ', style⟩ := by
  rw [styled, List.getElem?_map]
  cases s.toList[c]? <;> rfl

namespace Slot

variable {α : Type} {word : α → String}

theorem length_shown_le (hword : ∀ x, (word x).length ≤ 5) (s : Slot α) :
    (s.shown word).length ≤ 14 := by
  have hlock : " (locked)".length = 9 := by decide
  cases s with
  | unset => exact (by decide : ("?" ++ "").length ≤ 14)
  | opened x | locked x =>
    have h := hword x
    simp only [shown, content?, isLocked, Option.map_some, Option.getD_some, String.length_append,
      if_true, Bool.false_eq_true, if_false, String.length_empty, hlock]
    omega

theorem length_line_le (hword : ∀ x, (word x).length ≤ 5) {id : NodeId}
    (hid : id.text.length = 2) (marked : Bool) (s : Slot α) :
    (s.line word id marked).length ≤ 20 := by
  have hshown := s.length_shown_le hword
  have hmark : (if marked then "▶ " else "  ").length = 2 := by cases marked <;> decide
  have hcolon : ": ".length = 2 := by decide
  rw [line, String.length_append, String.length_append, String.length_append, hmark, hid, hcolon]
  omega

end Slot

namespace Node

/-- A line starts with its mark, or with a blank. -/
theorem head_line (n : Node) (id : NodeId) (marked : Bool) :
    (n.line id marked).toList[0]? = some (if marked then '▶' else ' ') := by
  cases n <;> cases marked <;> simp [line, Slot.line]

/-- A line is short when its address is. -/
theorem length_line_le (n : Node) {id : NodeId} (hid : id.text.length = 2) (marked : Bool) :
    (n.line id marked).length ≤ 20 := by
  cases n with
  | leaf s => exact s.length_line_le (fun x => by cases x <;> decide) hid marked
  | inner n => exact n.slot.length_line_le (fun op => by cases op <;> decide) hid marked

end Node

namespace Player

variable {p : Player} {u : Template} {width height : Nat}

/-- Does the line of the list in the given place start with the mark? -/
def IsMarked (p : Player) (width height i : Nat) : Prop :=
  i < height - 8 ∧
    (cellAt? (p.draw width height) (i + 1) (width / 5 * 3 + 1)).map Cell.char = some '▶'

/-- Is the list of the slots of the puzzle on the screen, each of them on a line of its own
from which nothing is cut off, and no line marked but that of the slot that is selected? -/
structure Lists (p : Player) (u : Template) (width height : Nat) : Prop where
  /-- Every slot has its line, and there is room for it. -/
  line : ∀ i id, u.slotIds[i]? = some id → ∃ n, u.node? id = some n ∧ i < height - 8 ∧
    let marked := decide (p.selected? = some id)
    (n.line id marked).length ≤ width / 5 * 2 - 2 ∧
      ∀ c < width / 5 * 2 - 2,
        cellAt? (p.draw width height) (i + 1) (width / 5 * 3 + (c + 1)) =
          some ⟨(n.line id marked).toList[c]?.getD ' ', n.look marked⟩
  /-- The line of the slot that is selected is the only one with a mark. -/
  marked : ∀ id, p.selected? = some id →
    ∃ i, u.slotIds[i]? = some id ∧ ∀ j, p.IsMarked width height j ↔ j = i
  /-- If no slot is selected, no line has one. -/
  unmarked : p.selected? = none → ∀ j, ¬ p.IsMarked width height j

section

variable (hdvd : 5 ∣ width) (hwidth : 60 ≤ width) (hheight : 16 ≤ height)
  (hu : p.board.active = some u)

include hdvd hwidth hheight hu

/-- The lines of the list are on the screen. -/
theorem cellAt?_slotRow {i c : Nat} (hi : i < height - 8) (hc : c < width / 5 * 2 - 2) :
    cellAt? (p.draw width height) (i + 1) (width / 5 * 3 + (c + 1)) =
      let row := (slotRows p.selected? u)[i]?.getD ⟨[], .plain⟩
      some (row.cells[c]?.getD ⟨' ', row.fill⟩) := by
  have hpane : ((⟨0, width / 5 * 3, width / 5 * 2, height - 6⟩, p.slotsBox) : Area × Box) ∈
      p.panes width height := by simp [panes]
  have hcell := p.cellAt?_draw hwidth hheight hdvd hpane (r := i + 1) (c := c + 1)
    (by dsimp only; omega) (by dsimp only; omega)
  rw [Nat.zero_add] at hcell
  rw [hcell, p.slotsBox.cellAt?_draw_inside (by omega) hc]
  simp only [slotsBox, hu]

/-- The line for a slot is on the screen, with blanks behind it. -/
theorem cellAt?_line {i : Nat} {id : NodeId} {n : Node} (hid : u.slotIds[i]? = some id)
    (hn : u.node? id = some n) (hi : i < height - 8) {c : Nat} (hc : c < width / 5 * 2 - 2) :
    cellAt? (p.draw width height) (i + 1) (width / 5 * 3 + (c + 1)) =
      some ⟨(n.line id (decide (p.selected? = some id))).toList[c]?.getD ' ',
        n.look (decide (p.selected? = some id))⟩ := by
  rw [cellAt?_slotRow hdvd hwidth hheight hu hi hc, getElem?_slotRows, hid, Option.bind_some,
    hn, Option.map_some]
  exact congrArg some (getD_styled _ _ c)

/-- **The line with the mark is that of the slot that is selected.** -/
theorem isMarked_iff (hsmall : u.slotCount ≤ height - 8) (j : Nat) :
    p.IsMarked width height j ↔ ∃ id, u.slotIds[j]? = some id ∧ p.selected? = some id := by
  have hc : 0 < width / 5 * 2 - 2 := by omega
  constructor
  · rintro ⟨hj, hmark⟩
    cases hid : u.slotIds[j]? with
    | none =>
      -- below the list there are only blanks
      have hrow : (slotRows p.selected? u)[j]? = none := by rw [getElem?_slotRows, hid]; rfl
      rw [← Nat.zero_add 1, cellAt?_slotRow hdvd hwidth hheight hu hj hc, hrow] at hmark
      simp at hmark
    | some id =>
      obtain ⟨n, hn⟩ := u.exists_node?_of_getElem?_slotIds hid
      refine ⟨id, rfl, ?_⟩
      rw [← Nat.zero_add 1, cellAt?_line hdvd hwidth hheight hu hid hn hj hc, n.head_line] at hmark
      -- the line of any other slot starts with a blank
      by_contra hother
      simp [hother] at hmark
  · rintro ⟨id, hid, hselected⟩
    obtain ⟨n, hn⟩ := u.exists_node?_of_getElem?_slotIds hid
    have hj : j < height - 8 := by
      have hlt := (List.getElem?_eq_some_iff.mp hid).1
      rw [u.length_slotIds] at hlt
      omega
    refine ⟨hj, ?_⟩
    rw [← Nat.zero_add 1, cellAt?_line hdvd hwidth hheight hu hid hn hj hc, n.head_line]
    simp [hselected]

/-- **The list of a puzzle of the catalog is on the screen.** -/
theorem lists_of_fromCatalog (h : p.board.FromCatalog) : p.Lists u width height := by
  obtain ⟨hvalues, hoperators⟩ := h.length_le hu
  have hsmall : u.slotCount ≤ height - 8 := by
    rw [Template.slotCount]
    omega
  have hselected := selected?_eq_getElem? hu
  refine ⟨fun i id hid => ?_, fun id hsel => ?_, fun hsel j hmarked => ?_⟩
  · obtain ⟨n, hn⟩ := u.exists_node?_of_getElem?_slotIds hid
    have hhas : u.Has id := Template.mem_addresses.mp (List.mem_of_getElem? hid)
    have hi : i < u.slotCount := u.length_slotIds ▸ (List.getElem?_eq_some_iff.mp hid).1
    -- the numbers of the slots have one digit, so their addresses are as long as each other
    have htext : id.text.length = 2 := by
      cases id with
      | value k | operator k =>
        have hk : k < 10 := by
          simp only [Template.Has] at hhas
          omega
        rw [NodeId.text, String.length_append, Text.length_decimal hk]
        rfl
    have hline := n.length_line_le htext (decide (p.selected? = some id))
    exact ⟨n, hn, by omega, by omega,
      fun c hc => cellAt?_line hdvd hwidth hheight hu hid hn (by omega) hc⟩
  · have hcursor : u.slotIds[p.cursor]? = some id := hselected ▸ hsel
    refine ⟨p.cursor, hcursor, fun j => ?_⟩
    rw [isMarked_iff hdvd hwidth hheight hu hsmall, hselected]
    constructor
    · rintro ⟨id', hj, hid'⟩
      exact (List.getElem?_inj (List.getElem?_eq_some_iff.mp hj).1 u.nodup_slotIds).mp
        (hj.trans hid'.symm)
    · rintro rfl
      exact ⟨id, hcursor, hcursor⟩
  · obtain ⟨id, -, hid⟩ := (isMarked_iff hdvd hwidth hheight hu hsmall j).mp hmarked
    simp [hsel] at hid

end

/-- **Every screen is whole and lists every slot**, whatever happens to a player of any
puzzle of the catalog and however long the texts are.  It has the size of the terminal, its
four boxes lie side by side without a gap, and their frames are not written over.  If there
is a puzzle in play, every slot of it has its own line from which nothing is cut off, and
one line is marked if a slot is selected, or else none. -/
theorem draw_of_start (config : ScoringConfig) (k : Fin Catalog.entries.length) :
    ∃ p, start config (Catalog.entries.get k).name = .ok p ∧
      ∀ (changes : List PlayerChange) (width height : Nat),
        5 ∣ width → 60 ≤ width → 16 ≤ height →
        let q := p.after changes
        let grid := q.draw width height
        Measures width height (grid.map (·.map Cell.char)) ∧
        Measures width height (grid.map (·.map Cell.style)) ∧
        Tiles width height ((q.panes width height).map Prod.fst) ∧
        (∀ x ∈ q.panes width height, ∀ r c, OnFrame x.1.width x.1.height r c →
          cellAt? grid (x.1.top + r) (x.1.left + c) =
            some ⟨x.2.frameChar x.1.width x.1.height r c, x.2.frame⟩) ∧
        ∀ u, q.board.active = some u → q.Lists u width height := by
  obtain ⟨t, ht, -⟩ := exists_template k
  have hstart : (loaded .empty (.new config) k t).board.FromCatalog :=
    Board.fromCatalog_put ht _ _
  refine ⟨_, start_of_template config ht, fun changes width height hdvd hwidth hheight => ?_⟩
  have hcatalog := fromCatalog_after hstart changes
  intro q grid
  have hmeasures : Measures width height grid := q.measures_screen hwidth hheight hdvd
  exact ⟨hmeasures.map _, hmeasures.map _, q.tiles_panes hdvd hheight,
    fun x hx r c hframe => q.cellAt?_draw_frame hwidth hheight hdvd hx hframe,
    fun u hu => lists_of_fromCatalog hdvd hwidth hheight hu hcatalog⟩

/-- The smallest screen, with a leaf filled and the cursor far behind the last slot. -/
theorem draw_of_start_narrowest :
    let changes : List PlayerChange := [.action (.move .forward), .action .cycle, .point 7]
    let u : Template := {
      root := .operator 0
      answer := .true
      values := [.locked .neutral, .opened .false]
      operators := [{ slot := .locked .or, left := .value 0, right := some (.value 1) }] }
    5 ∣ 60 ∧ ∃ p, start .standard "neutral-or-x" = .ok p ∧
      (p.after changes).board.active = some u ∧ (p.after changes).Lists u 60 16 ∧
      Measures 60 16 (((p.after changes).draw 60 16).map (·.map Cell.char)) ∧
      Tiles 60 16 (((p.after changes).panes 60 16).map Prod.fst) := by
  intro changes u
  have hdvd : 5 ∣ 60 := by decide
  obtain ⟨p, hp, hdraw⟩ := draw_of_start .standard ⟨0, by decide⟩
  obtain ⟨hmeasures, -, htiles, -, hlists⟩ := hdraw changes 60 16 hdvd (by decide) (by decide)
  have hactive : (p.after changes).board.active = some u := by
    have hstart : (start .standard "neutral-or-x").map (fun p => (p.after changes).board.active) =
        .ok (some u) := by decide
    change start .standard "neutral-or-x" = .ok p at hp
    rw [hp] at hstart
    exact Except.ok.inj hstart
  exact ⟨hdvd, p, hp, hactive, hlists u hactive, hmeasures, htiles⟩

end Player

end TritPuzzle
