import Mathlib.Tactic.Common
import TritPuzzle.Screen.Cell

/-!
# Cells of boxes and grids

Every way to put a grid together is described cell by cell: a list that is fitted to a
length, a framed box, a grid above another and a grid beside another.  What stands on the
frame of a box does not depend on the text inside, however long it is.

## Main definitions

* `cellAt?`, `Measures` — the entries of a grid and its size.
* `OnFrame`, `Box.frameChar` — the places of the frame and what stands there.

## Main results

* `getElem?_fit` — the entries of a fitted list.
* `cellAt?_append`, `cellAt?_beside` — the cells of two grids put together.
* `cellAt?_draw_frame`, `cellAt?_draw_inside` — **the cells of a framed box.**
-/

namespace TritPuzzle

/-! ### Grids -/

section

variable {α β : Type} {width height r c : Nat}

/-- The entry of a grid in a line and a column. -/
def cellAt? (grid : List (List α)) (r c : Nat) : Option α := grid[r]?.bind (·[c]?)

/-- Has the grid so many lines of so many entries? -/
structure Measures (width height : Nat) (grid : List (List α)) : Prop where
  lines : grid.length = height
  columns : ∀ line ∈ grid, line.length = width

theorem Measures.map {grid : List (List α)} (h : Measures width height grid) (f : α → β) :
    Measures width height (grid.map (·.map f)) where
  lines := by rw [List.length_map, h.lines]
  columns := by
    intro line hline
    obtain ⟨line', hline', rfl⟩ := List.mem_map.mp hline
    rw [List.length_map, h.columns line' hline']

/-- One grid above another. -/
theorem Measures.append {height' : Nat} {above below : List (List α)}
    (h : Measures width height above) (h' : Measures width height' below) :
    Measures width (height + height') (above ++ below) where
  lines := by rw [List.length_append, h.lines, h'.lines]
  columns := by
    intro line hline
    rcases List.mem_append.mp hline with hline | hline
    · exact h.columns line hline
    · exact h'.columns line hline

/-- One grid beside another. -/
theorem Measures.beside {width' : Nat} {left right : List (List α)}
    (h : Measures width height left) (h' : Measures width' height right) :
    Measures (width + width') height (List.zipWith (· ++ ·) left right) where
  lines := by rw [List.length_zipWith, h.lines, h'.lines, Nat.min_self]
  columns := by
    intro line hline
    obtain ⟨i, hi, rfl⟩ := List.mem_iff_getElem.mp hline
    rw [List.getElem_zipWith, List.length_append, h.columns _ (List.getElem_mem _),
      h'.columns _ (List.getElem_mem _)]

theorem cellAt?_append (above below : List (List α)) (r c : Nat) :
    cellAt? (above ++ below) r c =
      if r < above.length then cellAt? above r c else cellAt? below (r - above.length) c := by
  rw [cellAt?, List.getElem?_append]
  split <;> rfl

/-- The left one of two grids side by side is met first. -/
theorem cellAt?_beside {width' : Nat} {left right : List (List α)}
    (h : Measures width height left) (h' : Measures width' height right) (r c : Nat) :
    cellAt? (List.zipWith (· ++ ·) left right) r c =
      if c < width then cellAt? left r c else cellAt? right r (c - width) := by
  rw [cellAt?, List.getElem?_zipWith, cellAt?, cellAt?]
  rcases Nat.lt_or_ge r height with hr | hr
  · have hl : r < left.length := h.lines ▸ hr
    have hr' : r < right.length := h'.lines ▸ hr
    have hwidth : left[r].length = width := h.columns _ (List.getElem_mem hl)
    rw [List.getElem?_eq_getElem hl, List.getElem?_eq_getElem hr']
    simp only [Option.bind_some, List.getElem?_append, hwidth]
  · have hl : left[r]? = none := List.getElem?_eq_none (h.lines ▸ hr)
    have hr' : right[r]? = none := List.getElem?_eq_none (h'.lines ▸ hr)
    simp [hl, hr']

end

/-! ### Fitted lists -/

/-- A fitted list has the entries of the list, and the filler behind them. -/
theorem getElem?_fit {α : Type} {length i : Nat} (h : i < length) (filler : α) (xs : List α) :
    (fit length filler xs)[i]? = some (xs[i]?.getD filler) := by
  rw [fit, List.getElem?_append]
  rcases Nat.lt_or_ge i xs.length with hi | hi
  · rw [if_pos (by rw [List.length_take]; omega), List.getElem?_take_of_lt h,
      List.getElem?_eq_getElem hi]
    rfl
  · rw [if_neg (by rw [List.length_take]; omega), List.getElem?_replicate, List.length_take,
      if_pos (by omega), List.getElem?_eq_none hi]
    rfl

/-! ### Boxes -/

/-- Is the place on the frame of a box of the given size? -/
def OnFrame (width height r c : Nat) : Prop :=
  r < height ∧ c < width ∧ (r = 0 ∨ r + 1 = height ∨ c = 0 ∨ c + 1 = width)

namespace Box

variable {width height r c : Nat}

/-- The character at a place of the frame: a corner, an edge, or a part of the title, which
starts beside the upper left corner and is cut off before the upper right one. -/
def frameChar (b : Box) (width height r c : Nat) : Char :=
  if r = 0 then
    if c = 0 then '┌' else if c + 1 = width then '┐' else b.title.toList[c - 1]?.getD '─'
  else if r + 1 = height then
    if c = 0 then '└' else if c + 1 = width then '┘' else '─'
  else '│'

theorem length_between (b : Box) (left right : Char) (inside : List Cell) :
    (b.between left right inside).length = inside.length + 2 := by
  simp [between]

/-- The entries of a line between two characters of the frame. -/
theorem getElem?_between (b : Box) (left right : Char) {inside : List Cell}
    (hwidth : inside.length + 2 = width) (hc : c < width) :
    (b.between left right inside)[c]? =
      if c = 0 then some ⟨left, b.frame⟩ else if c + 1 = width then some ⟨right, b.frame⟩
      else inside[c - 1]? := by
  cases c with
  | zero => rfl
  | succ i =>
    rw [if_neg (Nat.succ_ne_zero i), Nat.add_sub_cancel, between, List.cons_append,
      List.getElem?_cons_succ]
    split
    · next hlast =>
      have hi : i = inside.length := by omega
      rw [hi, List.getElem?_concat_length]
    · next hlast => rw [List.getElem?_append_left (by omega)]

/-! ### The lines of a box -/

theorem getElem?_draw_zero (b : Box) (width height : Nat) :
    (b.draw width height)[0]? =
      some (b.between '┌' '┐' (fit (width - 2) ⟨'─', b.frame⟩ (styled b.frame b.title))) := rfl

/-- Below the upper edge come the rows of the box, or empty ones. -/
theorem getElem?_draw_succ (b : Box) (width : Nat) (h : r < height - 2) :
    (b.draw width height)[r + 1]? =
      let row := b.rows[r]?.getD ⟨[], b.fill⟩
      some (b.between '│' '│' (fit (width - 2) ⟨' ', row.fill⟩ row.cells)) := by
  have hr : r < (fit (height - 2) ⟨[], b.fill⟩ b.rows).length := by rwa [length_fit]
  simp only [draw, List.cons_append, List.getElem?_cons_succ]
  rw [List.getElem?_append_left (by simpa using hr), List.getElem?_map, getElem?_fit h]
  rfl

theorem getElem?_draw_last (b : Box) (width : Nat) (hheight : 2 ≤ height) :
    (b.draw width height)[height - 1]? =
      some (b.between '└' '┘' (List.replicate (width - 2) ⟨'─', b.frame⟩)) := by
  obtain ⟨n, rfl⟩ := Nat.exists_eq_add_of_le' hheight
  simp [draw]

theorem measures_draw (b : Box) (hwidth : 2 ≤ width) (hheight : 2 ≤ height) :
    Measures width height (b.draw width height) where
  lines := b.length_draw width hheight
  columns := by
    intro line hline
    simp only [draw, List.cons_append, List.mem_cons, List.mem_append, List.mem_map,
      List.not_mem_nil, or_false] at hline
    rcases hline with rfl | ⟨row, -, rfl⟩ | rfl
    · rw [length_between, length_fit]
      omega
    · rw [length_between, length_fit]
      omega
    · rw [length_between, List.length_replicate]
      omega

/-- A box above another one of a given height fills the rest of a column. -/
theorem measures_stack (above below : Box) {lower : Nat} (hwidth : 2 ≤ width) (hlower : 2 ≤ lower)
    (hheight : 2 ≤ height - lower) :
    Measures width height (above.draw width (height - lower) ++ below.draw width lower) := by
  have h := (above.measures_draw hwidth hheight).append (below.measures_draw hwidth hlower)
  rwa [Nat.sub_add_cancel (by omega)] at h

/-! ### The cells of a box -/

/-- **The frame of a box is whole**, whatever the text inside. -/
theorem cellAt?_draw_frame (b : Box) (hwidth : 2 ≤ width) (hheight : 2 ≤ height)
    (h : OnFrame width height r c) :
    cellAt? (b.draw width height) r c = some ⟨b.frameChar width height r c, b.frame⟩ := by
  obtain ⟨hr, hc, hframe⟩ := h
  rw [cellAt?, frameChar]
  rcases Nat.eq_zero_or_pos r with rfl | hpos
  · -- the upper edge, with the title
    rw [b.getElem?_draw_zero, Option.bind_some,
      getElem?_between b _ _ (by rw [length_fit]; omega) hc, if_pos rfl]
    split_ifs with hleft hright
    · rfl
    · rfl
    · have hi : c - 1 < width - 2 := by omega
      rw [getElem?_fit hi, styled, List.getElem?_map]
      cases b.title.toList[c - 1]? <;> rfl
  · rw [if_neg (by omega : ¬ r = 0)]
    by_cases hlast : r + 1 = height
    · -- the lower edge
      have hr' : r = height - 1 := by omega
      rw [if_pos hlast, hr', b.getElem?_draw_last width hheight, Option.bind_some,
        getElem?_between b _ _ (by rw [List.length_replicate]; omega) hc]
      split_ifs with hleft hright
      · rfl
      · rfl
      · rw [List.getElem?_replicate, if_pos (by omega)]
    · -- a line of text, between the two side edges
      obtain ⟨i, rfl⟩ := Nat.exists_eq_add_of_le' hpos
      have hi : i < height - 2 := by omega
      rw [if_neg hlast, b.getElem?_draw_succ width hi, Option.bind_some,
        getElem?_between b _ _ (by rw [length_fit]; omega) hc]
      split_ifs with hleft hright
      · rfl
      · rfl
      · omega

/-- **The inside of a box shows its rows**, as far as there is room. -/
theorem cellAt?_draw_inside (b : Box) (hr : r < height - 2) (hc : c < width - 2) :
    cellAt? (b.draw width height) (r + 1) (c + 1) =
      let row := b.rows[r]?.getD ⟨[], b.fill⟩
      some (row.cells[c]?.getD ⟨' ', row.fill⟩) := by
  have hlast : ¬ c + 1 + 1 = width := by omega
  rw [cellAt?, b.getElem?_draw_succ width hr, Option.bind_some,
    getElem?_between b _ _ (by rw [length_fit]; omega) (by omega : c + 1 < width),
    if_neg (Nat.succ_ne_zero c), if_neg hlast, Nat.add_sub_cancel, getElem?_fit hc]

end Box

end TritPuzzle
