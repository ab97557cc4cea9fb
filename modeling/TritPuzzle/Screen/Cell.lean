/-!
# Cells and boxes

A screen is a grid of styled characters.  It is put together from framed boxes,
whose text is clipped to the inside of the frame and never wrapped.

## Main definitions

* `Style`, `Cell` — a styled character.
* `Row`, `Box` — a line of text and a framed box of them.
* `Box.draw` — the cells of a box of a given size.
-/

namespace TritPuzzle

/-- The look of a character. -/
inductive Style where
  /-- The terminal's own look. -/
  | plain
  /-- Bold in the terminal's own colour. -/
  | bold
  /-- Red. -/
  | red
  /-- Green. -/
  | green
  /-- Gray. -/
  | gray
  /-- Dark gray. -/
  | darkGray
  /-- Cyan. -/
  | cyan
  /-- Magenta. -/
  | magenta
  /-- White. -/
  | white
  /-- Bold yellow. -/
  | boldYellow
  deriving DecidableEq, Repr

/-- A styled character. -/
structure Cell where
  /-- The character. -/
  char : Char
  /-- Its look. -/
  style : Style
  deriving DecidableEq, Repr

/-- The cells of a text. -/
def styled (style : Style) (s : String) : List Cell := s.toList.map fun c => ⟨c, style⟩

/-- The list cut or filled up to a length. -/
def fit {α : Type} (length : Nat) (filler : α) (xs : List α) : List α :=
  xs.take length ++ List.replicate (length - xs.length) filler

@[simp] theorem length_fit {α : Type} (length : Nat) (filler : α) (xs : List α) :
    (fit length filler xs).length = length := by
  simp only [fit, List.length_append, List.length_take, List.length_replicate]
  omega

/-- A line of text in a box. -/
structure Row where
  /-- The text. -/
  cells : List Cell
  /-- The look of the line behind the text. -/
  fill : Style
  deriving DecidableEq, Repr

/-- A framed box. -/
structure Box where
  /-- The title, written over the upper edge of the frame. -/
  title : String
  /-- The look of the frame and the title. -/
  frame : Style
  /-- The lines of text. -/
  rows : List Row
  /-- The look of the inside below the text. -/
  fill : Style
  deriving DecidableEq, Repr

namespace Box

/-- A line of the given width between the given characters of the frame. -/
def between (b : Box) (left right : Char) (inside : List Cell) : List Cell :=
  ⟨left, b.frame⟩ :: inside ++ [⟨right, b.frame⟩]

/-- The cells of a box of the given size, line by line. -/
def draw (b : Box) (width height : Nat) : List (List Cell) :=
  let inner := width - 2
  let edge : Cell := ⟨'─', b.frame⟩
  let rows := fit (height - 2) ⟨[], b.fill⟩ b.rows
  b.between '┌' '┐' (fit inner edge (styled b.frame b.title)) ::
    rows.map (fun r => b.between '│' '│' (fit inner ⟨' ', r.fill⟩ r.cells)) ++
    [b.between '└' '┘' (List.replicate inner edge)]

/-- A box has the height asked for, if there is room for its frame. -/
theorem length_draw (b : Box) (width : Nat) {height : Nat} (h : 2 ≤ height) :
    (b.draw width height).length = height := by
  simp only [draw, List.length_cons, List.length_append, List.length_map, length_fit,
    List.length_nil]
  omega

end Box

end TritPuzzle
