import TritPuzzle.Text.CharSet

/-!
# White space at the ends of a text

A character is *blank* when it has the Unicode property White_Space.  Every
text that a player types is trimmed of blanks at both ends before it is read.

## Main definitions

* `Text.isBlank` — the property White_Space.
* `Text.trimmed`, `Text.trim` — a text without the blanks at its ends.
-/

namespace TritPuzzle.Text

/-- The characters with the property White_Space. -/
def blanks : CharSet :=
  [(0x9, 0xd), (0x20, 0x20), (0x85, 0x85), (0xa0, 0xa0), (0x1680, 0x1680), (0x2000, 0x200a),
    (0x2028, 0x2029), (0x202f, 0x202f), (0x205f, 0x205f), (0x3000, 0x3000)]

/-- Has the character the property White_Space? -/
def isBlank (c : Char) : Bool := blanks.contains c

/-- The characters without the blanks at both ends. -/
def trimmed (cs : List Char) : List Char :=
  ((cs.dropWhile isBlank).reverse.dropWhile isBlank).reverse

@[simp] theorem trimmed_nil : trimmed [] = [] := rfl

/-- A text without the blanks at both ends. -/
def trim (s : String) : String := String.ofList (trimmed s.toList)

@[simp] theorem toList_trim (s : String) : (trim s).toList = trimmed s.toList := by
  simp [trim]

end TritPuzzle.Text
