import TritPuzzle.Screen.Cell

/-!
# Terminal output

A grid of cells as the characters that make a terminal show it.
-/

namespace TritPuzzle

/-- The terminal's code for a look. -/
def Style.code : Style → String
  | .plain => "0"
  | .bold => "0;1"
  | .red => "0;31"
  | .green => "0;32"
  | .gray => "0;37"
  | .darkGray => "0;90"
  | .cyan => "0;36"
  | .magenta => "0;35"
  | .white => "0;97"
  | .boldYellow => "0;1;33"

/-- The characters for a line of cells, after the given look; a look is announced where it
changes. -/
def lineCodes : Style → List Cell → String
  | _, [] => "\x1b[0m"
  | style, c :: rest =>
    (if c.style = style then "" else "\x1b[" ++ c.style.code ++ "m") ++
      String.singleton c.char ++ lineCodes c.style rest

/-- The characters that clear a terminal and show a grid of cells. -/
def screenCodes (grid : List (List Cell)) : String :=
  "\x1b[2J\x1b[H" ++ "\r\n".intercalate (grid.map (lineCodes .plain))

end TritPuzzle
