import TritPuzzle.Text.Combining
import TritPuzzle.Text.Unprintable

/-!
# Quoted texts

Messages show a text that could not be read between quotation marks.  The
quotation mark and the backslash get a backslash, the four usual control
characters their letter, and every other character that would not be seen on
its own is written by its number, `\u{200b}`.  An apostrophe stands for itself.

## Main definitions

* `Text.escaped` — how one character is written.
* `Text.quoted` — a whole text between quotation marks.
-/

namespace TritPuzzle.Text

/-- The digits of a number in base sixteen, in lower case. -/
def hexDigits (n : Nat) : List Char := Nat.toDigits 16 n

/-- How one character of a quoted text is written. -/
def escaped (c : Char) : List Char :=
  match c with
  | '\x00' => ['\\', '0']
  | '\t' => ['\\', 't']
  | '\n' => ['\\', 'n']
  | '\r' => ['\\', 'r']
  | '\\' => ['\\', '\\']
  | '"' => ['\\', '"']
  | c =>
    if isCombining c || isUnprintable c then
      ['\\', 'u', '\x7b'] ++ hexDigits c.toNat ++ ['\x7d']
    else [c]

/-- A text between quotation marks. -/
def quoted (s : String) : String :=
  String.ofList ('"' :: s.toList.flatMap escaped ++ ['"'])

example : quoted "it's \"a\"\t\u200b\u0301" =
    "\"it's \\\"a\\\"\\t\\u\x7b200b\x7d\\u\x7b301\x7d\"" := by decide +kernel

end TritPuzzle.Text
