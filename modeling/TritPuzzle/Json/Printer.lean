import TritPuzzle.Json.Value
import TritPuzzle.Text.Decimal

/-!
# Writing JSON

The two layouts of a JSON value: on one line without blanks, and with one item
or member a line, indented by two more blanks than what encloses it.  An empty
array or object stays on its line in both.

## Main definitions

* `Json.stringText` — a string literal.
* `Json.compact`, `Json.pretty` — the two layouts.
-/

namespace TritPuzzle.Json

/-- A digit in base sixteen. -/
def hexDigit (n : Nat) : Char := Nat.digitChar n

/-- How one character of a string literal is written. -/
def escapedInString (c : Char) : List Char :=
  match c with
  | '"' => ['\\', '"']
  | '\\' => ['\\', '\\']
  | '\x08' => ['\\', 'b']
  | '\x0c' => ['\\', 'f']
  | '\n' => ['\\', 'n']
  | '\r' => ['\\', 'r']
  | '\t' => ['\\', 't']
  | c =>
    if c.toNat < 0x20 then ['\\', 'u', '0', '0', hexDigit (c.toNat / 16), hexDigit (c.toNat % 16)]
    else [c]

/-- A string literal.  The literal that names no text is a lone surrogate half. -/
def stringText : Option String → String
  | some s => String.ofList ('"' :: s.toList.flatMap escapedInString ++ ['"'])
  | none => "\"\\ud800\""

mutual

/-- A value on one line. -/
def compact : Json → String
  | .null => "null"
  | .bool true => "true"
  | .bool false => "false"
  | .number n => n
  | .string s => stringText s
  | .array items => "[" ++ compactItems items ++ "]"
  | .object members => "\x7b" ++ compactMembers members ++ "\x7d"
termination_by structural v => v

/-- The items of an array on one line. -/
def compactItems : List Json → String
  | [] => ""
  | [v] => v.compact
  | v :: rest => v.compact ++ "," ++ compactItems rest
termination_by structural vs => vs

/-- A member of an object on one line. -/
def compactMember : Option String × Json → String
  | (k, v) => stringText k ++ ":" ++ v.compact
termination_by structural m => m

/-- The members of an object on one line. -/
def compactMembers : List (Option String × Json) → String
  | [] => ""
  | [m] => compactMember m
  | m :: rest => compactMember m ++ "," ++ compactMembers rest
termination_by structural ms => ms

end

/-- A line break and the blanks at the start of the next line. -/
def lineBreak (indent : Nat) : String := "\n" ++ String.ofList (List.replicate indent ' ')

mutual

/-- A value over several lines, where its first line is indented by the given number of
blanks. -/
def prettyAt (indent : Nat) : Json → String
  | .null => "null"
  | .bool true => "true"
  | .bool false => "false"
  | .number n => n
  | .string s => stringText s
  | .array [] => "[]"
  | .array (v :: rest) => "[" ++ prettyItems (indent + 2) (v :: rest) ++ lineBreak indent ++ "]"
  | .object [] => "\x7b\x7d"
  | .object (m :: rest) =>
    "\x7b" ++ prettyMembers (indent + 2) (m :: rest) ++ lineBreak indent ++ "\x7d"
termination_by structural v => v

/-- The items of an array, each on a line of its own. -/
def prettyItems (indent : Nat) : List Json → String
  | [] => ""
  | [v] => lineBreak indent ++ v.prettyAt indent
  | v :: rest => lineBreak indent ++ v.prettyAt indent ++ "," ++ prettyItems indent rest
termination_by structural vs => vs

/-- A member of an object. -/
def prettyMember (indent : Nat) : Option String × Json → String
  | (k, v) => stringText k ++ ": " ++ v.prettyAt indent
termination_by structural m => m

/-- The members of an object, each on a line of its own. -/
def prettyMembers (indent : Nat) : List (Option String × Json) → String
  | [] => ""
  | [m] => lineBreak indent ++ prettyMember indent m
  | m :: rest => lineBreak indent ++ prettyMember indent m ++ "," ++ prettyMembers indent rest
termination_by structural ms => ms

end

/-- A value over several lines. -/
def pretty (v : Json) : String := v.prettyAt 0

example : (Json.array [.null, .object [(some "a", .array [])]]).pretty =
    "[\n  null,\n  \x7b\n    \"a\": []\n  \x7d\n]" := by rfl

end TritPuzzle.Json
