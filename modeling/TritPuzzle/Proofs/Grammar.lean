import Mathlib.Tactic.Common
import TritPuzzle.Json.Value

/-!
# The grammar of JSON

The texts that spell a JSON value, as a grammar: blanks may stand around every value and
every key, a string spells each character of its text in one of several ways, and a number
is spelled by itself.  A string with half of a surrogate pair has a spelling but no text.

## Main definitions

* `Numeral` — the numbers.
* `SpellsText`, `Escaped`, `SpellsString` — the spellings of a text, and of any string.
* `Spells`, `SpellsElement`, `SpellsItems`, `SpellsMember`, `SpellsMembers` — the
  spellings of values and of their parts.

## Main results

* `Spells.exists_spells` — the members of an object that is spelled are spelled.
-/

namespace TritPuzzle.Json

/-! ### Numbers -/

/-- One digit or more. -/
structure Digits (cs : List Char) : Prop where
  ne_nil : cs ≠ []
  all : ∀ c ∈ cs, c.isDigit = true

/-- The whole part of a number, without leading zeros. -/
inductive Whole : List Char → Prop
  | zero : Whole ['0']
  | digits {cs : List Char} : Digits cs → cs.head? ≠ some '0' → Whole cs

/-- The fraction of a number. -/
inductive Fraction : List Char → Prop
  | absent : Fraction []
  | present {cs : List Char} : Digits cs → Fraction ('.' :: cs)

/-- The exponent of a number. -/
inductive Exponent : List Char → Prop
  | absent : Exponent []
  | present {letter : Char} {sign cs : List Char} : letter = 'e' ∨ letter = 'E' →
      sign = [] ∨ sign = ['+'] ∨ sign = ['-'] → Digits cs → Exponent (letter :: (sign ++ cs))

/-- A number. -/
inductive Numeral : List Char → Prop
  | mk {minus whole fraction exponent : List Char} : minus = [] ∨ minus = ['-'] →
      Whole whole → Fraction fraction → Exponent exponent →
      Numeral (minus ++ (whole ++ (fraction ++ exponent)))

/-! ### Strings -/

/-- The letters of escapes, with the characters that they stand for. -/
def escapes : List (Char × Char) :=
  [('"', '"'), ('\\', '\\'), ('/', '/'), ('b', '\x08'), ('f', '\x0c'), ('n', '\n'),
    ('r', '\r'), ('t', '\t')]

/-- May the character stand for itself in a string? -/
def StandsForItself (c : Char) : Prop := c ≠ '"' ∧ c ≠ '\\' ∧ 0x20 ≤ c.toNat

/-- A hexadecimal digit of either case, and its value. -/
def HexDigit (n : Nat) (c : Char) : Prop :=
  n < 16 ∧ (c = n.digitChar ∨ c = n.digitChar.toUpper)

/-- Four hexadecimal digits, and their value. -/
inductive HexCode : Nat → List Char → Prop
  | mk {w x y z : Nat} {a b c d : Char} : HexDigit w a → HexDigit x b → HexDigit y c →
      HexDigit z d → HexCode (((w * 16 + x) * 16 + y) * 16 + z) [a, b, c, d]

/-- Is the number one of those that stand for half a character? -/
def IsHalf (code : Nat) : Prop := 0xD800 ≤ code ∧ code < 0xE000

/-- The spelling of a text, between its quotation marks. -/
inductive SpellsText : List Char → List Char → Prop
  | nil : SpellsText [] []
  /-- A character that stands for itself. -/
  | plain {c : Char} {text cs : List Char} : StandsForItself c → SpellsText text cs →
      SpellsText (c :: text) (c :: cs)
  /-- An escape by letter. -/
  | letter {letter c : Char} {text cs : List Char} : (letter, c) ∈ escapes →
      SpellsText text cs → SpellsText (c :: text) ('\\' :: letter :: cs)
  /-- An escape by number. -/
  | code {c : Char} {digits text cs : List Char} : HexCode c.toNat digits →
      SpellsText text cs → SpellsText (c :: text) ('\\' :: 'u' :: (digits ++ cs))
  /-- An escape by the two numbers of a surrogate pair. -/
  | pair {high low : Nat} {c : Char} {digits digits' text cs : List Char} :
      HexCode high digits → HexCode low digits' → 0xD800 ≤ high → high < 0xDC00 →
      0xDC00 ≤ low → low < 0xE000 →
      c.toNat = 0x10000 + (high - 0xD800) * 0x400 + (low - 0xDC00) → SpellsText text cs →
      SpellsText (c :: text) ('\\' :: 'u' :: (digits ++ '\\' :: 'u' :: (digits' ++ cs)))

/-- What may stand between quotation marks, whether it spells a text or not. -/
inductive Escaped : List Char → Prop
  | nil : Escaped []
  | plain {c : Char} {cs : List Char} : StandsForItself c → Escaped cs → Escaped (c :: cs)
  | letter {letter c : Char} {cs : List Char} : (letter, c) ∈ escapes → Escaped cs →
      Escaped ('\\' :: letter :: cs)
  | code {code : Nat} {digits cs : List Char} : HexCode code digits → Escaped cs →
      Escaped ('\\' :: 'u' :: (digits ++ cs))

/-- The spelling of a string, and its text if it has one. -/
inductive SpellsString : Option String → List Char → Prop
  | text {text : String} {cs : List Char} : SpellsText text.toList cs →
      SpellsString (some text) ('"' :: (cs ++ ['"']))
  | noText {cs : List Char} : Escaped cs → (∀ text, ¬ SpellsText text cs) →
      SpellsString none ('"' :: (cs ++ ['"']))

/-! ### Values -/

/-- Nothing but blanks. -/
def Blanks (cs : List Char) : Prop := ∀ c ∈ cs, c ∈ [' ', '\t', '\n', '\r']

theorem blanks_nil : Blanks [] := by
  intro c hc
  simp at hc

mutual

/-- The spelling of a value. -/
inductive Spells : Json → List Char → Prop
  | null : Spells .null "null".toList
  | true : Spells (.bool true) "true".toList
  | false : Spells (.bool false) "false".toList
  | number {numeral : String} : Numeral numeral.toList → Spells (.number numeral) numeral.toList
  | string {text : Option String} {cs : List Char} : SpellsString text cs →
      Spells (.string text) cs
  | emptyArray {blanks : List Char} : Blanks blanks →
      Spells (.array []) ('[' :: (blanks ++ [']']))
  | array {items : List Json} {cs : List Char} : SpellsItems items cs →
      Spells (.array items) ('[' :: (cs ++ [']']))
  | emptyObject {blanks : List Char} : Blanks blanks →
      Spells (.object []) ('\x7b' :: (blanks ++ ['\x7d']))
  | object {members : List (Option String × Json)} {cs : List Char} :
      SpellsMembers members cs → Spells (.object members) ('\x7b' :: (cs ++ ['\x7d']))

/-- The spelling of a value with blanks around it. -/
inductive SpellsElement : Json → List Char → Prop
  | mk {before after cs : List Char} {v : Json} : Blanks before → Spells v cs → Blanks after →
      SpellsElement v (before ++ (cs ++ after))

/-- The spelling of the items of an array. -/
inductive SpellsItems : List Json → List Char → Prop
  | last {v : Json} {cs : List Char} : SpellsElement v cs → SpellsItems [v] cs
  | next {v : Json} {items : List Json} {cs rest : List Char} : SpellsElement v cs →
      SpellsItems items rest → SpellsItems (v :: items) (cs ++ ',' :: rest)

/-- The spelling of a member of an object. -/
inductive SpellsMember : Option String × Json → List Char → Prop
  | mk {key : Option String} {v : Json} {before name after cs : List Char} : Blanks before →
      SpellsString key name → Blanks after → SpellsElement v cs →
      SpellsMember (key, v) (before ++ (name ++ (after ++ ':' :: cs)))

/-- The spelling of the members of an object. -/
inductive SpellsMembers : List (Option String × Json) → List Char → Prop
  | last {m : Option String × Json} {cs : List Char} : SpellsMember m cs → SpellsMembers [m] cs
  | next {m : Option String × Json} {members : List (Option String × Json)}
      {cs rest : List Char} : SpellsMember m cs → SpellsMembers members rest →
      SpellsMembers (m :: members) (cs ++ ',' :: rest)

end

theorem Spells.element {v : Json} {cs : List Char} (h : Spells v cs) : SpellsElement v cs := by
  simpa using SpellsElement.mk blanks_nil h blanks_nil

theorem SpellsElement.exists_spells {v : Json} {cs : List Char} (h : SpellsElement v cs) :
    ∃ cs', Spells v cs' := by
  cases h with
  | mk _ hspells _ => exact ⟨_, hspells⟩

/-- The spelling of an object has a spelling of the value of each member. -/
theorem SpellsMembers.exists_spells {members : List (Option String × Json)} {cs : List Char}
    (h : SpellsMembers members cs) {m : Option String × Json} (hm : m ∈ members) :
    ∃ cs', Spells m.2 cs' := by
  induction members generalizing cs with
  | nil => simp at hm
  | cons n members ih =>
    have hvalue {cs : List Char} (h : SpellsMember n cs) : ∃ cs', Spells n.2 cs' := by
      obtain ⟨_, _, _, helement⟩ := h
      exact helement.exists_spells
    cases h with
    | last hmember =>
      obtain rfl := List.mem_singleton.mp hm
      exact hvalue hmember
    | next hmember hmembers =>
      rcases List.mem_cons.mp hm with rfl | hm
      · exact hvalue hmember
      · exact ih hmembers hm

theorem Spells.exists_spells {members : List (Option String × Json)} {cs : List Char}
    (h : Spells (.object members) cs) {m : Option String × Json} (hm : m ∈ members) :
    ∃ cs', Spells m.2 cs' := by
  cases h with
  | emptyObject => simp at hm
  | object hmembers => exact hmembers.exists_spells hm

end TritPuzzle.Json
