/-!
# JSON strings and numbers

The spelling of the two literals of JSON that have a grammar of their own.

## Main definitions

* `Json.scanString` — the units of a string up to its closing quotation mark.
* `Json.textOf?` — the text that the units name; a lone surrogate half names none.
* `Json.isNumeral` — the grammar of numbers.
-/

namespace TritPuzzle.Json

/-! ### Strings -/

/-- A unit of a string. -/
inductive StringUnit where
  /-- A character. -/
  | char (c : Char)
  /-- One half of a surrogate pair, by its code. -/
  | half (code : Nat)
  deriving DecidableEq, Repr

/-- The value of a hexadecimal digit of either case. -/
def hexDigit? (c : Char) : Option Nat :=
  if '0' ≤ c ∧ c ≤ '9' then some (c.toNat - '0'.toNat)
  else if 'a' ≤ c ∧ c ≤ 'f' then some (c.toNat - 'a'.toNat + 10)
  else if 'A' ≤ c ∧ c ≤ 'F' then some (c.toNat - 'A'.toNat + 10)
  else none

/-- The value of four hexadecimal digits. -/
def hexCode? (a b c d : Char) : Option Nat := do
  return (((← hexDigit? a) * 16 + (← hexDigit? b)) * 16 + (← hexDigit? c)) * 16 + (← hexDigit? d)

/-- Is the code the first half of a surrogate pair? -/
def isHighHalf (code : Nat) : Bool := 0xD800 ≤ code && code ≤ 0xDBFF

/-- Is the code the second half of a surrogate pair? -/
def isLowHalf (code : Nat) : Bool := 0xDC00 ≤ code && code ≤ 0xDFFF

/-- The unit for an escape by number. -/
def StringUnit.ofCode (code : Nat) : StringUnit :=
  if isHighHalf code || isLowHalf code then .half code else .char (Char.ofNat code)

/-- The character for an escape by letter. -/
def escapedChar? : Char → Option Char
  | '"' => some '"'
  | '\\' => some '\\'
  | '/' => some '/'
  | 'b' => some '\x08'
  | 'f' => some '\x0c'
  | 'n' => some '\n'
  | 'r' => some '\r'
  | 't' => some '\t'
  | _ => none

/-- May the character stand in a string as it is? -/
def isPlain (c : Char) : Bool := 0x20 ≤ c.toNat

/-- The units of a string whose opening quotation mark has been read, and what
follows its closing quotation mark. -/
def scanString : List Char → Option (List StringUnit × List Char)
  | [] => none
  | '"' :: rest => some ([], rest)
  | '\\' :: 'u' :: a :: b :: c :: d :: rest => do
    let code ← hexCode? a b c d
    let (units, rest) ← scanString rest
    return (.ofCode code :: units, rest)
  | '\\' :: e :: rest => do
    let c ← escapedChar? e
    let (units, rest) ← scanString rest
    return (.char c :: units, rest)
  | c :: rest =>
    if c ≠ '\\' ∧ isPlain c then do
      let (units, rest) ← scanString rest
      return (.char c :: units, rest)
    else none

/-- The character of a surrogate pair. -/
def pairChar (high low : Nat) : Char :=
  Char.ofNat (0x10000 + (high - 0xD800) * 0x400 + (low - 0xDC00))

/-- The text that the units of a string name, if every half is part of a pair. -/
def textOf? : List StringUnit → Option (List Char)
  | [] => some []
  | .char c :: rest => (textOf? rest).map (c :: ·)
  | .half high :: .half low :: rest =>
    if isHighHalf high && isLowHalf low then (textOf? rest).map (pairChar high low :: ·) else none
  | .half _ :: _ => none

/-! ### Numbers -/

/-- Is the character one of those that numbers are made of? -/
def isNumeralChar (c : Char) : Bool := c.isDigit || ['-', '+', '.', 'e', 'E'].contains c

/-- What follows one digit and all digits after it. -/
def afterDigits? : List Char → Option (List Char)
  | c :: rest => if c.isDigit then some (rest.dropWhile Char.isDigit) else none
  | [] => none

/-- What follows the whole part of a number, which has no leading zero. -/
def afterWhole? : List Char → Option (List Char)
  | '0' :: rest => some rest
  | cs => afterDigits? cs

/-- What follows the fraction of a number, if it has one. -/
def afterFraction? : List Char → Option (List Char)
  | '.' :: rest => afterDigits? rest
  | cs => some cs

/-- What follows the sign of an exponent, if it has one. -/
def afterSign : List Char → List Char
  | '+' :: rest => rest
  | '-' :: rest => rest
  | cs => cs

/-- What follows the exponent of a number, if it has one. -/
def afterExponent? : List Char → Option (List Char)
  | 'e' :: rest => afterDigits? (afterSign rest)
  | 'E' :: rest => afterDigits? (afterSign rest)
  | cs => some cs

/-- What follows the minus sign of a number, if it has one. -/
def afterMinus : List Char → List Char
  | '-' :: rest => rest
  | cs => cs

/-- Are the characters a number?  A minus sign, a whole part, a fraction and an
exponent follow each other, and all but the whole part may be absent. -/
def isNumeral (cs : List Char) : Bool :=
  ((afterWhole? (afterMinus cs)).bind afterFraction?).bind afterExponent? == some []

/-- The value of a number that is written with digits alone. -/
def natural? (numeral : List Char) : Option Nat :=
  if !numeral.isEmpty && numeral.all Char.isDigit then some (Nat.ofDigitChars 10 numeral 0)
  else none

end TritPuzzle.Json
