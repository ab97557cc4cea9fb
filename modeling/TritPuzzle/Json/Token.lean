import TritPuzzle.Json.Literal

/-!
# JSON tokens

A JSON document is a sequence of tokens with blanks between them.

## Main definitions

* `Json.Token` — punctuation and scalars.
* `Json.Token.scan?` — the first token of a text that begins with one.
* `Json.tokens?` — all tokens of a text.
-/

namespace TritPuzzle.Json

/-- A token of a JSON document. -/
inductive Token where
  /-- `{` -/
  | openObject
  /-- `}` -/
  | closeObject
  /-- `[` -/
  | openArray
  /-- `]` -/
  | closeArray
  /-- `:` -/
  | colon
  /-- `,` -/
  | comma
  /-- `null` -/
  | null
  /-- `true` or `false` -/
  | bool (b : Bool)
  /-- A number, as spelled. -/
  | number (numeral : String)
  /-- A string and the text it names, if it names one. -/
  | string (text : Option String)
  deriving DecidableEq, Repr

/-- The blanks of JSON. -/
def isBlank (c : Char) : Bool := c = ' ' || c = '\t' || c = '\n' || c = '\r'

namespace Token

/-- The token that is a word. -/
def ofWord? : List Char → Option Token
  | ['n', 'u', 'l', 'l'] => some .null
  | ['t', 'r', 'u', 'e'] => some (.bool true)
  | ['f', 'a', 'l', 's', 'e'] => some (.bool false)
  | _ => none

/-- The token that is a number. -/
def ofNumeral? (cs : List Char) : Option Token :=
  if isNumeral cs then some (.number (String.ofList cs)) else none

/-- The token that is a single character. -/
def ofPunctuation? : Char → Option Token
  | '\x7b' => some .openObject
  | '\x7d' => some .closeObject
  | '[' => some .openArray
  | ']' => some .closeArray
  | ':' => some .colon
  | ',' => some .comma
  | _ => none

/-- The token that a text begins with, and what follows it. -/
def scan? : List Char → Option (Token × List Char)
  | [] => none
  | c :: cs =>
    match ofPunctuation? c with
    | some t => some (t, cs)
    | none =>
      if c = '"' then
        (scanString cs).map fun r => (.string ((textOf? r.1).map String.ofList), r.2)
      else if c.isAlpha then
        (ofWord? (c :: cs.takeWhile Char.isAlpha)).map (·, cs.dropWhile Char.isAlpha)
      else
        (ofNumeral? (c :: cs.takeWhile isNumeralChar)).map (·, cs.dropWhile isNumeralChar)

end Token

/-- At most the given number of tokens of a text, with blanks around them, up to its
end. -/
def tokensWithin? : Nat → List Char → Option (List Token)
  | 0, cs => if cs.isEmpty then some [] else none
  | n + 1, cs =>
    let cs := cs.dropWhile isBlank
    if cs.isEmpty then some []
    else do
      let (t, rest) ← Token.scan? cs
      let ts ← tokensWithin? n rest
      return t :: ts

/-- The tokens of a text.  No text has more tokens than characters. -/
def tokens? (cs : List Char) : Option (List Token) := tokensWithin? cs.length cs

end TritPuzzle.Json
