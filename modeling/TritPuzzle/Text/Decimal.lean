/-!
# Decimal numerals

Natural numbers are written in decimal with the fewest digits.
-/

namespace TritPuzzle.Text

/-- The decimal numeral of a number, without leading zeros. -/
def decimal (n : Nat) : String := String.ofList (Nat.toDigits 10 n)

@[simp] theorem toList_decimal (n : Nat) : (decimal n).toList = Nat.toDigits 10 n := by
  simp [decimal]

/-- A numeral reads back as its number, so two numbers never share one. -/
theorem decimal_injective {m n : Nat} (h : decimal m = decimal n) : m = n := by
  have h' : Nat.toDigits 10 m = Nat.toDigits 10 n := by
    rw [← toList_decimal, ← toList_decimal, h]
  rw [← Nat.ofDigitChars_toDigits (b := 10) (n := m) (by decide) (by decide), h',
    Nat.ofDigitChars_toDigits (by decide) (by decide)]

end TritPuzzle.Text
