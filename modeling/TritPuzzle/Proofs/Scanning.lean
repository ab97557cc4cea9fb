import TritPuzzle.Json.Token
import TritPuzzle.Proofs.Grammar

/-!
# Scanning JSON

The scanner of tokens reads each of the scalars of the grammar to its end, however the
text goes on, and with the text that the grammar has for a string.

## Main definitions

* `Stops` — a text does not go on with a character of some kind.
* `SpellsUnits` — the units of a string, between its text and its spelling.

## Main results

* `isNumeral_of_numeral`, `scanString_append` — the literals are read as they are spelled.
* `SpellsText.exists_units`, `SpellsUnits.spellsText` — the units of a string name its text.
* `scan?_null`, `scan?_true`, `scan?_false`, `scan?_number`, `scan?_string` — **so are the
  scalars.**
-/

namespace TritPuzzle.Json

theorem isBlank_iff {c : Char} : isBlank c = true ↔ c ∈ [' ', '\t', '\n', '\r'] := by
  simp [isBlank, or_assoc]

/-! ### Where a literal ends -/

/-- Does the text not go on with a character of the given kind? -/
def Stops (p : Char → Bool) (rest : List Char) : Prop := ∀ c ∈ rest.head?, p c = false

section

variable {p : Char → Bool} {cs rest : List Char}

theorem stops_nil (p : Char → Bool) : Stops p [] := by
  intro c hc
  simp at hc

theorem stops_cons {c : Char} (h : p c = false) : Stops p (c :: rest) := by
  intro d hd
  obtain rfl := Option.some.inj hd
  exact h

theorem Stops.takeWhile (h : Stops p rest) : rest.takeWhile p = [] := by
  cases rest with
  | nil => rfl
  | cons c rest => rw [List.takeWhile_cons_of_neg]; simpa using h c rfl

theorem Stops.dropWhile (h : Stops p rest) : rest.dropWhile p = rest := by
  cases rest with
  | nil => rfl
  | cons c rest => rw [List.dropWhile_cons_of_neg]; simpa using h c rfl

theorem Stops.takeWhile_append (h : Stops p rest) (hcs : ∀ c ∈ cs, p c = true) :
    (cs ++ rest).takeWhile p = cs := by
  rw [List.takeWhile_append_of_pos hcs, h.takeWhile, List.append_nil]

theorem Stops.dropWhile_append (h : Stops p rest) (hcs : ∀ c ∈ cs, p c = true) :
    (cs ++ rest).dropWhile p = rest := by
  rw [List.dropWhile_append_of_pos hcs, h.dropWhile]

end

/-! ### Numbers -/

section

variable {cs rest : List Char}

theorem afterDigits?_append (h : Digits cs) (hrest : Stops Char.isDigit rest) :
    afterDigits? (cs ++ rest) = some rest := by
  cases cs with
  | nil => exact absurd rfl h.ne_nil
  | cons c cs =>
    have htail : ∀ d ∈ cs, d.isDigit = true := fun d hd => h.all d (List.mem_cons_of_mem _ hd)
    rw [List.cons_append, afterDigits?, if_pos (h.all c List.mem_cons_self),
      hrest.dropWhile_append htail]

theorem afterWhole?_append (h : Whole cs) (hrest : Stops Char.isDigit rest) :
    afterWhole? (cs ++ rest) = some rest := by
  cases h with
  | zero => rfl
  | digits hdigits hzero =>
    rw [← afterDigits?_append hdigits hrest]
    cases cs with
    | nil => exact absurd rfl hdigits.ne_nil
    | cons c cs =>
      have hc : c ≠ '0' := by simpa using hzero
      rw [List.cons_append, afterWhole?]
      simpa using hc

theorem ne_of_isDigit {c d : Char} (hc : c.isDigit = true) (hd : d.isDigit = false) : c ≠ d := by
  rintro rfl
  simp [hc] at hd

theorem afterMinus_append {minus : List Char} (hminus : minus = [] ∨ minus = ['-']) (h : Whole cs) :
    afterMinus (minus ++ (cs ++ rest)) = cs ++ rest := by
  rcases hminus with rfl | rfl
  · cases h with
    | zero => rfl
    | digits hdigits =>
      cases cs with
      | nil => exact absurd rfl hdigits.ne_nil
      | cons c cs =>
        have hc : c ≠ '-' := ne_of_isDigit (hdigits.all c List.mem_cons_self) rfl
        rw [List.nil_append, List.cons_append, afterMinus]
        simpa using hc
  · rfl

theorem Exponent.stops (h : Exponent cs) {p : Char → Bool} (he : p 'e' = false)
    (hE : p 'E' = false) : Stops p cs := by
  cases h with
  | absent => exact stops_nil p
  | present hletter =>
    rcases hletter with rfl | rfl
    · exact stops_cons he
    · exact stops_cons hE

theorem Fraction.stops (h : Fraction cs) {exponent : List Char} (he : Exponent exponent) :
    Stops Char.isDigit (cs ++ exponent) := by
  cases h with
  | absent => exact he.stops (by decide) (by decide)
  | present => exact stops_cons (by decide)

theorem afterFraction?_append (h : Fraction cs) {exponent : List Char}
    (he : Exponent exponent) : afterFraction? (cs ++ exponent) = some exponent := by
  cases h with
  | absent =>
    cases he with
    | absent => rfl
    | present hletter => rcases hletter with rfl | rfl <;> rfl
  | present hdigits =>
    exact afterDigits?_append hdigits (he.stops (by decide) (by decide))

theorem afterSign_append {sign : List Char} (hsign : sign = [] ∨ sign = ['+'] ∨ sign = ['-'])
    (h : Digits cs) : afterSign (sign ++ cs) = cs := by
  rcases hsign with rfl | rfl | rfl
  · cases cs with
    | nil => rfl
    | cons c cs =>
      have hdigit := h.all c List.mem_cons_self
      have hplus : c ≠ '+' := ne_of_isDigit hdigit rfl
      have hminus : c ≠ '-' := ne_of_isDigit hdigit rfl
      simp [afterSign, hplus, hminus]
  · rfl
  · rfl

theorem afterExponent?_of_exponent (h : Exponent cs) : afterExponent? cs = some [] := by
  cases h with
  | absent => rfl
  | present hletter hsign hdigits =>
    have hafter := afterDigits?_append hdigits (stops_nil _)
    rw [List.append_nil] at hafter
    rcases hletter with rfl | rfl
    · rw [afterExponent?, afterSign_append hsign hdigits, hafter]
    · rw [afterExponent?, afterSign_append hsign hdigits, hafter]

/-- **A number is read to its end.** -/
theorem isNumeral_of_numeral (h : Numeral cs) : isNumeral cs = true := by
  obtain ⟨hminus, hwhole, hfraction, hexponent⟩ := h
  rw [isNumeral, afterMinus_append hminus hwhole,
    afterWhole?_append hwhole (hfraction.stops hexponent), Option.bind_some,
    afterFraction?_append hfraction hexponent, Option.bind_some,
    afterExponent?_of_exponent hexponent]
  rfl

theorem isNumeralChar_of_isDigit {c : Char} (h : c.isDigit = true) : isNumeralChar c = true := by
  rw [isNumeralChar, h, Bool.true_or]

theorem Whole.isDigits (h : Whole cs) : Digits cs := by
  cases h with
  | zero => exact ⟨by simp, List.forall_mem_singleton.mpr rfl⟩
  | digits hdigits => exact hdigits

/-- A number is made of the characters that numbers are made of. -/
theorem Numeral.isNumeralChar (h : Numeral cs) : ∀ c ∈ cs, isNumeralChar c = true := by
  obtain ⟨hminus, hwhole, hfraction, hexponent⟩ := h
  have hdigits {ds : List Char} (h : Digits ds) : ∀ c ∈ ds, Json.isNumeralChar c = true :=
    fun c hc => isNumeralChar_of_isDigit (h.all c hc)
  simp only [List.forall_mem_append]
  refine ⟨?_, hdigits hwhole.isDigits, ?_, ?_⟩
  · rcases hminus with rfl | rfl
    · simp
    · exact List.forall_mem_singleton.mpr rfl
  · cases hfraction with
    | absent => simp
    | present hds => exact List.forall_mem_cons.mpr ⟨by decide, hdigits hds⟩
  · cases hexponent with
    | absent => simp
    | present hletter hsign hds =>
      refine List.forall_mem_cons.mpr ⟨?_, List.forall_mem_append.mpr ⟨?_, hdigits hds⟩⟩
      · rcases hletter with rfl | rfl <;> decide
      · rcases hsign with rfl | rfl | rfl
        · simp
        · exact List.forall_mem_singleton.mpr rfl
        · exact List.forall_mem_singleton.mpr rfl

/-- A number starts with a minus sign or with a digit. -/
theorem Numeral.exists_cons (h : Numeral cs) :
    ∃ c rest, cs = c :: rest ∧ (c = '-' ∨ c.isDigit = true) := by
  obtain ⟨hminus, hwhole, -, -⟩ := h
  rcases hminus with rfl | rfl
  · obtain ⟨c, rest, hcs⟩ := List.exists_cons_of_ne_nil hwhole.isDigits.ne_nil
    refine ⟨c, _, by rw [hcs]; rfl, .inr (hwhole.isDigits.all c ?_)⟩
    rw [hcs]
    exact List.mem_cons_self
  · exact ⟨'-', _, rfl, .inl rfl⟩

end

/-! ### Strings -/

theorem hexDigit?_of_hexDigit {n : Nat} {c : Char} (h : HexDigit n c) :
    hexDigit? c = some n := by
  have hall : ∀ n < 16, hexDigit? n.digitChar = some n ∧
      hexDigit? n.digitChar.toUpper = some n := by decide
  obtain ⟨hn, rfl | rfl⟩ := h
  · exact (hall n hn).1
  · exact (hall n hn).2

theorem hexCode?_of_hexCode {a b c d : Char} {n : Nat} (h : HexCode n [a, b, c, d]) :
    hexCode? a b c d = some n := by
  obtain ⟨ha, hb, hc, hd⟩ := h
  simp [hexCode?, hexDigit?_of_hexDigit ha, hexDigit?_of_hexDigit hb, hexDigit?_of_hexDigit hc,
    hexDigit?_of_hexDigit hd]

theorem HexCode.lt {n : Nat} {cs : List Char} (h : HexCode n cs) : n < 0x10000 := by
  obtain ⟨⟨hw, -⟩, ⟨hx, -⟩, ⟨hy, -⟩, ⟨hz, -⟩⟩ := h
  omega

theorem escapedChar?_of_mem {letter c : Char} (h : (letter, c) ∈ escapes) :
    escapedChar? letter = some c := by
  have hall : escapes.all (fun e => escapedChar? e.1 = some e.2) = true := by decide
  exact of_decide_eq_true (List.all_eq_true.mp hall _ h)

theorem HexCode.exists_digits {n : Nat} {cs : List Char} (h : HexCode n cs) :
    ∃ a b c d, cs = [a, b, c, d] := by
  obtain ⟨-, -, -, -⟩ := h
  exact ⟨_, _, _, _, rfl⟩

theorem isHalf_iff {n : Nat} : IsHalf n ↔ (isHighHalf n || isLowHalf n) = true := by
  simp only [IsHalf, isHighHalf, isLowHalf, Bool.or_eq_true, Bool.and_eq_true, decide_eq_true_eq]
  omega

/-- A character is no half of one. -/
theorem not_isHalf_toNat (c : Char) : ¬ IsHalf c.toNat := by
  rintro ⟨hlow, hhigh⟩
  have hvalid : c.toNat < 0xD800 ∨ 0xDFFF < c.toNat ∧ c.toNat < 0x110000 := c.valid
  omega

/-- The number of a character, unless it is that of half of one. -/
theorem toNat_ofNat {n : Nat} (hn : n < 0x110000) (h : ¬ IsHalf n) : (Char.ofNat n).toNat = n := by
  have hvalid : n.isValidChar := by
    simp only [Nat.isValidChar, IsHalf] at h ⊢
    omega
  rw [Char.ofNat, dif_pos hvalid]
  rfl

theorem ofCode_toNat (c : Char) : StringUnit.ofCode c.toNat = .char c := by
  rw [StringUnit.ofCode, if_neg (mt isHalf_iff.mpr (not_isHalf_toNat c)), Char.ofNat_toNat]

theorem ofCode_of_isHalf {n : Nat} (h : IsHalf n) : StringUnit.ofCode n = .half n := by
  rw [StringUnit.ofCode, if_pos (isHalf_iff.mp h)]

/-- The units of a string and their spelling. -/
inductive SpellsUnits : List StringUnit → List Char → Prop
  | nil : SpellsUnits [] []
  | plain {c : Char} {units : List StringUnit} {cs : List Char} : StandsForItself c →
      SpellsUnits units cs → SpellsUnits (.char c :: units) (c :: cs)
  | letter {letter c : Char} {units : List StringUnit} {cs : List Char} :
      (letter, c) ∈ escapes → SpellsUnits units cs →
      SpellsUnits (.char c :: units) ('\\' :: letter :: cs)
  | code {c : Char} {digits : List Char} {units : List StringUnit} {cs : List Char} :
      HexCode c.toNat digits → SpellsUnits units cs →
      SpellsUnits (.char c :: units) ('\\' :: 'u' :: (digits ++ cs))
  | half {code : Nat} {digits : List Char} {units : List StringUnit} {cs : List Char} :
      HexCode code digits → IsHalf code → SpellsUnits units cs →
      SpellsUnits (.half code :: units) ('\\' :: 'u' :: (digits ++ cs))

/-- What may stand in a string spells some units. -/
theorem Escaped.exists_units {cs : List Char} (h : Escaped cs) :
    ∃ units, SpellsUnits units cs := by
  induction h with
  | nil => exact ⟨_, .nil⟩
  | plain hc _ ih =>
    obtain ⟨units, hunits⟩ := ih
    exact ⟨_, .plain hc hunits⟩
  | letter hletter _ ih =>
    obtain ⟨units, hunits⟩ := ih
    exact ⟨_, .letter hletter hunits⟩
  | @code code digits cs hcode _ ih =>
    obtain ⟨units, hunits⟩ := ih
    by_cases hhalf : IsHalf code
    · exact ⟨_, .half hcode hhalf hunits⟩
    · have hlt := hcode.lt
      rw [← toNat_ofNat (by omega) hhalf] at hcode
      exact ⟨_, .code hcode hunits⟩

theorem SpellsText.exists_units {text cs : List Char} (h : SpellsText text cs) :
    ∃ units, SpellsUnits units cs ∧ textOf? units = some text := by
  induction h with
  | nil => exact ⟨[], .nil, rfl⟩
  | plain hc _ ih =>
    obtain ⟨units, hunits, htext⟩ := ih
    exact ⟨_, .plain hc hunits, by rw [textOf?, htext, Option.map_some]⟩
  | letter hletter _ ih =>
    obtain ⟨units, hunits, htext⟩ := ih
    exact ⟨_, .letter hletter hunits, by rw [textOf?, htext, Option.map_some]⟩
  | code hcode _ ih =>
    obtain ⟨units, hunits, htext⟩ := ih
    exact ⟨_, .code hcode hunits, by rw [textOf?, htext, Option.map_some]⟩
  | @pair high low c _ _ _ _ hhigh hlow h1 h2 h3 h4 hc _ ih =>
    obtain ⟨units, hunits, htext⟩ := ih
    refine ⟨_, .half hhigh ⟨h1, by omega⟩ (.half hlow ⟨by omega, h4⟩ hunits), ?_⟩
    have hpair : pairChar high low = c := by rw [pairChar, ← hc, Char.ofNat_toNat]
    have hhalves : (isHighHalf high && isLowHalf low) = true := by
      simp [isHighHalf, isLowHalf]
      omega
    rw [textOf?, if_pos hhalves, htext, Option.map_some, hpair]

/-- The text that the units of a string name is spelled by it. -/
theorem SpellsUnits.spellsText {units : List StringUnit} {cs text : List Char}
    (h : SpellsUnits units cs) (htext : textOf? units = some text) : SpellsText text cs := by
  fun_induction textOf? units generalizing cs text with
  | case1 =>
    obtain rfl := Option.some.inj htext
    cases h with
    | nil => exact .nil
  | case2 c units ih =>
    obtain ⟨text', htext', rfl⟩ := Option.map_eq_some_iff.mp htext
    cases h with
    | plain hc hunits => exact .plain hc (ih hunits htext')
    | letter hletter hunits => exact .letter hletter (ih hunits htext')
    | code hcode hunits => exact .code hcode (ih hunits htext')
  | case3 high low units hhalves ih =>
    obtain ⟨text', htext', rfl⟩ := Option.map_eq_some_iff.mp htext
    obtain _ | _ | _ | _ | ⟨hhigh, -, hunits⟩ := h
    obtain _ | _ | _ | _ | ⟨hlow, -, hunits⟩ := hunits
    simp only [isHighHalf, isLowHalf, Bool.and_eq_true, decide_eq_true_eq] at hhalves
    have hpair : (pairChar high low).toNat =
        0x10000 + (high - 0xD800) * 0x400 + (low - 0xDC00) := by
      rw [pairChar]
      exact toNat_ofNat (by omega) (by simp only [IsHalf]; omega)
    exact .pair hhigh hlow (by omega) (by omega) (by omega) (by omega) hpair (ih hunits htext')
  | case4 => simp at htext
  | case5 => simp at htext

/-- **A string is read to its closing quotation mark.** -/
theorem scanString_append {units : List StringUnit} {cs : List Char} (h : SpellsUnits units cs)
    (rest : List Char) : scanString (cs ++ '"' :: rest) = some (units, rest) := by
  induction h with
  | nil => simp [scanString]
  | plain hc _ ih =>
    obtain ⟨hquote, hslash, hplain⟩ := hc
    simp [scanString, hslash, isPlain, hplain, ih]
  | @letter letter _ _ _ hletter _ ih =>
    have hu : letter ≠ 'u' := by
      rintro rfl
      simp [escapes] at hletter
    simp [scanString, hu, escapedChar?_of_mem hletter, ih]
  | @code c _ _ _ hcode _ ih =>
    obtain ⟨a, b, c', d, rfl⟩ := hcode.exists_digits
    simp [scanString, hexCode?_of_hexCode hcode, ofCode_toNat, ih]
  | half hcode hhalf _ ih =>
    obtain ⟨a, b, c', d, rfl⟩ := hcode.exists_digits
    simp [scanString, hexCode?_of_hexCode hcode, ofCode_of_isHalf hhalf, ih]

/-! ### Scalars -/

namespace Token

variable {rest : List Char}

theorem scan?_of_punctuation {c : Char} {t : Token} (h : ofPunctuation? c = some t) :
    scan? (c :: rest) = some (t, rest) := by
  rw [scan?, h]

theorem scan?_of_word {c : Char} {cs : List Char} (hpunctuation : ofPunctuation? c = none)
    (hquote : c ≠ '"') (hc : c.isAlpha = true) (hcs : cs.all Char.isAlpha = true)
    (hrest : Stops Char.isAlpha rest) :
    scan? (c :: (cs ++ rest)) = (ofWord? (c :: cs)).map (·, rest) := by
  have hall := List.all_eq_true.mp hcs
  rw [scan?, hpunctuation]
  simp only [if_neg hquote, if_pos hc, hrest.takeWhile_append hall, hrest.dropWhile_append hall]

theorem scan?_null (hrest : Stops Char.isAlpha rest) :
    scan? ("null".toList ++ rest) = some (.null, rest) :=
  scan?_of_word (c := 'n') (by decide) (by decide) (by decide) (by decide) hrest

theorem scan?_true (hrest : Stops Char.isAlpha rest) :
    scan? ("true".toList ++ rest) = some (.bool true, rest) :=
  scan?_of_word (c := 't') (by decide) (by decide) (by decide) (by decide) hrest

theorem scan?_false (hrest : Stops Char.isAlpha rest) :
    scan? ("false".toList ++ rest) = some (.bool false, rest) :=
  scan?_of_word (c := 'f') (by decide) (by decide) (by decide) (by decide) hrest

theorem ofPunctuation?_of_isDigit {c : Char} (h : c.isDigit = true) : ofPunctuation? c = none := by
  unfold ofPunctuation?
  split
  case h_7 => rfl
  all_goals exact absurd h (by decide)

theorem isAlpha_of_isDigit {c : Char} (h : c.isDigit = true) : c.isAlpha = false := by
  have hall : ∀ n < 58, 48 ≤ n → (Char.ofNat n).isAlpha = false := by decide
  have hrange : 48 ≤ c.toNat ∧ c.toNat ≤ 57 := Char.isDigit_iff_toNat.mp h
  have halpha := hall c.toNat (by omega) hrange.1
  rwa [Char.ofNat_toNat] at halpha

theorem scan?_number {numeral : String} (h : Numeral numeral.toList)
    (hrest : Stops isNumeralChar rest) :
    scan? (numeral.toList ++ rest) = some (.number numeral, rest) := by
  obtain ⟨c, cs, hcs, hc⟩ := h.exists_cons
  have hchars : ∀ d ∈ cs, isNumeralChar d = true := fun d hd =>
    h.isNumeralChar d (hcs ▸ List.mem_cons_of_mem _ hd)
  have hothers : ofPunctuation? c = none ∧ c ≠ '"' ∧ c.isAlpha = false := by
    rcases hc with rfl | hdigit
    · exact ⟨rfl, by decide, rfl⟩
    · exact ⟨ofPunctuation?_of_isDigit hdigit, ne_of_isDigit hdigit rfl,
        isAlpha_of_isDigit hdigit⟩
  obtain ⟨hpunctuation, hquote, halpha⟩ := hothers
  have hnumeral := isNumeral_of_numeral h
  rw [hcs] at hnumeral
  rw [hcs, List.cons_append, scan?, hpunctuation]
  simp only [if_neg hquote, halpha, Bool.false_eq_true, if_false, hrest.takeWhile_append hchars,
    hrest.dropWhile_append hchars, ofNumeral?, hnumeral, if_true, Option.map_some]
  rw [← hcs, String.ofList_toList]

theorem scan?_string {text : Option String} {cs : List Char} (h : SpellsString text cs) :
    scan? (cs ++ rest) = some (.string text, rest) := by
  have hread {cs : List Char} {units : List StringUnit} (hunits : SpellsUnits units cs) :
      scan? ('"' :: (cs ++ ['"']) ++ rest) =
        some (.string ((textOf? units).map String.ofList), rest) := by
    rw [List.cons_append, List.append_assoc, List.singleton_append, scan?,
      scanString_append hunits rest]
    rfl
  cases h with
  | text hspells =>
    obtain ⟨units, hunits, htext⟩ := hspells.exists_units
    rw [hread hunits, htext, Option.map_some, String.ofList_toList]
  | noText hescaped hother =>
    obtain ⟨units, hunits⟩ := hescaped.exists_units
    have hnone : textOf? units = none := by
      rw [Option.eq_none_iff_forall_ne_some]
      exact fun text htext => hother text (hunits.spellsText htext)
    rw [hread hunits, hnone, Option.map_none]

/-- No token begins with a blank. -/
theorem scan?_of_blank {c : Char} (h : isBlank c = true) : scan? (c :: rest) = none := by
  simp only [isBlank_iff, List.mem_cons, List.not_mem_nil, or_false] at h
  rcases h with rfl | rfl | rfl | rfl <;> rfl

end Token

end TritPuzzle.Json
