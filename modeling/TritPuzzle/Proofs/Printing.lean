import TritPuzzle.Json.Printer
import TritPuzzle.Proofs.Parsing

/-!
# Writing JSON

What is written for a value is one of its spellings, so it is read back as the value.  A
value may be written if its numbers are numbers; the numerals of the natural numbers are,
and no other numeral of digits alone has the same value.

## Main definitions

* `HasNumerals` — the numbers of a value are numbers.

## Main results

* `numeral_toDigits`, `eq_toDigits_of_natural?` — the numerals of the natural numbers.
* `spellsString_stringText` — every text can be written and read.
* `spells_compact`, `spells_pretty` — **what is written for a value spells it**, on one line
  or over several.
-/

namespace TritPuzzle.Json

/-! ### Natural numbers -/

theorem digitChar_of_isDigit {c : Char} (h : c.isDigit = true) :
    c.toNat - '0'.toNat < 10 ∧ Nat.digitChar (c.toNat - '0'.toNat) = c := by
  have hrange := Char.isDigit_iff_toNat.mp h
  have h0 : '0'.toNat = 48 := rfl
  have h9 : '9'.toNat = 57 := rfl
  have hlt : c.toNat - '0'.toNat < 10 := by omega
  refine ⟨hlt, Char.toNat_inj.mp ?_⟩
  rw [Nat.toNat_digitChar_of_lt_ten hlt]
  omega

/-- Digits behind a number are the last ones of its numeral. -/
theorem toDigits_ofDigitChars {cs : List Char} (h : ∀ c ∈ cs, c.isDigit = true) {n : Nat}
    (hn : 0 < n) : Nat.toDigits 10 (Nat.ofDigitChars 10 cs n) = Nat.toDigits 10 n ++ cs := by
  induction cs generalizing n with
  | nil => simp
  | cons c cs ih =>
    obtain ⟨hlt, hchar⟩ := digitChar_of_isDigit (h c List.mem_cons_self)
    rw [Nat.ofDigitChars_cons, ih (fun d hd => h d (List.mem_cons_of_mem _ hd)) (by omega),
      ← Nat.toDigits_append_toDigits (by decide) hn hlt, Nat.toDigits_of_lt_base hlt, hchar,
      List.append_assoc, List.singleton_append]

/-- A numeral without leading zeros is that of its value. -/
theorem toDigits_of_digits {cs : List Char} (h : Digits cs) (hzero : cs.head? ≠ some '0') :
    Nat.toDigits 10 (Nat.ofDigitChars 10 cs 0) = cs := by
  cases cs with
  | nil => exact absurd rfl h.ne_nil
  | cons c cs =>
    obtain ⟨hlt, hchar⟩ := digitChar_of_isDigit (h.all c List.mem_cons_self)
    -- the value of the first digit is positive, so the other digits stand behind a number
    have hpos : 0 < c.toNat - '0'.toNat := by
      by_contra hnone
      rw [Nat.eq_zero_of_not_pos hnone] at hchar
      exact hzero (by rw [← hchar]; rfl)
    rw [Nat.ofDigitChars_cons, Nat.mul_zero, Nat.zero_add,
      toDigits_ofDigitChars (fun d hd => h.all d (List.mem_cons_of_mem _ hd)) hpos,
      Nat.toDigits_of_lt_base hlt, hchar, List.singleton_append]

theorem natural?_eq_some_iff {cs : List Char} {n : Nat} :
    natural? cs = some n ↔ Digits cs ∧ Nat.ofDigitChars 10 cs 0 = n := by
  unfold natural?
  constructor
  · intro h
    split_ifs at h with hdigits
    simp only [Bool.and_eq_true, Bool.not_eq_true', List.isEmpty_eq_false_iff, List.all_eq_true]
      at hdigits
    exact ⟨⟨hdigits.1, hdigits.2⟩, Option.some.inj h⟩
  · rintro ⟨hdigits, rfl⟩
    rw [if_pos]
    simpa using ⟨hdigits.ne_nil, hdigits.all⟩

theorem digits_toDigits (n : Nat) : Digits (Nat.toDigits 10 n) where
  ne_nil := Nat.toDigits_ne_nil
  all _ hc := Nat.isDigit_of_mem_toDigits (by decide) (by decide) hc

theorem natural?_toDigits (n : Nat) : natural? (Nat.toDigits 10 n) = some n :=
  natural?_eq_some_iff.mpr ⟨digits_toDigits n, Nat.ofDigitChars_ten_toDigits⟩

theorem head?_toDigits {n : Nat} (h : n ≠ 0) : (Nat.toDigits 10 n).head? ≠ some '0' := by
  induction n using Nat.strongRecOn with
  | ind n ih =>
    rw [Nat.toDigits_eq_if (by decide)]
    split
    · next hlt => simpa using h
    · next hge =>
      have hdiv : n / 10 ≠ 0 := by omega
      have hhead := ih (n / 10) (by omega) hdiv
      obtain ⟨c, cs, hcs⟩ :=
        List.exists_cons_of_ne_nil (Nat.toDigits_ne_nil (n := n / 10) (b := 10))
      rwa [hcs] at hhead ⊢

/-- **The numeral of a natural number is a number.** -/
theorem numeral_toDigits (n : Nat) : Numeral (Nat.toDigits 10 n) := by
  have hwhole : Whole (Nat.toDigits 10 n) := by
    rcases Nat.eq_zero_or_pos n with rfl | hpos
    · exact .zero
    · exact .digits (digits_toDigits n) (head?_toDigits (Nat.ne_of_gt hpos))
  simpa using Numeral.mk (.inl rfl) hwhole .absent .absent

/-- **A number of digits alone is the numeral of its value.** -/
theorem eq_toDigits_of_natural? {cs : List Char} (h : Numeral cs) {n : Nat}
    (hn : natural? cs = some n) : cs = Nat.toDigits 10 n := by
  obtain ⟨hdigits, rfl⟩ := natural?_eq_some_iff.mp hn
  obtain ⟨hminus, hwhole, hfraction, hexponent⟩ := h
  -- Any part but the whole one would bring a character that is no digit.
  rcases hminus with rfl | rfl
  · cases hfraction with
    | present => exact absurd (hdigits.all '.' (by simp)) (by decide)
    | absent =>
      cases hexponent with
      | @present letter _ _ hletter =>
        have hdigit := hdigits.all letter (by simp)
        rcases hletter with rfl | rfl <;> exact absurd hdigit (by decide)
      | absent =>
        rw [List.nil_append, List.append_nil, List.append_nil]
        cases hwhole with
        | zero => rfl
        | digits hwhole hzero => exact (toDigits_of_digits hwhole hzero).symm
  · exact absurd (hdigits.all '-' (by simp)) (by decide)

/-! ### Strings -/

/-- A control character is written by its number. -/
theorem hexCode_hexDigit {n : Nat} (h : n < 0x20) :
    HexCode n ['0', '0', hexDigit (n / 16), hexDigit (n % 16)] := by
  have hzero : HexDigit 0 '0' := ⟨by decide, .inl rfl⟩
  have hdigit {k : Nat} (hk : k < 16) : HexDigit k (hexDigit k) := ⟨hk, .inl rfl⟩
  have hcode := HexCode.mk hzero hzero (hdigit (k := n / 16) (by omega))
    (hdigit (k := n % 16) (by omega))
  rwa [show ((0 * 16 + 0) * 16 + n / 16) * 16 + n % 16 = n by omega] at hcode

/-- What is written for a character spells it. -/
theorem spellsText_escapedInString (c : Char) {text cs : List Char} (h : SpellsText text cs) :
    SpellsText (c :: text) (escapedInString c ++ cs) := by
  unfold escapedInString
  split
  case h_8 hquote hslash _ _ _ _ _ =>
    split
    · next hcontrol => exact .code (hexCode_hexDigit hcontrol) h
    · next hcontrol =>
      exact .plain ⟨by simpa using hquote, by simpa using hslash, by omega⟩ h
  all_goals exact .letter (by decide) h

/-- An escape of half a character spells no text. -/
theorem not_spellsText_half (text : List Char) :
    ¬ SpellsText text ['\\', 'u', 'd', '8', '0', '0'] := by
  intro h
  obtain ⟨units, hunits, htext⟩ := h.exists_units
  have hscan : scanString ['\\', 'u', 'd', '8', '0', '0', '"'] = some ([.half 0xD800], []) := rfl
  obtain ⟨rfl, -⟩ := Prod.mk.inj (Option.some.inj (hscan.symm.trans (scanString_append hunits [])))
  simp [textOf?] at htext

/-- **What is written for a string spells it.** -/
theorem spellsString_stringText (s : Option String) : SpellsString s (stringText s).toList := by
  cases s with
  | none =>
    have hcode : HexCode 0xD800 ['d', '8', '0', '0'] :=
      .mk (w := 13) (x := 8) (y := 0) (z := 0) ⟨by decide, .inl rfl⟩ ⟨by decide, .inl rfl⟩
        ⟨by decide, .inl rfl⟩ ⟨by decide, .inl rfl⟩
    exact .noText (.code hcode .nil) not_spellsText_half
  | some s =>
    have htext (cs : List Char) : SpellsText cs (cs.flatMap escapedInString) := by
      induction cs with
      | nil => exact .nil
      | cons c cs ih => exact spellsText_escapedInString c ih
    have hspells := SpellsString.text (htext s.toList)
    rwa [stringText, String.toList_ofList]

/-! ### Values -/

mutual

/-- Are the numbers of the value numbers? -/
def HasNumerals : Json → Prop
  | .null => True
  | .bool _ => True
  | .number numeral => Numeral numeral.toList
  | .string _ => True
  | .array items => ItemsHaveNumerals items
  | .object members => MembersHaveNumerals members
termination_by structural v => v

/-- Are the numbers of the items numbers? -/
def ItemsHaveNumerals : List Json → Prop
  | [] => True
  | v :: items => v.HasNumerals ∧ ItemsHaveNumerals items
termination_by structural items => items

/-- Are the numbers of the member numbers? -/
def MemberHasNumerals : Option String × Json → Prop
  | (_, v) => v.HasNumerals
termination_by structural m => m

/-- Are the numbers of the members numbers? -/
def MembersHaveNumerals : List (Option String × Json) → Prop
  | [] => True
  | m :: members => MemberHasNumerals m ∧ MembersHaveNumerals members
termination_by structural members => members

end

theorem hasNumerals_array {items : List Json} :
    (array items).HasNumerals ↔ ∀ v ∈ items, v.HasNumerals := by
  change ItemsHaveNumerals items ↔ _
  induction items with
  | nil => simp [ItemsHaveNumerals]
  | cons v items ih => simp [ItemsHaveNumerals, ih]

theorem hasNumerals_ofMembers {members : List (String × Json)} :
    (ofMembers members).HasNumerals ↔ ∀ m ∈ members, m.2.HasNumerals := by
  change MembersHaveNumerals (members.map fun m => (some m.1, m.2)) ↔ _
  induction members with
  | nil => simp [MembersHaveNumerals]
  | cons m members ih =>
    rw [List.map_cons, MembersHaveNumerals, ih, List.forall_mem_cons, MemberHasNumerals]

theorem hasNumerals_ofText (s : String) : (ofText s).HasNumerals := trivial

theorem hasNumerals_ofNat (n : Nat) : (ofNat n).HasNumerals := by
  change Numeral (String.ofList (Nat.toDigits 10 n)).toList
  rw [String.toList_ofList]
  exact numeral_toDigits n

mutual

/-- **What is written for a value spells it.** -/
theorem spells_compact : ∀ {v : Json}, v.HasNumerals → Spells v v.compact.toList
  | .null, _ => .null
  | .bool true, _ => .true
  | .bool false, _ => .false
  | .number _, h => .number h
  | .string s, _ => .string (spellsString_stringText s)
  | .array [], _ => .emptyArray blanks_nil
  | .array (v :: items), h => by
    have hnumerals : ItemsHaveNumerals (v :: items) := h
    have hitems := spells_compactItems hnumerals (List.cons_ne_nil _ _)
    simpa [compact] using Spells.array hitems
  | .object [], _ => .emptyObject blanks_nil
  | .object (m :: members), h => by
    have hnumerals : MembersHaveNumerals (m :: members) := h
    have hmembers := spells_compactMembers hnumerals (List.cons_ne_nil _ _)
    simpa [compact] using Spells.object hmembers

theorem spells_compactItems : ∀ {items : List Json}, ItemsHaveNumerals items → items ≠ [] →
    SpellsItems items (compactItems items).toList
  | [], _, hne => absurd rfl hne
  | [_], h, _ => .last (spells_compact h.1).element
  | _ :: w :: items, h, _ => by
    have hrest := spells_compactItems h.2 (List.cons_ne_nil w items)
    simpa [compactItems] using SpellsItems.next (spells_compact h.1).element hrest

theorem spells_compactMember : ∀ {m : Option String × Json}, MemberHasNumerals m →
    SpellsMember m (compactMember m).toList
  | (key, v), h => by
    have hvalue := spells_compact (v := v) h
    simpa [compactMember] using
      SpellsMember.mk blanks_nil (spellsString_stringText key) blanks_nil hvalue.element

theorem spells_compactMembers : ∀ {members : List (Option String × Json)},
    MembersHaveNumerals members → members ≠ [] →
    SpellsMembers members (compactMembers members).toList
  | [], _, hne => absurd rfl hne
  | [_], h, _ => .last (spells_compactMember h.1)
  | _ :: n :: members, h, _ => by
    have hrest := spells_compactMembers h.2 (List.cons_ne_nil n members)
    simpa [compactMembers] using SpellsMembers.next (spells_compactMember h.1) hrest

end

/-! ### Values over several lines -/

theorem blanks_lineBreak (indent : Nat) : Blanks (lineBreak indent).toList := by
  have hbreak : (lineBreak indent).toList = '\n' :: List.replicate indent ' ' := by
    simp [lineBreak]
  intro c hc
  rw [hbreak, List.mem_cons, List.mem_replicate] at hc
  rcases hc with rfl | ⟨-, rfl⟩
  · decide
  · decide

mutual

/-- A value that is laid out over several lines is spelled too. -/
theorem spells_prettyAt (indent : Nat) :
    ∀ {v : Json}, v.HasNumerals → Spells v (v.prettyAt indent).toList
  | .null, _ => .null
  | .bool true, _ => .true
  | .bool false, _ => .false
  | .number _, h => .number h
  | .string s, _ => .string (spellsString_stringText s)
  | .array [], _ => by
    simpa [prettyAt] using Spells.emptyArray blanks_nil
  | .array (v :: items), h => by
    have hnumerals : ItemsHaveNumerals (v :: items) := h
    -- the line break before the bracket stands behind the last item
    have hitems := spells_prettyItems (indent + 2) hnumerals (List.cons_ne_nil _ _)
      (blanks_lineBreak indent)
    simpa [prettyAt] using Spells.array hitems
  | .object [], _ => by
    simpa [prettyAt] using Spells.emptyObject blanks_nil
  | .object (m :: members), h => by
    have hnumerals : MembersHaveNumerals (m :: members) := h
    have hmembers := spells_prettyMembers (indent + 2) hnumerals (List.cons_ne_nil _ _)
      (blanks_lineBreak indent)
    simpa [prettyAt] using Spells.object hmembers

theorem spells_prettyItems (indent : Nat) : ∀ {items : List Json} {after : List Char},
    ItemsHaveNumerals items → items ≠ [] → Blanks after →
    SpellsItems items ((prettyItems indent items).toList ++ after)
  | [], _, _, hne, _ => absurd rfl hne
  | [_], _, h, _, hafter => by
    have hvalue := spells_prettyAt indent h.1
    simpa [prettyItems] using
      SpellsItems.last (SpellsElement.mk (blanks_lineBreak indent) hvalue hafter)
  | _ :: w :: items, _, h, _, hafter => by
    have hvalue := spells_prettyAt indent h.1
    have hrest := spells_prettyItems indent h.2 (List.cons_ne_nil w items) hafter
    simpa [prettyItems] using
      SpellsItems.next (SpellsElement.mk (blanks_lineBreak indent) hvalue blanks_nil) hrest

theorem spells_prettyMember (indent : Nat) : ∀ {m : Option String × Json} {after : List Char},
    MemberHasNumerals m → Blanks after →
    SpellsMember m ((lineBreak indent ++ prettyMember indent m).toList ++ after)
  | (key, v), _, h, hafter => by
    have hvalue := spells_prettyAt indent (v := v) h
    have hspace : Blanks [' '] := by simp [Blanks]
    simpa [prettyMember] using SpellsMember.mk (blanks_lineBreak indent)
      (spellsString_stringText key) blanks_nil (SpellsElement.mk hspace hvalue hafter)

theorem spells_prettyMembers (indent : Nat) :
    ∀ {members : List (Option String × Json)} {after : List Char},
    MembersHaveNumerals members → members ≠ [] → Blanks after →
    SpellsMembers members ((prettyMembers indent members).toList ++ after)
  | [], _, _, hne, _ => absurd rfl hne
  | [_], _, h, _, hafter => .last (spells_prettyMember indent h.1 hafter)
  | _ :: n :: members, _, h, _, hafter => by
    have hmember := spells_prettyMember indent h.1 blanks_nil
    have hrest := spells_prettyMembers indent h.2 (List.cons_ne_nil n members) hafter
    simpa [prettyMembers] using SpellsMembers.next hmember hrest

end

theorem spells_pretty {v : Json} (h : v.HasNumerals) : Spells v v.pretty.toList :=
  spells_prettyAt 0 h

end TritPuzzle.Json
