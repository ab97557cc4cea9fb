import TritPuzzle.Json.Document
import TritPuzzle.Proofs.Scanning

/-!
# Reading JSON

Every text that the grammar has for a value is read as that value.  Reading goes through
tokens and through states, so what is shown by induction over the grammar is that the
spelling of a part takes the reader from one state to another, whatever text comes behind.

## Main definitions

* `read` — what is read of a text from a state on.
* `Delimits` — the text goes on so that a scalar before it has ended.
* `Awaits`, `AwaitsKey` — a value, or a key, may come next.
* `ReadsValue`, `ReadsItems`, `ReadsMember`, `ReadsMembers` — what the spelling of a part
  does to the reader.

## Main results

* `read_of_scan?` — a text is read token by token.
* `reads_spells`, `reads_items`, `reads_members` — the parts of a value are read.
* `parse?_of_spells` — **the spellings of a value are read as that value.**
-/

namespace TritPuzzle.Json

/-! ### Tokens of a text -/

/-- A unit in front of a string leaves the same behind it. -/
theorem exists_scanString_of_unit {cs rest : List Char} {unit : StringUnit}
    {units : List StringUnit}
    (h : (do let (units, rest) ← scanString cs; return (unit :: units, rest)) =
      some (units, rest)) : ∃ units', scanString cs = some (units', rest) := by
  cases hscan : scanString cs with
  | none => simp [hscan] at h
  | some r =>
    rw [hscan] at h
    obtain ⟨-, rfl⟩ := Prod.mk.inj (Option.some.inj h)
    exact ⟨r.1, rfl⟩

/-- A string takes up a character. -/
theorem length_scanString_lt {cs rest : List Char} {units : List StringUnit}
    (h : scanString cs = some (units, rest)) : rest.length < cs.length := by
  fun_induction scanString cs generalizing units rest with
  | case1 => simp at h
  | case2 tail =>
    obtain ⟨-, rfl⟩ := Prod.mk.inj (Option.some.inj h)
    exact Nat.lt_succ_self _
  | case3 w x y z tail ih =>
    obtain ⟨code, -, hcode⟩ := Option.bind_eq_some_iff.mp h
    obtain ⟨units', hscan⟩ := exists_scanString_of_unit hcode
    have hlt := ih hscan
    simp only [List.length_cons]
    omega
  | case4 letter tail _ ih =>
    obtain ⟨c, -, hletter⟩ := Option.bind_eq_some_iff.mp h
    obtain ⟨units', hscan⟩ := exists_scanString_of_unit hletter
    have hlt := ih hscan
    simp only [List.length_cons]
    omega
  | case5 c tail _ _ _ _ ih =>
    obtain ⟨units', hscan⟩ := exists_scanString_of_unit h
    exact Nat.lt_succ_of_lt (ih hscan)
  | case6 => simp at h

/-- So does every token. -/
theorem Token.length_scan?_lt {cs rest : List Char} {t : Token}
    (h : scan? cs = some (t, rest)) : rest.length < cs.length := by
  cases cs with
  | nil => simp [scan?] at h
  | cons c cs =>
    simp only [scan?] at h
    rw [List.length_cons, Nat.lt_succ_iff]
    split at h
    · obtain ⟨-, rfl⟩ := Prod.mk.inj (Option.some.inj h)
      exact Nat.le_refl _
    · split_ifs at h with hquote halpha
      · obtain ⟨⟨units, rest'⟩, hscan, hr⟩ := Option.map_eq_some_iff.mp h
        obtain ⟨-, rfl⟩ := Prod.mk.inj hr
        exact Nat.le_of_lt (length_scanString_lt hscan)
      · obtain ⟨_, -, hr⟩ := Option.map_eq_some_iff.mp h
        obtain ⟨-, rfl⟩ := Prod.mk.inj hr
        exact (List.dropWhile_suffix _).length_le
      · obtain ⟨_, -, hr⟩ := Option.map_eq_some_iff.mp h
        obtain ⟨-, rfl⟩ := Prod.mk.inj hr
        exact (List.dropWhile_suffix _).length_le

/-- Tokens beyond the number of characters make no difference. -/
theorem tokensWithin?_eq {m n : Nat} {cs : List Char} (hm : cs.length ≤ m)
    (hn : cs.length ≤ n) : tokensWithin? m cs = tokensWithin? n cs := by
  induction m generalizing n cs with
  | zero =>
    obtain rfl := List.eq_nil_of_length_eq_zero (Nat.le_zero.mp hm)
    cases n <;> rfl
  | succ m ih =>
    cases n with
    | zero =>
      obtain rfl := List.eq_nil_of_length_eq_zero (Nat.le_zero.mp hn)
      rfl
    | succ n =>
      -- a token takes up a character, so both budgets still cover what is left
      simp only [tokensWithin?]
      have hdrop := (List.dropWhile_suffix (l := cs) isBlank).length_le
      cases hscan : Token.scan? (cs.dropWhile isBlank) with
      | none => rfl
      | some r =>
        obtain ⟨t, rest⟩ := r
        have hlt := Token.length_scan?_lt hscan
        have hrest : tokensWithin? m rest = tokensWithin? n rest := ih (by omega) (by omega)
        simp only [Option.bind_eq_bind, Option.bind_some, hrest]

/-- Blanks make no difference before a token. -/
theorem tokens?_of_blank {c : Char} (h : isBlank c = true) (cs : List Char) :
    tokens? (c :: cs) = tokens? cs := by
  have hdrop : tokensWithin? (cs.length + 1) (c :: cs) = tokensWithin? (cs.length + 1) cs := by
    simp only [tokensWithin?, List.dropWhile_cons_of_pos h]
  rw [tokens?, List.length_cons, hdrop]
  exact tokensWithin?_eq (Nat.le_succ _) (Nat.le_refl _)

/-- The tokens of a text are its first one and those of the rest. -/
theorem tokens?_of_scan? {cs rest : List Char} {t : Token} (h : Token.scan? cs = some (t, rest)) :
    tokens? cs = (tokens? rest).map (t :: ·) := by
  cases cs with
  | nil => simp [Token.scan?] at h
  | cons c cs =>
    -- no token starts with a blank, so nothing is skipped
    have hblank : isBlank c = false := by
      by_contra hblank
      rw [Bool.not_eq_false] at hblank
      simp [Token.scan?_of_blank hblank] at h
    have hlt := Token.length_scan?_lt h
    rw [List.length_cons] at hlt
    have hrest : tokensWithin? cs.length rest = tokens? rest :=
      tokensWithin?_eq (by omega) (Nat.le_refl _)
    rw [tokens?, List.length_cons, tokensWithin?,
      List.dropWhile_cons_of_neg (by simpa using hblank)]
    simp only [List.isEmpty_cons, Bool.false_eq_true, if_false, h, Option.bind_eq_bind,
      Option.bind_some, hrest]
    cases tokens? rest <;> rfl

/-! ### Reading from a state on -/

/-- What is read of a text from a state on. -/
def read (st : State) (cs : List Char) : Option Json :=
  (tokens? cs).bind fun ts => (ts.foldlM State.step? st).bind State.finish?

section

variable {st : State} {cs rest : List Char}

theorem read_blanks {blanks : List Char} (h : Blanks blanks) :
    read st (blanks ++ cs) = read st cs := by
  induction blanks with
  | nil => rfl
  | cons c blanks ih =>
    rw [List.cons_append, read, tokens?_of_blank (isBlank_iff.mpr (h c List.mem_cons_self))]
    exact ih fun d hd => h d (List.mem_cons_of_mem _ hd)

/-- **A text is read token by token.** -/
theorem read_of_scan? {t : Token} (h : Token.scan? cs = some (t, rest)) :
    read st cs = (st.step? t).bind fun st' => read st' rest := by
  rw [read, tokens?_of_scan? h]
  simp only [read]
  cases tokens? rest with
  | none =>
    -- a text that is no list of tokens is refused before a step is made, or after it
    cases st.step? t <;> rfl
  | some ts =>
    rw [Option.map_some, Option.bind_some, List.foldlM_cons]
    cases st.step? t <;> rfl

theorem read_of_punctuation {c : Char} {t : Token} (h : Token.ofPunctuation? c = some t) :
    read st (c :: rest) = (st.step? t).bind fun st' => read st' rest :=
  read_of_scan? (Token.scan?_of_punctuation h)

end

/-- Does the text go on so that a scalar before it has ended? -/
structure Delimits (rest : List Char) : Prop where
  numeral : Stops isNumeralChar rest
  word : Stops Char.isAlpha rest

theorem delimits_nil : Delimits [] := ⟨stops_nil _, stops_nil _⟩

theorem delimits_cons {c : Char} (h : isNumeralChar c = false) (h' : c.isAlpha = false)
    {rest : List Char} : Delimits (c :: rest) := ⟨stops_cons h, stops_cons h'⟩

theorem Delimits.blanks_append {blanks rest : List Char} (h : Delimits rest)
    (hblanks : Blanks blanks) : Delimits (blanks ++ rest) := by
  cases blanks with
  | nil => exact h
  | cons c blanks =>
    have hc := hblanks c List.mem_cons_self
    simp only [List.mem_cons, List.not_mem_nil, or_false] at hc
    rcases hc with rfl | rfl | rfl | rfl <;> exact delimits_cons (by decide) (by decide)

/-- May a value come next, inside of the given arrays and objects? -/
def Awaits (st : State) (outer : List Frame) : Prop :=
  ∀ t, t ≠ .closeArray → st.step? t = State.begin? outer t

/-- May a key come next, after the given members? -/
def AwaitsKey (st : State) (before : List (Option String × Json)) (outer : List Frame) : Prop :=
  ∀ key, st.step? (.string key) = some (.colon before key outer)

theorem awaits_value (outer : List Frame) : Awaits (.value outer) outer := fun _ _ => rfl

theorem awaits_firstItem (outer : List Frame) : Awaits (.firstItem outer) (.items [] :: outer) := by
  intro t ht
  cases t with
  | closeArray => exact absurd rfl ht
  | _ => rfl

theorem awaitsKey_key (before : List (Option String × Json)) (outer : List Frame) :
    AwaitsKey (.key before outer) before outer := fun _ => rfl

theorem awaitsKey_firstKey (outer : List Frame) : AwaitsKey (.firstKey outer) [] outer :=
  fun _ => rfl

theorem read_scalar {st : State} {outer : List Frame} (hst : Awaits st outer) {t : Token}
    {cs rest : List Char} (hscan : Token.scan? (cs ++ rest) = some (t, rest)) {v : Json}
    (ht : State.begin? outer t = some (.ended v outer)) :
    read st (cs ++ rest) = read (.ended v outer) rest := by
  have hopen : t ≠ .closeArray := by
    rintro rfl
    simp [State.begin?] at ht
  rw [read_of_scan? hscan, hst t hopen, ht, Option.bind_some]

/-! ### Values -/

/-- Does the text take the reader from where the value may come next to its end? -/
def ReadsValue (v : Json) (cs : List Char) : Prop :=
  ∀ ⦃st : State⦄ ⦃outer : List Frame⦄ ⦃rest : List Char⦄, Awaits st outer → Delimits rest →
    read st (cs ++ rest) = read (.ended v outer) rest

/-- Does the text take the reader from where the items may come next to the end of the
array? -/
def ReadsItems (items : List Json) (cs : List Char) : Prop :=
  ∀ ⦃st : State⦄ ⦃before : List Json⦄ ⦃outer : List Frame⦄, Awaits st (.items before :: outer) →
    ∀ rest, read st (cs ++ ']' :: rest) =
      read (.ended (.array (before.reverse ++ items)) outer) rest

/-- Does the text take the reader from where the member may come next to its end? -/
def ReadsMember (m : Option String × Json) (cs : List Char) : Prop :=
  ∀ ⦃st : State⦄ ⦃before : List (Option String × Json)⦄ ⦃outer : List Frame⦄
    ⦃rest : List Char⦄, AwaitsKey st before outer → Delimits rest →
      read st (cs ++ rest) = read (.ended m.2 (.members before m.1 :: outer)) rest

/-- Does the text take the reader from where the members may come next to the end of the
object? -/
def ReadsMembers (members : List (Option String × Json)) (cs : List Char) : Prop :=
  ∀ ⦃st : State⦄ ⦃before : List (Option String × Json)⦄ ⦃outer : List Frame⦄,
    AwaitsKey st before outer → ∀ rest, read st (cs ++ '\x7d' :: rest) =
      read (.ended (.object (before.reverse ++ members)) outer) rest

mutual

/-- **The spelling of a value is read as the value.** -/
theorem reads_spells : ∀ {v : Json} {cs : List Char}, Spells v cs → ReadsValue v cs
  | _, _, .null => fun _ _ _ hst hrest => read_scalar hst (Token.scan?_null hrest.word) rfl
  | _, _, .true => fun _ _ _ hst hrest => read_scalar hst (Token.scan?_true hrest.word) rfl
  | _, _, .false => fun _ _ _ hst hrest => read_scalar hst (Token.scan?_false hrest.word) rfl
  | _, _, .number hnumeral => fun _ _ _ hst hrest =>
    read_scalar hst (Token.scan?_number hnumeral hrest.numeral) rfl
  | _, _, .string hstring => fun _ _ _ hst _ => read_scalar hst (Token.scan?_string hstring) rfl
  | _, _, .emptyArray hblanks => by
    intro st outer rest hst hrest
    rw [List.cons_append, List.append_assoc, List.singleton_append, read_of_punctuation rfl,
      hst .openArray (by simp)]
    exact (read_blanks hblanks).trans (read_of_punctuation (t := .closeArray) rfl)
  | _, _, .array hitems => by
    have hreads := reads_items hitems
    intro st outer rest hst hrest
    rw [List.cons_append, List.append_assoc, List.singleton_append, read_of_punctuation rfl,
      hst .openArray (by simp)]
    exact hreads (awaits_firstItem outer) rest
  | _, _, .emptyObject hblanks => by
    intro st outer rest hst hrest
    rw [List.cons_append, List.append_assoc, List.singleton_append, read_of_punctuation rfl,
      hst .openObject (by simp)]
    exact (read_blanks hblanks).trans (read_of_punctuation (t := .closeObject) rfl)
  | _, _, .object hmembers => by
    have hreads := reads_members hmembers
    intro st outer rest hst hrest
    rw [List.cons_append, List.append_assoc, List.singleton_append, read_of_punctuation rfl,
      hst .openObject (by simp)]
    exact hreads (awaitsKey_firstKey outer) rest

theorem reads_element : ∀ {v : Json} {cs : List Char}, SpellsElement v cs → ReadsValue v cs
  | _, _, .mk hbefore hvalue hafter => by
    have hreads := reads_spells hvalue
    intro st outer rest hst hrest
    rw [List.append_assoc, List.append_assoc, read_blanks hbefore,
      hreads hst (hrest.blanks_append hafter), read_blanks hafter]

/-- The items of an array are read, and the array ends. -/
theorem reads_items : ∀ {items : List Json} {cs : List Char}, SpellsItems items cs →
    ReadsItems items cs
  | _, _, .last helement => by
    have hreads := reads_element helement
    intro st before outer hst rest
    rw [hreads hst (delimits_cons (by decide) (by decide)), read_of_punctuation rfl]
    simp [State.step?]
  | v :: _, _, .next helement hitems => by
    have hreads := reads_element helement
    have hnext := reads_items hitems
    intro st before outer hst rest
    rw [List.append_assoc, List.cons_append,
      hreads hst (delimits_cons (by decide) (by decide)), read_of_punctuation rfl]
    -- the reader keeps the items before the next one last first
    have hlast := hnext (awaits_value (.items (v :: before) :: outer)) rest
    rwa [List.reverse_cons, List.append_assoc, List.singleton_append] at hlast

theorem reads_member : ∀ {m : Option String × Json} {cs : List Char}, SpellsMember m cs →
    ReadsMember m cs
  | (key, _), _, .mk hbefore hkey hafter helement => by
    have hreads := reads_element helement
    intro st before outer rest hst hrest
    rw [List.append_assoc, List.append_assoc, List.append_assoc, read_blanks hbefore,
      read_of_scan? (Token.scan?_string hkey), hst key, Option.bind_some, read_blanks hafter,
      List.cons_append, read_of_punctuation rfl]
    exact hreads (awaits_value _) hrest

/-- The members of an object are read, and the object ends. -/
theorem reads_members : ∀ {members : List (Option String × Json)} {cs : List Char},
    SpellsMembers members cs → ReadsMembers members cs
  | _, _, .last hmember => by
    have hreads := reads_member hmember
    intro st before outer hst rest
    rw [hreads hst (delimits_cons (by decide) (by decide)), read_of_punctuation rfl]
    simp [State.step?]
  | m :: _, _, .next hmember hmembers => by
    have hreads := reads_member hmember
    have hnext := reads_members hmembers
    intro st before outer hst rest
    rw [List.append_assoc, List.cons_append,
      hreads hst (delimits_cons (by decide) (by decide)), read_of_punctuation rfl]
    have hlast := hnext (awaitsKey_key (m :: before) outer) rest
    rwa [List.reverse_cons, List.append_assoc, List.singleton_append] at hlast

end

/-- **The spellings of a value are read as that value.** -/
theorem parse?_of_spells {v : Json} {s : String} (h : SpellsElement v s.toList) :
    parse? s = some v := by
  have hread := reads_element h (awaits_value []) delimits_nil
  rw [List.append_nil] at hread
  exact hread

end TritPuzzle.Json
