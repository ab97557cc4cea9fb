import Mathlib
import TritPuzzle.Logic.Reading
import TritPuzzle.Proofs.Trimming

/-!
# Words for trits and operators

A text that is typed for a trit or for an operator is one word with white space around it.
A trit has its digit and its initial for words, an operator its keyword, and letters may be
of either case, where only the letters of ASCII have two.  Every other word is reported.

## Main definitions

* `SameLetter`, `SameWord` — equality up to the case of ASCII letters.
* `Trit.Spelled`, `Operator.Spelled` — the words for a trit and for an operator.
* `ReadsWords` — what a reader of words does with every text.

## Main results

* `sameLetter_iff_toUpper_eq` — what turning into capitals has to do with letters.
* `Trit.ofWord?_eq_some_iff`, `Operator.ofWord?_eq_some_iff` — the words that are known.
* `readsWords_of_lookup` — a reader that trims and looks up reads words.
* `readsWords_trit_operator` — **what is read as a trit, and what as an operator.**
-/

namespace TritPuzzle

/-! ### Letters and their cases -/

/-- The first character is a small letter of ASCII and the second one its capital. -/
def SmallOf (c d : Char) : Prop :=
  'A'.toNat ≤ d.toNat ∧ d.toNat ≤ 'Z'.toNat ∧ c.toNat = d.toNat + 0x20

/-- The two characters are one, or the two cases of a letter of ASCII. -/
def SameLetter (c d : Char) : Prop := c = d ∨ SmallOf c d ∨ SmallOf d c

/-- The two words are one up to the case of letters of ASCII. -/
def SameWord (v w : String) : Prop := List.Forall₂ SameLetter v.toList w.toList

/-- Is the character a capital letter of ASCII? -/
def IsCapital (c : Char) : Prop := 'A'.toNat ≤ c.toNat ∧ c.toNat ≤ 'Z'.toNat

instance (c : Char) : Decidable (IsCapital c) :=
  inferInstanceAs (Decidable ('A'.toNat ≤ c.toNat ∧ c.toNat ≤ 'Z'.toNat))

section

variable {c d : Char}

theorem isLower_iff_toNat : c.isLower = true ↔ 0x61 ≤ c.toNat ∧ c.toNat ≤ 0x7a := by
  simp [Char.isLower, UInt32.le_iff_toNat_le, ← Char.toNat_val]

theorem toNat_toUpper_of_isLower (h : c.isLower = true) : c.toUpper.toNat = c.toNat - 0x20 := by
  have hrange := isLower_iff_toNat.mp h
  rw [Char.toUpper_eq_of_isLower h, Char.toNat_ofNat, if_pos]
  exact .inl (by omega)

/-- Capital letters stay in their own case, so turning into capitals tells the letters that
are the same as one of them. -/
theorem sameLetter_iff_toUpper_eq (hd : IsCapital d) : SameLetter c d ↔ c.toUpper = d := by
  have hrange : 0x41 ≤ d.toNat ∧ d.toNat ≤ 0x5a := hd
  have hsmall (a b : Char) : SmallOf a b ↔
      (0x41 ≤ b.toNat ∧ b.toNat ≤ 0x5a) ∧ a.toNat = b.toNat + 0x20 := and_assoc.symm
  rw [SameLetter, hsmall, hsmall, ← Char.toNat_inj, ← Char.toNat_inj]
  by_cases hc : c.isLower = true
  · have hlower := isLower_iff_toNat.mp hc
    rw [toNat_toUpper_of_isLower hc]
    omega
  · have hlower := mt isLower_iff_toNat.mpr hc
    rw [Char.toUpper_eq_of_not_isLower hc]
    omega

/-- A letter of ASCII is no white space. -/
theorem SameLetter.notMem_whiteSpace (h : SameLetter c d) (hd : IsCapital d) :
    c ∉ Text.whiteSpace := by
  have hall : ∀ n < 0x7b, 0x41 ≤ n → Char.ofNat n ∉ Text.whiteSpace := by decide
  have hrange : 0x41 ≤ d.toNat ∧ d.toNat ≤ 0x5a := hd
  have hc : 0x41 ≤ c.toNat ∧ c.toNat < 0x7b := by
    rcases h with rfl | ⟨-, -, hsmall⟩ | ⟨hlow, -, hsmall⟩
    · omega
    · omega
    · have hlow' : 0x41 ≤ c.toNat := hlow
      omega
  have hmem := hall c.toNat hc.2 hc.1
  rwa [Char.ofNat_toNat] at hmem

end

theorem SameLetter.refl (c : Char) : SameLetter c c := .inl rfl

theorem SameWord.refl (w : String) : SameWord w w :=
  List.forall₂_same.mpr fun c _ => SameLetter.refl c

/-- Turning into capitals tells the words that are the same as a word of capitals. -/
theorem forall₂_sameLetter_iff {cs ds : List Char} (h : ∀ d ∈ ds, IsCapital d) :
    List.Forall₂ SameLetter cs ds ↔ cs.map Char.toUpper = ds := by
  induction ds generalizing cs with
  | nil => simp
  | cons d ds ih =>
    have hd : IsCapital d := h d List.mem_cons_self
    have hds : ∀ e ∈ ds, IsCapital e := fun e he => h e (List.mem_cons_of_mem _ he)
    cases cs with
    | nil => simp
    | cons c cs =>
      rw [List.forall₂_cons, List.map_cons, List.cons.injEq, sameLetter_iff_toUpper_eq hd, ih hds]

/-! ### The words that are known -/

/-- The word is the trit's digit, or its initial in either case. -/
def Trit.Spelled (a : Trit) (w : String) : Prop :=
  w = Text.decimal a.digit ∨ w.toList = a.name.toList.take 1 ∨
    w.toList = (a.name.toList.take 1).map Char.toLower

/-- The word is the operator's keyword, in any mixture of cases. -/
def Operator.Spelled (op : Operator) (w : String) : Prop := SameWord w op.keyword

theorem Trit.spelled_text (a : Trit) : a.Spelled a.text := by
  left
  cases a <;> rfl

theorem Operator.spelled_keyword (op : Operator) : op.Spelled op.keyword := SameWord.refl _

theorem Trit.ofWord?_eq_some_iff {w : String} {a : Trit} :
    ofWord? w.toList = some a ↔ a.Spelled w := by
  constructor
  · intro h
    unfold ofWord? at h
    split at h
    case h_10 => simp at h
    all_goals
      next hw =>
        obtain rfl := Option.some.inj h
        simp only [Spelled, ← String.toList_inj, hw]
        decide
  · rintro (h | h | h)
    · subst h
      cases a <;> rfl
    · rw [h]
      cases a <;> rfl
    · rw [h]
      cases a <;> rfl

theorem Operator.isCapital_of_mem_keyword (op : Operator) :
    ∀ c ∈ op.keyword.toList, IsCapital c := by
  refine Text.forall_mem_of_all ?_
  cases op <;> decide

/-- No two operators have one keyword, so the first that is found is the only one. -/
theorem Operator.find?_keyword (op : Operator) :
    all.find? (fun other => op.keyword.toList == other.keyword.toList) = some op := by
  cases op <;> rfl

theorem Operator.ofWord?_eq_some_iff {w : String} {op : Operator} :
    ofWord? w.toList = some op ↔ op.Spelled w := by
  rw [Spelled, SameWord, forall₂_sameLetter_iff op.isCapital_of_mem_keyword]
  constructor
  · intro h
    simpa using List.find?_some h
  · intro h
    rw [ofWord?, h]
    exact op.find?_keyword

/-- The words for trits are without white space. -/
theorem Trit.Spelled.notMem_whiteSpace {a : Trit} {w : String} (h : a.Spelled w) :
    ∀ c ∈ w.toList, c ∉ Text.whiteSpace := by
  refine Text.forall_mem_of_all ?_
  rcases h with rfl | h | h
  · cases a <;> decide
  · rw [h]
    cases a <;> decide
  · rw [h]
    cases a <;> decide

/-- So are the words for operators. -/
theorem Operator.Spelled.notMem_whiteSpace {op : Operator} {w : String} (h : op.Spelled w) :
    ∀ c ∈ w.toList, c ∉ Text.whiteSpace := by
  have hletters {cs ds : List Char} (h : List.Forall₂ SameLetter cs ds)
      (hds : ∀ d ∈ ds, IsCapital d) : ∀ c ∈ cs, c ∉ Text.whiteSpace := by
    induction h with
    | nil => simp
    | cons hcd _ ih =>
      rw [List.forall_mem_cons] at hds ⊢
      exact ⟨hcd.notMem_whiteSpace hds.1, ih hds.2⟩
  exact hletters h op.isCapital_of_mem_keyword

theorem Trit.Spelled.length_eq_one {a : Trit} {w : String} (h : a.Spelled w) :
    w.toList.length = 1 := by
  rcases h with rfl | h | h
  · cases a <;> rfl
  · rw [h]
    cases a <;> rfl
  · rw [h]
    cases a <;> rfl

theorem Operator.Spelled.two_le_length {op : Operator} {w : String} (h : op.Spelled w) :
    2 ≤ w.toList.length := by
  rw [List.Forall₂.length_eq h]
  cases op <;> decide

/-! ### Reading -/

theorem Trit.read_eq (s : String) :
    read s = (ofWord? (Text.trim s).toList).elim (.error (.notTrit (Text.trim s))) .ok := by
  rw [read]
  cases ofWord? (Text.trim s).toList <;> rfl

theorem Operator.read_eq (s : String) :
    read s = (ofWord? (Text.trim s).toList).elim (.error (.notOperator (Text.trim s))) .ok := by
  rw [read]
  cases ofWord? (Text.trim s).toList <;> rfl

/-- The reader finds out what the word in a text stands for, whatever white space is around
the word, and reports the word if it stands for nothing. -/
structure ReadsWords {α : Type} (read : String → Except ReadError α)
    (fault : String → ReadError) (Spelled : α → String → Prop) : Prop where
  /-- A text is read as what its word stands for. -/
  ok_iff : ∀ s w x, Text.Trims w s → (read s = .ok x ↔ Spelled x w)
  /-- A text whose word stands for nothing is reported without the white space. -/
  error_iff : ∀ s w e, Text.Trims w s → (read s = .error e ↔ e = fault w ∧ ∀ x, ¬ Spelled x w)
  /-- A word that stands for something may have any white space around it. -/
  padded : ∀ before w after x, Text.Padding before → Text.Padding after → Spelled x w →
    read (before ++ w ++ after) = .ok x
  /-- White space at the ends of a text makes no difference. -/
  trimmed : ∀ s w, Text.Trims w s → read s = read w

/-- **A reader that trims a text and looks up the word that is left reads words**, if it
knows exactly the words that stand for something and none of them has white space in it. -/
theorem readsWords_of_lookup {α : Type} {read : String → Except ReadError α}
    {fault : String → ReadError} {Spelled : α → String → Prop} {ofWord? : List Char → Option α}
    (hread : ∀ s, read s = (ofWord? (Text.trim s).toList).elim (.error (fault (Text.trim s))) .ok)
    (hword : ∀ w x, ofWord? w.toList = some x ↔ Spelled x w)
    (hbare : ∀ x w, Spelled x w → ∀ c ∈ w.toList, c ∉ Text.whiteSpace) :
    ReadsWords read fault Spelled := by
  have hok (s : String) (x : α) : read s = .ok x ↔ Spelled x (Text.trim s) := by
    rw [hread, ← hword]
    cases ofWord? (Text.trim s).toList <;> simp
  constructor
  case ok_iff =>
    intro s w x hw
    rw [hok, Text.trims_iff.mp hw]
  case error_iff =>
    intro s w e hw
    obtain rfl := Text.trims_iff.mp hw
    rw [hread]
    simp only [← hword]
    cases ofWord? (Text.trim s).toList <;> simp [eq_comm]
  case padded =>
    intro before w after x hbefore hafter hx
    have hw : Text.Trims w (before ++ w ++ after) :=
      (Text.trims_self (hbare x w hx)).pad hbefore hafter
    rw [hok, ← Text.trims_iff.mp hw]
    exact hx
  case trimmed =>
    intro s w hw
    rw [hread s, hread w, ← Text.trims_iff.mp hw, ← Text.trims_iff.mp hw.self]

/-- **What is read as a trit, and what as an operator.**  Every text has one word, which is
what is left without the white space at its ends.  A trit is read from its digit and from its
initial in either case, an operator from its keyword in any mixture of ASCII cases, and any
other word is reported as it is.  So what is displayed for a trit or an operator is read as
it, and no text is read as both. -/
theorem readsWords_trit_operator :
    (∀ s, ∃! w, Text.Trims w s) ∧
      ReadsWords Trit.read .notTrit Trit.Spelled ∧
      ReadsWords Operator.read .notOperator Operator.Spelled ∧
      (∀ a : Trit, a.Spelled a.text) ∧
      (∀ op : Operator, op.Spelled op.keyword) ∧
      ∀ s a op, ¬ (Trit.read s = .ok a ∧ Operator.read s = .ok op) := by
  have htrit : ReadsWords Trit.read .notTrit Trit.Spelled :=
    readsWords_of_lookup Trit.read_eq (fun _ _ => Trit.ofWord?_eq_some_iff)
      (fun _ _ h => h.notMem_whiteSpace)
  have hoperator : ReadsWords Operator.read .notOperator Operator.Spelled :=
    readsWords_of_lookup Operator.read_eq (fun _ _ => Operator.ofWord?_eq_some_iff)
      (fun _ _ h => h.notMem_whiteSpace)
  refine ⟨?_, htrit, hoperator, Trit.spelled_text, Operator.spelled_keyword, ?_⟩
  · intro s
    exact ⟨Text.trim s, Text.trims_trim s, fun _ hw => Text.trims_iff.mp hw⟩
  · rintro s a op ⟨ha, hop⟩
    have hword := Text.trims_trim s
    rw [htrit.ok_iff _ _ _ hword] at ha
    rw [hoperator.ok_iff _ _ _ hword] at hop
    -- a word for a trit has one character, and a keyword has more
    have hone := ha.length_eq_one
    have hmore := hop.two_le_length
    omega

/-- A keyword in mixed case between a tab and an ideographic space. -/
theorem readsWords_trit_operator_imply :
    Text.Trims "iMpLy" "\tiMpLy\u3000" ∧ Operator.Spelled .imply "iMpLy" ∧
      Operator.read "\tiMpLy\u3000" = .ok .imply := by
  obtain ⟨-, -, hoperator, -⟩ := readsWords_trit_operator
  have htrims : Text.Trims "iMpLy" "\tiMpLy\u3000" := Text.trims_iff.mpr (by decide)
  have hspelled : Operator.Spelled .imply "iMpLy" := Operator.ofWord?_eq_some_iff.mp (by decide)
  exact ⟨htrims, hspelled, (hoperator.ok_iff _ _ _ htrims).mpr hspelled⟩

-- a dotless i is no case of the letter
example : Operator.read "\u0131mply" = .error (.notOperator "\u0131mply") := by rfl

end TritPuzzle
