import Mathlib.Data.List.DropRight
import Mathlib.Tactic.IntervalCases
import TritPuzzle.Text.Blank

/-!
# Trimming

A text is trimmed of all white space at its ends and of nothing else.  The property
White_Space is a table of ranges where texts are trimmed; here its characters are named one
by one, and what trimming yields is described without saying how it is found.

## Main definitions

* `whiteSpace`, `Padding` — white space, one character or many.
* `Trims` — a word and a text that is the word with white space around it.

## Main results

* `isBlank_iff` — the table holds the characters that are named.
* `trims_iff` — **every text trims to one word, the one that is computed.**
-/

namespace TritPuzzle.Text

/-! ### White space -/

/-- The characters with the property White_Space, one by one. -/
def whiteSpace : List Char :=
  ['\t', '\n', '\x0b', '\x0c', '\r', ' ', '\u0085', '\u00a0', '\u1680', '\u2000', '\u2001',
    '\u2002', '\u2003', '\u2004', '\u2005', '\u2006', '\u2007', '\u2008', '\u2009', '\u200a',
    '\u2028', '\u2029', '\u202f', '\u205f', '\u3000']

/-- **The ranges of White_Space hold its characters and no other.** -/
theorem isBlank_iff {c : Char} : isBlank c = true ↔ c ∈ whiteSpace := by
  constructor
  · intro h
    obtain ⟨r, hr, hlow, hhigh⟩ := CharSet.contains_iff.mp h
    -- a range is short, so the number of the character is one of a few
    have hmem : c.toNat ∈ whiteSpace.map Char.toNat := by
      simp only [blanks, List.mem_cons, List.not_mem_nil, or_false] at hr
      rcases hr with rfl | rfl | rfl | rfl | rfl | rfl | rfl | rfl | rfl | rfl <;>
        simp only at hlow hhigh <;> interval_cases c.toNat <;> decide
    obtain ⟨d, hd, hdc⟩ := List.mem_map.mp hmem
    rwa [← Char.toNat_inj.mp hdc]
  · intro h
    have hall : whiteSpace.all isBlank = true := by decide
    exact List.all_eq_true.mp hall c h

/-- Nothing but white space. -/
def Padding (s : String) : Prop := ∀ c ∈ s.toList, c ∈ whiteSpace

instance (s : String) : Decidable (Padding s) :=
  List.decidableBAll (· ∈ whiteSpace) s.toList

/-- What holds of the characters of a text is decided one by one. -/
theorem forall_mem_of_all {p : Char → Prop} [DecidablePred p] {cs : List Char}
    (h : cs.all (fun c => decide (p c)) = true) : ∀ c ∈ cs, p c := by
  simpa using h

/-- The text is the word with white space around it, and the word has none at its ends. -/
structure Trims (word s : String) : Prop where
  /-- What stands around the word is white space. -/
  padded : ∃ before after, Padding before ∧ Padding after ∧ s = before ++ word ++ after
  /-- The word does not begin with white space. -/
  head : ∀ c ∈ word.toList.head?, c ∉ whiteSpace
  /-- The word does not end with white space. -/
  last : ∀ c ∈ word.toList.getLast?, c ∉ whiteSpace

/-! ### Trimming lists of characters -/

section

variable {cs before after : List Char}

theorem trimmed_eq_rdropWhile (cs : List Char) :
    trimmed cs = (cs.dropWhile isBlank).rdropWhile isBlank := rfl

/-- Blanks alone are trimmed to nothing. -/
theorem trimmed_eq_nil_iff : trimmed cs = [] ↔ ∀ c ∈ cs, isBlank c = true := by
  rw [trimmed_eq_rdropWhile, List.rdropWhile_eq_nil_iff]
  constructor
  · intro h c hc
    rw [← List.takeWhile_append_dropWhile (p := isBlank) (l := cs), List.mem_append] at hc
    rcases hc with hc | hc
    · exact List.mem_takeWhile_imp hc
    · exact h c hc
  · intro h c hc
    exact h c ((List.dropWhile_suffix isBlank).mem hc)

/-- What is trimmed off are blanks. -/
theorem exists_eq_append_trimmed (cs : List Char) : ∃ before after : List Char,
    (∀ c ∈ before, isBlank c = true) ∧ (∀ c ∈ after, isBlank c = true) ∧
      cs = before ++ trimmed cs ++ after := by
  refine ⟨cs.takeWhile isBlank, (cs.dropWhile isBlank).rtakeWhile isBlank, ?_, ?_, ?_⟩
  · intro c hc
    exact List.mem_takeWhile_imp hc
  · intro c hc
    exact List.mem_rtakeWhile_imp hc
  · rw [trimmed_eq_rdropWhile, List.append_assoc, List.rdropWhile_append_rtakeWhile,
      List.takeWhile_append_dropWhile]

/-- What is left does not end with a blank. -/
theorem isBlank_of_getLast?_trimmed {c : Char} (hc : c ∈ (trimmed cs).getLast?) :
    isBlank c = false := by
  obtain ⟨hne, rfl⟩ := List.mem_getLast?_eq_getLast hc
  rw [← Bool.not_eq_true]
  exact List.rdropWhile_last_not isBlank (cs.dropWhile isBlank) hne

/-- Nor does it begin with one. -/
theorem isBlank_of_head?_trimmed {c : Char} (hc : c ∈ (trimmed cs).head?) :
    isBlank c = false := by
  -- what is left is the beginning of a text from which the first blanks are dropped
  have hprefix : trimmed cs <+: cs.dropWhile isBlank := List.rdropWhile_prefix _ _
  obtain ⟨rest, hrest⟩ := hprefix
  have hhead : (cs.dropWhile isBlank).head? = some c := by
    rw [← hrest, List.head?_append, Option.mem_def.mp hc]
    rfl
  have hnot := List.head?_dropWhile_not isBlank cs
  rw [hhead] at hnot
  exact hnot

/-- Blanks around a text that has none at its ends are all that is trimmed off. -/
theorem trimmed_append (hbefore : ∀ c ∈ before, isBlank c = true)
    (hafter : ∀ c ∈ after, isBlank c = true) (hhead : ∀ c ∈ cs.head?, isBlank c = false)
    (hlast : ∀ c ∈ cs.getLast?, isBlank c = false) :
    trimmed (before ++ cs ++ after) = cs := by
  cases cs with
  | nil =>
    rw [List.append_nil, trimmed_eq_nil_iff, List.forall_mem_append]
    exact ⟨hbefore, hafter⟩
  | cons c rest =>
    have hfirst : ¬ isBlank c = true := by simpa using hhead c rfl
    have hend : (c :: rest).rdropWhile isBlank = c :: rest := by
      rw [List.rdropWhile_eq_self_iff]
      intro hne
      simpa using hlast _ (List.getLast?_eq_some_getLast hne)
    have hrest : ((c :: rest) ++ after).rdropWhile isBlank = (c :: rest).rdropWhile isBlank := by
      have hreverse : ∀ d ∈ after.reverse, isBlank d = true := by simpa using hafter
      rw [List.rdropWhile, List.reverse_append, List.dropWhile_append_of_pos hreverse]
      rfl
    rw [trimmed_eq_rdropWhile, List.append_assoc, List.dropWhile_append_of_pos hbefore,
      List.cons_append, List.dropWhile_cons_of_neg hfirst, ← List.cons_append, hrest, hend]

end

/-! ### Trimming texts -/

theorem notMem_whiteSpace_iff {c : Char} : c ∉ whiteSpace ↔ isBlank c = false := by
  rw [← isBlank_iff, Bool.not_eq_true]

theorem padding_iff {s : String} : Padding s ↔ ∀ c ∈ s.toList, isBlank c = true := by
  simp only [Padding, isBlank_iff]

theorem trims_trim (s : String) : Trims (trim s) s where
  padded := by
    obtain ⟨before, after, hbefore, hafter, hs⟩ := exists_eq_append_trimmed s.toList
    refine ⟨.ofList before, .ofList after, ?_, ?_, ?_⟩
    · simpa [padding_iff] using hbefore
    · simpa [padding_iff] using hafter
    · rw [← String.toList_inj]
      simpa using hs
  head := by
    intro c hc
    rw [toList_trim] at hc
    exact notMem_whiteSpace_iff.mpr (isBlank_of_head?_trimmed hc)
  last := by
    intro c hc
    rw [toList_trim] at hc
    exact notMem_whiteSpace_iff.mpr (isBlank_of_getLast?_trimmed hc)

/-- What a text trims to is trimmed. -/
theorem Trims.self {word s : String} (h : Trims word s) : Trims word word where
  padded := ⟨"", "", by simp [Padding], by simp [Padding], by simp⟩
  head := h.head
  last := h.last

/-- A word without white space is trimmed. -/
theorem trims_self {word : String} (h : ∀ c ∈ word.toList, c ∉ whiteSpace) : Trims word word where
  padded := ⟨"", "", by simp [Padding], by simp [Padding], by simp⟩
  head := fun c hc => h c (List.mem_of_mem_head? hc)
  last := fun c hc => h c (List.mem_of_mem_getLast? hc)

/-- White space around a word that is trimmed makes no difference. -/
theorem Trims.pad {word before after : String} (h : Trims word word) (hbefore : Padding before)
    (hafter : Padding after) : Trims word (before ++ word ++ after) where
  padded := ⟨before, after, hbefore, hafter, rfl⟩
  head := h.head
  last := h.last

/-- **Every text trims to one word, the one that is computed.** -/
theorem trims_iff {word s : String} : Trims word s ↔ word = trim s := by
  constructor
  · rintro ⟨⟨before, after, hbefore, hafter, rfl⟩, hhead, hlast⟩
    rw [← String.toList_inj, toList_trim, String.toList_append, String.toList_append]
    refine (trimmed_append (padding_iff.mp hbefore) (padding_iff.mp hafter) ?_ ?_).symm
    · intro c hc
      exact notMem_whiteSpace_iff.mp (hhead c hc)
    · intro c hc
      exact notMem_whiteSpace_iff.mp (hlast c hc)
  · rintro rfl
    exact trims_trim s

end TritPuzzle.Text
