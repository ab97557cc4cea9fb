import Mathlib.Data.List.Forall2
import TritPuzzle.CommandLine.Fill
import TritPuzzle.Proofs.Trimming

/-!
# The fields of a fill

A fill is divided at its commas before anything is trimmed or left out, so the position of a
field is the position of its slot, whatever the fields before it hold.  Writing the words of
a fill, with a mark for every slot that is left alone and with white space wherever one
likes, and reading it again gives the words at their positions.

## Main definitions

* `Text.Divides` — a text and its fields.
* `wordAt?` — the word that a fill has at a position.
* `IsToken`, `WritesField`, `present` — writing a fill, and what is to be read of it.

## Main results

* `Text.divides_iff` — the fields of a text are its parts.
* `fillEntries_eq` — white space alone need not be divided.
* `mem_fillEntries`, `pairwise_fillEntries` — what is read of a fill, and in which order.
* `fillEntries_intercalate` — a fill that is written is read.
* `fillEntries_of_fields` — **what is read of every text, and that it undoes writing.**
-/

namespace TritPuzzle

namespace Text

/-! ### The fields of a text -/

/-- Dividing a text is splitting it as a list. -/
theorem parts_eq_splitOn (separator : Char) (cs : List Char) :
    parts separator cs = cs.splitOn separator := by
  induction cs with
  | nil => rfl
  | cons c cs ih =>
    rw [parts, ih, List.splitOn_cons_eq_if_modifyHead]
    cases h : cs.splitOn separator with
    | nil => exact absurd h (List.splitOn_ne_nil separator cs)
    | cons p ps => simp

theorem notMem_of_mem_parts {separator : Char} {cs p : List Char}
    (hp : p ∈ parts separator cs) : separator ∉ p := by
  induction cs generalizing p with
  | nil =>
    obtain rfl := List.mem_singleton.mp hp
    exact List.not_mem_nil
  | cons c cs ih =>
    rw [parts] at hp
    cases h : parts separator cs with
    | nil => exact absurd h (parts_ne_nil separator cs)
    | cons q qs =>
      rw [h] at ih hp
      simp only at hp
      split_ifs at hp with hc
      · rcases List.mem_cons.mp hp with rfl | hp
        · exact List.not_mem_nil
        · exact ih hp
      · rcases List.mem_cons.mp hp with rfl | hp
        · rw [List.mem_cons, not_or]
          exact ⟨fun heq => hc heq.symm, ih List.mem_cons_self⟩
        · exact ih (List.mem_cons_of_mem _ hp)

/-- The text is its fields with commas between them, and no field has a comma in it. -/
structure Divides (fields : List String) (s : String) : Prop where
  ne_nil : fields ≠ []
  bare : ∀ f ∈ fields, ',' ∉ f.toList
  joined : s = ",".intercalate fields

/-- **The fields of a text are its parts.** -/
theorem divides_iff {fields : List String} {s : String} :
    Divides fields s ↔ parts ',' s.toList = fields.map String.toList := by
  constructor
  · rintro ⟨hne, hbare, rfl⟩
    rw [String.toList_intercalate, parts_eq_splitOn]
    refine List.splitOn_intercalate ',' ?_ ?_
    · rintro p hp
      obtain ⟨f, hf, rfl⟩ := List.mem_map.mp hp
      exact hbare f hf
    · simpa using hne
  · intro h
    constructor
    case ne_nil =>
      rintro rfl
      exact parts_ne_nil ',' s.toList h
    case bare =>
      intro f hf
      have hpart : f.toList ∈ parts ',' s.toList := by
        rw [h]
        exact List.mem_map_of_mem hf
      exact notMem_of_mem_parts hpart
    case joined =>
      rw [← String.toList_inj, String.toList_intercalate, ← h, parts_eq_splitOn]
      exact (List.intercalate_splitOn ',').symm

/-- Every text has its fields, and no others. -/
theorem existsUnique_divides (s : String) : ∃! fields, Divides fields s := by
  refine ⟨(parts ',' s.toList).map String.ofList, ?_, ?_⟩
  · refine divides_iff.mpr ?_
    rw [List.map_map]
    simp [Function.comp_def]
  · intro fields hfields
    rw [divides_iff.mp hfields, List.map_map]
    simp [Function.comp_def]

end Text

namespace CommandLine

/-! ### Reading a fill -/

/-- The fields that leave a slot alone. -/
def skipped : List String := ["", "?", "-"]

theorem isSkip_iff {cs : List Char} : isSkip cs = true ↔ String.ofList cs ∈ skipped := by
  simp [isSkip, skipped, ← String.toList_inj, or_assoc]

/-- **White space alone has no word in it**, divided or not. -/
theorem fillEntries_eq (s : String) : fillEntries s = fieldEntries s := by
  unfold fillEntries
  split
  · next hempty =>
    have hnil : Text.trimmed s.toList = [] := List.isEmpty_iff.mp hempty
    -- a comma is no white space, so the whole text is one field
    have hcomma : ',' ∉ s.toList := by
      intro hmem
      exact absurd (Text.trimmed_eq_nil_iff.mp hnil _ hmem) (by decide)
    have hparts : Text.parts ',' s.toList = [s.toList] := by
      rw [Text.parts_eq_splitOn, List.splitOn_eq_singleton hcomma]
    simp [fieldEntries, hparts, hnil, isSkip]
  · rfl

/-- The word that a fill has at a position, if the field there does not leave its slot
alone. -/
def wordAt? (s : String) (i : Nat) : Option String :=
  (((Text.parts ',' s.toList)[i]?.map Text.trimmed).filter (!isSkip ·)).map String.ofList

/-- **The fields that are kept are the words at their positions.** -/
theorem mem_fillEntries {s : String} {i : Nat} {w : String} :
    (i, w) ∈ fillEntries s ↔ wordAt? s i = some w := by
  simp only [fillEntries_eq, fieldEntries, wordAt?, List.mem_map, List.mem_filter,
    List.mem_zipIdx_iff_getElem?, List.getElem?_map, Option.map_eq_some_iff,
    Option.filter_eq_some_iff, Prod.exists, Prod.mk.injEq]
  constructor
  · rintro ⟨cs, j, ⟨hcs, hskip⟩, rfl, rfl⟩
    exact ⟨cs, ⟨hcs, hskip⟩, rfl⟩
  · rintro ⟨cs, ⟨hcs, hskip⟩, rfl⟩
    exact ⟨cs, i, ⟨hcs, hskip⟩, rfl, rfl⟩

/-- The positions of the fields that are kept ascend. -/
theorem pairwise_fillEntries (s : String) :
    ((fillEntries s).map (·.1)).Pairwise (· < ·) := by
  have hsub : List.Sublist ((fillEntries s).map (·.1))
      ((((Text.parts ',' s.toList).map Text.trimmed).zipIdx).map (·.2)) := by
    rw [fillEntries_eq, fieldEntries, List.map_map]
    exact List.filter_sublist.map _
  rw [List.zipIdx_map_snd] at hsub
  exact (List.pairwise_lt_range' 1).sublist hsub

/-- A word of a fill is what a field trims to, unless the field leaves its slot alone. -/
theorem wordAt?_eq_some_iff {fields : List String} {s : String} (h : Text.Divides fields s)
    {i : Nat} {w : String} :
    wordAt? s i = some w ↔ ∃ f, fields[i]? = some f ∧ Text.Trims w f ∧ w ∉ skipped := by
  rw [wordAt?, Text.divides_iff.mp h, List.getElem?_map]
  cases fields[i]? with
  | none => simp
  | some f =>
    simp only [Option.map_some, Option.map_eq_some_iff, Option.filter_eq_some_iff,
      Option.some.injEq, Bool.not_eq_true', Text.trims_iff, Text.trim]
    constructor
    · rintro ⟨cs, ⟨rfl, hskip⟩, rfl⟩
      exact ⟨f, rfl, rfl, by simpa [← isSkip_iff] using hskip⟩
    · rintro ⟨_, rfl, rfl, hskip⟩
      exact ⟨_, ⟨rfl, by simpa [← isSkip_iff] using hskip⟩, rfl⟩

/-! ### Writing a fill -/

/-- A word that can be given for a slot. -/
structure IsToken (w : String) : Prop where
  trimmed : Text.Trims w w
  bare : ',' ∉ w.toList
  kept : w ∉ skipped

/-- A field for a word, or for a slot that is left alone, with any white space around it. -/
inductive WritesField : Option String → String → Prop
  | token {w before after : String} : Text.Padding before → Text.Padding after →
      WritesField (some w) (before ++ w ++ after)
  | skip {w before after : String} : w ∈ skipped → Text.Padding before → Text.Padding after →
      WritesField none (before ++ w ++ after)

/-- The words that are present, with their positions. -/
def present (entries : List (Option String)) : List (Nat × String) :=
  entries.zipIdx.filterMap fun e => e.1.map (e.2, ·)

/-- The word that a field stands for, if it does not leave its slot alone. -/
def fieldWord? (field : List Char) : Option String :=
  if isSkip (Text.trimmed field) then none else some (String.ofList (Text.trimmed field))

theorem fillEntries_eq_present (s : String) :
    fillEntries s = present ((Text.parts ',' s.toList).map fieldWord?) := by
  have hfrom (fields : List (List Char)) (n : Nat) :
      (((fields.map Text.trimmed).zipIdx n).filter fun f => !isSkip f.1).map
          (fun f => (f.2, String.ofList f.1)) =
        ((fields.map fieldWord?).zipIdx n).filterMap fun e => e.1.map (e.2, ·) := by
    induction fields generalizing n with
    | nil => rfl
    | cons field fields ih =>
      simp only [List.map_cons, List.zipIdx_cons, List.filter_cons, List.filterMap_cons, ← ih,
        fieldWord?]
      cases isSkip (Text.trimmed field) <;> simp
  rw [fillEntries_eq]
  exact hfrom _ 0

theorem fieldWord?_eq_of_trims {w f : String} (h : Text.Trims w f) :
    fieldWord? f.toList = if w ∈ skipped then none else some w := by
  obtain rfl := Text.trims_iff.mp h
  simp only [fieldWord?, isSkip_iff]
  rfl

theorem trims_self_of_mem_skipped {w : String} (h : w ∈ skipped) : Text.Trims w w := by
  refine Text.trims_self (Text.forall_mem_of_all ?_)
  have hall : ∀ w ∈ skipped, w.toList.all (fun c => decide (c ∉ Text.whiteSpace)) = true := by
    decide
  exact hall w h

section

variable {entry : Option String} {f : String}

/-- A field that is written stands for its word. -/
theorem WritesField.fieldWord?_eq (h : WritesField entry f)
    (hentry : ∀ w, entry = some w → IsToken w) : fieldWord? f.toList = entry := by
  cases h with
  | @token w before after hbefore hafter =>
    have hw := hentry w rfl
    rw [fieldWord?_eq_of_trims (hw.trimmed.pad hbefore hafter), if_neg hw.kept]
  | @skip w before after hw hbefore hafter =>
    rw [fieldWord?_eq_of_trims ((trims_self_of_mem_skipped hw).pad hbefore hafter), if_pos hw]

/-- A field that is written has no comma in it. -/
theorem WritesField.bare (h : WritesField entry f)
    (hentry : ∀ w, entry = some w → IsToken w) : ',' ∉ f.toList := by
  have hpadding {s : String} (hs : Text.Padding s) : ',' ∉ s.toList := by
    intro hmem
    exact absurd (hs _ hmem) (by decide)
  cases h with
  | @token w before after hbefore hafter =>
    simp only [String.toList_append, List.mem_append, not_or]
    exact ⟨⟨hpadding hbefore, (hentry w rfl).bare⟩, hpadding hafter⟩
  | @skip w before after hw hbefore hafter =>
    have hall : ∀ w ∈ skipped, ',' ∉ w.toList := by decide
    simp only [String.toList_append, List.mem_append, not_or]
    exact ⟨⟨hpadding hbefore, hall w hw⟩, hpadding hafter⟩

end

section

variable {entries : List (Option String)} {fields : List String}

theorem bare_of_writes (hwrites : List.Forall₂ WritesField entries fields)
    (htokens : ∀ w, some w ∈ entries → IsToken w) : ∀ f ∈ fields, ',' ∉ f.toList := by
  induction hwrites with
  | nil => simp
  | cons hfield _ ih =>
    rw [List.forall_mem_cons]
    refine ⟨hfield.bare ?_, ih fun w hw => htokens w (List.mem_cons_of_mem _ hw)⟩
    rintro w rfl
    exact htokens w List.mem_cons_self

theorem map_fieldWord?_of_writes (hwrites : List.Forall₂ WritesField entries fields)
    (htokens : ∀ w, some w ∈ entries → IsToken w) :
    (fields.map String.toList).map fieldWord? = entries := by
  induction hwrites with
  | nil => rfl
  | cons hfield _ ih =>
    rw [List.map_cons, List.map_cons, ih fun w hw => htokens w (List.mem_cons_of_mem _ hw)]
    congr 1
    refine hfield.fieldWord?_eq ?_
    rintro w rfl
    exact htokens w List.mem_cons_self

/-- **A fill that is written is read**, with every word at its position. -/
theorem fillEntries_intercalate (hwrites : List.Forall₂ WritesField entries fields)
    (htokens : ∀ w, some w ∈ entries → IsToken w) :
    fillEntries (",".intercalate fields) = present entries := by
  cases fields with
  | nil =>
    -- no fields at all are written like one empty field, in which there is no word either
    cases hwrites
    rfl
  | cons f fields =>
    have hdivides : Text.Divides (f :: fields) (",".intercalate (f :: fields)) :=
      ⟨List.cons_ne_nil _ _, bare_of_writes hwrites htokens, rfl⟩
    rw [fillEntries_eq_present, Text.divides_iff.mp hdivides,
      map_fieldWord?_of_writes hwrites htokens]

end

/-- **What is read of every text, and that it undoes writing.**  A text has its fields, which
are what stands between its commas.  What is read of it is, in ascending order of positions,
each field at its position without the white space at its ends, except for the fields that
leave their slot alone.  So if a fill is written with any of the marks for the slots without
a word and with any white space around the fields, its words are read at their positions.
Stopping at once at a text of white space alone makes no difference. -/
theorem fillEntries_of_fields :
    (∀ s, ∃! fields, Text.Divides fields s) ∧
      (∀ fields s, Text.Divides fields s →
        (∀ i w, (i, w) ∈ fillEntries s ↔
          ∃ f, fields[i]? = some f ∧ Text.Trims w f ∧ w ∉ skipped) ∧
        ((fillEntries s).map (·.1)).Pairwise (· < ·)) ∧
      (∀ entries fields, List.Forall₂ WritesField entries fields →
        (∀ w, some w ∈ entries → IsToken w) →
        fillEntries (",".intercalate fields) = present entries) ∧
      ∀ s, fillEntries s = fieldEntries s := by
  refine ⟨Text.existsUnique_divides, ?_, ?_, fillEntries_eq⟩
  · intro fields s hdivides
    refine ⟨fun i w => ?_, pairwise_fillEntries s⟩
    rw [mem_fillEntries, wordAt?_eq_some_iff hdivides]
  · intro entries fields hwrites htokens
    exact fillEntries_intercalate hwrites htokens

/-- A fill of four slots with words for the second and the last one, padded on both sides. -/
theorem fillEntries_of_fields_padded :
    List.Forall₂ WritesField [none, some "2", none, some "T"]
        ["?", "\u2003" ++ "2" ++ " ", "\t" ++ "" ++ "", "" ++ "T" ++ "\n"] ∧
      (∀ w, some w ∈ [none, some "2", none, some "T"] → IsToken w) ∧
      fillEntries "?,\u20032 ,\t,T\n" = [(1, "2"), (3, "T")] := by
  have hwrites : List.Forall₂ WritesField [none, some "2", none, some "T"]
      ["" ++ "?" ++ "", "\u2003" ++ "2" ++ " ", "\t" ++ "" ++ "", "" ++ "T" ++ "\n"] := by
    have hnone : Text.Padding "" := by decide
    have hspace : Text.Padding " " := by decide
    have hwide : Text.Padding "\u2003" := by decide
    have htab : Text.Padding "\t" := by decide
    have hbreak : Text.Padding "\n" := by decide
    exact .cons (.skip (by decide) hnone hnone) (.cons (.token hwide hspace)
      (.cons (.skip (by decide) htab hnone) (.cons (.token hnone hbreak) .nil)))
  have htokens : ∀ w, some w ∈ [none, some "2", none, some "T"] → IsToken w := by
    intro w hw
    simp only [List.mem_cons, reduceCtorEq, Option.some.injEq, List.not_mem_nil, or_false,
      false_or] at hw
    rcases hw with rfl | rfl
    · exact ⟨Text.trims_self (Text.forall_mem_of_all (by decide)), by decide, by decide⟩
    · exact ⟨Text.trims_self (Text.forall_mem_of_all (by decide)), by decide, by decide⟩
  exact ⟨hwrites, htokens, fillEntries_of_fields.2.2.1 _ _ hwrites htokens⟩

end CommandLine

end TritPuzzle
