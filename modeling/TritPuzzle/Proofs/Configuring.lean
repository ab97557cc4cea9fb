import TritPuzzle.Config
import TritPuzzle.Proofs.Printing

/-!
# Reading a configuration

What a configuration file sets is what it gives under the known keys, in whatever order
and among whatever other members; all else keeps its default.  A known key that is given
twice, or with a value of another kind, is always noticed.  Texts are taken from the
grammar of JSON, so nothing depends on how a value is spelled.

## Main definitions

* `Json.given` — what an object gives under a key.
* `Config.Gives`, `Config.Faulty` — the members set these settings, or none at all.

## Main results

* `Json.member?_eq_some_iff`, `Json.uint32?_eq_some_iff` — fields and their values.
* `ScoringConfig.ofJson?_eq_some_iff`, `Config.ofJson?_eq_some_iff` — what is read of a
  record.
* `Config.parse_of_spells` — **a configuration is read as given, or refused.**
-/

namespace TritPuzzle

namespace Json

/-! ### Members -/

/-- What the members give under a key, in order. -/
def given (members : List (String × Json)) (key : String) : List Json :=
  (members.filter (·.1 = key)).map (·.2)

theorem mem_given {members : List (String × Json)} {key : String} {v : Json} :
    v ∈ given members key ↔ (key, v) ∈ members := by
  simp [given]

section

variable {members : List (String × Json)} {key : String}

/-- The entries under a key in an object, whose keys are all texts. -/
theorem filter_key (members : List (String × Json)) (key : String) :
    (members.map fun m => (some m.1, m.2)).filter (·.1 = some key) =
      (given members key).map fun v => (some key, v) := by
  induction members with
  | nil => rfl
  | cons m members ih =>
    rw [List.map_cons, List.filter_cons, ih]
    by_cases h : m.1 = key
    · simp [given, h]
    · simp [given, h]

/-- **A field is what is given under its key**, if it is given at most once. -/
theorem member?_eq_some_iff {v : Option Json} :
    member? (members.map fun m => (some m.1, m.2)) key = some v ↔
      given members key = v.toList := by
  unfold member?
  rw [filter_key]
  match given members key with
  | [] => cases v <;> simp
  | [w] => cases v <;> simp
  | _ :: _ :: _ => cases v <;> simp

/-- What is given at most once is the only thing given. -/
theorem eq_some_of_mem_given {v : Option Json} (h : given members key = v.toList) {j : Json}
    (hj : j ∈ given members key) : v = some j := by
  rw [h] at hj
  exact Option.mem_toList.mp hj

theorem length_given_le {v : Option Json} (h : given members key = v.toList) :
    (given members key).length ≤ 1 := by
  rw [h]
  cases v <;> simp

/-- The spelling of an object has a spelling of everything it gives. -/
theorem exists_spells_of_mem_given {cs : List Char} (h : Spells (ofMembers members) cs) {j : Json}
    (hj : j ∈ given members key) : ∃ cs', Spells j cs' :=
  h.exists_spells (List.mem_map.mpr ⟨(key, j), mem_given.mp hj, rfl⟩)

theorem fields?_ofMembers (members : List (String × Json)) (names : List String) :
    (ofMembers members).fields? names =
      names.mapM (member? (members.map fun m => (some m.1, m.2))) := by
  rw [ofMembers, fields?, if_pos (by simp)]

end

/-! ### Values of fields -/

theorem text?_eq_some_iff {v : Json} {s : String} : v.text? = some s ↔ v = .ofText s := by
  cases v <;> simp [text?, ofText]

theorem uint32?_ofNat (n : UInt32) : (ofNat n.toNat).uint32? = some n := by
  have hlt : n.toNat < UInt32.size := n.toNat_lt
  simp [ofNat, uint32?, natBelow?, natural?_toDigits, hlt]

/-- **The numbers of 32 bits are the numerals of natural numbers below the bound.** -/
theorem uint32?_eq_some_iff {v : Json} {cs : List Char} (h : Spells v cs) {n : UInt32} :
    v.uint32? = some n ↔ v = .ofNat n.toNat := by
  constructor
  · intro hn
    cases h with
    | @number numeral hnumeral =>
      simp only [uint32?, natBelow?, Option.map_eq_some_iff, Option.filter_eq_some_iff] at hn
      obtain ⟨k, ⟨hk, hlt⟩, rfl⟩ := hn
      have hsize : k < UInt32.size := by simpa using hlt
      rw [ofNat, UInt32.toNat_ofNat_of_lt' hsize, ← eq_toDigits_of_natural? hnumeral hk,
        String.ofList_toList]
    | _ => simp [uint32?, natBelow?] at hn
  · rintro rfl
    exact uint32?_ofNat n

end Json

open Json

namespace ScoringConfig

theorem ofJson?_eq_some_iff {members : List (String × Json)} {c : ScoringConfig} :
    ofJson? (ofMembers members) = some c ↔ ∃ v : Option Json,
      given members "nth_error_trigger" = v.toList ∧
        fieldOr standard.hintEvery uint32? v = some c.hintEvery := by
  obtain ⟨hintEvery⟩ := c
  simp only [← member?_eq_some_iff]
  rw [ofJson?, fields?_ofMembers]
  cases h : member? (members.map fun m => (some m.1, m.2)) "nth_error_trigger" with
  | none => simp [h]
  | some v =>
    cases hv : fieldOr standard.hintEvery uint32? v <;> simp [h, hv]

end ScoringConfig

namespace Config

theorem ofJson?_eq_some_iff {members : List (String × Json)} {c : Config} :
    ofJson? (ofMembers members) = some c ↔ ∃ v w : Option Json,
      given members "default_puzzle" = v.toList ∧ given members "checker" = w.toList ∧
        fieldOr standard.defaultPuzzle text? v = some c.defaultPuzzle ∧
        fieldOr standard.scoring ScoringConfig.ofJson? w = some c.scoring := by
  obtain ⟨defaultPuzzle, scoring⟩ := c
  simp only [← member?_eq_some_iff]
  rw [ofJson?, fields?_ofMembers]
  cases hpuzzle : member? (members.map fun m => (some m.1, m.2)) "default_puzzle" with
  | none => simp [hpuzzle]
  | some v =>
    cases hscoring : member? (members.map fun m => (some m.1, m.2)) "checker" with
    | none => simp [hpuzzle, hscoring]
    | some w =>
      cases hv : fieldOr standard.defaultPuzzle text? v with
      | none => simp [hpuzzle, hscoring, hv]
      | some s =>
        cases hw : fieldOr standard.scoring ScoringConfig.ofJson? w <;>
          simp [hpuzzle, hscoring, hv, hw]

/-- The members give this puzzle and this number of wrong answers for a hint, or do not
give one, and whatever else they give, they give it under other keys. -/
structure Gives (members : List (String × Json)) (puzzle : Option String)
    (hintEvery : Option UInt32) : Prop where
  /-- The puzzle is given as a string, at most once. -/
  puzzle : given members "default_puzzle" = puzzle.toList.map .ofText
  /-- The settings for wrong answers are given as an object, at most once, and in it the
  number as a numeral. -/
  hintEvery : ∃ inner : Option (List (String × Json)),
    given members "checker" = inner.toList.map .ofMembers ∧
      given (inner.getD []) "nth_error_trigger" =
        hintEvery.toList.map fun n => .ofNat n.toNat

/-- Is there a fault in what the members give under the known keys? -/
inductive Faulty (members : List (String × Json)) : Prop
  /-- A known key is given twice. -/
  | repeated {key : String} (hkey : key ∈ ["default_puzzle", "checker"])
      (h : 2 ≤ (given members key).length)
  /-- The puzzle is no string. -/
  | puzzle {v : Json} (hv : v ∈ given members "default_puzzle") (h : ∀ s, v ≠ .ofText s)
  /-- The settings for wrong answers are neither an object nor an array. -/
  | scoring {v : Json} (hv : v ∈ given members "checker") (hobject : ∀ ms, v ≠ .object ms)
      (harray : ∀ items, v ≠ .array items)
  /-- The number of wrong answers for a hint is given twice. -/
  | repeatedHint {inner : List (String × Json)}
      (hinner : .ofMembers inner ∈ given members "checker")
      (h : 2 ≤ (given inner "nth_error_trigger").length)
  /-- The number of wrong answers for a hint is no natural number of 32 bits. -/
  | hintEvery {inner : List (String × Json)} {v : Json}
      (hinner : .ofMembers inner ∈ given members "checker")
      (hv : v ∈ given inner "nth_error_trigger") (h : ∀ n : UInt32, v ≠ .ofNat n.toNat)

theorem Gives.ofJson? {members : List (String × Json)} {puzzle : Option String}
    {hintEvery : Option UInt32} (h : Gives members puzzle hintEvery) :
    ofJson? (ofMembers members) = some {
      defaultPuzzle := puzzle.getD standard.defaultPuzzle
      scoring := { hintEvery := hintEvery.getD standard.scoring.hintEvery } } := by
  obtain ⟨inner, hchecker, htrigger⟩ := h.hintEvery
  rw [ofJson?_eq_some_iff]
  refine ⟨puzzle.map .ofText, inner.map .ofMembers, ?_, ?_, ?_, ?_⟩
  · rw [h.puzzle]
    cases puzzle <;> rfl
  · rw [hchecker]
    cases inner <;> rfl
  · cases puzzle <;> rfl
  · cases inner with
    | none =>
      -- without settings for wrong answers there is no number in them either
      cases hintEvery with
      | none => rfl
      | some n => simp [given] at htrigger
    | some inner =>
      rw [Option.map_some, fieldOr, ScoringConfig.ofJson?_eq_some_iff]
      refine ⟨hintEvery.map fun n => .ofNat n.toNat, ?_, ?_⟩
      · rw [Option.getD_some] at htrigger
        rw [htrigger]
        cases hintEvery <;> rfl
      · cases hintEvery with
        | none => rfl
        | some n => exact uint32?_ofNat n

theorem Faulty.ofJson?_eq_none {members : List (String × Json)} (h : Faulty members)
    {cs : List Char} (hspells : Spells (ofMembers members) cs) :
    ofJson? (ofMembers members) = none := by
  rw [Option.eq_none_iff_forall_ne_some]
  intro c hc
  -- If the object was read, every known key is given at most once, with a value that is read.
  obtain ⟨v, w, hpuzzle, hscoring, hv, hw⟩ := ofJson?_eq_some_iff.mp hc
  cases h with
  | repeated hkey htwice =>
    simp only [List.mem_cons, List.not_mem_nil, or_false] at hkey
    rcases hkey with rfl | rfl
    · have hone := length_given_le hpuzzle
      omega
    · have hone := length_given_le hscoring
      omega
  | @puzzle j hj hother =>
    obtain rfl := eq_some_of_mem_given hpuzzle hj
    exact hother _ (text?_eq_some_iff.mp hv)
  | @scoring j hj hobject harray =>
    obtain rfl := eq_some_of_mem_given hscoring hj
    cases j with
    | object ms => exact hobject ms rfl
    | array items => exact harray items rfl
    | _ => simp [fieldOr, ScoringConfig.ofJson?, fields?] at hw
  | repeatedHint hinner htwice =>
    obtain rfl := eq_some_of_mem_given hscoring hinner
    obtain ⟨u, hu, -⟩ := ScoringConfig.ofJson?_eq_some_iff.mp hw
    have hone := length_given_le hu
    omega
  | hintEvery hinner hj hother =>
    obtain rfl := eq_some_of_mem_given hscoring hinner
    obtain ⟨u, hu, hread⟩ := ScoringConfig.ofJson?_eq_some_iff.mp hw
    obtain rfl := eq_some_of_mem_given hu hj
    obtain ⟨cs', hinnerSpells⟩ := exists_spells_of_mem_given hspells hinner
    obtain ⟨cs'', hjSpells⟩ := exists_spells_of_mem_given hinnerSpells hj
    exact hother _ ((uint32?_eq_some_iff hjSpells).mp hread)

/-- The settings in JSON give themselves. -/
theorem gives_toJson (c : Config) : ∃ members, c.toJson = ofMembers members ∧
    Gives members (some c.defaultPuzzle) (some c.scoring.hintEvery) :=
  ⟨_, rfl, by simp [given], some [("nth_error_trigger", .ofNat c.scoring.hintEvery.toNat)],
    by simp [given, ScoringConfig.toJson], by simp [given]⟩

theorem spells_toJson (c : Config) : Spells c.toJson c.toJson.compact.toList := by
  apply spells_compact
  simp [toJson, ScoringConfig.toJson, hasNumerals_ofMembers, hasNumerals_ofText,
    hasNumerals_ofNat]

theorem parse_of_element {members : List (String × Json)} {s : String}
    (h : SpellsElement (ofMembers members) s.toList) :
    parse s = match ofJson? (ofMembers members) with
      | some c => .ok c
      | none => .error (.malformed "no configuration") := by
  rw [parse, parse?_of_spells h]
  rfl

/-- **A configuration is read as given, or refused.**  Whatever the order, the spelling and
the other members, what an object gives under the known keys replaces the defaults and
nothing else does.  If one of them is given twice, or with a value of another kind, there
is no configuration.  What is written for any settings is read as these settings. -/
theorem parse_of_spells :
    (∀ (members : List (String × Json)) (s : String),
      SpellsElement (ofMembers members) s.toList →
        (∀ puzzle hintEvery, Gives members puzzle hintEvery →
          parse s = .ok {
            defaultPuzzle := puzzle.getD standard.defaultPuzzle
            scoring := { hintEvery := hintEvery.getD standard.scoring.hintEvery } }) ∧
        (Faulty members → ∃ reason, parse s = .error (.malformed reason))) ∧
    ∀ c : Config, parse c.toJson.compact = .ok c := by
  refine ⟨fun members s hs => ⟨fun puzzle hintEvery h => ?_, fun h => ?_⟩, fun c => ?_⟩
  · rw [parse_of_element hs, h.ofJson?]
  · obtain ⟨cs, hspells⟩ := hs.exists_spells
    exact ⟨_, by rw [parse_of_element hs, h.ofJson?_eq_none hspells]⟩
  · obtain ⟨members, hmembers, hgives⟩ := c.gives_toJson
    have hs := c.spells_toJson.element
    rw [hmembers] at hs ⊢
    rw [parse_of_element hs, hgives.ofJson?]
    rfl

/-- A number for the hint beside an unknown member, and a value of the wrong kind. -/
theorem parse_of_spells_hint :
    let members : List (String × Json) :=
      [("x", .null), ("checker", .ofMembers [("nth_error_trigger", .ofNat 5)])]
    let s := " \x7b\"x\":null,\"checker\":\x7b\"nth_error_trigger\":5\x7d\x7d\n"
    let faulty : List (String × Json) := [("checker", .null)]
    let s' := "\x7b\"checker\":null\x7d"
    (SpellsElement (ofMembers members) s.toList ∧ Gives members none (some 5) ∧
      parse s = .ok { defaultPuzzle := standard.defaultPuzzle, scoring := { hintEvery := 5 } }) ∧
    SpellsElement (ofMembers faulty) s'.toList ∧ Faulty faulty ∧
      ∃ reason, parse s' = .error (.malformed reason) := by
  intro members s faulty s'
  have hspells : SpellsElement (ofMembers members) s.toList := by
    have htext : s.toList = [' '] ++ ((ofMembers members).compact.toList ++ ['\n']) := by decide
    have hnumerals : (ofMembers members).HasNumerals :=
      ⟨trivial, ⟨hasNumerals_ofNat 5, trivial⟩, trivial⟩
    rw [htext]
    exact .mk (by simp [Blanks]) (spells_compact hnumerals) (by simp [Blanks])
  have hgives : Gives members none (some 5) :=
    ⟨by simp [given, members], some [("nth_error_trigger", .ofNat 5)], by simp [given, members],
      by simp [given]⟩
  have hspells' : SpellsElement (ofMembers faulty) s'.toList :=
    have hnumerals : (ofMembers faulty).HasNumerals := ⟨trivial, trivial⟩
    (spells_compact hnumerals).element
  have hfaulty : Faulty faulty := by
    refine .scoring (v := .null) ?_ nofun nofun
    simp [given, faulty]
  exact ⟨⟨hspells, hgives, (parse_of_spells.1 members s hspells).1 _ _ hgives⟩, hspells', hfaulty,
    (parse_of_spells.1 faulty s' hspells').2 hfaulty⟩

example : parse " \x7b\"x\": [1e5, \"\\ud800\"], \"checker\" : \x7b\x7d\x7d" = .ok standard := by
  rfl

end Config

end TritPuzzle
