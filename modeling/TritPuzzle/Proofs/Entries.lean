import TritPuzzle.Catalog
import TritPuzzle.Proofs.Finished

/-!
# The puzzles of the catalog

Every puzzle of the catalog is available: its assembly succeeds, and its name is its
own, so that the name finds it.  A name that no puzzle has is the only reason for which
none is found.  The puzzles are finished assemblies like any other, whether they come
from a ready-made shape or are assembled by hand.

## Main definitions

* `Assembly.Reached` — the assemblies that runs of calls lead to.
* `Assembly.Builds` — what comes of an attempt, if anything, is a finished puzzle.

## Main results

* `Shape.builds_template` — the ready-made shapes build puzzles.
* `Catalog.template_eq_ok_iff`, `Catalog.template_eq_error_iff` — **the names of the
  puzzles are the ones that are found.**
* `Catalog.template_of_mem`, `Catalog.built_of_template` — a puzzle is found under its
  name, and it is a finished one.
-/

namespace TritPuzzle

namespace Assembly

/-! ### Assemblies that are reached -/

/-- Does the assembly come from a run of calls? -/
def Reached (a : Assembly) : Prop := ∃ steps, a = run steps

theorem reached_empty : Reached empty := ⟨[], rfl⟩

/-- Whatever puzzle comes of an attempt is a finished one. -/
def Builds (attempt : Except AssemblyError Template) : Prop := ∀ t, attempt = .ok t → t.Built

/-- An attempt in steps builds a puzzle when what follows its first step does. -/
theorem Builds.bind {α : Type} {x : Except AssemblyError α}
    {f : α → Except AssemblyError Template} (h : ∀ a, x = .ok a → Builds (f a)) :
    Builds (x >>= f) := by
  intro t ht
  cases x with
  | error e => simp [Bind.bind, Except.bind] at ht
  | ok a => exact h a rfl t ht

namespace Reached

variable {a b : Assembly}

/-- A call leads from one reached assembly to another. -/
theorem perform (h : a.Reached) (s : AssemblyStep) : (a.perform s).Reached := by
  obtain ⟨steps, rfl⟩ := h
  exact ⟨steps ++ [s], by simp [run]⟩

theorem addValue (h : a.Reached) (slot : Slot Trit) : (a.addValue slot).2.Reached :=
  h.perform (.value slot)

theorem addPreset (h : a.Reached) (x : Option Trit) : (a.addPreset x).2.Reached :=
  h.perform (.presetValue x)

theorem addOperator (h : a.Reached) {slot : Slot Operator} {left id : NodeId}
    {right : Option NodeId} (hb : a.addOperator slot left right = .ok (id, b)) : b.Reached := by
  have hstep := h.perform (.operator slot left right)
  rwa [Assembly.perform, hb] at hstep

theorem lockValue (h : a.Reached) {id : NodeId} {x : Trit} (hb : a.lockValue id x = .ok b) :
    b.Reached := by
  have hstep := h.perform (.lockValue id x)
  rwa [Assembly.perform, hb] at hstep

theorem lockOperator (h : a.Reached) {id : NodeId} {op : Operator}
    (hb : a.lockOperator id op = .ok b) : b.Reached := by
  have hstep := h.perform (.lockOperator id op)
  rwa [Assembly.perform, hb] at hstep

theorem builds_finish (h : a.Reached) (root : NodeId) (answer : Trit) :
    Builds (a.finish root answer) := by
  obtain ⟨steps, rfl⟩ := h
  exact fun t ht => .finish ht

theorem builds_finishListed (h : a.Reached) (root : NodeId) (answer : Trit)
    (vs os : List NodeId) : Builds (a.finishListed root answer vs os) := by
  obtain ⟨steps, rfl⟩ := h
  exact fun t ht => .finishListed ht

end Reached

end Assembly

open Assembly

/-- **The ready-made shapes build puzzles.** -/
theorem Shape.builds_template (shape : Shape) (answer : Trit) (locked : Bool) :
    Builds (shape.template answer locked) := by
  cases shape with
  | unary op x =>
    have leaves := reached_empty.addPreset x
    exact .bind fun ⟨_, _⟩ hroot => (leaves.addOperator hroot).builds_finish _ _
  | binary op x y =>
    have leaves := (reached_empty.addPreset x).addPreset y
    exact .bind fun ⟨_, _⟩ hroot => (leaves.addOperator hroot).builds_finish _ _
  | chainLeft inner outer x y z | chainRight outer inner x y z =>
    have leaves := ((reached_empty.addPreset x).addPreset y).addPreset z
    exact .bind fun ⟨_, _⟩ hinner => .bind fun ⟨_, _⟩ hroot =>
      ((leaves.addOperator hinner).addOperator hroot).builds_finish _ _
  | complex left right root w x y z =>
    have leaves := (((reached_empty.addPreset w).addPreset x).addPreset y).addPreset z
    exact .bind fun ⟨_, _⟩ hleft => .bind fun ⟨_, _⟩ hright => .bind fun ⟨_, _⟩ hroot =>
      (((leaves.addOperator hleft).addOperator hright).addOperator hroot).builds_finish _ _

namespace Catalog

/-! ### The puzzles -/

theorem builds_notXAndY : Builds notXAndY := by
  have leaves := (reached_empty.addValue .unset).addValue .unset
  exact .bind fun ⟨_, _⟩ hnot => .bind fun ⟨_, _⟩ hroot =>
    ((leaves.addOperator hnot).addOperator hroot).builds_finishListed _ _ _ _

theorem builds_xAndYOrZ : Builds xAndYOrZ := by
  have leaves := ((reached_empty.addValue .unset).addValue .unset).addValue .unset
  exact .bind fun _ hy => .bind fun _ hz => .bind fun ⟨_, _⟩ hboth => .bind fun _ hand =>
    .bind fun ⟨_, _⟩ hroot => .bind fun _ hor =>
      ((((((leaves.lockValue hy).lockValue hz).addOperator hboth).lockOperator hand).addOperator
        hroot).lockOperator hor).builds_finish _ _

theorem builds_notXorXY : Builds notXorXY := by
  have leaves := (reached_empty.addValue (.locked .neutral)).addValue .unset
  exact .bind fun ⟨_, _⟩ hxor => .bind fun ⟨_, _⟩ hroot =>
    ((leaves.addOperator hxor).addOperator hroot).builds_finish _ _

/-- What is assembled for a puzzle of the catalog is a finished puzzle. -/
theorem builds_assembled : ∀ e ∈ entries, Builds e.assembled := by
  simp [entries, Shape.builds_template, builds_notXAndY, builds_xAndYOrZ, builds_notXorXY]

/-- The assembly of every puzzle of the catalog succeeds. -/
theorem exists_assembled {e : Entry} (he : e ∈ entries) : ∃ t, e.assembled = .ok t := by
  have hall : ∀ e ∈ entries, e.assembled.isOk = true := by decide
  have hok := hall e he
  cases ht : e.assembled with
  | ok t => exact ⟨t, rfl⟩
  | error err => simp [ht, Except.isOk, Except.toBool] at hok

/-- No two puzzles share a name. -/
theorem nodup_names : (entries.map (·.name)).Nodup := by decide

theorem eq_of_name_eq {e e' : Entry} (he : e ∈ entries) (he' : e' ∈ entries)
    (hname : e.name = e'.name) : e = e' :=
  List.inj_on_of_nodup_map nodup_names he he' hname

/-! ### Finding a puzzle -/

/-- A puzzle is at the first place where there is one of its name. -/
theorem findFinIdx?_name (k : Fin entries.length) :
    entries.findFinIdx? (·.name = (entries.get k).name) = some k := by
  rw [List.findFinIdx?_eq_some_iff]
  refine ⟨by simp, fun j hj hname => ?_⟩
  have hentry : entries[j] = entries.get k :=
    eq_of_name_eq (List.getElem_mem _) (List.get_mem _ _) (by simpa using hname)
  have hindex := (List.Nodup.getElem_inj_iff nodup_names.of_map).mp hentry
  omega

theorem find_eq_ok_iff {name : String} {e : Entry} :
    find name = .ok e ↔ e ∈ entries ∧ e.name = name := by
  unfold find
  cases h : entries.find? (·.name = name) with
  | none =>
    have hother : ∀ e ∈ entries, ¬ e.name = name := by simpa using List.find?_eq_none.mp h
    simp only [reduceCtorEq, false_iff, not_and]
    exact hother e
  | some e' =>
    have he' : e' ∈ entries := List.mem_of_find?_eq_some h
    have hname : e'.name = name := by simpa using List.find?_some h
    rw [Except.ok.injEq]
    constructor
    · rintro rfl
      exact ⟨he', hname⟩
    · rintro ⟨he, rfl⟩
      exact eq_of_name_eq he' he hname

theorem find_eq_error_iff {name : String} {err : CatalogError} :
    find name = .error err ↔ err = .unknownPuzzle name ∧ ∀ e ∈ entries, e.name ≠ name := by
  unfold find
  cases h : entries.find? (·.name = name) with
  | none =>
    have hother : ∀ e ∈ entries, e.name ≠ name := by simpa using List.find?_eq_none.mp h
    simp only [Except.error.injEq, eq_comm (a := err)]
    exact ⟨fun herr => ⟨herr, hother⟩, fun herr => herr.1⟩
  | some e =>
    have hname : e.name = name := by simpa using List.find?_some h
    simp only [reduceCtorEq, false_iff, not_and, not_forall]
    exact fun _ => ⟨e, List.mem_of_find?_eq_some h, not_not.mpr hname⟩

/-- **The puzzle with a name is what is loaded under it.** -/
theorem template_eq_ok_iff {name : String} {t : Template} :
    template name = .ok t ↔ ∃ e ∈ entries, e.name = name ∧ e.assembled = .ok t := by
  unfold template
  cases h : find name with
  | error err =>
    have hother := (find_eq_error_iff.mp h).2
    simp only [bind, Except.bind, reduceCtorEq, false_iff, not_exists, not_and]
    exact fun e he hname => absurd hname (hother e he)
  | ok e =>
    obtain ⟨he, hname⟩ := find_eq_ok_iff.mp h
    obtain ⟨u, hu⟩ := exists_assembled he
    simp only [bind, Except.bind, Entry.template, hu, Except.mapError, Except.ok.injEq]
    constructor
    · rintro rfl
      exact ⟨e, he, hname, hu⟩
    · rintro ⟨e', he', hname', ht⟩
      obtain rfl := eq_of_name_eq he he' (hname.trans hname'.symm)
      exact Except.ok.inj (hu.symm.trans ht)

/-- **Nothing is loaded under a name exactly when no puzzle has it.** -/
theorem template_eq_error_iff {name : String} {err : CatalogError} :
    template name = .error err ↔ err = .unknownPuzzle name ∧ ∀ e ∈ entries, e.name ≠ name := by
  rw [← find_eq_error_iff, template]
  cases h : find name with
  | error err' => simp [bind, Except.bind]
  | ok e =>
    obtain ⟨t, ht⟩ := exists_assembled (find_eq_ok_iff.mp h).1
    simp [bind, Except.bind, Entry.template, ht, Except.mapError]

/-- A puzzle of the catalog is loaded under its name. -/
theorem template_of_mem {e : Entry} (he : e ∈ entries) : ∃ t, template e.name = .ok t := by
  obtain ⟨t, ht⟩ := exists_assembled he
  exact ⟨t, template_eq_ok_iff.mpr ⟨e, he, rfl, ht⟩⟩

/-- What is loaded under a name is a finished puzzle. -/
theorem built_of_template {name : String} {t : Template} (h : template name = .ok t) :
    t.Built := by
  obtain ⟨e, he, -, ht⟩ := template_eq_ok_iff.mp h
  exact builds_assembled e he t ht

end Catalog

end TritPuzzle
