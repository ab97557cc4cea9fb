import TritPuzzle.CommandLine.Report
import TritPuzzle.Proofs.Forms

/-!
# Snapshots of puzzles

The program writes templates in JSON but reads none.  Still nothing is lost: there is a
reader that takes every snapshot back to its template, with the mark of every slot and with
every link, and a missing child is read as missing.  So two templates that look the same in
JSON are the same.

The reader takes positions of any size, since a template has no bound on its nodes.

## Main definitions

* `Form.items`, `Form.nullable` — the forms of lists and of what may be missing.
* `Template.ofSnapshot?` — the template that a snapshot shows.

## Main results

* `OperatorNode.keeps_snapshot`, `Template.keeps_snapshot` — nodes and templates are read as
  they were written.
* `Template.snapshot_faithful` — **a snapshot shows one template only**, however it is
  spelled.
-/

namespace TritPuzzle

open Json

/-- What can be read again is written differently for different values. -/
theorem injective_of_reads {α β : Type} {write : α → β} (read? : β → Option α)
    (h : ∀ x, read? (write x) = some x) : Function.Injective write := by
  intro x y hxy
  have hx := h x
  rw [hxy, h y] at hx
  exact (Option.some.inj hx).symm

/-! ### Lists and missing values -/

namespace Form

variable {α : Type}

/-- The form of a list, given the form of its entries. -/
def items (f : Form α) : Form (List α) where
  write xs := .array (xs.map f.write)
  read?
    | .array vs => vs.mapM f.read?
    | _ => none

/-- The form of a value that may be missing. -/
def nullable (f : Form α) : Form (Option α) where
  write x := (x.map f.write).getD .null
  read?
    | .null => some none
    | v => (f.read? v).map some

theorem Keeps.items {f : Form α} (h : f.Keeps fun _ => True) : f.items.Keeps fun _ => True where
  numerals xs := by
    refine hasNumerals_array.mpr fun v hv => ?_
    obtain ⟨x, -, rfl⟩ := List.mem_map.mp hv
    exact h.numerals x
  reads xs _ := by
    refine mapM_eq_some_iff.mpr ?_
    rw [List.forall₂_map_left_iff, List.forall₂_same]
    exact fun x _ => h.reads x trivial
  inRange _ _ _ := trivial

theorem read?_nullable {f : Form α} {v : Json} (h : v ≠ .null) :
    f.nullable.read? v = (f.read? v).map some := by
  cases v with
  | null => exact absurd rfl h
  | _ => rfl

/-- A value is told from a missing one if it is never written as null. -/
theorem Keeps.nullable {f : Form α} (h : f.Keeps fun _ => True) (hnull : ∀ x, f.write x ≠ .null) :
    f.nullable.Keeps fun _ => True where
  numerals x := by
    cases x with
    | none => exact trivial
    | some x => exact h.numerals x
  reads x _ := by
    cases x with
    | none => rfl
    | some x =>
      have hread := read?_nullable (f := f) (hnull x)
      rwa [h.reads x trivial] at hread
  inRange _ _ _ := trivial

end Form

/-! ### Addresses -/

/-- The natural number that a value is. -/
def Json.nat? : Json → Option Nat
  | .number n => natural? n.toList
  | _ => none

namespace NodeId

/-- The address that a value shows, whatever the size of its position. -/
def ofSnapshot? (j : Json) : Option NodeId :=
  match j.tagged? with
  | some ("Value", some v) => v.nat?.map .value
  | some ("Operator", some v) => v.nat?.map .operator
  | _ => none

/-- The form of an address in a snapshot. -/
def snapshot : Form NodeId := ⟨toJson, ofSnapshot?⟩

theorem keeps_snapshot : snapshot.Keeps fun _ => True where
  numerals := keeps_form.numerals
  reads id _ := by
    have hnat (i : Nat) : (ofNat i).nat? = some i := by
      rw [ofNat, nat?, String.toList_ofList, natural?_toDigits]
    cases id with
    | value i => simp [snapshot, toJson, ofSnapshot?, hnat]
    | operator i => simp [snapshot, toJson, ofSnapshot?, hnat]
  inRange _ _ _ := trivial

end NodeId

/-! ### Nodes -/

/-- The slot of the leaf that a value shows. -/
def leafOfSnapshot? (j : Json) : Option (Slot Trit) := do
  match ← j.fields? ["state"] with
  | [some state] => (Slot.form Trit.form).read? state
  | _ => none

/-- The form of a leaf in a snapshot. -/
def leafSnapshot : Form (Slot Trit) := ⟨leafToJson, leafOfSnapshot?⟩

theorem leafToJson_eq (s : Slot Trit) :
    leafToJson s = ofMembers [("state", (Slot.form Trit.form).write s)] := rfl

theorem keeps_leafSnapshot : leafSnapshot.Keeps fun _ => True := by
  have hstate := Slot.keeps_form Trit.keeps_form
  refine ⟨fun s => ?_, fun s _ => ?_, fun _ _ _ => trivial⟩
  · change (leafToJson s).HasNumerals
    rw [leafToJson_eq, hasNumerals_ofMembers]
    simpa using hstate.numerals s
  · change leafOfSnapshot? (leafToJson s) = some s
    have hfields : (ofMembers [("state", (Slot.form Trit.form).write s)]).fields? ["state"] =
        some [some ((Slot.form Trit.form).write s)] := fields?_ofMembers_self _ (by simp)
    rw [leafToJson_eq, leafOfSnapshot?, hfields]
    exact hstate.reads s trivial

namespace OperatorNode

/-- The inner node that a value shows. -/
def ofSnapshot? (j : Json) : Option OperatorNode := do
  match ← j.fields? ["state", "left", "right"] with
  | [some state, some left, some right] =>
    return {
      slot := ← (Slot.form Operator.form).read? state
      left := ← NodeId.snapshot.read? left
      right := ← NodeId.snapshot.nullable.read? right }
  | _ => none

/-- The form of an inner node in a snapshot. -/
def snapshot : Form OperatorNode := ⟨toJson, ofSnapshot?⟩

/-- The members of an inner node in a snapshot. -/
def members (n : OperatorNode) : List (String × Json) :=
  [("state", (Slot.form Operator.form).write n.slot), ("left", NodeId.snapshot.write n.left),
    ("right", NodeId.snapshot.nullable.write n.right)]

theorem toJson_eq (n : OperatorNode) : n.toJson = ofMembers n.members := rfl

theorem keeps_snapshot : snapshot.Keeps fun _ => True := by
  have hstate := Slot.keeps_form Operator.keeps_form
  have hleft := NodeId.keeps_snapshot
  have hright : NodeId.snapshot.nullable.Keeps fun _ => True :=
    hleft.nullable fun id => by cases id <;> simp [NodeId.snapshot, NodeId.toJson, ofMembers]
  refine ⟨fun n => ?_, fun n _ => ?_, fun _ _ _ => trivial⟩
  · change n.toJson.HasNumerals
    rw [toJson_eq, hasNumerals_ofMembers]
    simpa [members] using
      ⟨hstate.numerals n.slot, hleft.numerals n.left, hright.numerals n.right⟩
  · change ofSnapshot? n.toJson = some n
    have hfields : (ofMembers n.members).fields? ["state", "left", "right"] =
        some (n.members.map fun m => some m.2) :=
      fields?_ofMembers_self n.members (by simp [members])
    rw [toJson_eq, ofSnapshot?, hfields]
    simp [members, hstate.reads n.slot trivial, hleft.reads n.left trivial,
      hright.reads n.right trivial]

end OperatorNode

/-! ### Templates -/

namespace Template

/-- The template that a snapshot shows. -/
def ofSnapshot? (j : Json) : Option Template := do
  match ← j.fields? ["root", "answer", "value_slots", "operator_slots"] with
  | [some root, some answer, some values, some operators] =>
    return {
      root := ← NodeId.snapshot.read? root
      answer := ← Trit.form.read? answer
      values := ← leafSnapshot.items.read? values
      operators := ← OperatorNode.snapshot.items.read? operators }
  | _ => none

/-- The form of a template. -/
def snapshot : Form Template := ⟨toJson, ofSnapshot?⟩

/-- The members of a template in a snapshot. -/
def members (t : Template) : List (String × Json) :=
  [("root", NodeId.snapshot.write t.root), ("answer", Trit.form.write t.answer),
    ("value_slots", leafSnapshot.items.write t.values),
    ("operator_slots", OperatorNode.snapshot.items.write t.operators)]

theorem toJson_eq (t : Template) : t.toJson = ofMembers t.members := rfl

theorem keeps_snapshot : snapshot.Keeps fun _ => True := by
  have hroot := NodeId.keeps_snapshot
  have hanswer := Trit.keeps_form
  have hvalues := keeps_leafSnapshot.items
  have hoperators := OperatorNode.keeps_snapshot.items
  refine ⟨fun t => ?_, fun t _ => ?_, fun _ _ _ => trivial⟩
  · change t.toJson.HasNumerals
    rw [toJson_eq, hasNumerals_ofMembers]
    simpa [members] using ⟨hroot.numerals t.root, hanswer.numerals t.answer,
      hvalues.numerals t.values, hoperators.numerals t.operators⟩
  · change ofSnapshot? t.toJson = some t
    have hfields : (ofMembers t.members).fields? ["root", "answer", "value_slots",
        "operator_slots"] = some (t.members.map fun m => some m.2) :=
      fields?_ofMembers_self t.members (by simp [members])
    rw [toJson_eq, ofSnapshot?, hfields]
    simp [members, hroot.reads t.root trivial, hanswer.reads t.answer trivial,
      hvalues.reads t.values trivial, hoperators.reads t.operators trivial]

theorem spells_pretty_toJson (t : Template) : Spells t.toJson t.toJson.pretty.toList :=
  spells_pretty (keeps_snapshot.numerals t)

/-- The line break behind a shown template makes no difference. -/
theorem spells_stdout {name : String} {t : Template} (h : Catalog.template name = .ok t) :
    SpellsElement t.toJson (CommandLine.showReport name true).stdout.toList := by
  have hbreak : Blanks ['\n'] := by simp [Blanks]
  have hspells := SpellsElement.mk blanks_nil t.spells_pretty_toJson hbreak
  simpa [CommandLine.showReport, h, CommandLine.success, CommandLine.Report.stdout,
    CommandLine.linesText] using hspells

/-- **A snapshot shows one template only.**  Whatever template is written, with whatever was
done to its slots, it is read of its snapshot again, however that is spelled: so templates
with the same snapshot are the same, down to the marks of their slots and to the children
that are missing.  What the program prints for a puzzle is such a snapshot. -/
theorem snapshot_faithful :
    (∀ t : Template, ofSnapshot? t.toJson = some t) ∧
    (∀ t t' : Template, t.toJson = t'.toJson ↔ t = t') ∧
    (∀ (t : Template) (s : String), SpellsElement t.toJson s.toList →
      (parse? s).bind ofSnapshot? = some t) ∧
    (∀ t t' : Template, t.toJson.pretty = t'.toJson.pretty ↔ t = t') ∧
    ∀ (name : String) (t : Template), Catalog.template name = .ok t →
      (parse? (CommandLine.showReport name true).stdout).bind ofSnapshot? = some t := by
  have hreads (t : Template) : ofSnapshot? t.toJson = some t := keeps_snapshot.reads t trivial
  have hspelled (t : Template) (s : String) (hs : SpellsElement t.toJson s.toList) :
      (parse? s).bind ofSnapshot? = some t :=
    keeps_snapshot.roundTrips.spelled t trivial s hs
  have hpretty (t : Template) : (parse? t.toJson.pretty).bind ofSnapshot? = some t :=
    hspelled t _ t.spells_pretty_toJson.element
  refine ⟨hreads, fun t t' => ?_, hspelled, fun t t' => ?_, fun name t ht => ?_⟩
  · exact (injective_of_reads ofSnapshot? hreads).eq_iff
  · have hinjective : Function.Injective fun t : Template => t.toJson.pretty :=
      injective_of_reads (fun s => (parse? s).bind ofSnapshot?) hpretty
    exact hinjective.eq_iff
  · exact hspelled t _ (spells_stdout ht)

/-- An empty operator over a locked one, as it is shown. -/
theorem snapshot_faithful_not_x_and_y :
    let t : Template := {
      root := .operator 1
      answer := .neutral
      values := [.unset, .unset]
      operators := [{ slot := .locked .not, left := .value 0, right := none },
        { slot := .unset, left := .operator 0, right := some (.value 1) }] }
    Catalog.template "not-x-and-y" = .ok t ∧
      (parse? (CommandLine.showReport "not-x-and-y" true).stdout).bind ofSnapshot? = some t := by
  intro t
  have ht : Catalog.template "not-x-and-y" = .ok t := by decide
  obtain ⟨-, -, -, -, hshown⟩ := snapshot_faithful
  exact ⟨ht, hshown "not-x-and-y" t ht⟩

end Template

end TritPuzzle
