import Mathlib.Data.List.Forall2
import TritPuzzle.Play.Event
import TritPuzzle.Proofs.Configuring

/-!
# Forms that keep values

A type that is read and written has a form in JSON.  A value may be spelled in many ways:
an alternative as its name or as an object, a record as an object in any order and with
other members, or as an array.  Whatever text is read as a value, the text that is written
for the value is read as it too, so writing a text anew settles its spelling for good.

A position is a number of 64 bits, so a form may keep only some of the values of a type;
but nothing else is ever read.

## Main definitions

* `Form` — how values are written and read, with `Form.text`, `Form.ofText?` and
  `Form.normalized?`.
* `Form.Keeps`, `Form.RoundTrips` — the form keeps the values in a range, as JSON values
  and as texts.

## Main results

* `choice?_eq_some_iff`, `NodeId.ofJson?_eq_some_iff`, `Slot.ofJson?_eq_some_iff`,
  `SlotEvent.ofJson?_eq_some_iff` — what is read as a value.
* `Form.Keeps.roundTrips` — a form that keeps values keeps them in texts.
* `roundTrips_forms` — **every form is read as it was written**, and writing anew what was
  read changes nothing more.
-/

namespace TritPuzzle

open Json

/-! ### Forms -/

/-- A form of a type in JSON. -/
structure Form (α : Type) where
  /-- What is written for a value. -/
  write : α → Json
  /-- What a JSON value is read as. -/
  read? : Json → Option α

namespace Form

variable {α : Type}

/-- The text that is written for a value. -/
def text (f : Form α) (x : α) : String := (f.write x).compact

/-- The value that a text is read as. -/
def ofText? (f : Form α) (s : String) : Option α := (parse? s).bind f.read?

/-- A text as it is written anew for the value that it is read as. -/
def normalized? (f : Form α) (s : String) : Option String := (f.ofText? s).map f.text

/-- Does the form keep the values in a range, and read no others? -/
structure Keeps (f : Form α) (InRange : α → Prop) : Prop where
  numerals : ∀ x, (f.write x).HasNumerals
  reads : ∀ x, InRange x → f.read? (f.write x) = some x
  inRange : ∀ j x, f.read? j = some x → InRange x

/-- Does the form keep the values in a range when they are written as texts? -/
structure RoundTrips (f : Form α) (InRange : α → Prop) : Prop where
  /-- What is written for a value is read as the value. -/
  reads : ∀ x, InRange x → f.ofText? (f.text x) = some x
  /-- However it is spelled. -/
  spelled : ∀ x, InRange x → ∀ s, SpellsElement (f.write x) s.toList → f.ofText? s = some x
  /-- No other values are read. -/
  inRange : ∀ s x, f.ofText? s = some x → InRange x
  /-- What is written for a value that was read is read as the value again. -/
  rereads : ∀ s x, f.ofText? s = some x → f.ofText? (f.text x) = some x
  /-- A text that was written anew is written anew as it is. -/
  normalizes : ∀ s t, f.normalized? s = some t → f.normalized? t = some t

theorem Keeps.roundTrips {f : Form α} {InRange : α → Prop} (h : f.Keeps InRange) :
    f.RoundTrips InRange := by
  have hspelled : ∀ x, InRange x → ∀ s, SpellsElement (f.write x) s.toList →
      f.ofText? s = some x := by
    intro x hx s hs
    rw [ofText?, parse?_of_spells hs, Option.bind_some]
    exact h.reads x hx
  have hreads : ∀ x, InRange x → f.ofText? (f.text x) = some x := by
    intro x hx
    exact hspelled x hx _ (spells_compact (h.numerals x)).element
  have hrange : ∀ s x, f.ofText? s = some x → InRange x := by
    intro s x hs
    obtain ⟨j, -, hj⟩ := Option.bind_eq_some_iff.mp hs
    exact h.inRange j x hj
  refine ⟨hreads, hspelled, hrange, fun s x hs => hreads x (hrange s x hs), ?_⟩
  intro s t hst
  obtain ⟨x, hs, rfl⟩ := Option.map_eq_some_iff.mp hst
  rw [normalized?, hreads x (hrange s x hs), Option.map_some]

end Form

namespace Json

/-! ### Alternatives -/

@[simp] theorem tagged?_ofText (name : String) : (ofText name).tagged? = some (name, none) := rfl

@[simp] theorem tagged?_ofMembers (name : String) (v : Json) :
    (ofMembers [(name, v)]).tagged? = some (name, some v) := rfl

/-- **An alternative without content is read by its name**, with nothing or null behind
it. -/
theorem choice?_eq_some_iff {α : Type} {all : List α} {name : α → String}
    (hall : ∀ x, all.find? (name · = name x) = some x) {j : Json} {x : α} :
    j.choice? all name = some x ↔
      ∃ content, j.tagged? = some (name x, content) ∧ isBare content = true := by
  unfold choice?
  constructor
  · intro h
    obtain ⟨⟨tag, content⟩, htag, hfind⟩ := Option.bind_eq_some_iff.mp h
    dsimp only at hfind
    split_ifs at hfind with hbare
    have hname : name x = tag := by simpa using List.find?_some hfind
    exact ⟨content, by rw [htag, hname], hbare⟩
  · rintro ⟨content, htag, hbare⟩
    simp [htag, hbare, hall x]

/-! ### Records -/

theorem mapM_eq_some_iff {α β : Type} {f : α → Option β} {xs : List α} {ys : List β} :
    xs.mapM f = some ys ↔ List.Forall₂ (fun x y => f x = some y) xs ys := by
  induction xs generalizing ys with
  | nil => simp [eq_comm]
  | cons x xs ih =>
    rw [List.mapM_cons, List.forall₂_cons_left_iff]
    simp only [Option.bind_eq_bind, Option.bind_eq_some_iff, ih, Option.pure_def,
      Option.some.injEq]
    constructor
    · rintro ⟨y, hy, ys, hys, rfl⟩
      exact ⟨y, ys, hy, hys, rfl⟩
    · rintro ⟨y, ys, hy, hys, rfl⟩
      exact ⟨y, hy, ys, hys, rfl⟩

/-- **The fields of a record are what its object gives under their keys**, in whatever order
and among whatever other members. -/
theorem fields?_ofMembers_eq_some_iff {members : List (String × Json)} {names : List String}
    {vs : List (Option Json)} :
    (ofMembers members).fields? names = some vs ↔
      List.Forall₂ (fun name v => given members name = v.toList) names vs := by
  rw [fields?_ofMembers, mapM_eq_some_iff]
  simp only [member?_eq_some_iff]

/-- Under a key that stands once, its value alone is given. -/
theorem given_of_nodup {members : List (String × Json)} (h : (members.map (·.1)).Nodup)
    {m : String × Json} (hm : m ∈ members) : given members m.1 = [m.2] := by
  induction members with
  | nil => simp at hm
  | cons n members ih =>
    obtain ⟨hn, hmembers⟩ := List.nodup_cons.mp h
    rcases List.mem_cons.mp hm with rfl | hm
    · have hnone : given members m.1 = [] := by
        rw [List.eq_nil_iff_forall_not_mem]
        intro v hv
        exact hn (List.mem_map.mpr ⟨(m.1, v), mem_given.mp hv, rfl⟩)
      simpa [given] using hnone
    · have hne : n.1 ≠ m.1 := by
        intro heq
        exact hn (List.mem_map.mpr ⟨m, hm, heq.symm⟩)
      simpa [given, hne] using ih hmembers hm

/-- A record with different keys is read as it was written. -/
theorem fields?_ofMembers_self (members : List (String × Json))
    (h : (members.map (·.1)).Nodup) :
    (ofMembers members).fields? (members.map (·.1)) = some (members.map fun m => some m.2) := by
  rw [fields?_ofMembers_eq_some_iff, List.forall₂_map_left_iff, List.forall₂_map_right_iff,
    List.forall₂_same]
  intro m hm
  exact given_of_nodup h hm

/-! ### Positions -/

theorem natBelow?_eq_some_iff {bound n : Nat} {j : Json} :
    j.natBelow? bound = some n ↔
      (∃ numeral, j = .number numeral ∧ natural? numeral.toList = some n) ∧ n < bound := by
  cases j <;> simp [natBelow?, Option.filter_eq_some_iff]

theorem index?_ofNat {i : Nat} (h : i < indexBound) : (ofNat i).index? = some i :=
  natBelow?_eq_some_iff.mpr ⟨⟨_, rfl, by rw [String.toList_ofList, natural?_toDigits]⟩, h⟩

theorem lt_of_index? {j : Json} {i : Nat} (h : j.index? = some i) : i < indexBound :=
  (natBelow?_eq_some_iff.mp h).2

end Json

/-! ### Trits, operators and arities -/

/-- A form of alternatives without content keeps all of them. -/
theorem Form.keeps_choice {α : Type} {all : List α} {name : α → String}
    (hall : ∀ x, all.find? (name · = name x) = some x) :
    Form.Keeps ⟨fun x => ofText (name x), choice? all name⟩ fun _ => True where
  numerals _ := hasNumerals_ofText _
  reads _ _ := (choice?_eq_some_iff hall).mpr ⟨none, tagged?_ofText _, rfl⟩
  inRange _ _ _ := trivial

/-- The form of a trit. -/
def Trit.form : Form Trit := ⟨Trit.toJson, Trit.ofJson?⟩

/-- The form of an operator. -/
def Operator.form : Form Operator := ⟨Operator.toJson, Operator.ofJson?⟩

/-- The form of an arity. -/
def Arity.form : Form Arity := ⟨Arity.toJson, Arity.ofJson?⟩

theorem Trit.keeps_form : Trit.form.Keeps fun _ => True :=
  Form.keeps_choice fun a => by cases a <;> rfl

theorem Operator.keeps_form : Operator.form.Keeps fun _ => True :=
  Form.keeps_choice fun op => by cases op <;> rfl

theorem Arity.keeps_form : Arity.form.Keeps fun _ => True :=
  Form.keeps_choice fun a => by cases a <;> rfl

/-! ### Addresses -/

namespace NodeId

/-- Is the position a number of 64 bits? -/
def InBounds : NodeId → Prop
  | .value i => i < indexBound
  | .operator i => i < indexBound

/-- The form of an address. -/
def form : Form NodeId := ⟨toJson, ofJson?⟩

/-- **An address is read of an alternative** that is named for its kind. -/
theorem ofJson?_eq_some_iff {j : Json} {id : NodeId} :
    ofJson? j = some id ↔ ∃ v, match id with
      | .value i => j.tagged? = some ("Value", some v) ∧ v.index? = some i
      | .operator i => j.tagged? = some ("Operator", some v) ∧ v.index? = some i := by
  unfold ofJson?
  constructor
  · intro h
    obtain ⟨⟨tag, content⟩, htag, hcontent⟩ := Option.bind_eq_some_iff.mp h
    obtain ⟨v, rfl, hindex⟩ := Option.bind_eq_some_iff.mp hcontent
    obtain ⟨i, hi, hid⟩ := Option.bind_eq_some_iff.mp hindex
    refine ⟨v, ?_⟩
    split at hid
    · obtain rfl := Option.some.inj hid
      exact ⟨htag, hi⟩
    · obtain rfl := Option.some.inj hid
      exact ⟨htag, hi⟩
    · simp at hid
  · rintro ⟨v, h⟩
    cases id with
    | value i => simp [h.1, h.2]
    | operator i => simp [h.1, h.2]

theorem keeps_form : form.Keeps InBounds where
  numerals id := by
    cases id <;> simp [form, toJson, hasNumerals_ofMembers, hasNumerals_ofNat]
  reads id hid := by
    refine ofJson?_eq_some_iff.mpr ?_
    cases id with
    | value i => exact ⟨_, rfl, index?_ofNat hid⟩
    | operator i => exact ⟨_, rfl, index?_ofNat hid⟩
  inRange j id h := by
    obtain ⟨v, hv⟩ := ofJson?_eq_some_iff.mp h
    cases id with
    | value i => exact lt_of_index? hv.2
    | operator i => exact lt_of_index? hv.2

end NodeId

/-! ### Slots -/

namespace Slot

variable {α : Type}

/-- The form of a slot, given the form of its content. -/
def form (content : Form α) : Form (Slot α) := ⟨toJson content.write, ofJson? content.read?⟩

/-- **The state of a slot is read of an alternative**, of which only the empty one may be
without content. -/
theorem ofJson?_eq_some_iff {read? : Json → Option α} {j : Json} {s : Slot α} :
    ofJson? read? j = some s ↔ match s with
      | .unset => ∃ content, j.tagged? = some ("Unset", content) ∧ isBare content = true
      | .opened x => ∃ v, j.tagged? = some ("Open", some v) ∧ read? v = some x
      | .locked x => ∃ v, j.tagged? = some ("Locked", some v) ∧ read? v = some x := by
  unfold ofJson?
  constructor
  · intro h
    obtain ⟨⟨tag, content⟩, htag, hstate⟩ := Option.bind_eq_some_iff.mp h
    dsimp only at hstate
    split at hstate
    · split_ifs at hstate with hbare
      obtain rfl := Option.some.inj hstate
      exact ⟨content, htag, hbare⟩
    · obtain ⟨v, rfl, hread⟩ := Option.bind_eq_some_iff.mp hstate
      obtain ⟨x, hx, hs⟩ := Option.bind_eq_some_iff.mp hread
      obtain rfl := Option.some.inj hs
      exact ⟨v, htag, hx⟩
    · obtain ⟨v, rfl, hread⟩ := Option.bind_eq_some_iff.mp hstate
      obtain ⟨x, hx, hs⟩ := Option.bind_eq_some_iff.mp hread
      obtain rfl := Option.some.inj hs
      exact ⟨v, htag, hx⟩
    · simp at hstate
  · intro h
    cases s with
    | unset =>
      obtain ⟨content, htag, hbare⟩ := h
      simp [htag, hbare]
    | opened x =>
      obtain ⟨v, htag, hx⟩ := h
      simp [htag, hx]
    | locked x =>
      obtain ⟨v, htag, hx⟩ := h
      simp [htag, hx]

/-- Slots are kept if their contents are. -/
theorem keeps_form {content : Form α} (h : content.Keeps fun _ => True) :
    (form content).Keeps fun _ => True where
  numerals s := by
    cases s with
    | unset => exact hasNumerals_ofText _
    | opened x => simp [form, toJson, hasNumerals_ofMembers, h.numerals x]
    | locked x => simp [form, toJson, hasNumerals_ofMembers, h.numerals x]
  reads s _ := by
    refine ofJson?_eq_some_iff.mpr ?_
    cases s with
    | unset => exact ⟨none, rfl, rfl⟩
    | opened x => exact ⟨_, rfl, h.reads x trivial⟩
    | locked x => exact ⟨_, rfl, h.reads x trivial⟩
  inRange _ _ _ := trivial

end Slot

/-! ### Events -/

namespace SlotEvent

/-- Does the record name the slot, and nothing else? -/
def NamesSlot (record : Json) (i : Nat) : Prop :=
  ∃ v, record.fields? ["slot"] = some [some v] ∧ v.index? = some i

/-- Does the record name the slot and a content? -/
def NamesSlotAnd {α : Type} (field : String) (read? : Json → Option α) (record : Json) (i : Nat)
    (x : α) : Prop :=
  ∃ v w, record.fields? ["slot", field] = some [some v, some w] ∧ v.index? = some i ∧
    read? w = some x

theorem ofSlot?_eq_some_iff {make : Nat → SlotEvent} {record : Json} {e : SlotEvent} :
    ofSlot? make record = some e ↔ ∃ i, NamesSlot record i ∧ e = make i := by
  unfold ofSlot?
  constructor
  · intro h
    obtain ⟨fields, hfields, hslot⟩ := Option.bind_eq_some_iff.mp h
    split at hslot
    · obtain ⟨v, rfl, hindex⟩ := Option.bind_eq_some_iff.mp hslot
      obtain ⟨i, hi, he⟩ := Option.bind_eq_some_iff.mp hindex
      exact ⟨i, ⟨v, hfields, hi⟩, (Option.some.inj he).symm⟩
    · simp at hslot
  · rintro ⟨i, ⟨v, hfields, hi⟩, rfl⟩
    simp [hfields, hi]

theorem ofSlotAnd?_eq_some_iff {α : Type} {make : Nat → α → SlotEvent} {field : String}
    {read? : Json → Option α} {record : Json} {e : SlotEvent} :
    ofSlotAnd? make field read? record = some e ↔
      ∃ i x, NamesSlotAnd field read? record i x ∧ e = make i x := by
  unfold ofSlotAnd?
  constructor
  · intro h
    obtain ⟨fields, hfields, hslot⟩ := Option.bind_eq_some_iff.mp h
    split at hslot
    · obtain ⟨v, rfl, hindex⟩ := Option.bind_eq_some_iff.mp hslot
      obtain ⟨i, hi, hcontent⟩ := Option.bind_eq_some_iff.mp hindex
      obtain ⟨w, rfl, hread⟩ := Option.bind_eq_some_iff.mp hcontent
      obtain ⟨x, hx, he⟩ := Option.bind_eq_some_iff.mp hread
      exact ⟨i, x, ⟨v, w, hfields, hi, hx⟩, (Option.some.inj he).symm⟩
    · simp at hslot
  · rintro ⟨i, x, ⟨v, w, hfields, hi, hx⟩, rfl⟩
    simp [hfields, hi, hx]

/-- **An event is read of an alternative** that is named for the kind of change, with a record
of the slot and of its new content, if there is one. -/
theorem ofJson?_eq_some_iff {j : Json} {e : SlotEvent} :
    ofJson? j = some e ↔ ∃ record, match e with
      | .setValue i x => j.tagged? = some ("SetValue", some record) ∧
        NamesSlotAnd "value" Trit.ofJson? record i x
      | .cycleValue i => j.tagged? = some ("CycleValue", some record) ∧ NamesSlot record i
      | .setOperator i op => j.tagged? = some ("SetOperator", some record) ∧
        NamesSlotAnd "op" Operator.ofJson? record i op
      | .cycleOperator i => j.tagged? = some ("CycleOperator", some record) ∧
        NamesSlot record i := by
  unfold ofJson?
  constructor
  · intro h
    obtain ⟨⟨tag, content⟩, htag, hcontent⟩ := Option.bind_eq_some_iff.mp h
    obtain ⟨record, rfl, he⟩ := Option.bind_eq_some_iff.mp hcontent
    refine ⟨record, ?_⟩
    split at he
    · obtain ⟨i, x, hnames, rfl⟩ := ofSlotAnd?_eq_some_iff.mp he
      exact ⟨htag, hnames⟩
    · obtain ⟨i, hnames, rfl⟩ := ofSlot?_eq_some_iff.mp he
      exact ⟨htag, hnames⟩
    · obtain ⟨i, op, hnames, rfl⟩ := ofSlotAnd?_eq_some_iff.mp he
      exact ⟨htag, hnames⟩
    · obtain ⟨i, hnames, rfl⟩ := ofSlot?_eq_some_iff.mp he
      exact ⟨htag, hnames⟩
    · simp at he
  · rintro ⟨record, h⟩
    cases e with
    | setValue i x =>
      obtain ⟨htag, hnames⟩ := h
      simpa [htag] using ofSlotAnd?_eq_some_iff.mpr ⟨i, x, hnames, rfl⟩
    | cycleValue i =>
      obtain ⟨htag, hnames⟩ := h
      simpa [htag] using ofSlot?_eq_some_iff.mpr ⟨i, hnames, rfl⟩
    | setOperator i op =>
      obtain ⟨htag, hnames⟩ := h
      simpa [htag] using ofSlotAnd?_eq_some_iff.mpr ⟨i, op, hnames, rfl⟩
    | cycleOperator i =>
      obtain ⟨htag, hnames⟩ := h
      simpa [htag] using ofSlot?_eq_some_iff.mpr ⟨i, hnames, rfl⟩

theorem namesSlot_ofMembers {i : Nat} (h : i < indexBound) :
    NamesSlot (ofMembers [("slot", .ofNat i)]) i :=
  ⟨.ofNat i, fields?_ofMembers_self _ (by simp), index?_ofNat h⟩

theorem namesSlotAnd_ofMembers {α : Type} {field : String} (hfield : field ≠ "slot") {i : Nat}
    (h : i < indexBound) {read? : Json → Option α} {w : Json} {x : α} (hread : read? w = some x) :
    NamesSlotAnd field read? (ofMembers [("slot", .ofNat i), (field, w)]) i x :=
  ⟨.ofNat i, w, fields?_ofMembers_self _ (by simpa using hfield.symm), index?_ofNat h, hread⟩

theorem NamesSlot.lt {record : Json} {i : Nat} (h : NamesSlot record i) : i < indexBound := by
  obtain ⟨v, -, hi⟩ := h
  exact lt_of_index? hi

theorem NamesSlotAnd.lt {α : Type} {field : String} {read? : Json → Option α} {record : Json}
    {i : Nat} {x : α} (h : NamesSlotAnd field read? record i x) : i < indexBound := by
  obtain ⟨v, w, -, hi, -⟩ := h
  exact lt_of_index? hi

/-- The form of an event. -/
def form : Form SlotEvent := ⟨toJson, ofJson?⟩

theorem keeps_form : form.Keeps fun e => e.target.InBounds where
  numerals e := by
    cases e <;> simp [form, toJson, hasNumerals_ofMembers, hasNumerals_ofNat, Trit.toJson,
      Operator.toJson, hasNumerals_ofText]
  reads e he := by
    refine ofJson?_eq_some_iff.mpr ?_
    cases e with
    | setValue i x =>
      have hx := Trit.keeps_form.reads x trivial
      exact ⟨_, rfl, namesSlotAnd_ofMembers (by decide) he hx⟩
    | cycleValue i => exact ⟨_, rfl, namesSlot_ofMembers he⟩
    | setOperator i op =>
      have hop := Operator.keeps_form.reads op trivial
      exact ⟨_, rfl, namesSlotAnd_ofMembers (by decide) he hop⟩
    | cycleOperator i => exact ⟨_, rfl, namesSlot_ofMembers he⟩
  inRange j e h := by
    obtain ⟨record, hrecord⟩ := ofJson?_eq_some_iff.mp h
    cases e with
    | setValue i x => exact hrecord.2.lt
    | cycleValue i => exact hrecord.2.lt
    | setOperator i op => exact hrecord.2.lt
    | cycleOperator i => exact hrecord.2.lt

end SlotEvent

/-! ### Settings for wrong answers -/

/-- The form of the settings for wrong answers. -/
def ScoringConfig.form : Form ScoringConfig := ⟨ScoringConfig.toJson, ScoringConfig.ofJson?⟩

theorem ScoringConfig.keeps_form : ScoringConfig.form.Keeps fun _ => True where
  numerals c := by
    simp [form, toJson, hasNumerals_ofMembers, hasNumerals_ofNat]
  reads c _ := by
    refine ScoringConfig.ofJson?_eq_some_iff.mpr ⟨some (.ofNat c.hintEvery.toNat), ?_, ?_⟩
    · simp [given]
    · exact uint32?_ofNat c.hintEvery
  inRange _ _ _ := trivial

/-! ### Every form -/

/-- **What is written for a value is read as the value**, whichever form it has and however
it is spelled, and writing anew what was read settles the spelling.  The positions of
addresses and events are numbers of 64 bits, and none other is read; the other forms keep
every value of their type. -/
theorem roundTrips_forms :
    (Trit.form.RoundTrips fun _ => True) ∧ (Operator.form.RoundTrips fun _ => True) ∧
    (Arity.form.RoundTrips fun _ => True) ∧
    NodeId.form.RoundTrips NodeId.InBounds ∧
    ((Slot.form Trit.form).RoundTrips fun _ => True) ∧
    ((Slot.form Operator.form).RoundTrips fun _ => True) ∧
    (SlotEvent.form.RoundTrips fun e => e.target.InBounds) ∧
    (ScoringConfig.form.RoundTrips fun _ => True) := by
  have hvalue := Slot.keeps_form Trit.keeps_form
  have hoperator := Slot.keeps_form Operator.keeps_form
  exact ⟨Trit.keeps_form.roundTrips, Operator.keeps_form.roundTrips, Arity.keeps_form.roundTrips,
    NodeId.keeps_form.roundTrips, hvalue.roundTrips, hoperator.roundTrips,
    SlotEvent.keeps_form.roundTrips, ScoringConfig.keeps_form.roundTrips⟩

/-- The last address, and an event whose record is an array and whose trit is an object. -/
theorem roundTrips_forms_address :
    let id : NodeId := .operator 18446744073709551615
    let s := "\x7b\"SetValue\": [1, \x7b\"True\":null\x7d]\x7d"
    let e : SlotEvent := .setValue 1 .true
    (id.InBounds ∧ NodeId.form.ofText? (NodeId.form.text id) = some id) ∧
      SlotEvent.form.ofText? s = some e ∧ e.target.InBounds ∧
      SlotEvent.form.ofText? (SlotEvent.form.text e) = some e := by
  intro id s e
  obtain ⟨-, -, -, haddress, -, -, hevent, -⟩ := roundTrips_forms
  have hbounds : id.InBounds := by simp [id, NodeId.InBounds, indexBound]
  have hread : SlotEvent.form.ofText? s = some e := by decide +kernel
  exact ⟨⟨hbounds, haddress.reads id hbounds⟩, hread, hevent.inRange s e hread,
    hevent.rereads s e hread⟩

end TritPuzzle
