import Mathlib.Data.Set.Function
import Mathlib.Order.Interval.Set.Defs
import TritPuzzle.Proofs.Acceptance
import TritPuzzle.Proofs.Finished

/-!
# Listings that name every node once

The reader of a listing counts its entries and then looks at them one after another: an
entry is refused if it is no node of the kind or was listed before.  It never looks
for a node that is missing.  Here it is said which listings are accepted, which table of
places comes of them, and which error of the others.  A table of plain numbers, with a
number that stands for no place yet, does as well, since no position in a listing is as
large as that number.

## Main definitions

* `SlotKind.Enumerates` — a listing names each of the nodes of a kind exactly once.
* `SlotKind.Offence`, `SlotKind.FirstOffence` — what is wrong with an entry, and with the
  first entry with which something is wrong.
* `SlotKind.Inverts` — a table of places turns a listing round.
* `tabulate` — the places, read into a table of numbers.
* `Arranged` — a list has all its entries at their places.

## Main results

* `placesFrom_spec` — reading stops at the first offence, if at all.
* `placement_spec` — **the listings that are accepted, and the errors of the others.**
* `tabulate_eq` — a table of numbers gives the same places.
* `finishListed_run` — **a puzzle is finished in a listed order exactly when both listings
  name every node once, and no node is lost.**
-/

namespace TritPuzzle

namespace SlotKind

variable {kind : SlotKind} {count : Nat} {listing seen : List NodeId}

/-! ### What is asked of a listing -/

/-- The address is that of one of the nodes of the kind. -/
def Names (kind : SlotKind) (count : Nat) (id : NodeId) : Prop := ∃ i, i < count ∧ id = kind.id i

/-- The listing names each of the nodes of the kind exactly once, and nothing else. -/
structure Enumerates (kind : SlotKind) (count : Nat) (listing : List NodeId) : Prop where
  once : ∀ i, i < count → listing.count (kind.id i) = 1
  only : ∀ id ∈ listing, kind.Names count id

/-- Something is wrong with the entry at a position of a listing. -/
inductive Offence (kind : SlotKind) (count : Nat) (listing : List NodeId) (p : Nat) :
    AssemblyError → Prop
  /-- The address is of the other kind, or there is no such node. -/
  | unknown {id : NodeId} (hp : listing[p]? = some id) (hid : ¬ kind.Names count id) :
      Offence kind count listing p (.unknownNode id)
  /-- The address was listed before. -/
  | repeated {id : NodeId} {q : Nat} (hp : listing[p]? = some id) (hlt : q < p)
      (hq : listing[q]? = some id) :
      Offence kind count listing p (.slotOrder (id.text ++ " listed twice"))

/-- The error is that of the first entry with which something is wrong. -/
def FirstOffence (kind : SlotKind) (count : Nat) (listing : List NodeId) (e : AssemblyError) :
    Prop :=
  ∃ p, kind.Offence count listing p e ∧ ∀ q, q < p → ∀ e', ¬ kind.Offence count listing q e'

/-- The table gives every node the position at which the listing names it, and so permutes
the positions. -/
structure Inverts (kind : SlotKind) (count : Nat) (listing : List NodeId) (places : List Nat) :
    Prop where
  length : places.length = count
  bijective : Set.BijOn (fun i => places.getD i count) (Set.Iio count) (Set.Iio count)
  place : ∀ (p : Nat) (id : NodeId), listing[p]? = some id →
    ∃ i, kind.index? id = some i ∧ places[i]? = some p

theorem mem_inOrder_iff {id : NodeId} : id ∈ kind.inOrder count ↔ kind.Names count id := by
  simp only [inOrder, List.mem_map, List.mem_range, Names, eq_comm]

theorem Enumerates.nodup (h : kind.Enumerates count listing) : listing.Nodup := by
  refine List.nodup_iff_count_le_one.mpr fun id => ?_
  by_cases hid : id ∈ listing
  · obtain ⟨i, hi, rfl⟩ := h.only id hid
    exact Nat.le_of_eq (h.once i hi)
  · rw [List.count_eq_zero_of_not_mem hid]
    exact Nat.zero_le 1

/-- The listings that name every node once are the permutations of the nodes. -/
theorem enumerates_iff_perm :
    kind.Enumerates count listing ↔ listing.Perm (kind.inOrder count) := by
  constructor
  · intro h
    refine (List.perm_ext_iff_of_nodup h.nodup (kind.nodup_inOrder count)).mpr fun id => ?_
    rw [mem_inOrder_iff]
    constructor
    · exact h.only id
    · rintro ⟨i, hi, rfl⟩
      rw [← List.count_pos_iff, h.once i hi]
      exact Nat.one_pos
  · intro h
    constructor
    · intro i hi
      rw [h.count_eq]
      exact List.count_eq_one_of_mem (kind.nodup_inOrder count) (id_mem_inOrder.mpr hi)
    · exact fun id hid => mem_inOrder_iff.mp (h.mem_iff.mp hid)

instance (kind : SlotKind) (count : Nat) (listing : List NodeId) :
    Decidable (kind.Enumerates count listing) :=
  decidable_of_iff _ enumerates_iff_perm.symm

theorem Enumerates.length_eq (h : kind.Enumerates count listing) : listing.length = count := by
  rw [(enumerates_iff_perm.mp h).length_eq, length_inOrder]

/-! ### Offences -/

/-- Nothing is wrong with a listing that names every node once. -/
theorem Enumerates.not_offence (h : kind.Enumerates count listing) (p : Nat) (e : AssemblyError) :
    ¬ kind.Offence count listing p e := by
  rintro (⟨hp, hid⟩ | ⟨hp, hlt, hq⟩)
  · exact hid (h.only _ (List.mem_of_getElem? hp))
  · have hlength : p < listing.length := (List.getElem?_eq_some_iff.mp hp).1
    -- no entry stands at two positions
    have heq := (List.getElem?_inj (Nat.lt_trans hlt hlength) h.nodup).mp (hq.trans hp.symm)
    exact Nat.ne_of_lt hlt heq

/-- Of the first entry with which something is wrong only one thing is: an entry that was
listed before is a node, or else it would have been refused then. -/
theorem FirstOffence.unique {e e' : AssemblyError} (h : kind.FirstOffence count listing e)
    (h' : kind.FirstOffence count listing e') : e = e' := by
  obtain ⟨p, hp, hbefore⟩ := h
  obtain ⟨p', hp', hbefore'⟩ := h'
  have heq : p = p' := by
    rcases Nat.lt_trichotomy p p' with hlt | heq | hgt
    · exact absurd hp (hbefore' p hlt e)
    · exact heq
    · exact absurd hp' (hbefore p' hgt e')
  subst heq
  have hknown {id : NodeId} {q : Nat} (hlt : q < p) (hq : listing[q]? = some id) :
      kind.Names count id := by
    by_contra hno
    exact hbefore q hlt _ (.unknown hq hno)
  cases hp with
  | unknown hget hid =>
    cases hp' with
    | unknown hget' hid' => rw [Option.some.inj (hget.symm.trans hget')]
    | repeated hget' hlt' hq' =>
      obtain rfl := Option.some.inj (hget.symm.trans hget')
      exact absurd (hknown hlt' hq') hid
  | repeated hget hlt hq =>
    cases hp' with
    | unknown hget' hid' =>
      obtain rfl := Option.some.inj (hget.symm.trans hget')
      exact absurd (hknown hlt hq) hid'
    | repeated hget' hlt' hq' => rw [Option.some.inj (hget.symm.trans hget')]

/-! ### Reading a listing entry by entry -/

/-- The table tells which nodes have been listed: the others have no place yet. -/
structure Notes (kind : SlotKind) (count : Nat) (seen : List NodeId)
    (places : List (Option Nat)) : Prop where
  length : places.length = count
  free_iff : ∀ i, places[i]? = some none ↔ i < count ∧ kind.id i ∉ seen

variable {places : List (Option Nat)}

theorem notes_nil (kind : SlotKind) (count : Nat) :
    kind.Notes count [] (List.replicate count none) where
  length := List.length_replicate
  free_iff := by simp [List.getElem?_replicate]

/-- A node that was not listed gets its place. -/
theorem Notes.set (h : kind.Notes count seen places) {i : Nat} (hi : i < count) (place : Nat) :
    kind.Notes count (seen ++ [kind.id i]) (places.set i (some place)) where
  length := by rw [List.length_set, h.length]
  free_iff := by
    intro j
    by_cases hij : i = j
    · subst hij
      rw [List.getElem?_set_self (by rw [h.length]; exact hi)]
      simp
    · have hne : kind.id j ≠ kind.id i := fun heq => hij (kind.id_injective heq).symm
      rw [List.getElem?_set_ne hij, h.free_iff j]
      simp [hne]

/-- **What is done with one entry**: an address that names no node and a node that was listed
before are refused, and any other node gets its place. -/
theorem Notes.step (h : kind.Notes count seen places) (id : NodeId) (place : Nat)
    (rest : List NodeId) :
    (¬ kind.Names count id ∧
      placesFrom kind places place (id :: rest) = .error (.unknownNode id)) ∨
    (id ∈ seen ∧ placesFrom kind places place (id :: rest) =
      .error (.slotOrder (id.text ++ " listed twice"))) ∨
    (kind.Names count id ∧ id ∉ seen ∧ ∃ places', kind.Notes count (seen ++ [id]) places' ∧
      placesFrom kind places place (id :: rest) = placesFrom kind places' (place + 1) rest) := by
  cases hindex : kind.index? id with
  | none =>
    refine Or.inl ⟨?_, by simp only [placesFrom, hindex]⟩
    rintro ⟨i, -, rfl⟩
    simp at hindex
  | some i =>
    obtain rfl := index?_eq_some_iff.mp hindex
    have hlt : i < places.length ↔ i < count := by rw [h.length]
    cases hplace : places[i]? with
    | none =>
      refine Or.inl ⟨?_, by simp only [placesFrom, hindex, hplace]⟩
      rintro ⟨j, hj, heq⟩
      obtain rfl := kind.id_injective heq
      exact Nat.not_lt.mpr (List.getElem?_eq_none_iff.mp hplace) (hlt.mpr hj)
    | some noted =>
      have hi : i < count := hlt.mp (List.getElem?_eq_some_iff.mp hplace).1
      cases noted with
      | none =>
        have hnew : kind.id i ∉ seen := ((h.free_iff i).mp hplace).2
        exact Or.inr (Or.inr ⟨⟨i, hi, rfl⟩, hnew, _, h.set hi place,
          by simp only [placesFrom, hindex, hplace]⟩)
      | some p =>
        refine Or.inr (Or.inl ⟨?_, by simp only [placesFrom, hindex, hplace]⟩)
        by_contra hnew
        have hfree := (h.free_iff i).mpr ⟨hi, hnew⟩
        rw [hplace] at hfree
        simp at hfree

end SlotKind

section Reading

variable {kind : SlotKind} {count : Nat} {listing seen : List NodeId}
  {places : List (Option Nat)}

/-- **Reading stops at the first offence, if at all.**  When nothing is wrong with the entries
read so far, the others are read to the end, or the error is that of the first one with which
something is wrong. -/
theorem placesFrom_spec (rest : List NodeId) (hnotes : kind.Notes count seen places)
    (hclean : ∀ q, q < seen.length → ∀ e, ¬ kind.Offence count (seen ++ rest) q e) :
    (∃ result, placesFrom kind places seen.length rest = .ok result) ∨
      ∃ e, placesFrom kind places seen.length rest = .error e ∧
        kind.FirstOffence count (seen ++ rest) e := by
  -- by induction on the entries that are left, while `seen` grows
  induction rest generalizing seen places with
  | nil => exact Or.inl ⟨places, rfl⟩
  | cons id rest ih =>
    have hget : (seen ++ id :: rest)[seen.length]? = some id := by simp
    have hseen {q : Nat} (hq : q < seen.length) : (seen ++ id :: rest)[q]? = seen[q]? :=
      List.getElem?_append_left hq
    rcases hnotes.step id seen.length rest with ⟨hid, hread⟩ | ⟨hid, hread⟩ |
      ⟨hid, hnew, places', hnotes', hread⟩
    · exact Or.inr ⟨_, hread, seen.length, .unknown hget hid, hclean⟩
    · obtain ⟨q, hq⟩ := List.mem_iff_getElem?.mp hid
      have hlt : q < seen.length := (List.getElem?_eq_some_iff.mp hq).1
      exact Or.inr ⟨_, hread, seen.length, .repeated hget hlt ((hseen hlt).trans hq), hclean⟩
    · have happend : seen ++ id :: rest = (seen ++ [id]) ++ rest := by simp
      have hlength : (seen ++ [id]).length = seen.length + 1 := by simp
      rw [hread, happend, ← hlength]
      refine ih hnotes' fun q hq e => ?_
      rw [← happend]
      rcases Nat.lt_or_eq_of_le (Nat.le_of_lt_succ (hlength ▸ hq)) with hq | rfl
      · exact hclean q hq e
      · rintro (⟨hp, hno⟩ | ⟨hp, hlt, hq⟩)
        · obtain rfl := Option.some.inj (hget.symm.trans hp)
          exact hno hid
        · obtain rfl := Option.some.inj (hget.symm.trans hp)
          exact hnew (List.mem_of_getElem? ((hseen hlt).symm.trans hq))

/-! ### The listings that are accepted -/

/-- What the reading of a listing has to answer. -/
structure ReadsListing (kind : SlotKind) (count : Nat) (listing : List NodeId)
    (answer : Except AssemblyError (List Nat)) : Prop where
  /-- The listings that name every node once are accepted, and no others. -/
  accepted_iff : (∃ places, answer = .ok places) ↔ kind.Enumerates count listing
  /-- The answer is the listing turned round. -/
  inverts : ∀ places, answer = .ok places → kind.Inverts count listing places
  /-- The number of entries is looked at first. -/
  wrong_length : listing.length ≠ count → answer = .error (.slotOrder ("expected " ++
    Text.decimal count ++ " entries, found " ++ Text.decimal listing.length))
  /-- With the right number of entries the first offence is reported. -/
  error_iff : listing.length = count → ∀ e, answer = .error e ↔ kind.FirstOffence count listing e

theorem placement_of_length (h : listing.length = count) :
    placement kind count listing =
      (placesFrom kind (List.replicate count none) 0 listing).map
        (·.map fun place => place.getD count) :=
  if_neg (not_not.mpr h)

/-- With the right number of entries a listing is accepted, or its first offence is reported. -/
theorem placement_cases (kind : SlotKind) (h : listing.length = count) :
    (∃ places, placement kind count listing = .ok places) ∨
      ∃ e, placement kind count listing = .error e ∧ kind.FirstOffence count listing e := by
  rw [placement_of_length h]
  rcases placesFrom_spec listing (kind.notes_nil count) (by simp) with
    ⟨result, hread⟩ | ⟨e, hread, hfirst⟩
  · exact Or.inl ⟨_, congrArg _ hread⟩
  · exact Or.inr ⟨e, congrArg _ hread, hfirst⟩

theorem exists_placement_iff :
    (∃ places, placement kind count listing = .ok places) ↔ kind.Enumerates count listing := by
  constructor
  · rintro ⟨places, hplaces⟩
    exact SlotKind.enumerates_iff_perm.mpr (placement_eq_ok hplaces).1
  · intro h
    rcases placement_cases kind h.length_eq with hok | ⟨e, -, p, hp, -⟩
    · exact hok
    · exact absurd hp (h.not_offence p e)

theorem Reindexes.bijOn {g : Nat → Nat} (h : Reindexes count g) :
    Set.BijOn g (Set.Iio count) (Set.Iio count) where
  left := fun i hi => (h.lt_iff i).mpr hi
  right := by
    refine ⟨fun i hi j _ hij => h.injective i j hi hij, fun p hp => ?_⟩
    obtain ⟨i, hi, hgi⟩ := h.exists_eq hp
    exact ⟨i, hi, hgi⟩

theorem inverts_of_placement {places : List Nat}
    (h : placement kind count listing = .ok places) : kind.Inverts count listing places := by
  obtain ⟨hperm, rfl⟩ := placement_eq_ok h
  constructor
  case length => simp
  case bijective =>
    refine (reindexes_placeIn hperm).bijOn.congr fun i hi => ?_
    have hi : i < count := hi
    simp [hi]
  case place =>
    intro p id hp
    obtain ⟨i, hi, rfl, hplace⟩ := SlotKind.exists_placeIn_eq hperm hp
    refine ⟨i, kind.index?_id i, ?_⟩
    rw [List.getElem?_map, List.getElem?_range hi, Option.map_some, hplace]

/-- **The listings that are accepted, and the errors of the others.** -/
theorem placement_spec (kind : SlotKind) (count : Nat) (listing : List NodeId) :
    ReadsListing kind count listing (placement kind count listing) where
  accepted_iff := exists_placement_iff
  inverts := fun _ => inverts_of_placement
  wrong_length := fun h => if_pos h
  error_iff := by
    intro hlen e
    rcases placement_cases kind hlen with ⟨places, hok⟩ | ⟨e', herror, hfirst⟩
    · -- nothing is wrong with an accepted listing
      rw [hok]
      refine iff_of_false (by simp) ?_
      rintro ⟨p, hp, -⟩
      exact (exists_placement_iff.mp ⟨places, hok⟩).not_offence p e hp
    · rw [herror, Except.error.injEq]
      constructor
      · rintro rfl
        exact hfirst
      · exact hfirst.unique

/-- A node that is missing is not noticed as such, but by the entry that stands in its way. -/
example : placement .value 2 [.value 0, .operator 0] = .error (.unknownNode (.operator 0)) := by
  decide

end Reading

/-! ### A table of numbers -/

/-- The places of the nodes that a listing names, where `table` holds the number `unplaced`
for a node that has none yet. -/
def tableFrom (kind : SlotKind) (unplaced : Nat) (table : List Nat) (place : Nat) :
    List NodeId → Except AssemblyError (List Nat)
  | [] => .ok table
  | id :: rest =>
    match (kind.index? id).filter (· < table.length) with
    | none => .error (.unknownNode id)
    | some i =>
      if table.getD i unplaced ≠ unplaced then .error (.slotOrder (id.text ++ " listed twice"))
      else tableFrom kind unplaced (table.set i place) (place + 1) rest

/-- The place of every one of `count` nodes in a listing, read into a table of numbers. -/
def tabulate (kind : SlotKind) (unplaced count : Nat) (listing : List NodeId) :
    Except AssemblyError (List Nat) :=
  if listing.length ≠ count then
    .error (.slotOrder ("expected " ++ Text.decimal count ++ " entries, found " ++
      Text.decimal listing.length))
  else tableFrom kind unplaced (List.replicate count unplaced) 0 listing

section Table

variable {kind : SlotKind} {unplaced count : Nat} {listing : List NodeId}

/-- As long as no position is the number for no place, the table of numbers tells the same as
the table of places. -/
theorem tableFrom_eq {places : List (Option Nat)} {place : Nat}
    (hplaces : ∀ p, some p ∈ places → p ≠ unplaced) (hroom : place + listing.length ≤ unplaced) :
    tableFrom kind unplaced (places.map (·.getD unplaced)) place listing =
      (placesFrom kind places place listing).map (·.map (·.getD unplaced)) := by
  induction listing generalizing places place with
  | nil => rfl
  | cons id rest ih =>
    rw [List.length_cons] at hroom
    rw [tableFrom, placesFrom]
    cases kind.index? id with
    | none => rfl
    | some i =>
      rw [Option.filter_some, List.length_map]
      cases hplace : places[i]? with
      | none =>
        have hi : ¬ i < places.length := Nat.not_lt.mpr (List.getElem?_eq_none_iff.mp hplace)
        simp only [hplace, hi, decide_false, Bool.false_eq_true, if_false]
        rfl
      | some noted =>
        have hi : i < places.length := (List.getElem?_eq_some_iff.mp hplace).1
        have hnoted : (places.map (·.getD unplaced)).getD i unplaced = noted.getD unplaced := by
          simp [hplace]
        simp only [hplace, hi, decide_true, if_true, hnoted]
        cases noted with
        | none =>
          have hplaces' : ∀ p, some p ∈ places.set i (some place) → p ≠ unplaced := by
            intro p hp
            rcases List.mem_or_eq_of_mem_set hp with hp | hp
            · exact hplaces p hp
            · obtain rfl := Option.some.inj hp
              omega
          rw [← ih hplaces' (by omega), List.map_set]
          exact if_neg (not_not.mpr rfl)
        | some p =>
          have hne : p ≠ unplaced := hplaces p (List.mem_of_getElem? hplace)
          exact if_pos hne

/-- **A table of numbers gives the same places**, whatever number beyond all positions stands
for no place yet: none is left when the listing has been read. -/
theorem tabulate_eq (h : count ≤ unplaced) :
    tabulate kind unplaced count listing = placement kind count listing := by
  unfold tabulate
  split
  · next hlen => exact (if_pos hlen).symm
  · next hlen =>
    have hlen : listing.length = count := not_not.mp hlen
    have htable : tableFrom kind unplaced ((List.replicate count none).map (·.getD unplaced)) 0
        listing = _ := tableFrom_eq (by simp) (by omega)
    rw [List.map_replicate, Option.getD_none] at htable
    rw [htable, placement_of_length hlen]
    cases hread : placesFrom kind (List.replicate count none) 0 listing with
    | error e => rfl
    | ok result =>
      obtain ⟨-, rfl⟩ := placesFrom_replicate_eq_ok hlen hread
      simp [Except.map]

end Table

/-! ### Finishing in a listed order -/

/-- The list has the entries of another one, each of them at its place. -/
structure Arranged {α : Type} (places : List Nat) (xs ys : List α) : Prop where
  /-- Every slot was filled, so that none is dropped. -/
  filled : ys.map some = scatter (List.replicate xs.length none) places xs
  /-- Nothing is missing, and nothing was overwritten. -/
  perm : ys.Perm xs
  /-- Every entry is found at its place. -/
  placed : ∀ i p : Nat, places[i]? = some p → ys[p]? = xs[i]?

theorem arranged_arrange {α : Type} {xs : List α} {g : Nat → Nat} (hg : Reindexes xs.length g) :
    Arranged ((List.range xs.length).map g) xs (arrange ((List.range xs.length).map g) xs) := by
  obtain ⟨hlen, hget⟩ := getElem?_arrange hg
  constructor
  case filled => exact map_some_arrange hg
  case perm => exact hg.perm hlen hget
  case placed =>
    intro i p hp
    obtain ⟨j, hj, rfl⟩ := Option.map_eq_some_iff.mp (List.getElem?_map (f := g) ▸ hp)
    obtain ⟨hlt, rfl⟩ := List.getElem?_eq_some_iff.mp hj
    rw [List.getElem_range]
    exact hget i

theorem arranged_of_placement {α : Type} {kind : SlotKind} {listing : List NodeId} {xs : List α}
    {places : List Nat} (h : placement kind xs.length listing = .ok places) :
    Arranged places xs (arrange places xs) := by
  obtain ⟨hperm, rfl⟩ := placement_eq_ok h
  exact arranged_arrange (reindexes_placeIn hperm)

namespace Assembly

variable {a : Assembly} {root : NodeId} {answer : Trit} {vs os : List NodeId}

/-- With a good root, finishing in a listed order needs listings of all nodes and no more. -/
theorem exists_finishListed_iff (hroot : a.rootFault? root = none) :
    (∃ t, a.finishListed root answer vs os = .ok t) ↔
      SlotKind.value.Enumerates a.values.length vs ∧
        SlotKind.operator.Enumerates a.operators.length os := by
  simp only [finishListed_eq_ok_iff]
  rw [← exists_placement_iff, ← exists_placement_iff]
  constructor
  · rintro ⟨t, -, values, operators, hvalues, hoperators, -⟩
    exact ⟨⟨values, hvalues⟩, ⟨operators, hoperators⟩⟩
  · rintro ⟨⟨values, hvalues⟩, ⟨operators, hoperators⟩⟩
    exact ⟨_, hroot, values, operators, hvalues, hoperators, rfl⟩

/-- The root and the children exist, so their places can be looked up. -/
theorem Forest.has_of_mem_links (h : a.Forest) (hroot : a.rootFault? root = none) {id : NodeId}
    (hid : id ∈ root :: links a.operators) : a.Has id := by
  rw [has_iff_mem_addresses]
  rcases List.mem_cons.mp hid with rfl | hlink
  · exact h.mem_addresses_of_parented ((rootFault?_eq_none_iff.mp hroot id).mpr rfl)
  · exact h.mem_addresses_of_parented ((h.parented_iff id).mpr hlink)

/-- **Puzzles are finished in a listed order exactly when both listings name every node
once.**  The reader of a listing accepts just these listings, turns them round, and reports the
first offence of any other; a table of numbers serves as well as one that tells apart the
nodes without a place.  After any run of calls and with a good root, the finished puzzle has
every node of the assembly, each at its place, and no slot was empty when the empty ones were
dropped; every address that is renamed has an entry in its table. -/
theorem finishListed_run :
    (∀ (kind : SlotKind) (count : Nat) (listing : List NodeId),
      ReadsListing kind count listing (placement kind count listing) ∧
      ∀ unplaced, count ≤ unplaced →
        tabulate kind unplaced count listing = placement kind count listing) ∧
    ∀ (steps : List AssemblyStep) (root : NodeId) (answer : Trit) (vs os : List NodeId),
      let a := run steps
      a.rootFault? root = none →
        ((∃ t, a.finishListed root answer vs os = .ok t) ↔
          SlotKind.value.Enumerates a.values.length vs ∧
            SlotKind.operator.Enumerates a.operators.length os) ∧
        (∀ id ∈ root :: links a.operators, a.Has id) ∧
        ∀ t, a.finishListed root answer vs os = .ok t → ∃ values operators,
          SlotKind.value.Inverts a.values.length vs values ∧
          SlotKind.operator.Inverts a.operators.length os operators ∧
          Arranged values a.values t.values ∧
          Arranged operators (a.operators.map (·.rename (renamed values operators)))
            t.operators := by
  refine ⟨fun kind count listing => ⟨placement_spec kind count listing, fun _ => tabulate_eq⟩, ?_⟩
  intro steps root answer vs os a hroot
  refine ⟨exists_finishListed_iff hroot,
    fun _ => (forest_run steps).has_of_mem_links hroot, fun t ht => ?_⟩
  obtain ⟨-, values, operators, hvalues, hoperators, rfl⟩ := finishListed_eq_ok_iff.mp ht
  refine ⟨values, operators, inverts_of_placement hvalues, inverts_of_placement hoperators,
    arranged_of_placement hvalues, ?_⟩
  -- renaming the children does not change the number of nodes
  rw [← List.length_map (f := (·.rename (renamed values operators)))] at hoperators
  exact arranged_of_placement hoperators

/-- Three leaves and two inner nodes, with the leaves listed in an order that is not its own
inverse; and a listing with two offences, of which the first is reported. -/
theorem finishListed_run_rotated :
    let steps : List AssemblyStep := [.openValue, .lockedValue .true, .openValue,
      .operator .unset (.value 0) (some (.value 1)),
      .operator (.opened .xor) (.operator 0) (some (.value 2))]
    let vs : List NodeId := [.value 1, .value 2, .value 0]
    let os : List NodeId := [.operator 1, .operator 0]
    (run steps).rootFault? (.operator 1) = none ∧
    (∃ t, (run steps).finishListed (.operator 1) .true vs os = .ok t) ∧
    SlotKind.value.FirstOffence 3 [.value 1, .value 1, .operator 0]
      (.slotOrder "v1 listed twice") := by
  intro steps vs os
  obtain ⟨hread, hfinish⟩ := finishListed_run
  have hroot : (run steps).rootFault? (.operator 1) = none := by decide
  refine ⟨hroot, ?_, ?_⟩
  · exact (hfinish steps (.operator 1) .true vs os hroot).1.mpr ⟨by decide, by decide⟩
  · exact ((hread .value 3 _).1.error_iff rfl _).mp (by decide)

end Assembly

end TritPuzzle
