import Mathlib.Data.List.Nodup
import Mathlib.Data.List.Perm.Basic
import Mathlib.Data.List.Perm.Subperm
import Mathlib.Data.Option.Basic
import TritPuzzle.Puzzle.Listing

/-!
# Placing nodes in a listed order

A listing of the nodes of one kind is turned round into the place of every node, and
the nodes are moved there.  What makes this work is that an accepted listing holds
every node exactly once, although the reader of the listing only counts its entries
and looks for repetitions.

## Main definitions

* `SlotKind.inOrder` — the listing of all nodes of a kind in order of creation.
* `SlotKind.placeIn` — the position at which a listing names a node.
* `Reindexes` — a map of positions that permutes those below a bound.

## Main results

* `placement_eq_ok` — an accepted listing holds every node once, and the places are the
  positions at which it holds them.
* `map_some_arrange` — no slot stays empty, so none is dropped.
* `getElem?_arrange` — every entry of a list is found again at its place.
* `Reindexes.perm` — a list read at permuted positions is a permutation.
-/

namespace TritPuzzle

/-- All nodes of a kind in order of creation. -/
def SlotKind.inOrder (kind : SlotKind) (count : Nat) : List NodeId :=
  (List.range count).map kind.id

@[simp] theorem SlotKind.length_inOrder (kind : SlotKind) (count : Nat) :
    (kind.inOrder count).length = count := by
  simp [inOrder]

theorem SlotKind.id_injective (kind : SlotKind) : Function.Injective kind.id := by
  intro i j h
  have h' := congrArg kind.index? h
  simpa using h'

theorem SlotKind.id_mem_inOrder {kind : SlotKind} {count i : Nat} :
    kind.id i ∈ kind.inOrder count ↔ i < count := by
  rw [inOrder, List.mem_map_of_injective kind.id_injective, List.mem_range]

theorem SlotKind.nodup_inOrder (kind : SlotKind) (count : Nat) : (kind.inOrder count).Nodup :=
  List.nodup_range.map kind.id_injective

/-- The position at which a listing names a node. -/
def SlotKind.placeIn (kind : SlotKind) (listing : List NodeId) (i : Nat) : Nat :=
  listing.idxOf (kind.id i)

/-! ### Permuted positions -/

/-- The map permutes the positions below a bound and keeps the others out. -/
structure Reindexes (count : Nat) (g : Nat → Nat) : Prop where
  /-- A position is below the bound exactly when its image is. -/
  lt_iff : ∀ i, g i < count ↔ i < count
  /-- No position below the bound shares its image with another one. -/
  injective : ∀ i j, i < count → g i = g j → i = j

namespace Reindexes

variable {count : Nat} {g : Nat → Nat}

theorem map_range_perm (h : Reindexes count g) :
    ((List.range count).map g).Perm (List.range count) := by
  have hnodup : ((List.range count).map g).Nodup :=
    List.nodup_range.map_on fun i hi j _ hij => h.injective i j (List.mem_range.mp hi) hij
  have hsub : (List.range count).map g ⊆ List.range count := by
    intro p hp
    obtain ⟨i, hi, rfl⟩ := List.mem_map.mp hp
    exact List.mem_range.mpr ((h.lt_iff i).mpr (List.mem_range.mp hi))
  exact (List.subperm_of_subset hnodup hsub).perm_of_length_le (by simp)

/-- Every position below the bound is the image of one. -/
theorem exists_eq (h : Reindexes count g) {p : Nat} (hp : p < count) :
    ∃ i, i < count ∧ g i = p := by
  have hmem := h.map_range_perm.mem_iff.mpr (List.mem_range.mpr hp)
  obtain ⟨i, hi, hgi⟩ := List.mem_map.mp hmem
  exact ⟨i, List.mem_range.mp hi, hgi⟩

/-- **A list read at permuted positions is a permutation.** -/
theorem perm {α : Type} {xs ys : List α} (h : Reindexes xs.length g)
    (hlen : ys.length = xs.length) (hget : ∀ i, ys[g i]? = xs[i]?) : ys.Perm xs := by
  have hread (zs : List α) : (List.range zs.length).map (zs[·]?) = zs.map some := by
    apply List.ext_getElem?
    intro i
    by_cases hi : i < zs.length
    · simp [hi]
    · simp [hi]
  have hmap : (List.range xs.length).map ((ys[·]?) ∘ g) = xs.map some := by
    rw [← hread]
    exact List.map_congr_left fun i _ => hget i
  refine (List.map_perm_map_iff (Option.some_injective α)).mp ?_
  rw [← hmap, ← List.map_map, ← hread ys, hlen]
  exact (h.map_range_perm.map _).symm

end Reindexes

/-- The positions of the nodes in a listing of all of them permute the positions. -/
theorem reindexes_placeIn {kind : SlotKind} {count : Nat} {listing : List NodeId}
    (h : listing.Perm (kind.inOrder count)) :
    Reindexes count (kind.placeIn listing) where
  lt_iff := by
    intro i
    have hlen : listing.length = count := h.length_eq.trans (kind.length_inOrder count)
    have hidx : listing.idxOf (kind.id i) < listing.length ↔ kind.id i ∈ listing :=
      List.idxOf_lt_length_iff
    rw [hlen] at hidx
    exact hidx.trans (h.mem_iff.trans SlotKind.id_mem_inOrder)
  injective := by
    intro i j hi hij
    have hmem : kind.id i ∈ listing := h.mem_iff.mpr (SlotKind.id_mem_inOrder.mpr hi)
    exact kind.id_injective ((List.idxOf_inj hmem).mp hij)

/-- The node named at a position of a listing of all nodes has that position as its place. -/
theorem SlotKind.exists_placeIn_eq {kind : SlotKind} {count p : Nat} {listing : List NodeId}
    {id : NodeId} (h : listing.Perm (kind.inOrder count)) (hp : listing[p]? = some id) :
    ∃ i, i < count ∧ id = kind.id i ∧ kind.placeIn listing i = p := by
  have hnodup : listing.Nodup := h.nodup_iff.mpr (kind.nodup_inOrder count)
  obtain ⟨hlt, hget⟩ := List.getElem?_eq_some_iff.mp hp
  obtain ⟨i, hi, rfl⟩ := List.mem_map.mp (h.mem_iff.mp (List.mem_of_getElem? hp))
  refine ⟨i, List.mem_range.mp hi, rfl, ?_⟩
  rw [placeIn, ← hget, hnodup.idxOf_getElem p hlt]

/-- A listing in order of creation leaves every node in its place. -/
theorem SlotKind.placeIn_inOrder (kind : SlotKind) {count i : Nat} (hi : i < count) :
    kind.placeIn (kind.inOrder count) i = i := by
  have hget : (kind.inOrder count)[i]? = some (kind.id i) := by
    rw [inOrder, List.getElem?_map, List.getElem?_range hi, Option.map_some]
  obtain ⟨j, -, hid, hj⟩ := exists_placeIn_eq (List.Perm.refl _) hget
  rwa [← kind.id_injective hid] at hj

/-! ### Reading a listing -/

/-- **What an accepted listing says**: it names different nodes of the kind that had no
place yet, and each of them gets the position at which it is named. -/
theorem placesFrom_eq_ok {kind : SlotKind} {places result : List (Option Nat)} {place : Nat}
    {listing : List NodeId} (h : placesFrom kind places place listing = .ok result) :
    result.length = places.length ∧ listing.Nodup ∧
      (∀ id ∈ listing, ∃ i, id = kind.id i ∧ places[i]? = some none) ∧
      ∀ i, result[i]? = if kind.id i ∈ listing
        then some (some (place + kind.placeIn listing i)) else places[i]? := by
  induction listing generalizing places place with
  | nil =>
    rw [placesFrom, Except.ok.injEq] at h
    subst h
    simp
  | cons id rest ih =>
    unfold placesFrom at h
    split at h
    · simp at h
    · next i hindex =>
      split at h
      · simp at h
      · simp at h
      · next hfree =>
        obtain rfl := SlotKind.index?_eq_some_iff.mp hindex
        have hi : i < places.length := (List.getElem?_eq_some_iff.mp hfree).1
        obtain ⟨hlen, hnodup, hall, hget⟩ := ih h
        -- the rest names only nodes without a place, so not the first one again
        have hrest {j : Nat} (hj : kind.id j ∈ rest) : i ≠ j ∧ places[j]? = some none := by
          obtain ⟨k, hk, hnone⟩ := hall _ hj
          obtain rfl := kind.id_injective hk
          by_cases hij : i = j
          · subst hij
            rw [List.getElem?_set_self hi] at hnone
            simp at hnone
          · rw [List.getElem?_set_ne hij] at hnone
            exact ⟨hij, hnone⟩
        have hfirst : kind.id i ∉ rest := fun hmem => (hrest hmem).1 rfl
        refine ⟨by simpa using hlen, List.nodup_cons.mpr ⟨hfirst, hnodup⟩, ?_, ?_⟩
        · intro id hid
          rcases List.mem_cons.mp hid with rfl | hid
          · exact ⟨i, rfl, hfree⟩
          · obtain ⟨j, rfl, -⟩ := hall id hid
            exact ⟨j, rfl, (hrest hid).2⟩
        · intro j
          rw [hget j]
          by_cases hij : i = j
          · subst hij
            rw [if_neg hfirst, List.getElem?_set_self hi, if_pos List.mem_cons_self,
              SlotKind.placeIn, List.idxOf_cons_self, Nat.add_zero]
          · have hne : kind.id i ≠ kind.id j := fun h => hij (kind.id_injective h)
            rw [List.getElem?_set_ne hij, SlotKind.placeIn, SlotKind.placeIn,
              List.idxOf_cons_ne _ hne]
            by_cases hj : kind.id j ∈ rest
            · rw [if_pos hj, if_pos (List.mem_cons_of_mem _ hj)]
              congr 2
              omega
            · rw [if_neg hj, if_neg (by simp [hj, Ne.symm hne])]

/-- **A listing that is read to its end and has as many entries as there are nodes names every
node of the kind exactly once**, and every node has got a place. -/
theorem placesFrom_replicate_eq_ok {kind : SlotKind} {count : Nat} {listing : List NodeId}
    {result : List (Option Nat)} (hlen : listing.length = count)
    (h : placesFrom kind (List.replicate count none) 0 listing = .ok result) :
    listing.Perm (kind.inOrder count) ∧
      result = (List.range count).map fun i => some (kind.placeIn listing i) := by
  obtain ⟨hlength, hnodup, hall, hget⟩ := placesFrom_eq_ok h
  -- as many different nodes as there are: none is missing
  have hsub : listing ⊆ kind.inOrder count := by
    intro id hid
    obtain ⟨i, rfl, hi⟩ := hall id hid
    rw [SlotKind.id_mem_inOrder]
    simpa using (List.getElem?_eq_some_iff.mp hi).1
  have hperm : listing.Perm (kind.inOrder count) :=
    (List.subperm_of_subset hnodup hsub).perm_of_length_le (by simp; omega)
  refine ⟨hperm, List.ext_getElem? fun i => ?_⟩
  rw [hget i, List.getElem?_map]
  by_cases hi : i < count
  · rw [if_pos (hperm.mem_iff.mpr (SlotKind.id_mem_inOrder.mpr hi)), List.getElem?_range hi,
      Option.map_some, Nat.zero_add]
  · rw [if_neg fun hmem => hi (SlotKind.id_mem_inOrder.mp (hperm.mem_iff.mp hmem)),
      List.getElem?_eq_none (by simpa using hi), List.getElem?_eq_none (by simpa using hi)]
    rfl

/-- **An accepted listing holds every node of the kind exactly once**, and the place of a
node is the position at which it is listed. -/
theorem placement_eq_ok {kind : SlotKind} {count : Nat} {listing : List NodeId}
    {places : List Nat} (h : placement kind count listing = .ok places) :
    listing.Perm (kind.inOrder count) ∧
      places = (List.range count).map (kind.placeIn listing) := by
  unfold placement at h
  split at h
  · simp at h
  · next hlen =>
    cases hfrom : placesFrom kind (List.replicate count none) 0 listing with
    | error e => rw [hfrom] at h; simp [Except.map] at h
    | ok result =>
      rw [hfrom, Except.map, Except.ok.injEq] at h
      obtain ⟨hperm, rfl⟩ := placesFrom_replicate_eq_ok (not_not.mp hlen) hfrom
      refine ⟨hperm, ?_⟩
      rw [← h, List.map_map]
      rfl

/-! ### Moving the nodes -/

section Scatter

variable {α : Type} {slots : List (Option α)} {places : List Nat} {xs : List α}

theorem length_scatter (slots : List (Option α)) (places : List Nat) (xs : List α) :
    (scatter slots places xs).length = slots.length := by
  induction places generalizing slots xs with
  | nil => rfl
  | cons place places ih =>
    cases xs with
    | nil => rfl
    | cons x xs => rw [scatter, ih, List.length_set]

/-- A slot that is no place keeps what it holds. -/
theorem getElem?_scatter_of_notMem {p : Nat} (hp : p ∉ places) :
    (scatter slots places xs)[p]? = slots[p]? := by
  induction places generalizing slots xs with
  | nil => rfl
  | cons place places ih =>
    cases xs with
    | nil => rfl
    | cons x xs =>
      rw [List.mem_cons, not_or] at hp
      rw [scatter, ih hp.2, List.getElem?_set_ne (Ne.symm hp.1)]

/-- A place holds the entry that was put there. -/
theorem getElem?_scatter (hnodup : places.Nodup) {i p : Nat} {x : α}
    (hp : places[i]? = some p) (hx : xs[i]? = some x) (hlt : p < slots.length) :
    (scatter slots places xs)[p]? = some (some x) := by
  induction places generalizing slots xs i with
  | nil => simp at hp
  | cons place places ih =>
    obtain ⟨hfirst, hrest⟩ := List.nodup_cons.mp hnodup
    cases xs with
    | nil => simp at hx
    | cons y xs =>
      cases i with
      | zero =>
        obtain rfl : place = p := by simpa using hp
        obtain rfl : y = x := by simpa using hx
        -- the places that follow are others
        rw [scatter, getElem?_scatter_of_notMem hfirst, List.getElem?_set_self hlt]
      | succ i =>
        rw [scatter]
        exact ih hrest (by simpa using hp) (by simpa using hx) (by simpa using hlt)

/-- Nothing is dropped from a list all of whose slots are filled. -/
theorem map_some_filterMap_id {slots : List (Option α)} (h : ∀ o ∈ slots, o ≠ none) :
    (slots.filterMap id).map some = slots := by
  induction slots with
  | nil => rfl
  | cons o slots ih =>
    cases o with
    | none => exact absurd rfl (h none List.mem_cons_self)
    | some x =>
      rw [List.filterMap_cons_some (f := id) rfl, List.map_cons,
        ih fun o ho => h o (List.mem_cons_of_mem _ ho)]

/-- Before the empty slots are dropped, every place holds its entry. -/
theorem getElem?_scatter_map {g : Nat → Nat} (hg : Reindexes xs.length g) {i : Nat}
    (hi : i < xs.length) :
    (scatter (List.replicate xs.length none) ((List.range xs.length).map g) xs)[g i]? =
      some xs[i]? := by
  rw [List.getElem?_eq_getElem hi]
  refine getElem?_scatter (hg.map_range_perm.nodup_iff.mpr List.nodup_range) (i := i) ?_
    (List.getElem?_eq_getElem hi) ?_
  · rw [List.getElem?_map, List.getElem?_range hi, Option.map_some]
  · rw [List.length_replicate]
    exact (hg.lt_iff i).mpr hi

/-- **No slot is dropped**: each of them is the place of some entry, so none stays empty. -/
theorem map_some_arrange {g : Nat → Nat} (hg : Reindexes xs.length g) :
    (arrange ((List.range xs.length).map g) xs).map some =
      scatter (List.replicate xs.length none) ((List.range xs.length).map g) xs := by
  refine map_some_filterMap_id fun o ho => ?_
  obtain ⟨p, hp⟩ := List.mem_iff_getElem?.mp ho
  have hlt := (List.getElem?_eq_some_iff.mp hp).1
  rw [length_scatter, List.length_replicate] at hlt
  obtain ⟨i, hi, rfl⟩ := hg.exists_eq hlt
  rw [getElem?_scatter_map hg hi, Option.some.injEq, List.getElem?_eq_getElem hi] at hp
  rw [← hp]
  exact Option.some_ne_none _

/-- **Every entry of a list is found again at its place**, and there are no others. -/
theorem getElem?_arrange {g : Nat → Nat} (hg : Reindexes xs.length g) :
    (arrange ((List.range xs.length).map g) xs).length = xs.length ∧
      ∀ i, (arrange ((List.range xs.length).map g) xs)[g i]? = xs[i]? := by
  have hfull := map_some_arrange hg
  have hlen : (arrange ((List.range xs.length).map g) xs).length = xs.length := by
    rw [← List.length_map (f := some), hfull, length_scatter, List.length_replicate]
  refine ⟨hlen, fun i => ?_⟩
  by_cases hi : i < xs.length
  · have h := getElem?_scatter_map hg hi
    rw [← hfull, List.getElem?_map, List.getElem?_eq_getElem hi] at h
    obtain ⟨x, hx, hxi⟩ := Option.map_eq_some_iff.mp h
    rw [hx, hxi, List.getElem?_eq_getElem hi]
  · have hgi : ¬ g i < xs.length := fun h => hi ((hg.lt_iff i).mp h)
    rw [List.getElem?_eq_none (by omega), List.getElem?_eq_none (by omega)]

end Scatter

end TritPuzzle
