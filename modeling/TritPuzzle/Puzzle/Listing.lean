import TritPuzzle.Puzzle.Assembly

/-!
# Puzzles with their slots in a given order

A puzzle may be finished with its slots in another order than that of their
creation.  The order is given by a listing of the nodes of each kind, in which
every node has to occur exactly once; its place in the listing becomes its
address.  The listing is read once, noting for every node the place at which it
stands; the nodes are then moved there.

## Main definitions

* `SlotKind` — leaves or inner nodes.
* `placement` — the place of every node in a listing, if it is one of all nodes.
* `arrange` — a list with every entry moved to its place.
* `Assembly.finishListed` — the puzzle with its slots in the listed order.
-/

namespace TritPuzzle

/-- The two kinds of slots. -/
inductive SlotKind where
  /-- Slots for trits: the leaves. -/
  | value
  /-- Slots for operators: the inner nodes. -/
  | operator
  deriving DecidableEq, Repr

namespace SlotKind

/-- The address of the node at a position among those of the kind. -/
def id : SlotKind → Nat → NodeId
  | .value, i => .value i
  | .operator, i => .operator i

/-- The position of a node among those of the kind, if it is of the kind. -/
def index? : SlotKind → NodeId → Option Nat
  | .value, .value i => some i
  | .operator, .operator i => some i
  | _, _ => none

@[simp] theorem index?_id (k : SlotKind) (i : Nat) : k.index? (k.id i) = some i := by
  cases k <;> rfl

theorem index?_eq_some_iff {k : SlotKind} {id : NodeId} {i : Nat} :
    k.index? id = some i ↔ id = k.id i := by
  cases k <;> cases id <;> simp [index?, SlotKind.id]

end SlotKind

/-- The places of the nodes that a listing names, where `places` holds those found so
far and `place` is that of the first node of the listing.  Fails at an address of no
node of the kind and at a node listed before. -/
def placesFrom (kind : SlotKind) (places : List (Option Nat)) (place : Nat) :
    List NodeId → Except AssemblyError (List (Option Nat))
  | [] => .ok places
  | id :: rest =>
    match kind.index? id with
    | none => .error (.unknownNode id)
    | some i =>
      match places[i]? with
      | none => .error (.unknownNode id)
      | some (some _) => .error (.slotOrder (id.text ++ " listed twice"))
      | some none => placesFrom kind (places.set i (some place)) (place + 1) rest

/-- The place of every one of `count` nodes in a listing, in order of creation.
Fails unless the listing holds each of the nodes exactly once; a node that it left out
would go past the end. -/
def placement (kind : SlotKind) (count : Nat) (listing : List NodeId) :
    Except AssemblyError (List Nat) :=
  if listing.length ≠ count then
    .error (.slotOrder ("expected " ++ Text.decimal count ++ " entries, found " ++
      Text.decimal listing.length))
  else
    (placesFrom kind (List.replicate count none) 0 listing).map
      (·.map fun place => place.getD count)

/-- Puts the entries of a list at their places among `slots`. -/
def scatter {α : Type} (slots : List (Option α)) : List Nat → List α → List (Option α)
  | place :: places, x :: xs => scatter (slots.set place (some x)) places xs
  | _, _ => slots

/-- The list with every entry moved to its place. -/
def arrange {α : Type} (places : List Nat) (xs : List α) : List α :=
  (scatter (List.replicate xs.length none) places xs).filterMap id

namespace Assembly

/-- The address of a node after its kind has been put in the listed order. -/
def renamed (values operators : List Nat) : NodeId → NodeId
  | .value i => .value (values.getD i 0)
  | .operator i => .operator (operators.getD i 0)

/-- The finished puzzle with its nodes in the listed order. -/
def finishListed (a : Assembly) (root : NodeId) (answer : Trit)
    (valueListing operatorListing : List NodeId) : Except AssemblyError Template :=
  match a.rootFault? root with
  | some e => .error e
  | none => do
    let values ← placement .value a.values.length valueListing
    let operators ← placement .operator a.operators.length operatorListing
    let rename := renamed values operators
    return {
      root := rename root
      answer
      values := arrange values a.values
      operators := arrange operators (a.operators.map (·.rename rename)) }

end Assembly

end TritPuzzle
