import TritPuzzle.Proofs.Outcomes
import TritPuzzle.Proofs.Readability

/-!
# Labels in the written form

In the labelled form every slot that is not locked carries its address.  A label begins
with a letter that occurs nowhere else in a written puzzle, and ends at its colon, so the
labels can be found in the text and erased from it.  The written form is therefore cut
into pieces, each with the label before it, if there is one; what the text shows of its
labels is then read off the pieces.

## Main definitions

* `NodeId.label` — the label of a slot.
* `Erases` — the text that is left when all labels are erased.
* `Piece`, `Tree.pieces` — the written form of a tree, cut into pieces.
* `Template.mark` — the text for the content of a slot.

## Main results

* `joined_eq_append_label_iff` — a label occurs exactly where a piece has it.
* `Unfolds.labels_perm` — the pieces have the labels of the slots that are not locked.
* `labels_written_of_inPlay` — **the labelled form of a puzzle in play has one label for
  each slot that is not locked**, before the content of the slot, and is the plain form
  without its labels.
-/

namespace TritPuzzle

/-! ### Labels -/

/-- The label of a slot. -/
def NodeId.label (id : NodeId) : String := id.text ++ ":"

/-- The characters of a label. -/
def NodeId.labelChars (id : NodeId) : List Char := id.label.toList

/-- The letter with which a label begins. -/
def NodeId.letter : NodeId → Char
  | .value _ => 'v'
  | .operator _ => 'o'

/-- The position that a label names. -/
def NodeId.index : NodeId → Nat
  | .value i => i
  | .operator i => i

/-- What follows the letter of a label. -/
def NodeId.labelTail (id : NodeId) : List Char := Nat.toDigits 10 id.index ++ [':']

theorem NodeId.labelChars_eq_cons (id : NodeId) : id.labelChars = id.letter :: id.labelTail := by
  cases id <;> simp [labelChars, label, NodeId.text, letter, labelTail, index]

/-- Does a label begin with the character? -/
def IsLabelLetter (a : Char) : Prop := a = 'v' ∨ a = 'o'

theorem NodeId.isLabelLetter_letter (id : NodeId) : IsLabelLetter id.letter := by
  cases id
  · exact Or.inl rfl
  · exact Or.inr rfl

theorem NodeId.isDigit_or_eq_of_mem_labelTail {id : NodeId} {a : Char} (h : a ∈ id.labelTail) :
    a.isDigit = true ∨ a = ':' := by
  rcases List.mem_append.mp h with h | h
  · exact Or.inl (Nat.isDigit_of_mem_toDigits (by decide) (by decide) h)
  · exact Or.inr (List.mem_singleton.mp h)

theorem NodeId.not_isLabelLetter_of_mem_labelTail (id : NodeId) :
    ∀ a ∈ id.labelTail, ¬ IsLabelLetter a := by
  intro a ha
  rcases isDigit_or_eq_of_mem_labelTail ha with h | rfl
  · rintro (rfl | rfl) <;> simp at h
  · rintro (h | h) <;> simp at h

/-- A text without letters that begin a label ends before the first such letter. -/
theorem exists_of_append_eq_append_cons {w rest pre post : List Char} {a : Char} (ha : a ∉ w)
    (h : w ++ rest = pre ++ a :: post) :
    ∃ pre', pre = w ++ pre' ∧ rest = pre' ++ a :: post := by
  rcases List.append_eq_append_iff.mp h with ⟨as, rfl, hrest⟩ | ⟨bs, rfl, hpost⟩
  · exact ⟨as, rfl, hrest⟩
  · cases bs with
    | nil => exact ⟨[], by simp, by simpa using hpost.symm⟩
    | cons b bs =>
      obtain ⟨rfl, -⟩ := List.cons.inj hpost
      simp at ha

/-- **A label shows where it ends**, and which slot it names. -/
theorem NodeId.labelChars_append_inj {id id' : NodeId} {cs cs' : List Char}
    (h : id.labelChars ++ cs = id'.labelChars ++ cs') : id = id' ∧ cs = cs' := by
  rw [labelChars_eq_cons, labelChars_eq_cons, List.cons_append, List.cons_append, labelTail,
    labelTail, List.append_assoc, List.append_assoc] at h
  obtain ⟨hletter, hrest⟩ := List.cons.inj h
  have hcolon (i : Nat) : ':' ∉ Nat.toDigits 10 i := fun hmem => by
    simpa using Nat.isDigit_of_mem_toDigits (by decide) (by decide) hmem
  obtain ⟨ds, hds, hcs⟩ := exists_of_append_eq_append_cons (hcolon id.index) hrest
  -- the second numeral has no colon, so it does not go on after the first one
  have hnil : ds = [] := by
    cases ds with
    | nil => rfl
    | cons d ds =>
      obtain ⟨rfl, -⟩ := List.cons.inj hcs
      exact absurd (by simp [hds]) (hcolon id'.index)
  subst hnil
  have hindex : id'.index = id.index := by
    refine Text.decimal_injective ?_
    rw [Text.decimal, Text.decimal, hds, List.append_nil]
  refine ⟨?_, (List.cons.inj hcs).2⟩
  cases id <;> cases id' <;> simp_all [letter, index]

/-- The second text is the first one without its labels. -/
inductive Erases : List Char → List Char → Prop
  /-- Nothing is left of nothing. -/
  | nil : Erases [] []
  /-- A label is left out. -/
  | label {cs ds : List Char} (id : NodeId) (h : Erases cs ds) : Erases (id.labelChars ++ cs) ds
  /-- A character at which no label begins is kept. -/
  | keep {a : Char} {cs ds : List Char} (ha : ∀ id : NodeId, ¬ id.labelChars <+: a :: cs)
      (h : Erases cs ds) : Erases (a :: cs) (a :: ds)

namespace Erases

/-- Only one text is left when the labels are erased. -/
theorem unique {cs ds ds' : List Char} (h : Erases cs ds) (h' : Erases cs ds') : ds = ds' := by
  induction h generalizing ds' with
  | nil =>
    generalize hcs : ([] : List Char) = cs at h'
    cases h' with
    | nil => rfl
    | label id h' => simp [NodeId.labelChars_eq_cons] at hcs
    | keep ha h' => simp at hcs
  | @label cs ds id h ih =>
    generalize hcs : id.labelChars ++ cs = cs' at h'
    cases h' with
    | nil => simp [NodeId.labelChars_eq_cons] at hcs
    | label id' h' =>
      obtain ⟨-, rfl⟩ := NodeId.labelChars_append_inj hcs
      exact ih h'
    | keep ha h' => exact absurd ⟨cs, hcs⟩ (ha id)
  | @keep a cs ds ha h ih =>
    generalize hcs : a :: cs = cs' at h'
    cases h' with
    | nil => simp at hcs
    | @label cs'' _ id' h' => exact absurd ⟨cs'', hcs.symm⟩ (ha id')
    | keep ha' h' =>
      obtain ⟨rfl, rfl⟩ := List.cons.inj hcs
      rw [ih h']

/-- A text without letters that begin a label is kept. -/
theorem append {w cs ds : List Char} (hw : ∀ a ∈ w, ¬ IsLabelLetter a) (h : Erases cs ds) :
    Erases (w ++ cs) (w ++ ds) := by
  induction w with
  | nil => exact h
  | cons a w ih =>
    obtain ⟨ha, hw⟩ := List.forall_mem_cons.mp hw
    refine .keep (fun id hid => ?_) (ih hw)
    rw [NodeId.labelChars_eq_cons, List.cons_prefix_cons] at hid
    exact ha (hid.1 ▸ id.isLabelLetter_letter)

end Erases

/-! ### Pieces of a text -/

/-- A piece of a text, with the label before it if there is one. -/
structure Piece where
  /-- The address in the label. -/
  label? : Option NodeId
  /-- What stands after the label. -/
  text : List Char

namespace Piece

/-- The characters of a piece, with its label or without. -/
def chars (labelled : Bool) (p : Piece) : List Char :=
  match labelled, p.label? with
  | true, some id => id.labelChars ++ p.text
  | _, _ => p.text

/-- A piece that never has a label. -/
def plain (text : List Char) : Piece := { label? := none, text }

/-- A piece whose text cannot be taken for a label. -/
def Plain (p : Piece) : Prop := ∀ a ∈ p.text, ¬ IsLabelLetter a

end Piece

/-- The text that consists of the pieces. -/
def joined (labelled : Bool) (ps : List Piece) : List Char := ps.flatMap (Piece.chars labelled)

@[simp] theorem joined_nil (labelled : Bool) : joined labelled [] = [] := rfl

@[simp] theorem joined_cons (labelled : Bool) (p : Piece) (ps : List Piece) :
    joined labelled (p :: ps) = p.chars labelled ++ joined labelled ps := rfl

@[simp] theorem joined_append (labelled : Bool) (ps qs : List Piece) :
    joined labelled (ps ++ qs) = joined labelled ps ++ joined labelled qs := by
  simp [joined]

/-- **Without their labels the pieces make the plain text.** -/
theorem erases_joined {ps : List Piece} (hps : ∀ p ∈ ps, p.Plain) :
    Erases (joined true ps) (joined false ps) := by
  induction ps with
  | nil => exact .nil
  | cons p ps ih =>
    obtain ⟨hp, hps⟩ := List.forall_mem_cons.mp hps
    have hkeep := (ih hps).append hp
    cases hid : p.label? with
    | none => simpa [Piece.chars, hid] using hkeep
    | some id => simpa [Piece.chars, hid] using hkeep.label id

/-- A letter that begins a label stands at the beginning of a piece. -/
theorem exists_of_joined_eq_append_cons {ps : List Piece} (hps : ∀ p ∈ ps, p.Plain)
    {pre post : List Char} {a : Char} (ha : IsLabelLetter a)
    (h : joined true ps = pre ++ a :: post) :
    ∃ qs p rs id, ps = qs ++ p :: rs ∧ p.label? = some id ∧ pre = joined true qs ∧
      a :: post = id.labelChars ++ (p.text ++ joined true rs) := by
  induction ps generalizing pre with
  | nil => simp at h
  | cons p ps ih =>
    obtain ⟨hp, hps⟩ := List.forall_mem_cons.mp hps
    rw [joined_cons] at h
    -- the letter is not among the characters `w` that the piece has left, so it comes later
    have hlater {w pre' : List Char} (hw : ∀ b ∈ w, ¬ IsLabelLetter b)
        (hchars : ∀ as, pre' = w ++ as → pre = p.chars true ++ as)
        (h' : w ++ joined true ps = pre' ++ a :: post) :
        ∃ qs q rs id, p :: ps = qs ++ q :: rs ∧ q.label? = some id ∧ pre = joined true qs ∧
          a :: post = id.labelChars ++ (q.text ++ joined true rs) := by
      obtain ⟨as, has, hps'⟩ := exists_of_append_eq_append_cons (fun hmem => hw a hmem ha) h'
      obtain ⟨qs, q, rs, id, rfl, hid, rfl, hpost⟩ := ih hps hps'
      exact ⟨p :: qs, q, rs, id, rfl, hid, hchars _ has, hpost⟩
    cases hid : p.label? with
    | none =>
      have hchars : p.chars true = p.text := by simp [Piece.chars, hid]
      exact hlater hp (fun as has => hchars ▸ has) (hchars ▸ h)
    | some id =>
      have hchars : p.chars true = id.letter :: (id.labelTail ++ p.text) := by
        simp [Piece.chars, hid, NodeId.labelChars_eq_cons]
      cases pre with
      | nil =>
        refine ⟨[], p, ps, id, rfl, hid, rfl, ?_⟩
        rw [← List.append_assoc, NodeId.labelChars_eq_cons, List.cons_append, ← hchars, h]
        rfl
      | cons b pre =>
        rw [hchars, List.cons_append, List.cons_append] at h
        obtain ⟨rfl, htail⟩ := List.cons.inj h
        refine hlater (List.forall_mem_append.mpr
          ⟨id.not_isLabelLetter_of_mem_labelTail, hp⟩) (fun as has => ?_) htail
        rw [hchars, has, List.cons_append]

/-- **A label occurs exactly where a piece has it.** -/
theorem joined_eq_append_label_iff {ps : List Piece} (hps : ∀ p ∈ ps, p.Plain) {id : NodeId}
    {pre post : List Char} :
    joined true ps = pre ++ (id.labelChars ++ post) ↔
      ∃ qs p rs, ps = qs ++ p :: rs ∧ p.label? = some id ∧ pre = joined true qs ∧
        post = p.text ++ joined true rs := by
  constructor
  · intro h
    rw [NodeId.labelChars_eq_cons, List.cons_append] at h
    obtain ⟨qs, p, rs, id', hsplit, hid, hpre, hpost⟩ :=
      exists_of_joined_eq_append_cons hps id.isLabelLetter_letter h
    rw [← List.cons_append, ← NodeId.labelChars_eq_cons] at hpost
    obtain ⟨rfl, htail⟩ := NodeId.labelChars_append_inj hpost
    exact ⟨qs, p, rs, hsplit, hid, hpre, htail⟩
  · rintro ⟨qs, p, rs, rfl, hid, rfl, rfl⟩
    simp [Piece.chars, hid]

/-- Where no two pieces have the same label, a label belongs to one piece. -/
theorem split_unique {qs qs' rs rs' : List Piece} {p p' : Piece} {id : NodeId}
    (h : ((qs ++ p :: rs).filterMap (·.label?)).Nodup) (hid : p.label? = some id)
    (hid' : p'.label? = some id) (hsplit : qs ++ p :: rs = qs' ++ p' :: rs') : qs' = qs := by
  have honce {xs ys : List Piece} {q q' : Piece} (hq : q.label? = some id)
      (hq' : q'.label? = some id) {zs : List Piece}
      (hnodup : ((xs ++ q :: (ys ++ q' :: zs)).filterMap (·.label?)).Nodup) : False := by
    simp [List.filterMap_append, hq, hq', List.nodup_append] at hnodup
  rcases List.append_eq_append_iff.mp hsplit with ⟨as, hqs, has⟩ | ⟨bs, hqs, hbs⟩
  · cases as with
    | nil => rw [hqs, List.append_nil]
    | cons a as =>
      obtain ⟨rfl, rfl⟩ := List.cons.inj has
      exact (honce hid hid' h).elim
  · cases bs with
    | nil => rw [hqs, List.append_nil]
    | cons b bs =>
      obtain ⟨rfl, rfl⟩ := List.cons.inj hbs
      rw [hsplit] at h
      exact (honce hid' hid h).elim

/-! ### The pieces of a tree -/

/-- The piece for a slot: it has a label if the slot is not locked. -/
def slotPiece {α : Type} (id : NodeId) (s : Slot α) (text : List Char) : Piece where
  label? := if s.isLocked then none else some id
  text := text

namespace Tree

/-- The pieces of an operand: an inner node gets parentheses. -/
def enclosedPieces (T : Tree) (ps : List Piece) : List Piece :=
  match T with
  | .missing _ => ps
  | .leaf _ _ => ps
  | .unary _ _ _ => .plain ['('] :: (ps ++ [.plain [')']])
  | .binary _ _ _ _ => .plain ['('] :: (ps ++ [.plain [')']])

/-- The pieces of a written tree. -/
def pieces : Tree → List Piece
  | .missing _ => [.plain missingMark]
  | .leaf i s => [slotPiece (.value i) s [leafMark s.content?]]
  | .unary i s c =>
    slotPiece (.operator i) s (operatorWord s.content?) :: .plain [' '] ::
      c.enclosedPieces c.pieces
  | .binary i s l r =>
    l.enclosedPieces l.pieces ++ .plain [' '] ::
      slotPiece (.operator i) s (operatorWord s.content?) :: .plain [' '] ::
        r.enclosedPieces r.pieces

theorem mem_enclosedPieces {T : Tree} {ps : List Piece} {p : Piece}
    (h : p ∈ T.enclosedPieces ps) : p ∈ ps ∨ p = .plain ['('] ∨ p = .plain [')'] := by
  cases T <;> simp [enclosedPieces] at h <;> tauto

theorem filterMap_enclosedPieces (T : Tree) (ps : List Piece) :
    (T.enclosedPieces ps).filterMap (·.label?) = ps.filterMap (·.label?) := by
  cases T <;> simp [enclosedPieces, Piece.plain]

end Tree

theorem chars_slotPiece {α : Type} (labelled : Bool) (id : NodeId) (word : α → String)
    (s : Slot α) :
    (slotPiece id s (slotText false id word s).toList).chars labelled =
      (slotText labelled id word s).toList := by
  cases labelled <;> cases h : s.isLocked <;>
    simp [slotPiece, Piece.chars, slotText, NodeId.labelChars, NodeId.label, h]

theorem chars_plain (labelled : Bool) (text : List Char) :
    (Piece.plain text).chars labelled = text := by
  cases labelled <;> rfl

namespace Tree

theorem joined_enclosedPieces {labelled : Bool} {T : Tree} {ps : List Piece} {text : String}
    (h : joined labelled ps = text.toList) :
    joined labelled (T.enclosedPieces ps) = (T.enclosed text).toList := by
  cases T <;> simp [enclosedPieces, enclosed, chars_plain, h]

/-- **The pieces make the written form**, the labelled one and the plain one. -/
theorem joined_pieces (labelled : Bool) (T : Tree) :
    joined labelled T.pieces = (T.written labelled).toList := by
  have hblank : " ".toList = [' '] := rfl
  induction T with
  | missing id =>
    rw [pieces, written, joined_cons, chars_plain]
    simp [missingMark]
  | leaf i s =>
    rw [pieces, written, joined_cons, ← toList_slotText_leaf (.value i) s, chars_slotPiece,
      joined_nil, List.append_nil]
  | unary i s c ih =>
    rw [pieces, written, joined_cons, joined_cons, ← toList_slotText_operator (.operator i) s,
      chars_slotPiece, chars_plain, joined_enclosedPieces ih, String.toList_append,
      String.toList_append, hblank, List.append_assoc]
  | binary i s l r ihl ihr =>
    rw [pieces, written, joined_append, joined_cons, joined_cons, joined_cons,
      ← toList_slotText_operator (.operator i) s, chars_slotPiece, chars_plain,
      joined_enclosedPieces ihl, joined_enclosedPieces ihr]
    simp only [String.toList_append, hblank, List.append_assoc]

end Tree

namespace Template

/-- The text for the content of the slot at an address: a question mark if it has none. -/
def mark (t : Template) : NodeId → String
  | .value i => ((t.values[i]?.bind (·.content?)).map Trit.text).getD emptyMark
  | .operator i => ((t.operators[i]?.bind (·.slot.content?)).map Operator.keyword).getD emptyMark

/-- The pieces that a written puzzle can have. -/
inductive PieceOf (t : Template) : Piece → Prop
  /-- A blank. -/
  | blank : PieceOf t (.plain [' '])
  /-- A parenthesis that opens. -/
  | opening : PieceOf t (.plain ['('])
  /-- A parenthesis that closes. -/
  | closing : PieceOf t (.plain [')'])
  /-- A leaf. -/
  | leaf {i : Nat} {s : Slot Trit} (hs : t.values[i]? = some s) :
      PieceOf t (slotPiece (.value i) s [leafMark s.content?])
  /-- The operator of an inner node. -/
  | operator {i : Nat} {n : OperatorNode} (hn : t.operators[i]? = some n) :
      PieceOf t (slotPiece (.operator i) n.slot (operatorWord n.slot.content?))

theorem Unfolds.pieceOf {t : Template} {id : NodeId} {T : Tree} (hT : t.Unfolds id T) :
    ∀ p ∈ T.pieces, t.PieceOf p := by
  have henclosed {C : Tree} (hC : ∀ p ∈ C.pieces, t.PieceOf p) :
      ∀ p ∈ C.enclosedPieces C.pieces, t.PieceOf p := by
    intro p hp
    rcases Tree.mem_enclosedPieces hp with hp | rfl | rfl
    · exact hC p hp
    · exact .opening
    · exact .closing
  induction hT with
  | leaf hs => exact List.forall_mem_singleton.mpr (.leaf hs)
  | unary hn _ _ ih =>
    rw [Tree.pieces, List.forall_mem_cons, List.forall_mem_cons]
    exact ⟨.operator hn, .blank, henclosed ih⟩
  | binary hn _ _ _ ihl ihr =>
    rw [Tree.pieces, List.forall_mem_append, List.forall_mem_cons, List.forall_mem_cons,
      List.forall_mem_cons]
    exact ⟨henclosed ihl, .blank, .operator hn, .blank, henclosed ihr⟩

namespace PieceOf

variable {t : Template} {p : Piece}

/-- No piece can be taken for a label, or for a node that is missing. -/
theorem text_spec (h : t.PieceOf p) : ∀ a ∈ p.text, ¬ IsLabelLetter a ∧ a ≠ '<' := by
  cases h with
  | blank => simp [Piece.plain, IsLabelLetter]
  | opening => simp [Piece.plain, IsLabelLetter]
  | closing => simp [Piece.plain, IsLabelLetter]
  | @leaf i s hs =>
    show ∀ a ∈ [leafMark s.content?], ¬ IsLabelLetter a ∧ a ≠ '<'
    rcases s.content? with _ | _ | _ | _ <;> simp [leafMark, IsLabelLetter]
  | @operator i n hn =>
    show ∀ a ∈ operatorWord n.slot.content?, ¬ IsLabelLetter a ∧ a ≠ '<'
    rcases n.slot.content? with _ | _ | _ | _ | _ | _ <;> simp [operatorWord, IsLabelLetter]

theorem plain (h : t.PieceOf p) : p.Plain := fun a ha => (h.text_spec a ha).1

/-- What stands after a label is the content of its slot. -/
theorem text_eq (h : t.PieceOf p) {id : NodeId} (hid : p.label? = some id) :
    p.text = (t.mark id).toList := by
  cases h with
  | blank => simp [Piece.plain] at hid
  | opening => simp [Piece.plain] at hid
  | closing => simp [Piece.plain] at hid
  | @leaf i s hs =>
    obtain ⟨-, rfl⟩ : s.isLocked = false ∧ .value i = id := by simpa [slotPiece] using hid
    rw [mark, hs, Option.bind_some, slotPiece]
    rcases s.content? with _ | _ | _ | _ <;> rfl
  | @operator i n hn =>
    obtain ⟨-, rfl⟩ : n.slot.isLocked = false ∧ .operator i = id := by
      simpa [slotPiece] using hid
    rw [mark, hn, Option.bind_some, slotPiece]
    rcases n.slot.content? with _ | _ | _ | _ | _ | _ <;> rfl

/-- There is no sign of a missing node, neither in a text nor in a label. -/
theorem notMem_chars (h : t.PieceOf p) : '<' ∉ p.chars true := by
  have htext : '<' ∉ p.text := fun hmem => (h.text_spec _ hmem).2 rfl
  cases hid : p.label? with
  | none => simpa [Piece.chars, hid] using htext
  | some id =>
    have hletter : '<' ≠ id.letter := by cases id <;> simp [NodeId.letter]
    have htail : '<' ∉ id.labelTail := fun hmem => by
      simpa using NodeId.isDigit_or_eq_of_mem_labelTail hmem
    simp [Piece.chars, hid, NodeId.labelChars_eq_cons, hletter, htail, htext]

end PieceOf

/-- The label of a slot is there if the slot is not locked. -/
theorem filterMap_slotPiece {t : Template} {α : Type} {id : NodeId} {s : Slot α}
    (hlock : t.isLockedAt id = s.isLocked) (text : List Char) (ps : List Piece) :
    (slotPiece id s text :: ps).filterMap (·.label?) =
      [id].filter (fun c => !t.isLockedAt c) ++ ps.filterMap (·.label?) := by
  cases h : s.isLocked <;> simp [slotPiece, hlock, h]

/-- **The pieces have the labels of the slots that are not locked.** -/
theorem Unfolds.labels_perm {t : Template} {id : NodeId} {T : Tree} (hT : t.Unfolds id T) :
    (T.pieces.filterMap (·.label?)).Perm (T.ids.filter fun c => !t.isLockedAt c) := by
  have hblank (ps : List Piece) :
      (Piece.plain [' '] :: ps).filterMap (·.label?) = ps.filterMap (·.label?) := rfl
  have hcons (c : NodeId) (ids : List NodeId) : (c :: ids).filter (fun c => !t.isLockedAt c) =
      [c].filter (fun c => !t.isLockedAt c) ++ ids.filter fun c => !t.isLockedAt c :=
    List.filter_append [c] ids
  induction hT with
  | leaf hs =>
    rw [Tree.pieces, Tree.ids, filterMap_slotPiece (isLockedAt_value hs), List.filterMap_nil,
      List.append_nil]
  | @unary i n C hn _ _ ih =>
    rw [Tree.pieces, Tree.ids, filterMap_slotPiece (isLockedAt_operator hn), hblank,
      Tree.filterMap_enclosedPieces, hcons _ C.ids]
    exact ih.append_left _
  | @binary i n r L R hn _ _ _ ihl ihr =>
    rw [Tree.pieces, Tree.ids, List.filterMap_append, hblank,
      filterMap_slotPiece (isLockedAt_operator hn), hblank, Tree.filterMap_enclosedPieces,
      Tree.filterMap_enclosedPieces, hcons _ (L.ids ++ R.ids), List.filter_append]
    -- the operator stands between its operands in the text, and before them in the tree
    refine (ihl.append (ihr.append_left _)).trans ?_
    rw [← List.append_assoc, ← List.append_assoc]
    exact List.perm_append_comm.append_right _

/-! ### The pieces of a puzzle -/

/-- The pieces of a written puzzle. -/
def pieces (t : Template) : List Piece :=
  (t.tree t.root).pieces ++ [.plain [' ', '=', ' ', leafMark (some t.answer)]]

/-- The pieces make the written puzzle. -/
theorem joined_pieces (labelled : Bool) (t : Template) :
    joined labelled t.pieces = (t.written labelled).toList := by
  have hanswer : (" = " ++ t.answer.text).toList = [' ', '=', ' ', leafMark (some t.answer)] := by
    cases t.answer <;> rfl
  rw [pieces, joined_append, Tree.joined_pieces, joined_cons, chars_plain, ← hanswer, joined_nil,
    List.append_nil, ← String.toList_append, ← String.append_assoc]
  rfl

theorem written_eq_append_label_iff {t : Template} (ht : ∀ p ∈ t.pieces, p.Plain) {id : NodeId}
    {pre post : String} :
    t.written true = pre ++ id.label ++ post ↔
      ∃ qs p rs, t.pieces = qs ++ p :: rs ∧ p.label? = some id ∧ pre.toList = joined true qs ∧
        post.toList = p.text ++ joined true rs := by
  rw [← joined_eq_append_label_iff ht, joined_pieces, ← String.toList_inj, String.toList_append,
    String.toList_append, List.append_assoc]
  rfl

/-- The open positions of a list are those of its slots that are not locked. -/
theorem mem_positions_not_iff {α : Type} (locked : α → Bool) {xs : List α} {i : Nat} {b : Bool}
    (hb : ∀ x, xs[i]? = some x → b = locked x) :
    i ∈ positions (fun x => !locked x) xs ↔ i < xs.length ∧ b = false := by
  rw [mem_positions]
  constructor
  · rintro ⟨x, hx, hopen⟩
    exact ⟨(List.getElem?_eq_some_iff.mp hx).1, by simpa [hb x hx] using hopen⟩
  · rintro ⟨hi, hopen⟩
    have hx : xs[i]? = some xs[i] := List.getElem?_eq_getElem hi
    exact ⟨_, hx, by simp [← hb _ hx, hopen]⟩

theorem mem_openValues_iff {t : Template} {i : Nat} :
    i ∈ t.openValues ↔ t.Has (.value i) ∧ t.isLockedAt (.value i) = false :=
  mem_positions_not_iff (fun s : Slot Trit => s.isLocked) fun _ => isLockedAt_value

theorem mem_openOperators_iff {t : Template} {i : Nat} :
    i ∈ t.openOperators ↔ t.Has (.operator i) ∧ t.isLockedAt (.operator i) = false :=
  mem_positions_not_iff (fun n : OperatorNode => n.slot.isLocked) fun _ => isLockedAt_operator

namespace Arboreal

variable {t : Template}

/-- The last piece of a written puzzle is its answer, and the others belong to its tree. -/
theorem pieceOf_or_eq (h : t.Arboreal) {p : Piece} (hp : p ∈ t.pieces) :
    t.PieceOf p ∨ p = .plain [' ', '=', ' ', leafMark (some t.answer)] := by
  rcases List.mem_append.mp hp with hp | hp
  · exact Or.inl ((h.unfolds_tree h.has_root).pieceOf p hp)
  · exact Or.inr (List.mem_singleton.mp hp)

theorem plain_pieces (h : t.Arboreal) : ∀ p ∈ t.pieces, p.Plain := by
  intro p hp
  rcases h.pieceOf_or_eq hp with hp | rfl
  · exact hp.plain
  · show ∀ a ∈ [' ', '=', ' ', leafMark (some t.answer)], ¬ IsLabelLetter a
    cases t.answer <;> simp [leafMark, IsLabelLetter]

theorem notMem_written (h : t.Arboreal) : '<' ∉ (t.written true).toList := by
  rw [← joined_pieces, joined, List.mem_flatMap]
  rintro ⟨p, hp, hmem⟩
  rcases h.pieceOf_or_eq hp with hp | rfl
  · exact hp.notMem_chars hmem
  · rw [chars_plain] at hmem
    cases ha : t.answer <;> simp [ha, leafMark] at hmem

theorem labels_perm (h : t.Arboreal) : (t.pieces.filterMap (·.label?)).Perm
    ((t.tree t.root).ids.filter fun c => !t.isLockedAt c) := by
  rw [pieces, List.filterMap_append]
  simpa [Piece.plain] using (h.unfolds_tree h.has_root).labels_perm

theorem nodup_labels (h : t.Arboreal) : (t.pieces.filterMap (·.label?)).Nodup :=
  h.labels_perm.nodup_iff.mpr ((h.nodup_ids (h.unfolds_tree h.has_root)).filter _)

theorem mem_labels_iff (h : t.Arboreal) {id : NodeId} :
    id ∈ t.pieces.filterMap (·.label?) ↔ t.Has id ∧ t.isLockedAt id = false := by
  rw [h.labels_perm.mem_iff, List.mem_filter, h.mem_ids_root_iff (h.unfolds_tree h.has_root)]
  simp

/-- There is a label for a slot exactly when the slot is not locked. -/
theorem exists_label_iff (h : t.Arboreal) {id : NodeId} :
    (∃ pre post, t.written true = pre ++ id.label ++ post) ↔
      t.Has id ∧ t.isLockedAt id = false := by
  rw [← h.mem_labels_iff, List.mem_filterMap]
  constructor
  · rintro ⟨pre, post, hocc⟩
    obtain ⟨qs, p, rs, hsplit, hid, -, -⟩ := (written_eq_append_label_iff h.plain_pieces).mp hocc
    exact ⟨p, by simp [hsplit], hid⟩
  · rintro ⟨p, hp, hid⟩
    obtain ⟨qs, rs, hsplit⟩ := List.append_of_mem hp
    refine ⟨.ofList (joined true qs), .ofList (p.text ++ joined true rs), ?_⟩
    exact (written_eq_append_label_iff h.plain_pieces).mpr
      ⟨qs, p, rs, hsplit, hid, String.toList_ofList, String.toList_ofList⟩

/-- No label occurs twice. -/
theorem label_unique (h : t.Arboreal) {id : NodeId} {pre post pre' post' : String}
    (hocc : t.written true = pre ++ id.label ++ post)
    (hocc' : t.written true = pre' ++ id.label ++ post') : pre' = pre := by
  obtain ⟨qs, p, rs, hsplit, hid, hpre, -⟩ := (written_eq_append_label_iff h.plain_pieces).mp hocc
  obtain ⟨qs', p', rs', hsplit', hid', hpre', -⟩ :=
    (written_eq_append_label_iff h.plain_pieces).mp hocc'
  have hqs : qs' = qs :=
    split_unique (hsplit ▸ h.nodup_labels) hid hid' (hsplit.symm.trans hsplit')
  rw [← String.toList_inj, hpre', hpre, hqs]

/-- After a label comes the content of its slot. -/
theorem mark_of_label (h : t.Arboreal) {id : NodeId} {pre post : String}
    (hocc : t.written true = pre ++ id.label ++ post) : ∃ rest, post = t.mark id ++ rest := by
  obtain ⟨qs, p, rs, hsplit, hid, -, hpost⟩ :=
    (written_eq_append_label_iff h.plain_pieces).mp hocc
  have hp : t.PieceOf p := by
    refine (h.pieceOf_or_eq (by simp [hsplit])).resolve_right ?_
    rintro rfl
    simp [Piece.plain] at hid
  refine ⟨.ofList (joined true rs), ?_⟩
  rw [← String.toList_inj, hpost, hp.text_eq hid, String.toList_append, String.toList_ofList]

/-- The labelled form without its labels is the plain form. -/
theorem erases_written_iff (h : t.Arboreal) {text : String} :
    Erases (t.written true).toList text.toList ↔ text = t.written false := by
  have herases := erases_joined h.plain_pieces
  rw [joined_pieces, joined_pieces] at herases
  constructor
  · intro htext
    exact String.toList_inj.mp (htext.unique herases)
  · rintro rfl
    exact herases

end Arboreal

/-- **The labelled form of a puzzle in play has one label for each slot that is not
locked**, right before the content of the slot, and none for a locked one.  No node is
missing in it, and without its labels it is the plain form. -/
theorem labels_written_of_inPlay {t : Template} (h : t.InPlay) :
    (∀ i, (∃ pre post, t.written true = pre ++ (NodeId.value i).label ++ post) ↔
      i ∈ t.openValues) ∧
    (∀ i, (∃ pre post, t.written true = pre ++ (NodeId.operator i).label ++ post) ↔
      i ∈ t.openOperators) ∧
    (∀ id pre post, t.written true = pre ++ id.label ++ post →
      (∃ rest, post = t.mark id ++ rest) ∧
      ∀ pre' post', t.written true = pre' ++ id.label ++ post' → pre' = pre) ∧
    (∀ id, t.isLockedAt id = true → ∀ pre post, t.written true ≠ pre ++ id.label ++ post) ∧
    (∀ pre post, t.written true ≠ pre ++ "<missing>" ++ post) ∧
    (∀ text : String, Erases (t.written true).toList text.toList ↔ text = t.written false) := by
  have htree := h.arboreal
  refine ⟨fun i => htree.exists_label_iff.trans mem_openValues_iff.symm,
    fun i => htree.exists_label_iff.trans mem_openOperators_iff.symm,
    fun id pre post hocc => ⟨htree.mark_of_label hocc, fun _ _ => htree.label_unique hocc⟩,
    fun id hlocked pre post hocc => ?_, fun pre post hmissing => ?_,
    fun text => htree.erases_written_iff⟩
  · obtain ⟨-, hopen⟩ := htree.exists_label_iff.mp ⟨pre, post, hocc⟩
    rw [hlocked] at hopen
    simp at hopen
  · have hmem : '<' ∈ (t.written true).toList := by
      rw [hmissing]
      simp
    exact htree.notMem_written hmem

/-- A disjunction without its operator over a locked negation, with one leaf filled. -/
theorem labels_written_of_inPlay_negation :
    let steps : List AssemblyStep := [.openValue, .openValue,
      .operator (.locked .not) (.value 0) none, .operator .unset (.operator 0) (some (.value 1))]
    let t : Template := {
      root := .operator 1
      answer := .neutral
      values := [.unset, .unset]
      operators := [{ slot := .locked .not, left := .value 0, right := none },
        { slot := .unset, left := .operator 0, right := some (.value 1) }] }
    let u := t.play [.event (.setValue 1 .true)]
    (Assembly.run steps).finish (.operator 1) .neutral = .ok t ∧
      u.written true = "(NOT v0:?) o1:? v1:2 = 1" ∧ u.written false = "(NOT ?) ? 2 = 1" ∧
      (∃ pre post, u.written true = pre ++ (NodeId.operator 1).label ++ post) ∧
      (∀ pre post, u.written true ≠ pre ++ (NodeId.operator 0).label ++ post) ∧
      Erases (u.written true).toList "(NOT ?) ? 2 = 1".toList := by
  intro steps t u
  have hbuilt : (Assembly.run steps).finish (.operator 1) .neutral = .ok t := by decide
  have hplain : u.written false = "(NOT ?) ? 2 = 1" := by decide
  obtain ⟨-, hoperators, -, hlocked, -, herases⟩ :=
    labels_written_of_inPlay ((Built.finish hbuilt).inPlay [.event (.setValue 1 .true)])
  exact ⟨hbuilt, by decide, hplain, (hoperators 1).mpr (by decide), hlocked _ (by decide),
    (herases _).mpr hplain.symm⟩

end Template

end TritPuzzle
