import TritPuzzle.Proofs.Finished

/-!
# Reading the written form

The written form of a puzzle shows the contents of its slots and nothing else, and it
shows all of them: it can be read in one way only.  An operand shows where it ends, since
it is a single mark or stands in parentheses.  What stands in them, or before the answer,
is told apart by its first two marks: where a negation may be meant, the second one is an
operand, and otherwise it is the word of an operator.

## Main definitions

* `Contents`, `Tree.contents` — the contents of a tree, without addresses and locks.
* `Contents.chars`, `Contents.operand` — the written form of contents.
* `Tree.idAt?` — the node at the end of a path from the top.
* `Tree.SameOutcome` — the same value, or the same error in the same place.

## Main results

* `Readable.operand_append_inj` — an operand shows where it ends.
* `Contents.readable` — **written contents can be read in one way only**, whatever follows.
* `sameOutcome_of_contents` — the contents alone make the outcome.
* `written_eq_iff_of_inPlay` — **two puzzles in play are written alike exactly when they
  have the same contents and the same answer**, and then they have the same outcome.
-/

namespace TritPuzzle

/-- The contents of a tree: what the nodes hold, and how they hang together. -/
inductive Contents where
  /-- There is no node. -/
  | missing
  /-- A leaf with its trit, if it has one. -/
  | leaf (x : Option Trit)
  /-- A node over one child with its operator, if it has one. -/
  | unary (op : Option Operator) (child : Contents)
  /-- A node over two children with its operator, if it has one. -/
  | binary (op : Option Operator) (left right : Contents)
  deriving DecidableEq, Repr

/-- The contents of a tree. -/
def Tree.contents : Tree → Contents
  | .missing _ => .missing
  | .leaf _ s => .leaf s.content?
  | .unary _ s c => .unary s.content? c.contents
  | .binary _ s l r => .binary s.content? l.contents r.contents

/-! ### Marks -/

/-- The mark for a leaf. -/
def leafMark : Option Trit → Char
  | none => '?'
  | some .false => '0'
  | some .neutral => '1'
  | some .true => '2'

/-- The text for a node that does not exist. -/
def missingMark : List Char := ['<', 'm', 'i', 's', 's', 'i', 'n', 'g', '>']

/-- The word for an operator. -/
def operatorWord : Option Operator → List Char
  | none => ['?']
  | some .not => ['N', 'O', 'T']
  | some .and => ['A', 'N', 'D']
  | some .or => ['O', 'R']
  | some .xor => ['X', 'O', 'R']
  | some .imply => ['I', 'M', 'P', 'L', 'Y']

theorem leafMark_injective {x y : Option Trit} (h : leafMark x = leafMark y) : x = y := by
  rcases x with _ | _ | _ | _ <;> rcases y with _ | _ | _ | _ <;> first | rfl | simp [leafMark] at h

theorem leafMark_mem (x : Option Trit) : leafMark x ∈ ['0', '1', '2', '?'] := by
  rcases x with _ | _ | _ | _ <;> decide

/-- Words are told apart by what comes before the blank. -/
theorem operatorWord_append_inj {op op' : Option Operator} {cs cs' : List Char}
    (h : operatorWord op ++ ' ' :: cs = operatorWord op' ++ ' ' :: cs') :
    op = op' ∧ cs = cs' := by
  have hinj : op = op' := by
    rcases op with _ | _ | _ | _ | _ | _ <;> rcases op' with _ | _ | _ | _ | _ | _ <;>
      first | rfl | simp [operatorWord] at h
  subst hinj
  exact ⟨rfl, by simpa using h⟩

namespace Contents

/-- The characters of an operand: an inner node gets parentheses. -/
def enclosed : Contents → List Char → List Char
  | .missing, cs => cs
  | .leaf _, cs => cs
  | .unary _ _, cs => '(' :: (cs ++ [')'])
  | .binary _ _ _, cs => '(' :: (cs ++ [')'])

/-- The characters of written contents. -/
def chars : Contents → List Char
  | .missing => missingMark
  | .leaf x => [leafMark x]
  | .unary op c => operatorWord op ++ ' ' :: c.enclosed c.chars
  | .binary op l r => l.enclosed l.chars ++ ' ' :: (operatorWord op ++ ' ' :: r.enclosed r.chars)

/-- The characters of contents that are an operand. -/
def operand (c : Contents) : List Char := c.enclosed c.chars

end Contents

theorem toList_slotText_leaf (id : NodeId) (s : Slot Trit) :
    (slotText false id Trit.text s).toList = [leafMark s.content?] := by
  simp only [slotText, Bool.false_and, Bool.false_eq_true, if_false]
  rcases s.content? with _ | _ | _ | _ <;> rfl

theorem toList_slotText_operator (id : NodeId) (s : Slot Operator) :
    (slotText false id Operator.keyword s).toList = operatorWord s.content? := by
  simp only [slotText, Bool.false_and, Bool.false_eq_true, if_false]
  rcases s.content? with _ | _ | _ | _ | _ | _ <;> rfl

theorem toList_enclosed (T : Tree) (text : String) :
    (T.enclosed text).toList = T.contents.enclosed text.toList := by
  cases T <;> simp [Tree.enclosed, Tree.contents, Contents.enclosed]

/-- **The written form shows the contents of the slots and nothing else.** -/
theorem Tree.toList_written (T : Tree) : (T.written false).toList = T.contents.chars := by
  have hblank : " ".toList = [' '] := rfl
  induction T with
  | missing id =>
    rw [Tree.written, Tree.contents, Contents.chars]
    simp [missingMark]
  | leaf i s => exact toList_slotText_leaf (.value i) s
  | unary i s c ih =>
    rw [Tree.written, Tree.contents, Contents.chars, String.toList_append, String.toList_append,
      toList_slotText_operator, toList_enclosed, ih, hblank, List.append_assoc]
    rfl
  | binary i s l r ihl ihr =>
    rw [Tree.written, Tree.contents, Contents.chars]
    simp only [String.toList_append, toList_slotText_operator, toList_enclosed, ihl, ihr, hblank,
      List.append_assoc, List.cons_append, List.nil_append]

/-! ### Unique readability -/

/-- What follows written contents: a closing parenthesis, or the answer. -/
inductive Follows : List Char → Prop
  | parenthesis (cs : List Char) : Follows (')' :: cs)
  | answer (cs : List Char) : Follows (' ' :: '=' :: cs)

namespace Contents

/-- An operand begins with a parenthesis, a mark or a bracket; a question mark is all of
the operand. -/
theorem exists_operand_eq_cons (c : Contents) :
    ∃ a cs, c.operand = a :: cs ∧ a ∈ ['0', '1', '2', '?', '(', '<'] ∧
      (a = '?' → c = .leaf none) := by
  cases c with
  | missing => exact ⟨'<', _, rfl, by decide, by simp⟩
  | leaf x =>
    refine ⟨leafMark x, [], rfl, ?_, fun h => ?_⟩
    · have hx := leafMark_mem x
      simp only [List.mem_cons, List.not_mem_nil, or_false] at hx ⊢
      tauto
    · rw [leafMark_injective (x := x) (y := none) h]
  | unary op c => exact ⟨'(', _, rfl, by decide, by simp⟩
  | binary op l r => exact ⟨'(', _, rfl, by decide, by simp⟩

/-- A word that reads like an operand is the question mark of an empty leaf. -/
theorem eq_none_of_operatorWord_append {op : Option Operator} {c : Contents} {cs r : List Char}
    (h : operatorWord op ++ cs = c.operand ++ r) : op = none ∧ c = .leaf none ∧ cs = r := by
  obtain ⟨a, as, hc, ha, hleaf⟩ := c.exists_operand_eq_cons
  cases op with
  | none =>
    have hmark : '?' = a := by
      rw [hc] at h
      exact (List.cons.inj h).1
    obtain rfl := hleaf hmark.symm
    exact ⟨rfl, rfl, (List.cons.inj h).2⟩
  | some op =>
    -- no word begins with a character that begins an operand
    rw [hc] at h
    cases op <;> simp [← (List.cons.inj h).1] at ha

/-- What follows written contents is no operand. -/
theorem not_follows_operand (c : Contents) (cs : List Char) :
    ¬ Follows (' ' :: (c.operand ++ cs)) := by
  obtain ⟨a, as, hc, ha, -⟩ := c.exists_operand_eq_cons
  rw [hc]
  intro h
  cases h
  simp at ha

/-- What follows written contents is no word of an operator. -/
theorem not_follows_operatorWord (op : Option Operator) (cs : List Char) :
    ¬ Follows (' ' :: (operatorWord op ++ cs)) := by
  rcases op with _ | _ | _ | _ | _ | _ <;> rintro ⟨⟩

theorem unary_chars_append (op : Option Operator) (c : Contents) (r : List Char) :
    (unary op c).chars ++ r = operatorWord op ++ ' ' :: (c.operand ++ r) := by
  simp [chars, operand]

theorem binary_chars_append (op : Option Operator) (c d : Contents) (r : List Char) :
    (binary op c d).chars ++ r =
      c.operand ++ ' ' :: (operatorWord op ++ ' ' :: (d.operand ++ r)) := by
  simp [chars, operand]

/-! ### Where an operand ends -/

/-- Can the contents be read in one way only, whatever follows? -/
def Readable (c : Contents) : Prop :=
  ∀ c' r r', Follows r → Follows r' → c.chars ++ r = c'.chars ++ r' → c = c' ∧ r = r'

theorem missing_append_inj {c : Contents} {r r' : List Char}
    (h : missing.operand ++ r = c.operand ++ r') : missing = c ∧ r = r' := by
  cases c with
  | missing => exact ⟨rfl, List.append_cancel_left h⟩
  | leaf x =>
    have hx := leafMark_mem x
    simp [← (List.cons.inj h).1] at hx
  | unary op d => simpa using (List.cons.inj h).1
  | binary op d e => simpa using (List.cons.inj h).1

theorem leaf_append_inj {x : Option Trit} {c : Contents} {r r' : List Char}
    (h : (leaf x).operand ++ r = c.operand ++ r') : leaf x = c ∧ r = r' := by
  have hx := leafMark_mem x
  cases c with
  | missing => simp [show leafMark x = '<' from (List.cons.inj h).1] at hx
  | leaf y => exact ⟨by rw [leafMark_injective (List.cons.inj h).1], (List.cons.inj h).2⟩
  | unary op d => simp [show leafMark x = '(' from (List.cons.inj h).1] at hx
  | binary op d e => simp [show leafMark x = '(' from (List.cons.inj h).1] at hx

/-- What stands in parentheses shows where it ends, if it is readable. -/
theorem Readable.parenthesized_append_inj {c : Contents} (hc : c.Readable)
    (hinner : c.operand = '(' :: (c.chars ++ [')'])) {c' : Contents} {r r' : List Char}
    (h : c.operand ++ r = c'.operand ++ r') : c = c' ∧ r = r' := by
  rw [hinner, List.cons_append, List.append_assoc, List.singleton_append] at h
  have hboth (hinner' : c'.operand = '(' :: (c'.chars ++ [')'])) : c = c' ∧ r = r' := by
    rw [hinner', List.cons_append, List.append_assoc, List.singleton_append] at h
    obtain ⟨rfl, hr⟩ := hc c' _ _ (.parenthesis r) (.parenthesis r') (List.cons.inj h).2
    exact ⟨rfl, (List.cons.inj hr).2⟩
  cases c' with
  | missing => simpa using (List.cons.inj h).1
  | leaf x =>
    have hx := leafMark_mem x
    simp [← (List.cons.inj h).1] at hx
  | unary op d => exact hboth rfl
  | binary op d e => exact hboth rfl

/-- **An operand shows where it ends**, if what may stand in its parentheses is readable. -/
theorem Readable.operand_append_inj {c : Contents} (hc : c.Readable) {c' : Contents}
    {r r' : List Char} (h : c.operand ++ r = c'.operand ++ r') : c = c' ∧ r = r' := by
  cases c with
  | missing => exact missing_append_inj h
  | leaf x => exact leaf_append_inj h
  | unary op d => exact hc.parenthesized_append_inj rfl h
  | binary op d e => exact hc.parenthesized_append_inj rfl h

/-! ### The forms exclude each other -/

theorem operand_append_ne_unary {c d : Contents} {op : Option Operator} {r r' : List Char}
    (hr : Follows r) : c.operand ++ r ≠ (unary op d).chars ++ r' := by
  intro h
  rw [unary_chars_append] at h
  obtain ⟨-, -, rfl⟩ := eq_none_of_operatorWord_append h.symm
  exact not_follows_operand d r' hr

/-- A text that shows where it ends is not written with two operands. -/
theorem operand_append_ne_binary {c d e : Contents} {op : Option Operator} {r r' : List Char}
    (hinj : ∀ s, c.operand ++ r = d.operand ++ s → c = d ∧ r = s) (hr : Follows r) :
    c.operand ++ r ≠ (binary op d e).chars ++ r' := by
  intro h
  rw [binary_chars_append] at h
  obtain ⟨-, rfl⟩ := hinj _ h
  exact not_follows_operatorWord _ _ hr

theorem unary_append_ne_binary {c d e : Contents} {op op' : Option Operator} {r r' : List Char}
    (hr : Follows r) : (unary op c).chars ++ r ≠ (binary op' d e).chars ++ r' := by
  intro h
  rw [unary_chars_append, binary_chars_append] at h
  -- the first mark is both a missing operator and an empty leaf
  obtain ⟨-, -, htail⟩ := eq_none_of_operatorWord_append h
  -- and then the second one is both an empty leaf and a missing operator
  obtain ⟨-, -, rfl⟩ := eq_none_of_operatorWord_append (List.cons.inj htail).2.symm
  exact not_follows_operand e r' hr

/-- **Written contents can be read in one way only.** -/
theorem readable (c : Contents) : c.Readable := by
  induction c with
  | missing =>
    intro c' r r' hr hr' h
    cases c' with
    | missing => exact missing_append_inj h
    | leaf x => exact missing_append_inj h
    | unary op d => exact absurd h (operand_append_ne_unary (c := missing) hr)
    | binary op d e =>
      exact absurd h (operand_append_ne_binary (fun _ => missing_append_inj) hr)
  | leaf x =>
    intro c' r r' hr hr' h
    cases c' with
    | missing => exact leaf_append_inj h
    | leaf x => exact leaf_append_inj h
    | unary op d => exact absurd h (operand_append_ne_unary (c := leaf x) hr)
    | binary op d e => exact absurd h (operand_append_ne_binary (fun _ => leaf_append_inj) hr)
  | unary op c ih =>
    intro c' r r' hr hr' h
    cases c' with
    | missing => exact absurd h.symm (operand_append_ne_unary (c := missing) hr')
    | leaf x => exact absurd h.symm (operand_append_ne_unary (c := leaf x) hr')
    | unary op' d =>
      rw [unary_chars_append, unary_chars_append] at h
      obtain ⟨rfl, hoperand⟩ := operatorWord_append_inj h
      obtain ⟨rfl, rfl⟩ := ih.operand_append_inj hoperand
      exact ⟨rfl, rfl⟩
    | binary op' d e => exact absurd h (unary_append_ne_binary hr)
  | binary op c d ihc ihd =>
    intro c' r r' hr hr' h
    cases c' with
    | missing =>
      exact absurd h.symm (operand_append_ne_binary (fun _ => missing_append_inj) hr')
    | leaf x =>
      exact absurd h.symm (operand_append_ne_binary (fun _ => leaf_append_inj) hr')
    | unary op' e => exact absurd h.symm (unary_append_ne_binary hr')
    | binary op' c' d' =>
      rw [binary_chars_append, binary_chars_append] at h
      obtain ⟨rfl, hword⟩ := ihc.operand_append_inj h
      obtain ⟨rfl, hoperand⟩ := operatorWord_append_inj (List.cons.inj hword).2
      obtain ⟨rfl, rfl⟩ := ihd.operand_append_inj hoperand
      exact ⟨rfl, rfl⟩

end Contents

/-! ### Equal contents, equal outcome -/

namespace Tree

/-- The address of the node at the end of a path from the top. -/
def idAt? : Tree → List Side → Option NodeId
  | T, [] => some T.id
  | .unary _ _ c, .left :: path => c.idAt? path
  | .binary _ _ l _, .left :: path => l.idAt? path
  | .binary _ _ _ r, .right :: path => r.idAt? path
  | _, _ => none

@[simp] theorem idAt?_nil (T : Tree) : T.idAt? [] = some T.id := by cases T <;> rfl

/-- Two trees with the same value, or with the same error in the same place. -/
inductive SameOutcome (T T' : Tree) : Prop
  /-- Both have the value. -/
  | value {x : Trit} (h : T.eval = .ok x) (h' : T'.eval = .ok x)
  /-- Both fail for the same reason, at the end of the same path. -/
  | fault {e : EvalError} {c : NodeId} (path : List Side) (h : T.eval = .error e)
      (h' : T'.eval = .error (e.rename fun _ => c)) (hat : T.idAt? path = some e.node)
      (hat' : T'.idAt? path = some c)

namespace SameOutcome

/-- Two trees that fail for the same reason at their topmost nodes. -/
theorem top {T T' : Tree} {e : EvalError} (h : T.eval = .error e)
    (h' : T'.eval = .error (e.rename fun _ => T'.id)) (hid : T.id = e.node) :
    T.SameOutcome T' :=
  .fault [] h h' (by rw [idAt?_nil, hid]) T'.idAt?_nil

/-- The outcome of a leaf is made from its content. -/
theorem leaf {i j : Nat} {s s' : Slot Trit} (hs : s'.content? = s.content?) :
    (Tree.leaf i s).SameOutcome (.leaf j s') := by
  cases hx : s.content? with
  | none =>
    refine .top (e := .emptyValue (.value i)) (by rw [eval, hx]) ?_ rfl
    rw [eval, hs, hx]
    rfl
  | some x => exact .value (eval_leaf_eq_ok_iff.mpr hx) (eval_leaf_eq_ok_iff.mpr (hs.trans hx))

variable {i j : Nat} {s s' : Slot Operator} {op : Operator} {c c' l l' r r' : Tree}

/-- The outcome of a negation is that of its operand. -/
theorem negation (hs : s.content? = some op) (hs' : s'.content? = some op)
    (hnot : op.connective? = none) (hc : c.SameOutcome c') :
    (Tree.unary i s c).SameOutcome (.unary j s' c') := by
  have heval := eval_unary_of_connective?_eq_none i c hs hnot
  have heval' := eval_unary_of_connective?_eq_none j c' hs' hnot
  cases hc with
  | value h h' => exact .value (by rw [heval, h]; rfl) (by rw [heval', h']; rfl)
  | fault path h h' hat hat' =>
    exact .fault (.left :: path) (by rw [heval, h]; rfl) (by rw [heval', h']; rfl) hat hat'

/-- The outcome of a connective is made from those of its operands, the left one first. -/
theorem connective {f : Trit → Trit → Trit} (hs : s.content? = some op)
    (hs' : s'.content? = some op) (hf : op.connective? = some f) (hl : l.SameOutcome l')
    (hr : r.SameOutcome r') : (Tree.binary i s l r).SameOutcome (.binary j s' l' r') := by
  have heval := eval_binary_of_connective?_eq_some i l r hs hf
  have heval' := eval_binary_of_connective?_eq_some j l' r' hs' hf
  cases hl with
  | fault path h h' hat hat' =>
    exact .fault (.left :: path) (by rw [heval, h]; rfl) (by rw [heval', h']; rfl) hat hat'
  | value hx hx' =>
    rw [hx] at heval
    rw [hx'] at heval'
    cases hr with
    | value h h' => exact .value (by rw [heval, h]; rfl) (by rw [heval', h']; rfl)
    | fault path h h' hat hat' =>
      exact .fault (.right :: path) (by rw [heval, h]; rfl) (by rw [heval', h']; rfl) hat hat'

/-- The outcome of a node with one child is made from its content and the child's outcome. -/
theorem unary (hs : s'.content? = s.content?) (hc : c.SameOutcome c') :
    (Tree.unary i s c).SameOutcome (.unary j s' c') := by
  cases hop : s.content? with
  | none =>
    refine .top (e := .emptyOperator (.operator i)) (by rw [eval, hop]) ?_ rfl
    rw [eval, hs, hop]
    rfl
  | some op =>
    cases hnot : op.connective? with
    | none => exact .negation hop (hs.trans hop) hnot hc
    | some f =>
      refine .top (e := .malformed (.operator i)) ?_ ?_ rfl
      · simp only [eval, hop, hnot]
      · simp only [eval, hs, hop, hnot]
        rfl

/-- The outcome of a node with two children is made from its content and their outcomes. -/
theorem binary (hs : s'.content? = s.content?) (hl : l.SameOutcome l')
    (hr : r.SameOutcome r') : (Tree.binary i s l r).SameOutcome (.binary j s' l' r') := by
  cases hop : s.content? with
  | none =>
    refine .top (e := .emptyOperator (.operator i)) (by rw [eval, hop]) ?_ rfl
    rw [eval, hs, hop]
    rfl
  | some op =>
    cases hf : op.connective? with
    | some f => exact .connective hop (hs.trans hop) hf hl hr
    | none =>
      refine .top (e := .malformed (.operator i)) ?_ ?_ rfl
      · simp only [eval, hop, hf]
      · simp only [eval, hs, hop, hf]
        rfl

end SameOutcome

/-- **The contents alone make the outcome.** -/
theorem sameOutcome_of_contents {T T' : Tree} (h : T.contents = T'.contents) :
    T.SameOutcome T' := by
  induction T generalizing T' with
  | missing id =>
    cases T' <;> simp only [contents, reduceCtorEq] at h
    case missing id' => exact .top (e := .malformed id) rfl rfl rfl
  | leaf i s =>
    cases T' <;> simp only [contents, reduceCtorEq, Contents.leaf.injEq] at h
    case leaf j s' => exact .leaf h.symm
  | unary i s c ih =>
    cases T' <;> simp only [contents, reduceCtorEq, Contents.unary.injEq] at h
    case unary j s' c' => exact .unary h.1.symm (ih h.2)
  | binary i s l r ihl ihr =>
    cases T' <;> simp only [contents, reduceCtorEq, Contents.binary.injEq] at h
    case binary j s' l' r' => exact .binary h.1.symm (ihl h.2.1) (ihr h.2.2)

end Tree

/-! ### The written form of a puzzle -/

namespace Template

theorem toList_written (t : Template) :
    (t.written false).toList =
      (t.tree t.root).contents.chars ++ [' ', '=', ' ', leafMark (some t.answer)] := by
  have hequals : " = ".toList = [' ', '=', ' '] := rfl
  have hanswer : t.answer.text.toList = [leafMark (some t.answer)] := by
    cases t.answer <;> rfl
  rw [written, String.toList_append, String.toList_append, Tree.toList_written, hequals, hanswer]
  simp

/-- **Puzzles are written alike exactly when they have the same contents and answer.** -/
theorem written_eq_iff {t t' : Template} :
    t.written false = t'.written false ↔
      t.answer = t'.answer ∧ (t.tree t.root).contents = (t'.tree t'.root).contents := by
  rw [← String.toList_inj, toList_written, toList_written]
  constructor
  · intro h
    obtain ⟨hcontents, hanswer⟩ := Contents.readable _ _ _ _ (.answer _) (.answer _) h
    have hmark : leafMark (some t.answer) = leafMark (some t'.answer) := by simpa using hanswer
    exact ⟨Option.some.inj (leafMark_injective hmark), hcontents⟩
  · rintro ⟨hanswer, hcontents⟩
    rw [hanswer, hcontents]

/-- **Two puzzles in play are written alike exactly when they have the same contents and
the same answer**, whatever the addresses of their nodes and whatever is locked.  Then
evaluation has the same outcome: the same trit, or the same error in the same place. -/
theorem written_eq_iff_of_inPlay {t t' : Template} (h : t.InPlay) (h' : t'.InPlay) :
    t.Unfolds t.root (t.tree t.root) ∧ t'.Unfolds t'.root (t'.tree t'.root) ∧
    (t.written false = t'.written false ↔
      t.answer = t'.answer ∧ (t.tree t.root).contents = (t'.tree t'.root).contents) ∧
    (t.written false = t'.written false →
      (t.tree t.root).SameOutcome (t'.tree t'.root)) := by
  have hT := h.arboreal.unfolds_tree h.arboreal.has_root
  have hT' := h'.arboreal.unfolds_tree h'.arboreal.has_root
  refine ⟨hT, hT', written_eq_iff, fun halike => ?_⟩
  obtain ⟨-, hcontents⟩ := written_eq_iff.mp halike
  exact Tree.sameOutcome_of_contents hcontents

/-- Both are written `(NOT ?) AND 1 = 2`: one with all but a leaf locked, the other with
its leaves created from right to left, nothing locked, and the rest filled in play. -/
theorem written_eq_iff_of_inPlay_negation :
    let t : Template := {
      root := .operator 1
      answer := .true
      values := [.unset, .locked .neutral]
      operators := [{ slot := .locked .not, left := .value 0, right := none },
        { slot := .locked .and, left := .operator 0, right := some (.value 1) }] }
    let t' : Template := {
      root := .operator 1
      answer := .true
      values := [.unset, .unset]
      operators := [{ slot := .unset, left := .value 1, right := none },
        { slot := .unset, left := .operator 0, right := some (.value 0) }] }
    let u' := t'.play [.setOperator 0 .not, .event (.setOperator 1 .and), .setValue 0 .neutral]
    (Assembly.run [.openValue, .lockedValue .neutral, .operator (.locked .not) (.value 0) none,
        .operator (.locked .and) (.operator 0) (some (.value 1))]).finish (.operator 1) .true =
      .ok t ∧
    (Assembly.run [.openValue, .openValue, .operator .unset (.value 1) none,
        .operator .unset (.operator 0) (some (.value 0))]).finish (.operator 1) .true = .ok t' ∧
    t.written false = u'.written false ∧ t.eval = .error (.emptyValue (.value 0)) ∧
    u'.eval = .error (.emptyValue (.value 1)) ∧
    (t.tree t.root).SameOutcome (u'.tree u'.root) := by
  intro t t' u'
  have hfinish : (Assembly.run [.openValue, .lockedValue .neutral,
      .operator (.locked .not) (.value 0) none,
      .operator (.locked .and) (.operator 0) (some (.value 1))]).finish (.operator 1) .true =
    .ok t := by decide
  have hfinish' : (Assembly.run [.openValue, .openValue, .operator .unset (.value 1) none,
      .operator .unset (.operator 0) (some (.value 0))]).finish (.operator 1) .true =
    .ok t' := by decide
  obtain ⟨-, -, hiff, houtcome⟩ := written_eq_iff_of_inPlay ((Built.finish hfinish).inPlay [])
    ((Built.finish hfinish').inPlay
      [.setOperator 0 .not, .event (.setOperator 1 .and), .setValue 0 .neutral])
  have halike : t.written false = u'.written false := hiff.mpr (by decide)
  exact ⟨hfinish, hfinish', halike, by decide, by decide, houtcome halike⟩

end Template

end TritPuzzle
