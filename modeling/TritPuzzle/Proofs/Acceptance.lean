import TritPuzzle.Proofs.Assembling

/-!
# When an assembly is accepted

An assembly is finished without a walk through its nodes: the root is looked up among
the marks, and a second unmarked node is looked for.  Here it is said what this decides
about the nodes themselves.  In a forest a node without a parent is below no other
node, and when the root is the only one, every node is below it; so the assemblies
that are accepted are the trees, and the error names what keeps the others from
being one.

## Main definitions

* `Assembly.Has`, `Assembly.Free` — a node exists, and has no parent, said without the
  marks.

## Main results

* `Forest.parented?_eq_none_iff`, `Forest.parented?_eq_true_iff`,
  `Forest.parented?_eq_false_iff` — what a mark tells about its node.
* `rootFault?_eq_some_iff` — the three ways to refuse a root, in the order in which they
  are looked at.
* `finish_run` — **an assembly is accepted exactly when all its nodes form one tree under
  the root, and its errors are true.**
-/

namespace TritPuzzle

namespace Assembly

variable {a : Assembly} {root id : NodeId}

/-- The node at an address exists. -/
def Has (a : Assembly) : NodeId → Prop
  | .value i => i < a.values.length
  | .operator i => i < a.operators.length

/-- The node exists and is nobody's child. -/
def Free (a : Assembly) (id : NodeId) : Prop :=
  a.Has id ∧ ∀ p, ¬ IsParent a.operators p id

theorem has_iff_mem_addresses :
    a.Has id ↔ id ∈ addresses a.values.length a.operators.length := by
  cases id <;> simp [Has]

/-- No other node has a parentless node below it. -/
theorem Free.eq_of_reaches (h : a.Free id) (hreach : Reaches a.operators root id) :
    id = root := by
  rcases hreach.cases_tail with heq | ⟨p, -, hp⟩
  · exact heq
  · exact absurd hp (h.2 p)

/-! ### What the marks tell -/

namespace Forest

theorem parented?_eq_none_iff (h : a.Forest) : a.parented? id = none ↔ ¬ a.Has id := by
  rw [has_iff_mem_addresses, ← h.parented_isSome_iff, Option.not_isSome_iff_eq_none]

theorem parented?_eq_true_iff (h : a.Forest) :
    a.parented? id = some true ↔ ∃ p, IsParent a.operators p id := by
  rw [h.parented_iff, mem_links_iff_isParent]

theorem parented?_eq_false_iff (h : a.Forest) : a.parented? id = some false ↔ a.Free id := by
  rw [Free, has_iff_mem_addresses, ← h.parented_isSome_iff, ← not_exists,
    ← h.parented?_eq_true_iff]
  cases a.parented? id with
  | none => simp
  | some b => cases b <;> simp

/-- A child exists. -/
theorem has_of_isParent (h : a.Forest) {p : NodeId} (hp : IsParent a.operators p id) :
    a.Has id := by
  have hmark : a.parented? id = some true := h.parented?_eq_true_iff.mpr ⟨p, hp⟩
  exact has_iff_mem_addresses.mpr (h.mem_addresses_of_parented hmark)

end Forest

/-! ### Refused roots -/

/-- A root that does not exist is refused first, then one that has a parent, then the
first other node without a parent. -/
theorem rootFault?_eq_some_iff {e : AssemblyError} :
    a.rootFault? root = some e ↔
      a.parented? root = none ∧ e = .unknownNode root ∨
      a.parented? root = some true ∧ e = .rootHasParent root ∨
      a.parented? root = some false ∧
        ∃ n, a.orphans.find? (· ≠ root) = some n ∧ e = .unreachable n := by
  unfold rootFault?
  cases a.parented? root with
  | none => simp [eq_comm]
  | some b =>
    cases b with
    | true => simp [eq_comm]
    | false => simp [Option.map_eq_some_iff, @eq_comm _ e]

/-- The node that is reported as unreachable has no parent and is not the root. -/
theorem of_find_orphans {n : NodeId} (h : a.orphans.find? (· ≠ root) = some n) :
    a.parented? n = some false ∧ n ≠ root :=
  ⟨mem_orphans.mp (List.mem_of_find?_eq_some h), by simpa using List.find?_some h⟩

theorem finish_eq_error_iff {answer : Trit} {e : AssemblyError} :
    a.finish root answer = .error e ↔ a.rootFault? root = some e := by
  unfold finish
  cases a.rootFault? root <;> simp

/-! ### Accepted roots -/

/-- **In a forest the root is the only parentless node exactly when every node is below
it.**  A stray subtree, however deep, has a parentless node on top. -/
theorem Forest.exists_finish_iff (h : a.Forest) (answer : Trit) :
    (∃ t, a.finish root answer = .ok t) ↔
      a.Free root ∧ ∀ id, a.Has id → Reaches a.operators root id := by
  constructor
  · rintro ⟨t, ht⟩
    obtain ⟨hroot, rfl⟩ := finish_eq_ok_iff.mp ht
    refine ⟨h.parented?_eq_false_iff.mp ((rootFault?_eq_none_iff.mp hroot root).mpr rfl), ?_⟩
    intro id hid
    refine (h.arboreal ht).reaches_root ?_
    cases id with
    | value i => exact hid
    | operator i => exact hid
  · rintro ⟨hfree, hreach⟩
    have hroot : a.rootFault? root = none := by
      refine rootFault?_eq_none_iff.mpr fun id => ?_
      constructor
      · intro hid
        have hidFree : a.Free id := h.parented?_eq_false_iff.mp hid
        exact hidFree.eq_of_reaches (hreach id hidFree.1)
      · rintro rfl
        exact h.parented?_eq_false_iff.mpr hfree
    exact ⟨_, finish_eq_ok_iff.mpr ⟨hroot, rfl⟩⟩

/-! ### The errors -/

theorem Forest.unknownNode_iff (h : a.Forest) (answer : Trit) :
    a.finish root answer = .error (.unknownNode root) ↔ ¬ a.Has root := by
  rw [finish_eq_error_iff, rootFault?_eq_some_iff, ← h.parented?_eq_none_iff]
  simp

theorem Forest.rootHasParent_iff (h : a.Forest) (answer : Trit) :
    a.finish root answer = .error (.rootHasParent root) ↔
      a.Has root ∧ ∃ p, IsParent a.operators p root := by
  have hhas : (∃ p, IsParent a.operators p root) → a.Has root :=
    fun ⟨_, hp⟩ => h.has_of_isParent hp
  rw [finish_eq_error_iff, rootFault?_eq_some_iff, and_iff_right_of_imp hhas,
    ← h.parented?_eq_true_iff]
  simp

/-- An error that does not concern the root names a node that is in the way: it has no
parent, and so it is not below the root. -/
theorem Forest.error_cases (h : a.Forest) {answer : Trit} {e : AssemblyError}
    (he : a.finish root answer = .error e) :
    e = .unknownNode root ∨ e = .rootHasParent root ∨
      ∃ n, e = .unreachable n ∧ a.Free n ∧ n ≠ root ∧ ¬ Reaches a.operators root n := by
  rcases rootFault?_eq_some_iff.mp (finish_eq_error_iff.mp he) with
    ⟨-, rfl⟩ | ⟨-, rfl⟩ | ⟨-, n, hn, rfl⟩
  · exact Or.inl rfl
  · exact Or.inr (Or.inl rfl)
  · obtain ⟨hmark, hne⟩ := of_find_orphans hn
    have hfree : a.Free n := h.parented?_eq_false_iff.mp hmark
    exact Or.inr (Or.inr ⟨n, rfl, hfree, hne, fun hreach => hne (hfree.eq_of_reaches hreach)⟩)

/-- **The assemblies that are accepted are the trees.**  After any run of calls and for
any root and answer, the assembly is finished exactly when the root exists, is nobody's
child and has every node below it.  A root is reported as unknown exactly when it does
not exist, and as a child exactly when it exists and is one; the only other error names
an existing node without a parent that is not the root and not below it. -/
theorem finish_run (steps : List AssemblyStep) (root : NodeId) (answer : Trit) :
    let a := run steps
    ((∃ t, a.finish root answer = .ok t) ↔
      a.Has root ∧ (∀ p, ¬ IsParent a.operators p root) ∧
        ∀ id, a.Has id → Reaches a.operators root id) ∧
    (a.finish root answer = .error (.unknownNode root) ↔ ¬ a.Has root) ∧
    (a.finish root answer = .error (.rootHasParent root) ↔
      a.Has root ∧ ∃ p, IsParent a.operators p root) ∧
    ∀ e, a.finish root answer = .error e →
      e = .unknownNode root ∨ e = .rootHasParent root ∨
        ∃ n, e = .unreachable n ∧ (a.Has n ∧ ∀ p, ¬ IsParent a.operators p n) ∧ n ≠ root ∧
          ¬ Reaches a.operators root n := by
  intro a
  have h : a.Forest := forest_run steps
  refine ⟨?_, h.unknownNode_iff answer, h.rootHasParent_iff answer, fun e he => h.error_cases he⟩
  rw [h.exists_finish_iff answer, Free, and_assoc]

/-- A stray subtree is reported by its top, not by its leaves. -/
theorem finish_run_apart :
    let steps : List AssemblyStep := [.openValue, .openValue, .operator .unset (.value 0) none]
    let a := run steps
    a.finish (.value 1) .true = .error (.unreachable (.operator 0)) ∧
      a.Has (.operator 0) ∧ (∀ p, ¬ IsParent a.operators p (.operator 0)) ∧
        ¬ Reaches a.operators (.value 1) (.operator 0) := by
  intro steps a
  have herror : a.finish (.value 1) .true = .error (.unreachable (.operator 0)) := by decide
  obtain ⟨-, -, -, hfault⟩ := finish_run steps (.value 1) .true
  obtain h | h | ⟨n, hn, ⟨hhas, hfree⟩, -, hreach⟩ := hfault _ herror
  · cases h
  · cases h
  · obtain rfl := AssemblyError.unreachable.inj hn
    exact ⟨herror, hhas, hfree, hreach⟩

end Assembly

end TritPuzzle
