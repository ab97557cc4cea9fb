import TritPuzzle.Proofs.Histories

/-!
# Calls that change a state in place

A function that returns a new state returns none when it fails, and so cannot show what a
call that fails half-way would leave behind.  Here a call is made of steps on a state, each
of which may read it, change it or fail, and a failure keeps whatever has been changed
before it.  A part of the state can be lent to a call on that part; it is put back as that
call leaves it, also where the call fails.

## Main definitions

* `Mutation`, `Mutation.on` — a call that changes a state in place, and its outcome.
* `Mutation.onPart`, `Mutation.onEntry` — a call on a part of the state.
* `inPlace` — what a function that returns a new state says of the call in place.
* `Mutation.transcript` — the answers to a run of calls, and the state they leave.

## Main results

* `on_onEntry` — a setter of an entry in place does what the function on it returns.
* `snd_transcript`, `fst_transcript` — a run of calls, call by call.
* `transcript_without_failed` — where a failing call leaves the state as it was, it can be
  left out of any run.
-/

namespace TritPuzzle

/-- A call that changes a state in place.  What it has changed before a failure stays
changed. -/
abbrev Mutation (σ ε α : Type) := ExceptT ε (StateM σ) α

/-- What a function that returns a new state makes of the old one, which stays if it
fails. -/
def inPlace {σ ε α : Type} (s : σ) : Except ε (α × σ) → Except ε α × σ
  | .ok (x, s') => (.ok x, s')
  | .error e => (.error e, s)

section

variable {σ ε α : Type} {s : σ} {r : Except ε (α × σ)}

theorem fst_inPlace_eq_error_iff {e : ε} : (inPlace s r).1 = .error e ↔ r = .error e := by
  cases r <;> simp [inPlace]

/-- A function that fails stands for a call that has left the state as it was. -/
theorem snd_inPlace_of_error {e : ε} (h : (inPlace s r).1 = .error e) : (inPlace s r).2 = s := by
  rw [fst_inPlace_eq_error_iff.mp h]
  rfl

theorem fst_inPlace_eq_ok_iff {x : α} : (inPlace s r).1 = .ok x ↔ ∃ s', r = .ok (x, s') := by
  cases r <;> simp [inPlace, Prod.ext_iff]

end

namespace Mutation

variable {σ τ ε δ α β : Type} {s s' : σ}

/-- The answer of a call on a state, and the state it leaves. -/
def on (call : Mutation σ ε α) (s : σ) : Except ε α × σ := StateT.run (ExceptT.run call) s

/-! ### Steps -/

/-- Hands on what has been computed, with its failure under another name. -/
def ofExcept (wrap : δ → ε) : Except δ α → Mutation σ ε α
  | .ok x => pure x
  | .error e => throw (wrap e)

/-- Fails unless something has been found. -/
def found (missing : ε) : Option α → Mutation σ ε α
  | none => throw missing
  | some x => pure x

/-- Lends a part of the state to a call, and puts it back as the call leaves it, also where
the call fails.  Its answer is handed on in either case. -/
def onPart (part : τ) (put : σ → τ → σ) (call : Mutation τ δ α) :
    Mutation σ ε (Except δ α) := do
  modify (put · (call.on part).2)
  return (call.on part).1

/-- Lends an entry of a list in the state to a call; fails if there is no such entry. -/
def onEntry (entries : σ → List τ) (put : σ → List τ → σ) (i : Nat) (missing : ε)
    (call : Mutation τ δ α) : Mutation σ ε (Except δ α) := do
  let entry ← found missing (entries (← get))[i]?
  onPart entry (fun s x => put s ((entries s).set i x)) call

/-! ### Running a call -/

@[simp] theorem on_pure (x : α) (s : σ) : on (pure x : Mutation σ ε α) s = (.ok x, s) := rfl

@[simp] theorem on_throw (e : ε) (s : σ) :
    on (throw e : Mutation σ ε α) s = (.error e, s) := rfl

@[simp] theorem on_modify (f : σ → σ) (s : σ) :
    on (modify f : Mutation σ ε Unit) s = (.ok (), f s) := rfl

@[simp] theorem on_get_bind (k : σ → Mutation σ ε β) (s : σ) :
    on (get >>= k) s = (k s).on s := rfl

/-- A call goes on after a success, with the state that is left. -/
theorem on_bind_ok {c : Mutation σ ε α} {k : α → Mutation σ ε β} {x : α}
    (h : c.on s = (.ok x, s')) : on (c >>= k) s = (k x).on s' := by
  have hrun : StateT.run (ExceptT.run c) s = (.ok x, s') := h
  rw [on, ExceptT.run_bind, StateT.run_bind, hrun]
  rfl

/-- A call stops at a failure, with the state that is left. -/
theorem on_bind_error {c : Mutation σ ε α} {k : α → Mutation σ ε β} {e : ε}
    (h : c.on s = (.error e, s')) : on (c >>= k) s = (.error e, s') := by
  have hrun : StateT.run (ExceptT.run c) s = (.error e, s') := h
  rw [on, ExceptT.run_bind, StateT.run_bind, hrun]
  rfl

theorem on_map (f : α → β) (c : Mutation σ ε α) (s : σ) :
    on (f <$> c) s = ((c.on s).1.map f, (c.on s).2) := by
  rw [map_eq_pure_bind]
  rcases h : c.on s with ⟨e | x, s'⟩
  · rw [on_bind_error h]
    rfl
  · rw [on_bind_ok h]
    rfl

theorem on_ofExcept_ok (wrap : δ → ε) (x : α) (s : σ) :
    on (ofExcept wrap (.ok x)) s = (.ok x, s) := on_pure x s

theorem on_ofExcept_error (wrap : δ → ε) (e : δ) (s : σ) :
    on (ofExcept wrap (.error e) : Mutation σ ε α) s = (.error (wrap e), s) :=
  on_throw (wrap e) s

theorem on_found_none (missing : ε) (s : σ) :
    on (found missing none : Mutation σ ε α) s = (.error missing, s) := on_throw missing s

theorem on_found_some (missing : ε) (x : α) (s : σ) :
    on (found missing (some x)) s = (.ok x, s) := on_pure x s

theorem on_onPart (part : τ) (put : σ → τ → σ) (call : Mutation τ δ α) (s : σ) :
    on (onPart part put call : Mutation σ ε (Except δ α)) s =
      (.ok (call.on part).1, put s (call.on part).2) := rfl

/-! ### Setters of entries -/

/-- What a setter makes of a state, given what the function on the entry returns: it fails
if there is no entry, and otherwise answers whether the entry has refused. -/
def answered (missing : ε) (s : σ) : Option (Except δ σ) → Except ε (Except δ Unit) × σ
  | none => (.error missing, s)
  | some (.ok s') => (.ok (.ok ()), s')
  | some (.error e) => (.ok (.error e), s)

/-- **A setter of an entry in place does what the function on it returns**, if the setter
of the entry alone does; an entry that refuses is put back as it was. -/
theorem on_onEntry {entries : σ → List τ} {put : σ → List τ → σ} {i : Nat} {missing : ε}
    {call : Mutation τ δ Unit} {change : τ → Except δ τ}
    (hput : put s (entries s) = s)
    (hcall : ∀ x, call.on x = inPlace x ((change x).map (Prod.mk ()))) :
    on (onEntry entries put i missing call) s =
      answered missing s ((entries s)[i]?.map fun x =>
        (change x).map fun y => put s ((entries s).set i y)) := by
  rw [onEntry, on_get_bind]
  cases hx : (entries s)[i]? with
  | none =>
    rw [on_bind_error (on_found_none missing s)]
    rfl
  | some x =>
    rw [on_bind_ok (on_found_some missing x s), on_onPart, hcall x, Option.map_some]
    cases change x with
    | ok y => rfl
    | error e =>
      obtain ⟨hi, rfl⟩ := List.getElem?_eq_some_iff.mp hx
      simp only [Except.map, inPlace, answered, List.set_getElem_self, hput]

/-! ### Runs of calls -/

/-- The answers to a run of calls on a state, and the state they leave. -/
def transcript (call : β → Mutation σ ε α) : List β → σ → List (Except ε α) × σ
  | [], s => ([], s)
  | c :: cs, s =>
    let rest := transcript call cs ((call c).on s).2
    (((call c).on s).1 :: rest.1, rest.2)

section

variable {call : β → Mutation σ ε α}

theorem length_transcript (call : β → Mutation σ ε α) (cs : List β) (s : σ) :
    (transcript call cs s).1.length = cs.length := by
  induction cs generalizing s with
  | nil => rfl
  | cons c cs ih => rw [transcript, List.length_cons, List.length_cons, ih]

theorem snd_transcript {step : σ → β → σ} (h : ∀ s c, ((call c).on s).2 = step s c)
    (cs : List β) (s : σ) : (transcript call cs s).2 = cs.foldl step s := by
  induction cs generalizing s with
  | nil => rfl
  | cons c cs ih => rw [transcript, List.foldl_cons, ← h, ih]

theorem fst_transcript {step : σ → β → σ} (h : ∀ s c, ((call c).on s).2 = step s c)
    (cs : List β) (s : σ) :
    (transcript call cs s).1 = (history step s cs).map fun x => ((call x.2).on x.1).1 := by
  induction cs generalizing s with
  | nil => rfl
  | cons c cs ih => rw [transcript, history, List.map_cons, ← h, ih]

/-- A run goes on with the state that its first part leaves. -/
theorem transcript_append (call : β → Mutation σ ε α) (cs later : List β) (s : σ) :
    transcript call (cs ++ later) s =
      ((transcript call cs s).1 ++ (transcript call later (transcript call cs s).2).1,
        (transcript call later (transcript call cs s).2).2) := by
  induction cs generalizing s with
  | nil => rfl
  | cons c cs ih => rw [List.cons_append, transcript, ih]; rfl

/-- **A failed call that has left the state as it was can be left out of a run**: all other
calls answer the same, and the same state is left. -/
theorem transcript_without_failed {cs : List β} {c : β}
    (h : ((call c).on (transcript call cs s).2).2 = (transcript call cs s).2)
    (later : List β) :
    (transcript call (cs ++ c :: later) s).1.eraseIdx cs.length =
        (transcript call (cs ++ later) s).1 ∧
      (transcript call (cs ++ c :: later) s).2 = (transcript call (cs ++ later) s).2 := by
  rw [transcript_append, transcript_append, transcript, h]
  refine ⟨?_, rfl⟩
  have hlength := length_transcript call cs s
  rw [List.eraseIdx_append_of_length_le (Nat.le_of_eq hlength), hlength, Nat.sub_self,
    List.eraseIdx_cons_zero]

end

end Mutation

end TritPuzzle
