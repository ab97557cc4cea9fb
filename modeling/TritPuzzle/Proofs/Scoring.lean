import TritPuzzle.Proofs.Completeness
import TritPuzzle.Proofs.Histories

/-!
# Wrong answers in a run

A scorer is used for many puzzles, submitted in any state of their play, and is reset
now and then.  Its count is that of the wrong answers since the last reset, and every so
many of these are flagged.  Its verdict is the one that the other ways to evaluate a
puzzle come to.

## Main definitions

* `ScorerCall`, `Scorer.perform`, `Scorer.run` — a call on a scorer, and a run of calls.
* `Scorer.sinceReset` — the calls of a run after its last reset.
* `Scorer.Judges` — all that a submission can come to.
* `Scorer.Agrees` — a verdict agrees with the evaluation, the readout and the count.

## Main results

* `submit_eq_ok_iff` — a submission comes to one of these.
* `errors_run`, `flags_run` — the count and the flags of a run.
* `errors_run_of_inPlay` — **a scorer counts the wrong answers since the last reset and
  flags every so many of them**, and its verdicts agree with the evaluation.
-/

namespace TritPuzzle

/-- Is the puzzle filled, and its value not its answer? -/
def Template.isWrong (t : Template) : Bool := t.isComplete && t.result?.any (· ≠ t.answer)

/-- Is a wrong answer flagged?  `none` for any other verdict. -/
def Verdict.flag? : Verdict → Option Bool
  | .incorrect _ _ flagged => some flagged
  | _ => none

/-- A call on a scorer. -/
inductive ScorerCall where
  /-- A puzzle is submitted. -/
  | submit (t : Template)
  /-- The count goes back to zero. -/
  | reset
  deriving DecidableEq, Repr

namespace ScorerCall

/-- Does the call reset the count? -/
def isReset : ScorerCall → Bool
  | .submit _ => false
  | .reset => true

/-- Does the call submit a wrong answer? -/
def isWrong : ScorerCall → Bool
  | .submit t => t.isWrong
  | .reset => false

end ScorerCall

namespace Scorer

/-- The scorer after a call.  A submission that fails leaves it as it was. -/
def perform (s : Scorer) : ScorerCall → Scorer
  | .submit t =>
    match s.submit t with
    | .ok (_, s') => s'
    | .error _ => s
  | .reset => s.reset

/-- The scorer after a run of calls. -/
def run (s : Scorer) (calls : List ScorerCall) : Scorer := calls.foldl perform s

/-- The calls of a run after its last reset, each with the scorer that it is made on. -/
def sinceReset (config : ScoringConfig) (calls : List ScorerCall) : List (Scorer × ScorerCall) :=
  historySince ScorerCall.isReset perform (new config) calls

/-- The flag of the answer that a call submits, if the verdict is that it is wrong. -/
def flag? (s : Scorer) : ScorerCall → Option Bool
  | .submit t =>
    match s.submit t with
    | .ok (v, _) => v.flag?
    | .error _ => none
  | .reset => none

/-- The flags of the wrong answers since the last reset. -/
def flags (config : ScoringConfig) (calls : List ScorerCall) : List Bool :=
  (sinceReset config calls).filterMap fun x => x.1.flag? x.2

/-! ### One submission -/

/-- All that a submission can come to. -/
inductive Judges (s : Scorer) (t : Template) : Verdict → Scorer → Prop
  /-- The value is the answer. -/
  | correct (h : t.eval = .ok t.answer) : Judges s t .correct s
  /-- The value is not the answer, and is counted. -/
  | incorrect {x : Trit} (h : t.eval = .ok x) (hne : x ≠ t.answer) :
      Judges s t (.incorrect x (s.errors + 1) (s.config.flags (s.errors + 1)))
        { s with errors := s.errors + 1 }
  /-- A slot is empty. -/
  | incomplete {e : EvalError} (h : t.eval = .error e) (hempty : e.isIncomplete = true) :
      Judges s t (.incomplete e) s

/-- **A submission that succeeds comes to one of these.** -/
theorem submit_eq_ok_iff {s s' : Scorer} {t : Template} {v : Verdict} :
    s.submit t = .ok (v, s') ↔ s.Judges t v s' := by
  constructor
  · intro h
    unfold submit at h
    cases hx : t.eval with
    | ok x =>
      by_cases hne : x = t.answer
      · simp only [hx, hne, if_true, Except.ok.injEq, Prod.mk.injEq] at h
        obtain ⟨rfl, rfl⟩ := h
        exact .correct (hne ▸ hx)
      · simp only [hx, hne, if_false, Except.ok.injEq, Prod.mk.injEq] at h
        obtain ⟨rfl, rfl⟩ := h
        exact .incorrect hx hne
    | error e =>
      cases he : e.isIncomplete with
      | false => simp [hx, he] at h
      | true =>
        simp only [hx, he, if_true, Except.ok.injEq, Prod.mk.injEq] at h
        obtain ⟨rfl, rfl⟩ := h
        exact .incomplete hx he
  · intro h
    cases h with
    | correct h => simp [submit, h]
    | incorrect h hne => simp [submit, h, hne]
    | incomplete h hempty => simp [submit, h, hempty]

/-- A puzzle in play is always judged. -/
theorem exists_judges {t : Template} (h : t.InPlay) (s : Scorer) :
    ∃ v s', s.submit t = .ok (v, s') ∧ s.Judges t v s' := by
  obtain ⟨v, s', hs, -⟩ := h.arboreal.submit h.fits s
  exact ⟨v, s', hs, submit_eq_ok_iff.mp hs⟩

/-- A filled puzzle in play is wrong when its value is not its answer. -/
theorem isWrong_iff {t : Template} (h : t.InPlay) :
    t.isWrong = true ↔ ∃ x, t.eval = .ok x ∧ x ≠ t.answer := by
  rw [Template.isWrong, Bool.and_eq_true, h.arboreal.isComplete_iff_eval h.fits,
    Template.result?]
  cases t.eval <;> simp [Except.toOption]

/-- Is the wrong answer with the given number flagged? -/
theorem flags_eq_true_iff {c : ScoringConfig} {count : Nat} :
    c.flags count = true ↔ c.hintEvery ≠ 0 ∧ c.hintEvery.toNat ∣ count := by
  simp [ScoringConfig.flags, Nat.dvd_iff_mod_eq_zero]

/-- A verdict agrees with the evaluation, the readout and the count. -/
structure Agrees (s : Scorer) (t : Template) (v : Verdict) (s' : Scorer) : Prop where
  /-- The puzzle is solved. -/
  solved : v = .correct ↔ t.isSolved = .ok true
  /-- The readout shows the answer. -/
  answer : v = .correct ↔ t.result? = some t.answer
  /-- The puzzle is filled and not solved. -/
  unsolved : (∃ x count flagged, v = .incorrect x count flagged) ↔ t.isSolved = .ok false
  /-- The value is wrong. -/
  wrong : (∃ x count flagged, v = .incorrect x count flagged) ↔ t.isWrong = true
  /-- The evaluation stops at an empty slot. -/
  incomplete : ∀ e, v = .incomplete e ↔ t.isSolved = .error e
  /-- A wrong answer is counted, shown as the readout does, and flagged if its turn has
  come. -/
  counted : ∀ x count flagged, v = .incorrect x count flagged →
    count = s.errors + 1 ∧ s'.errors = count ∧ t.result? = some x ∧
      (flagged = true ↔ s.config.hintEvery ≠ 0 ∧ s.config.hintEvery.toNat ∣ count)
  /-- Nothing else is counted. -/
  uncounted : (¬ ∃ x count flagged, v = .incorrect x count flagged) → s' = s

/-- **The verdict on a puzzle in play agrees with all other evaluations of it.** -/
theorem Judges.agrees {s s' : Scorer} {t : Template} {v : Verdict} (h : s.Judges t v s')
    (ht : t.InPlay) : s.Agrees t v s' := by
  have hwrong := isWrong_iff ht
  cases h with
  | correct h =>
    have hsolved : t.isSolved = .ok true := by simp [Template.isSolved, h, Except.map]
    have hresult : t.result? = some t.answer := by rw [Template.result?, h]; rfl
    constructor <;> simp [hsolved, hresult, hwrong, h]
  | @incorrect x h hne =>
    have hsolved : t.isSolved = .ok false := by simp [Template.isSolved, h, hne, Except.map]
    have hresult : t.result? = some x := by rw [Template.result?, h]; rfl
    constructor <;> simp [hsolved, hresult, hwrong, h, hne, flags_eq_true_iff]
  | @incomplete e h hempty =>
    have hsolved : t.isSolved = .error e := by rw [Template.isSolved, h]; rfl
    have hresult : t.result? = none := by rw [Template.result?, h]; rfl
    constructor <;> simp [hsolved, hresult, hwrong, h]

/-- Exactly the wrong answers are counted. -/
theorem Judges.errors_eq {s s' : Scorer} {t : Template} {v : Verdict} (h : s.Judges t v s')
    (ht : t.InPlay) : s'.errors = s.errors + if t.isWrong then 1 else 0 := by
  cases h with
  | correct h => simp [isWrong_iff ht, h]
  | incorrect h hne => simp [isWrong_iff ht, h, hne]
  | incomplete h _ => simp [isWrong_iff ht, h]

/-! ### Runs -/

theorem perform_submit {s s' : Scorer} {t : Template} {v : Verdict}
    (h : s.submit t = .ok (v, s')) : s.perform (.submit t) = s' := by
  rw [perform, h]

theorem flag?_submit {s s' : Scorer} {t : Template} {v : Verdict}
    (h : s.submit t = .ok (v, s')) : s.flag? (.submit t) = v.flag? := by
  rw [flag?, h]

@[simp] theorem run_nil (s : Scorer) : s.run [] = s := rfl

@[simp] theorem run_concat (s : Scorer) (calls : List ScorerCall) (c : ScorerCall) :
    s.run (calls ++ [c]) = (s.run calls).perform c := by
  simp [run]

theorem sinceReset_concat_reset (config : ScoringConfig) (calls : List ScorerCall) :
    sinceReset config (calls ++ [.reset]) = [] := by
  rw [sinceReset, historySince_concat]
  rfl

theorem sinceReset_concat_submit (config : ScoringConfig) (calls : List ScorerCall)
    (t : Template) :
    sinceReset config (calls ++ [.submit t]) =
      sinceReset config calls ++ [((new config).run calls, .submit t)] := by
  rw [sinceReset, historySince_concat]
  rfl

/-- No call changes how wrong answers are dealt with. -/
theorem config_perform (s : Scorer) (c : ScorerCall) : (s.perform c).config = s.config := by
  cases c with
  | reset => rfl
  | submit t =>
    cases hs : s.submit t with
    | error e => rw [perform, hs]
    | ok r =>
      obtain ⟨v, s'⟩ := r
      rw [perform_submit hs]
      cases submit_eq_ok_iff.mp hs <;> rfl

@[simp] theorem config_run (s : Scorer) (calls : List ScorerCall) :
    (s.run calls).config = s.config := by
  induction calls using List.reverseRecOn with
  | nil => rfl
  | append_singleton calls c ih => rw [run_concat, config_perform, ih]

section

variable {config : ScoringConfig} {calls : List ScorerCall}

/-- **The count is that of the wrong answers since the last reset.** -/
theorem errors_run (h : ∀ t, .submit t ∈ calls → t.InPlay) :
    ((new config).run calls).errors = (sinceReset config calls).countP (·.2.isWrong) := by
  induction calls using List.reverseRecOn with
  | nil => rfl
  | append_singleton calls c ih =>
    have ih := ih fun t ht => h t (List.mem_append_left _ ht)
    cases c with
    | reset =>
      rw [run_concat, sinceReset_concat_reset]
      rfl
    | submit t =>
      have ht : t.InPlay := h t (by simp)
      obtain ⟨v, s', hs, hjudges⟩ := exists_judges ht ((new config).run calls)
      rw [run_concat, perform_submit hs, sinceReset_concat_submit, List.countP_append, ← ih,
        List.countP_singleton]
      exact hjudges.errors_eq ht

/-- The wrong answers since the last reset are flagged as their numbers say. -/
theorem flags_run (h : ∀ t, .submit t ∈ calls → t.InPlay) :
    flags config calls =
      (List.range ((new config).run calls).errors).map fun i => config.flags (i + 1) := by
  induction calls using List.reverseRecOn with
  | nil => rfl
  | append_singleton calls c ih =>
    have ih := ih fun t ht => h t (List.mem_append_left _ ht)
    cases c with
    | reset =>
      rw [run_concat, flags, sinceReset_concat_reset]
      rfl
    | submit t =>
      obtain ⟨v, s', hs, hjudges⟩ := exists_judges (h t (by simp)) ((new config).run calls)
      rw [flags] at ih ⊢
      rw [run_concat, perform_submit hs, sinceReset_concat_submit, List.filterMap_append, ih]
      simp only [List.filterMap_cons, List.filterMap_nil, flag?_submit hs]
      cases hjudges with
      | correct h => simp [Verdict.flag?]
      | incorrect h hne => simp [Verdict.flag?, List.range_succ, new]
      | incomplete h _ => simp [Verdict.flag?]

/-- Of the first so many wrong answers every `hintEvery`th is flagged. -/
theorem count_flags (config : ScoringConfig) (k : Nat) :
    ((List.range k).map fun i => config.flags (i + 1)).count true =
      if config.hintEvery = 0 then 0 else k / config.hintEvery.toNat := by
  induction k with
  | zero => simp
  | succ k ih =>
    have hflag : config.flags (k + 1) = true ↔ _ := flags_eq_true_iff
    rw [List.range_succ, List.map_append, List.count_append, ih]
    by_cases hnever : config.hintEvery = 0
    · simp [hnever, ScoringConfig.flags]
    · simp only [hnever, if_false, Nat.succ_div]
      by_cases hdvd : config.hintEvery.toNat ∣ k + 1
      · simp [hflag.mpr ⟨hnever, hdvd⟩, hdvd]
      · have hunflagged : config.flags (k + 1) = false :=
          Bool.eq_false_iff.mpr fun hf => hdvd (hflag.mp hf).2
        simp [hunflagged, hdvd]

end

/-- **A scorer counts the wrong answers since the last reset and flags every so many of
them**: among the first `k` of them as many as `hintEvery` goes into `k`, and none if that
is zero.  The next puzzle in play that is submitted gets a verdict, which agrees with the
evaluation of the puzzle, with its readout and with the count. -/
theorem errors_run_of_inPlay (config : ScoringConfig) (calls : List ScorerCall)
    (h : ∀ t, .submit t ∈ calls → t.InPlay) :
    let s := (new config).run calls
    s.config = config ∧
    s.errors = (sinceReset config calls).countP (·.2.isWrong) ∧
    (flags config calls).length = s.errors ∧
    (∀ k ≤ s.errors, ((flags config calls).take k).count true =
      if config.hintEvery = 0 then 0 else k / config.hintEvery.toNat) ∧
    ∀ t : Template, t.InPlay → ∃ v s', s.submit t = .ok (v, s') ∧
      (new config).run (calls ++ [.submit t]) = s' ∧ s.Agrees t v s' := by
  intro s
  refine ⟨config_run _ _, errors_run h, by simp [flags_run h, s], fun k hk => ?_,
    fun t ht => ?_⟩
  · rw [flags_run h, ← List.map_take, List.take_range, Nat.min_eq_left hk]
    exact count_flags config k
  · obtain ⟨v, s', hs, hjudges⟩ := exists_judges ht s
    exact ⟨v, s', hs, by rw [run_concat, perform_submit hs], hjudges.agrees ht⟩

/-- A disjunction that is submitted filled wrongly three times after a reset and empty in
between, with a hint every two wrong answers. -/
theorem errors_run_of_inPlay_disjunction :
    let t : Template := {
      root := .operator 0
      answer := .true
      values := [.locked .neutral, .unset]
      operators := [{ slot := .locked .or, left := .value 0, right := some (.value 1) }] }
    let wrong := t.play [.setValue 1 .false]
    let calls : List ScorerCall :=
      [.submit wrong, .reset, .submit wrong, .submit t, .submit wrong, .submit wrong]
    let config : ScoringConfig := { hintEvery := 2 }
    let s := (new config).run calls
    (∀ u, .submit u ∈ calls → u.InPlay) ∧ s.errors = 3 ∧
    flags config calls = [false, true, false] ∧
    s.config = config ∧
    s.errors = (sinceReset config calls).countP (·.2.isWrong) ∧
    (flags config calls).length = s.errors ∧
    (∀ k ≤ s.errors, ((flags config calls).take k).count true =
      if config.hintEvery = 0 then 0 else k / config.hintEvery.toNat) ∧
    ∀ u : Template, u.InPlay → ∃ v s', s.submit u = .ok (v, s') ∧
      (new config).run (calls ++ [.submit u]) = s' ∧ s.Agrees u v s' := by
  intro t wrong calls config s
  have hfinish : (Assembly.run [.lockedValue .neutral, .openValue,
      .operator (.locked .or) (.value 0) (some (.value 1))]).finish (.operator 0) .true =
      .ok t := by decide
  have hbuilt : t.Built := .finish hfinish
  have hcalls : ∀ u, .submit u ∈ calls → u.InPlay := by
    intro u hu
    have hu : u = wrong ∨ u = t := by simpa [calls, or_comm, or_left_comm] using hu
    rcases hu with rfl | rfl
    · exact hbuilt.inPlay _
    · exact hbuilt.inPlay []
  exact ⟨hcalls, by decide, by decide, errors_run_of_inPlay config calls hcalls⟩

end Scorer

end TritPuzzle
