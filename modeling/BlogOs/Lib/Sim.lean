import BlogOs.Lib.Prog

/-!
# Runs of calls, and their simulation by an abstract operation

A client calls one method again and again on a shared state and looks at each
result; an error result does not end the run, a panic does. `Prog.forEach`
is such a run. An abstract operation `g : A → β → Except ε (α × A)` either fails
and leaves the abstract state alone or returns a value and a new abstract state;
`absRun` is its run.

`forEach_simulates` is the one induction: if a relation between abstract and
concrete states is kept by every call, with the call returning exactly what the
abstract operation returns, then every run of calls returns what the abstract
run returns and ends related.
-/

namespace Prog

variable {ε η σ α β A : Type}

/-- Call `f` on each input in turn, collecting each call's result. -/
def forEach (f : β → Prog ε σ α) : List β → Prog η σ (List (Except ε α))
  | [] => pure []
  | b :: bs => do
    let r ← (f b).attempt
    let rs ← forEach f bs
    pure (r :: rs)

theorem forEach_cons_apply (f : β → Prog ε σ α) (b : β) (bs : List β) {s s₁ : σ}
    {r : Except ε α} (h : ((f b).attempt : Prog η σ (Except ε α)) s = .ok r s₁) :
    (forEach f (b :: bs) : Prog η σ (List (Except ε α))) s =
      (forEach f bs s₁).bind fun rs => pure (r :: rs) := by
  rw [forEach, bind_apply, h, Outcome.bind_ok, bind_apply]

end Prog

/-- One call of an abstract operation: a failure keeps the state. -/
def absStep {ε α β A : Type} (g : A → β → Except ε (α × A)) (a : A) (b : β) : Except ε α × A :=
  match g a b with
  | .ok (x, a') => (.ok x, a')
  | .error e => (.error e, a)

/-- A run of the abstract operation: the results in call order and the last state. -/
def absRun {ε α β A : Type} (g : A → β → Except ε (α × A)) : A → List β → List (Except ε α) × A
  | a, [] => ([], a)
  | a, b :: bs => ((absStep g a b).1 :: (absRun g (absStep g a b).2 bs).1, (absRun g (absStep g a b).2 bs).2)

namespace Prog

variable {ε η σ α β A : Type}

section Simulation

variable (f : β → Prog ε σ α) (g : A → β → Except ε (α × A)) (R : A → σ → Prop)

/-- A call from related states returns what the abstract operation returns and ends related. -/
def Simulates : Prop :=
  ∀ a b s, R a s → ∃ s', f b s = Outcome.ofExcept (absStep g a b).1 s' ∧ R (absStep g a b).2 s'

/-- **Runs are simulated** once single calls are. -/
theorem forEach_simulates (hsim : Simulates f g R) :
    ∀ (bs : List β) (a : A) (s : σ), R a s →
      ∃ s', (forEach f bs : Prog η σ (List (Except ε α))) s = .ok (absRun g a bs).1 s' ∧
        R (absRun g a bs).2 s' := by
  intro bs
  induction bs with
  | nil =>
    intro a s h
    exact ⟨s, rfl, h⟩
  | cons b bs ih =>
    intro a s h
    obtain ⟨s₁, hcall, h₁⟩ := hsim a b s h
    obtain ⟨s₂, hrun, h₂⟩ := ih (absStep g a b).2 s₁ h₁
    refine ⟨s₂, ?_, h₂⟩
    rw [forEach_cons_apply f b bs (attempt_apply_ofExcept hcall), hrun, Outcome.bind_ok, pure_apply]
    rfl

end Simulation

/-! ## The states a system of steps reaches

A system whose parties act in any order is a family of steps, one per action.
`Reachable step s₀` holds of the states that some sequence of actions leads to
from `s₀` without an error or a panic. Its induction rule is the invariant rule.
-/

section Reach

variable {ι : Type}

/-- The states reached from `s₀` by steps `step a` that returned. -/
inductive Reachable (step : ι → Prog ε σ Unit) (s₀ : σ) : σ → Prop where
  | init : Reachable step s₀ s₀
  | step {s s' : σ} (a : ι) : Reachable step s₀ s → step a s = .ok () s' → Reachable step s₀ s'

/-- **The invariant rule**: what holds initially and is kept by every step
that returns holds in every reachable state. -/
theorem Reachable.induction {step : ι → Prog ε σ Unit} {s₀ : σ} (I : σ → Prop) (h0 : I s₀)
    (hs : ∀ s s' a, Reachable step s₀ s → I s → step a s = .ok () s' → I s')
    {s : σ} (h : Reachable step s₀ s) : I s := by
  induction h with
  | init => exact h0
  | step a hr hstep ih => exact hs _ _ a hr ih hstep

/-- A system whose returning steps are steps of another reaches only what the
other reaches. -/
theorem Reachable.mono {step step' : ι → Prog ε σ Unit} {s₀ s : σ}
    (hstep : ∀ a s s', step a s = .ok () s' → step' a s = .ok () s') (h : Reachable step s₀ s) :
    Reachable step' s₀ s := by
  induction h with
  | init => exact .init
  | step a _ hs ih => exact .step a ih (hstep a _ _ hs)

end Reach

/-! ## Runs of steps, and what they lead to

`runSteps step as` takes the actions `as` in order and stops at the first step
that does not return. Over such runs a liveness fact is proved with a variant:
`V s n` says that at most `n` more steps of a kind that `counts` marks are
needed before `Done`. A step of another kind may not raise the bound, a counted
step lowers it, and a counted step taken at bound `0` reaches `Done`
(`runSteps_reaches`).
-/

section Runs

variable {ι : Type} (step : ι → Prog ε σ Unit)

/-- The steps of the actions `as`, in order. -/
def runSteps : List ι → Prog ε σ Unit
  | [] => pure ()
  | a :: as => do
    step a
    runSteps as

theorem runSteps_cons_apply (a : ι) (as : List ι) (s : σ) :
    runSteps step (a :: as) s = (step a s).bind fun _ => runSteps step as := rfl

/-- A run of `as ++ bs` is the run of `as`, then the run of `bs` from where it ended. -/
theorem runSteps_append (as bs : List ι) (s : σ) :
    runSteps step (as ++ bs) s = (runSteps step as s).bind fun _ => runSteps step bs := by
  induction as generalizing s with
  | nil => rfl
  | cons a as ih =>
    rw [List.cons_append, runSteps_cons_apply, runSteps_cons_apply]
    cases step a s with
    | ok _ s₁ => exact ih s₁
    | err _ _ => rfl
    | panic _ => rfl

theorem runSteps_cons_eq_ok {a : ι} {as : List ι} {s s' : σ}
    (h : runSteps step (a :: as) s = .ok () s') :
    ∃ s₁, step a s = .ok () s₁ ∧ runSteps step as s₁ = .ok () s' := by
  obtain ⟨_, s₁, h₁, h₂⟩ := bind_eq_ok h
  exact ⟨s₁, h₁, h₂⟩

/-- What every step keeps, every run keeps. -/
theorem runSteps_keeps (I : σ → Prop) (hI : ∀ a s s', I s → step a s = .ok () s' → I s') :
    ∀ (as : List ι) {s s' : σ}, I s → runSteps step as s = .ok () s' → I s'
  | [], _, _, hs, h => by
    obtain ⟨-, rfl⟩ := pure_eq_ok h
    exact hs
  | a :: as, _, _, hs, h => by
    obtain ⟨s₁, h₁, h₂⟩ := runSteps_cons_eq_ok step h
    exact runSteps_keeps I hI as (hI a _ s₁ hs h₁) h₂

/-- A run from a reachable state ends in a reachable state. -/
theorem reachable_runSteps {s₀ s s' : σ} {as : List ι} (hr : Reachable step s₀ s)
    (h : runSteps step as s = .ok () s') : Reachable step s₀ s' :=
  runSteps_keeps step (Reachable step s₀) (fun a _ _ hr' ha => .step a hr' ha) as hr h

/-- **The variant rule**: from a state within `n` counted steps of `Done`, a
run with more than `n` counted steps ends in `Done`. -/
theorem runSteps_reaches (counts : ι → Bool) (Done : σ → Prop) (V : σ → Nat → Prop)
    (hdone : ∀ a s s', Done s → step a s = .ok () s' → Done s')
    (hkeep : ∀ a s s' n, counts a = false → V s n → step a s = .ok () s' → Done s' ∨ V s' n)
    (hdec : ∀ a s s' n, counts a = true → V s n → step a s = .ok () s' →
      Done s' ∨ ∃ m, n = m + 1 ∧ V s' m) :
    ∀ (as : List ι) {s s' : σ} {n : Nat}, V s n → n < as.countP counts →
      runSteps step as s = .ok () s' → Done s'
  | [], _, _, _, _, hn, _ => absurd hn (Nat.not_lt_zero _)
  | a :: as, _, _, n, hV, hn, h => by
    obtain ⟨s₁, h₁, h₂⟩ := runSteps_cons_eq_ok step h
    cases hc : counts a with
    | false =>
      rw [List.countP_cons_of_neg (by rw [hc]; decide)] at hn
      rcases hkeep a _ s₁ n hc hV h₁ with hd | hV₁
      · exact runSteps_keeps step Done hdone as hd h₂
      · exact runSteps_reaches counts Done V hdone hkeep hdec as hV₁ hn h₂
    | true =>
      rw [List.countP_cons_of_pos hc] at hn
      rcases hdec a _ s₁ n hc hV h₁ with hd | ⟨m, rfl, hV₁⟩
      · exact runSteps_keeps step Done hdone as hd h₂
      · exact runSteps_reaches counts Done V hdone hkeep hdec as hV₁ (by omega) h₂

end Runs

end Prog
