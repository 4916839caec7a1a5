import Mathlib

/-!
# Programs over a mutable state that may fail or panic

A Rust method `fn f(&mut self, ..) -> Result<T, E>` does three things a pure
function does not: it mutates `self`, it may return `Err` *after* having
mutated `self`, and it may panic (a failed `assert!`, an `expect`, an
arithmetic overflow under `overflow-checks`). `Prog ε σ α` is that shape, and
nothing more: a function from the state to an `Outcome` that is a value with
the new state, an error with the new state, or a panic with its message.

The error case keeps the state because the callers care: "a failed request
leaves the state unchanged" is a statement about `err e s'` with `s' = s`.

Sequencing is the usual one, with `?` being `bind` and errors passing through.
The lemmas below are what every later proof uses to run a program
symbolically: `bind_apply` splits a `do` block at its first step, and the
`Outcome.bind_*` simp lemmas then take the step whose result is known.
-/

/-- How a call on a mutable state ends. -/
inductive Outcome (ε σ α : Type) where
  /-- Returned `a`, leaving the state `s`. -/
  | ok (a : α) (s : σ)
  /-- Returned the error `e`, leaving the state `s`. -/
  | err (e : ε) (s : σ)
  /-- Panicked with message `msg`; nothing after it runs. -/
  | panic (msg : String)
  deriving DecidableEq, Repr

/-- A computation over the mutable state `σ` that may fail with `ε` or panic. -/
def Prog (ε σ α : Type) : Type := σ → Outcome ε σ α

namespace Outcome

variable {ε ε' σ α β : Type}

/-- Continue with `f` after a value; errors and panics pass through. -/
def bind (o : Outcome ε σ α) (f : α → Prog ε σ β) : Outcome ε σ β :=
  match o with
  | ok a s => f a s
  | err e s => err e s
  | panic msg => panic msg

@[simp] theorem bind_ok (a : α) (s : σ) (f : α → Prog ε σ β) : (ok a s).bind f = f a s := rfl
@[simp] theorem bind_err (e : ε) (s : σ) (f : α → Prog ε σ β) : (err e s).bind f = err e s := rfl
@[simp] theorem bind_panic (m : String) (f : α → Prog ε σ β) :
    (panic m : Outcome ε σ α).bind f = panic m := rfl

/-- The value, if the call returned one. -/
def value? : Outcome ε σ α → Option α
  | ok a _ => some a
  | _ => none

/-- The state a call left behind, if it did not panic. -/
def state? : Outcome ε σ α → Option σ
  | ok _ s => some s
  | err _ s => some s
  | panic _ => none

/-- The result as Rust sees it: `Ok`, `Err`, or a panic (`none`). -/
def result? : Outcome ε σ α → Option (Except ε α)
  | ok a _ => some (.ok a)
  | err e _ => some (.error e)
  | panic _ => none

/-- The outcome that returns `r` in state `s`. -/
def ofExcept : Except ε α → σ → Outcome ε σ α
  | .ok a, s => ok a s
  | .error e, s => err e s

@[simp] theorem result?_ok (a : α) (s : σ) : (ok a s : Outcome ε σ α).result? = some (.ok a) := rfl
@[simp] theorem result?_err (e : ε) (s : σ) :
    (err e s : Outcome ε σ α).result? = some (.error e) := rfl
@[simp] theorem state?_ok (a : α) (s : σ) : (ok a s : Outcome ε σ α).state? = some s := rfl
@[simp] theorem state?_err (e : ε) (s : σ) : (err e s : Outcome ε σ α).state? = some s := rfl

/-- Whether the call returned with a value and final state that pass `p`: a
concrete run is checked by evaluating this, and its final state is then named
by `exists_of_returns`. -/
def returns (p : α → σ → Bool) : Outcome ε σ α → Bool
  | ok a s => p a s
  | _ => false

theorem exists_of_returns {p : α → σ → Bool} {o : Outcome ε σ α} (h : o.returns p = true) :
    ∃ a s, o = ok a s ∧ p a s = true := by
  cases o with
  | ok a s => exact ⟨a, s, rfl, h⟩
  | err _ _ => cases h
  | panic _ => cases h

end Outcome

namespace Prog

variable {ε ε' σ τ α β : Type}

/-- Return `a` without touching the state. -/
protected def pure (a : α) : Prog ε σ α := fun s => .ok a s

/-- Run `x`, then `f` on its value. -/
protected def bind (x : Prog ε σ α) (f : α → Prog ε σ β) : Prog ε σ β := fun s => (x s).bind f

instance : Monad (Prog ε σ) where
  pure := Prog.pure
  bind := Prog.bind

@[simp] theorem pure_apply (a : α) (s : σ) : (pure a : Prog ε σ α) s = .ok a s := rfl

/-- **Splitting a `do` block at its first step.** -/
theorem bind_apply (x : Prog ε σ α) (f : α → Prog ε σ β) (s : σ) :
    (x >>= f) s = (x s).bind f := rfl

@[simp] theorem map_apply (f : α → β) (x : Prog ε σ α) (s : σ) :
    (f <$> x) s = (x s).bind fun a => pure (f a) := rfl

/-- The `Err(e)` return of a Rust function: the state stays as it is. -/
def throw (e : ε) : Prog ε σ α := fun s => .err e s

/-- A Rust panic. -/
def panic (msg : String) : Prog ε σ α := fun _ => .panic msg

/-- Read the state. -/
def get : Prog ε σ σ := fun s => .ok s s

/-- Replace the state. -/
def set (s' : σ) : Prog ε σ Unit := fun _ => .ok () s'

/-- Change the state by `f`. -/
def modify (f : σ → σ) : Prog ε σ Unit := fun s => .ok () (f s)

@[simp] theorem throw_apply (e : ε) (s : σ) : (throw e : Prog ε σ α) s = .err e s := rfl
@[simp] theorem panic_apply (m : String) (s : σ) : (panic m : Prog ε σ α) s = .panic m := rfl
@[simp] theorem get_apply (s : σ) : (get : Prog ε σ σ) s = .ok s s := rfl
@[simp] theorem set_apply (s' s : σ) : (set s' : Prog ε σ Unit) s = .ok () s' := rfl
@[simp] theorem modify_apply (f : σ → σ) (s : σ) : (modify f : Prog ε σ Unit) s = .ok () (f s) :=
  rfl

/-- `assert!(cond)`: panics with `msg` when the condition fails. -/
def assert (cond : Bool) (msg : String) : Prog ε σ Unit :=
  if cond then pure () else panic msg

@[simp] theorem assert_true (msg : String) : (assert true msg : Prog ε σ Unit) = pure () := rfl

/-- `e.map_err(f)`: the error is rewritten, the state is kept. -/
def mapErr (f : ε → ε') (x : Prog ε σ α) : Prog ε' σ α := fun s =>
  match x s with
  | .ok a s' => .ok a s'
  | .err e s' => .err (f e) s'
  | .panic m => .panic m

/-- Catch the error of `x` as a value, as matching on a returned `Result` does. -/
def attempt (x : Prog ε σ α) : Prog ε' σ (Except ε α) := fun s =>
  match x s with
  | .ok a s' => .ok (.ok a) s'
  | .err e s' => .ok (.error e) s'
  | .panic m => .panic m

/-- `opt.ok_or(e)?`. -/
def okOr (e : ε) : Option α → Prog ε σ α
  | some a => pure a
  | none => throw e

@[simp] theorem okOr_some (e : ε) (a : α) : (okOr e (some a) : Prog ε σ α) = pure a := rfl
@[simp] theorem okOr_none (e : ε) : (okOr e none : Prog ε σ α) = throw e := rfl

@[simp] theorem mapErr_apply_ok {f : ε → ε'} {x : Prog ε σ α} {s s' : σ} {a : α}
    (h : x s = .ok a s') : mapErr f x s = .ok a s' := by
  simp only [mapErr, h]

@[simp] theorem attempt_apply_ok {x : Prog ε σ α} {s s' : σ} {a : α}
    (h : x s = .ok a s') : (attempt x : Prog ε' σ (Except ε α)) s = .ok (.ok a) s' := by
  simp only [attempt, h]

theorem attempt_apply_ofExcept {x : Prog ε σ α} {s s' : σ} {r : Except ε α}
    (h : x s = Outcome.ofExcept r s') : (attempt x : Prog ε' σ (Except ε α)) s = .ok r s' := by
  cases r with
  | ok a => simp only [attempt, h, Outcome.ofExcept]
  | error e => simp only [attempt, h, Outcome.ofExcept]

/-- Run a computation on one part `τ` of the state, given how to read and replace it. -/
def focus (view : σ → τ) (update : σ → τ → σ) (x : Prog ε τ α) : Prog ε σ α := fun s =>
  match x (view s) with
  | .ok a t => .ok a (update s t)
  | .err e t => .err e (update s t)
  | .panic m => .panic m

/--
Run a computation on a local variable of type `τ`, starting at `t`, and return
its value with the variable's last contents. An error of the local computation
is returned with the outer state as it was, as `?` does after a helper that
mutates a local buffer.
-/
def onLocal (t : τ) (x : Prog ε τ α) : Prog ε σ (α × τ) := fun s =>
  match x t with
  | .ok a t' => .ok (a, t') s
  | .err e _ => .err e s
  | .panic m => .panic m

theorem onLocal_apply_ok {t t' : τ} {x : Prog ε τ α} {a : α} (h : x t = .ok a t') (s : σ) :
    (onLocal t x : Prog ε σ (α × τ)) s = .ok (a, t') s := by
  simp only [onLocal, h]

theorem onLocal_apply_err {t t' : τ} {x : Prog ε τ α} {e : ε} (h : x t = .err e t') (s : σ) :
    (onLocal t x : Prog ε σ (α × τ)) s = .err e s := by
  simp only [onLocal, h]

/-- A focused computation that returned ran on the part, and put back what it left there. -/
theorem focus_eq_ok {view : σ → τ} {update : σ → τ → σ} {x : Prog ε τ α} {a : α} {s s' : σ}
    (h : (focus view update x : Prog ε σ α) s = .ok a s') : ∃ t, x (view s) = .ok a t ∧ s' = update s t := by
  unfold focus at h
  split at h
  · cases h
    exact ⟨_, by assumption, rfl⟩
  · cases h
  · cases h

/-- A local computation that returned leaves the outer state as it was. -/
theorem onLocal_eq_ok {t t' : τ} {x : Prog ε τ α} {a : α} {s s' : σ}
    (h : (onLocal t x : Prog ε σ (α × τ)) s = .ok (a, t') s') : x t = .ok a t' ∧ s' = s := by
  unfold onLocal at h
  split at h
  · cases h
    exact ⟨by assumption, rfl⟩
  · cases h
  · cases h

/-- **Inverting a successful sequence**: both halves succeeded, through some middle state. -/
theorem bind_eq_ok {x : Prog ε σ α} {f : α → Prog ε σ β} {s s' : σ} {b : β}
    (h : (x >>= f) s = .ok b s') : ∃ a s₁, x s = .ok a s₁ ∧ f a s₁ = .ok b s' := by
  rw [bind_apply] at h
  cases hx : x s with
  | ok a s₁ => rw [hx, Outcome.bind_ok] at h; exact ⟨a, s₁, rfl, h⟩
  | err e s₁ => rw [hx, Outcome.bind_err] at h; exact absurd h (by simp)
  | panic m => rw [hx, Outcome.bind_panic] at h; exact absurd h (by simp)

theorem map_eq_ok {f : α → β} {x : Prog ε σ α} {s s' : σ} {b : β}
    (h : (f <$> x) s = .ok b s') : ∃ a, x s = .ok a s' ∧ b = f a := by
  rw [map_apply] at h
  cases hx : x s with
  | ok a s₁ =>
    rw [hx, Outcome.bind_ok, pure_apply] at h
    obtain ⟨rfl, rfl⟩ := Outcome.ok.inj h
    exact ⟨a, rfl, rfl⟩
  | err e s₁ => rw [hx, Outcome.bind_err] at h; exact absurd h (by simp)
  | panic m => rw [hx, Outcome.bind_panic] at h; exact absurd h (by simp)

theorem pure_eq_ok {a b : α} {s s' : σ} (h : (pure a : Prog ε σ α) s = .ok b s') :
    b = a ∧ s' = s := by
  rw [pure_apply, Outcome.ok.injEq] at h
  exact ⟨h.1.symm, h.2.symm⟩

theorem assert_eq_ok {c : Bool} {msg : String} {s s' : σ} {u : Unit}
    (h : (assert c msg : Prog ε σ Unit) s = .ok u s') : c = true ∧ s' = s := by
  cases c with
  | true => exact ⟨rfl, (pure_eq_ok h).2⟩
  | false => cases h

/-- A caught call returned what the call itself returned or failed with. -/
theorem attempt_eq_ok {x : Prog ε σ α} {s s' : σ} {r : Except ε α}
    (h : (attempt x : Prog ε' σ (Except ε α)) s = .ok r s') : x s = Outcome.ofExcept r s' := by
  unfold attempt at h
  split at h <;> cases h <;> simp_all [Outcome.ofExcept]

/-! ## Overflow-checked `u64` arithmetic

With `overflow-checks = true` a `u64` sum, difference or product that leaves
`[0, 2^64)` panics instead of wrapping.
-/

/-- `a + b` on `u64`. -/
def addU64 (a b : UInt64) : Prog ε σ UInt64 :=
  if a.toNat + b.toNat < 2 ^ 64 then pure (a + b) else panic "attempt to add with overflow"

/-- `a - b` on `u64`. -/
def subU64 (a b : UInt64) : Prog ε σ UInt64 :=
  if b.toNat ≤ a.toNat then pure (a - b) else panic "attempt to subtract with overflow"

/-- `a * b` on `u64`. -/
def mulU64 (a b : UInt64) : Prog ε σ UInt64 :=
  if a.toNat * b.toNat < 2 ^ 64 then pure (a * b) else panic "attempt to multiply with overflow"

theorem addU64_apply {a b : UInt64} (h : a.toNat + b.toNat < 2 ^ 64) (s : σ) :
    (addU64 a b : Prog ε σ UInt64) s = .ok (a + b) s := by
  rw [addU64, if_pos h]
  rfl

theorem subU64_apply {a b : UInt64} (h : b.toNat ≤ a.toNat) (s : σ) :
    (subU64 a b : Prog ε σ UInt64) s = .ok (a - b) s := by
  rw [subU64, if_pos h]
  rfl

theorem mulU64_apply {a b : UInt64} (h : a.toNat * b.toNat < 2 ^ 64) (s : σ) :
    (mulU64 a b : Prog ε σ UInt64) s = .ok (a * b) s := by
  rw [mulU64, if_pos h]
  rfl

/-! ## Bounds-checked indexing

`v[i]` on a Rust array of length `n` panics when `i` is not below `n`, whether
the element is read or written.
-/

/-- The message of a failed bounds check. -/
def boundsMsg (n i : Nat) : String :=
  "index out of bounds: the len is " ++ toString n ++ " but the index is " ++ toString i

/-- Reading `v[i]`. -/
def index {n : Nat} (v : Vector α n) (i : Nat) : Prog ε σ α :=
  if h : i < n then pure v[i] else panic (boundsMsg n i)

/-- Writing `v[i] = x`: the array with `x` at `i`. -/
def setIndex {n : Nat} (v : Vector α n) (i : Nat) (x : α) : Prog ε σ (Vector α n) :=
  if h : i < n then pure (v.set i x h) else panic (boundsMsg n i)

theorem index_apply {n : Nat} {v : Vector α n} {i : Nat} (h : i < n) (s : σ) :
    (index v i : Prog ε σ α) s = .ok v[i] s := by
  rw [index, dif_pos h]
  rfl

theorem setIndex_apply {n : Nat} {v : Vector α n} {i : Nat} (x : α) (h : i < n) (s : σ) :
    (setIndex v i x : Prog ε σ (Vector α n)) s = .ok (v.set i x h) s := by
  rw [setIndex, dif_pos h]
  rfl

end Prog
