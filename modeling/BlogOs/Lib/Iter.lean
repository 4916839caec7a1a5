import BlogOs.Lib.Prog

/-!
# Iterator chains as lists

A chain of Rust iterator adapters over finite ranges is read here as the list of
elements it yields, with two points where the list reading needs care:

* `(start..end).step_by(step)` yields `start`, `start + step`, … while below
  `end`: `stepBy`. On multiples of `step` it is the multiples of a plain range
  (`stepBy_mul`).
* `iter.map(f).nth(n)` runs `f` on every element it passes, since `Map` cannot
  skip an element without calling its closure. When `f` can fail, that matters:
  `nthMapped` runs `f` on each element up to the `n`-th, and
  `nthMapped_of_ok` says it returns the `n`-th element mapped when no call fails.
-/

namespace Iter

open Prog

/-- `(start..stop).step_by(step)` for a positive `step`. -/
def stepBy (start stop step : Nat) : List Nat :=
  List.range' start ((stop - start + step - 1) / step) step

theorem range'_mul (s n p : Nat) : List.range' (s * p) n p = (List.range' s n).map (· * p) := by
  induction n generalizing s with
  | zero => rfl
  | succ n ih =>
    rw [List.range'_succ, List.range'_succ, List.map_cons, ← ih (s + 1), Nat.succ_mul]

/-- Stepping between two multiples of the step passes the multiples between them. -/
theorem stepBy_mul (s e : Nat) {p : Nat} (hp : 0 < p) :
    stepBy (s * p) (e * p) p = (List.range' s (e - s)).map (· * p) := by
  have hcount : (e * p - s * p + p - 1) / p = e - s := by
    rw [← Nat.sub_mul, Nat.add_sub_assoc hp, Nat.mul_comm, Nat.mul_add_div hp,
      Nat.div_eq_of_lt (Nat.sub_lt hp Nat.one_pos), Nat.add_zero]
  rw [stepBy, hcount, range'_mul]

variable {ε σ α β : Type}

/-- `iter.map(f).nth(n)` over the elements `l` the iterator has left: the `n`-th
element mapped, or how many are still to pass after `l`. `f` runs on each
element passed. -/
def nthMapped (f : α → Prog ε σ β) : List α → Nat → Prog ε σ (β ⊕ Nat)
  | [], n => pure (.inr n)
  | a :: _, 0 => do
    let b ← f a
    pure (.inl b)
  | a :: rest, n + 1 => do
    let _ ← f a
    nthMapped f rest n

/-- When `f` succeeds on every element without a change of state, `nth` is
list indexing. -/
theorem nthMapped_of_ok {f : α → Prog ε σ β} {g : α → β} {s : σ} :
    ∀ {l : List α}, (∀ a ∈ l, f a s = .ok (g a) s) → ∀ n,
      nthMapped f l n s = .ok (if h : n < l.length then .inl (g l[n]) else .inr (n - l.length)) s
  | [], _, n => by simp [nthMapped]
  | a :: rest, hf, 0 => by
    simp [nthMapped, bind_apply, hf a List.mem_cons_self]
  | a :: rest, hf, n + 1 => by
    have hrest := nthMapped_of_ok (fun b hb => hf b (List.mem_cons_of_mem a hb)) n
    simp only [nthMapped, bind_apply, hf a List.mem_cons_self, Outcome.bind_ok, hrest,
      List.length_cons, Nat.add_lt_add_iff_right, List.getElem_cons_succ, Nat.add_sub_add_right]

/-! ## `for` loops

`for x in xs { body(x) }` runs `body` on each element in turn, and a panic or
an error of one call stops the loop. Two rules describe a loop without
unfolding it: an invariant indexed by the number of iterations done, for a loop
over a range (`forList_range'_inv`), and the simulation of an abstract fold,
for a loop over any list (`forList_simulates`).
-/

/-- `for x in xs { body(x) }`. -/
def forList (xs : List β) (body : β → Prog ε σ Unit) : Prog ε σ Unit :=
  match xs with
  | [] => pure ()
  | x :: rest => do
    body x
    forList rest body

theorem forList_cons_of_ok {x : β} {xs : List β} {body : β → Prog ε σ Unit} {s s₁ : σ}
    (h : body x s = .ok () s₁) : forList (x :: xs) body s = forList xs body s₁ := by
  rw [forList, bind_apply, h, Outcome.bind_ok]

theorem forList_append (xs ys : List β) (body : β → Prog ε σ Unit) (s : σ) :
    forList (xs ++ ys) body s = (forList xs body s).bind fun _ => forList ys body := by
  induction xs generalizing s with
  | nil => rfl
  | cons x xs ih =>
    rw [List.cons_append, forList, forList, bind_apply, bind_apply]
    cases body x s with
    | ok u s₁ => rw [Outcome.bind_ok, Outcome.bind_ok, ih]
    | err e s₁ => rfl
    | panic m => rfl

/-- The loop rule over `start..start + n`: an invariant `I i` of the state after
`i` iterations that each iteration carries to the next without failing. -/
theorem forList_range'_inv {body : Nat → Prog ε σ Unit} (I : Nat → σ → Prop) (start n : Nat)
    (hstep : ∀ i < n, ∀ s, I i s → ∃ s', body (start + i) s = .ok () s' ∧ I (i + 1) s') :
    ∀ s, I 0 s → ∃ s', forList (List.range' start n) body s = .ok () s' ∧ I n s' := by
  induction n with
  | zero =>
    intro s hs
    exact ⟨s, rfl, hs⟩
  | succ n ih =>
    intro s hs
    obtain ⟨s₁, h₁, hI₁⟩ := ih (fun i hi => hstep i (Nat.lt_succ_of_lt hi)) s hs
    obtain ⟨s₂, h₂, hI₂⟩ := hstep n (Nat.lt_succ_self n) s₁ hI₁
    refine ⟨s₂, ?_, hI₂⟩
    rw [List.range'_concat, Nat.one_mul, forList_append, h₁, Outcome.bind_ok, forList_cons_of_ok h₂]
    rfl

/-- A loop whose body simulates the step `g` of an abstract state, under `R`,
returns, and its final state is related to the fold of `g` over the list. -/
theorem forList_simulates {A : Type} {body : β → Prog ε σ Unit} (g : A → β → A) (R : A → σ → Prop)
    (hstep : ∀ x a s, R a s → ∃ s', body x s = .ok () s' ∧ R (g a x) s') :
    ∀ (xs : List β) (a : A) (s : σ), R a s → ∃ s', forList xs body s = .ok () s' ∧ R (xs.foldl g a) s'
  | [], _, s, h => ⟨s, rfl, h⟩
  | x :: xs, a, s, h => by
    obtain ⟨s₁, h₁, hR₁⟩ := hstep x a s h
    rw [forList_cons_of_ok h₁, List.foldl_cons]
    exact forList_simulates g R hstep xs (g a x) s₁ hR₁

end Iter
