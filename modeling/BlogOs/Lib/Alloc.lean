import BlogOs.Lib.Prog
import BlogOs.Lib.Align
import BlogOs.Lib.Span

/-!
# Rust's allocation interface on a 64-bit target

What a heap allocator is written against, and the user's side of its contract.

* `usize` values are naturals below `2 ^ 64`. With overflow checks on, `+` and
  `-` panic instead of wrapping (`addUsize`, `subUsize`); `checked_add` returns
  `None` (`checkedAdd`).
* `Layout` is `core::alloc::Layout`: a size and a power-of-two alignment, with the
  invariant `size ≤ isize::MAX - (align - 1)` that `Layout::from_size_align`
  checks carried as a field, so no invalid layout can be built. `alignTo` and
  `padToAlign` are its two adjustments.
* `GlobalAlloc` is the pair of methods `alloc` and `dealloc` over an allocator
  state, the null pointer being `0`.
* `HeapUser` is a program using the heap: it records which pointers are live.
  Its `step` frees only a live pointer with the layout it was allocated with,
  which is the `GlobalAlloc` contract for `dealloc`. `Reachable` collects the
  states reached by steps that did not panic.
* `HeapSafe` is what an allocator promises of the live allocations: each is
  aligned to its layout and lies in the heap, and no two share a byte.
-/

/-- `usize::MAX`. -/
def usizeMax : Nat := 2 ^ 64 - 1

/-- `isize::MAX as usize`. -/
def isizeMax : Nat := 2 ^ 63 - 1

/-- `!x` on `usize`. -/
def usizeNot (x : Nat) : Nat := Nat.complement 64 x

/-- `a.checked_add(b)` on `usize`. -/
def checkedAdd (a b : Nat) : Option Nat := if a + b ≤ usizeMax then some (a + b) else none

theorem checkedAdd_of_le {a b : Nat} (h : a + b ≤ usizeMax) : checkedAdd a b = some (a + b) := by
  simp [checkedAdd, h]

theorem checkedAdd_eq_some {a b c : Nat} (h : checkedAdd a b = some c) :
    c = a + b ∧ a + b ≤ usizeMax := by
  unfold checkedAdd at h
  split at h
  · exact ⟨(Option.some.inj h).symm, by assumption⟩
  · cases h

namespace Prog

variable {ε ε' σ α : Type}

/-- `a + b` on `usize`. -/
def addUsize (a b : Nat) : Prog ε σ Nat :=
  if a + b ≤ usizeMax then pure (a + b) else panic "attempt to add with overflow"

/-- `a - b` on `usize`. -/
def subUsize (a b : Nat) : Prog ε σ Nat :=
  if b ≤ a then pure (a - b) else panic "attempt to subtract with overflow"

/-- `opt.expect(msg)`. -/
def expect (msg : String) : Option α → Prog ε σ α
  | some a => pure a
  | none => panic msg

/-- `res.expect(..)` or `res.unwrap()` on a `Result`, `msg` being the whole text it panics with. -/
def expectOk (msg : String) : Except ε' α → Prog ε σ α
  | .ok a => pure a
  | .error _ => panic msg

/-- `call(..).expect(msg)`: a call that returns a `Result`, its error turned into
the panic. -/
def expectCall (msg : String) (x : Prog ε' σ α) : Prog ε σ α := do
  expectOk msg (← x.attempt)

theorem addUsize_apply {a b : Nat} (h : a + b ≤ usizeMax) (s : σ) :
    (addUsize a b : Prog ε σ Nat) s = .ok (a + b) s := by
  simp [addUsize, h]

theorem subUsize_apply {a b : Nat} (h : b ≤ a) (s : σ) :
    (subUsize a b : Prog ε σ Nat) s = .ok (a - b) s := by
  simp [subUsize, h]

theorem addUsize_panic {a b : Nat} (h : usizeMax < a + b) (s : σ) :
    (addUsize a b : Prog ε σ Nat) s = .panic "attempt to add with overflow" := by
  simp [addUsize, Nat.not_le.mpr h]

@[simp] theorem expect_some (msg : String) (a : α) : (expect msg (some a) : Prog ε σ α) = pure a :=
  rfl

@[simp] theorem expectOk_ok (msg : String) (a : α) :
    (expectOk msg (.ok a : Except ε' α) : Prog ε σ α) = pure a := rfl

@[simp] theorem expectOk_error (msg : String) (e : ε') :
    (expectOk msg (.error e : Except ε' α) : Prog ε σ α) = panic msg := rfl

theorem expectCall_apply_ok {msg : String} {x : Prog ε' σ α} {s s' : σ} {a : α} (h : x s = .ok a s') :
    (expectCall msg x : Prog ε σ α) s = .ok a s' := by
  rw [expectCall, bind_apply, attempt_apply_ok h, Outcome.bind_ok, expectOk_ok, pure_apply]

theorem expectCall_apply_err {msg : String} {x : Prog ε' σ α} {s s' : σ} {e : ε'} (h : x s = .err e s') :
    (expectCall msg x : Prog ε σ α) s = .panic msg := by
  rw [expectCall, bind_apply, attempt_apply_ofExcept (r := .error e) h, Outcome.bind_ok, expectOk_error,
    panic_apply]

/-- A panic inside the call is the panic of the whole: `expect` never sees it. -/
theorem expectCall_apply_panic {msg m : String} {x : Prog ε' σ α} {s : σ} (h : x s = .panic m) :
    (expectCall msg x : Prog ε σ α) s = .panic m := by
  simp only [expectCall, bind_apply, attempt, h, Outcome.bind_panic]

theorem addUsize_eq_ok {a b x : Nat} {s s' : σ} (h : (addUsize a b : Prog ε σ Nat) s = .ok x s') :
    x = a + b ∧ s' = s ∧ a + b ≤ usizeMax := by
  unfold addUsize at h
  split at h
  · obtain ⟨h1, h2⟩ := pure_eq_ok h
    exact ⟨h1, h2, by assumption⟩
  · cases h

theorem subUsize_eq_ok {a b x : Nat} {s s' : σ} (h : (subUsize a b : Prog ε σ Nat) s = .ok x s') :
    x = a - b ∧ s' = s ∧ b ≤ a := by
  unfold subUsize at h
  split at h
  · obtain ⟨h1, h2⟩ := pure_eq_ok h
    exact ⟨h1, h2, by assumption⟩
  · cases h

theorem expect_eq_ok {msg : String} {o : Option α} {x : α} {s s' : σ}
    (h : (expect msg o : Prog ε σ α) s = .ok x s') : o = some x ∧ s' = s := by
  cases o with
  | some a =>
    obtain ⟨h1, h2⟩ := pure_eq_ok h
    exact ⟨by rw [h1], h2⟩
  | none => cases h

theorem expectOk_eq_ok {msg : String} {r : Except ε' α} {x : α} {s s' : σ}
    (h : (expectOk msg r : Prog ε σ α) s = .ok x s') : r = .ok x ∧ s' = s := by
  cases r with
  | ok a =>
    obtain ⟨h1, h2⟩ := pure_eq_ok h
    exact ⟨by rw [h1], h2⟩
  | error e => cases h

end Prog

/-- A power of two that fits a `usize`, as `usize::is_power_of_two` accepts. -/
def IsPow2 (n : Nat) : Prop := ∃ k, k < 64 ∧ n = 2 ^ k

instance : DecidablePred IsPow2 := fun n => inferInstanceAs (Decidable (∃ k, k < 64 ∧ n = 2 ^ k))

theorem IsPow2.pos {n : Nat} (h : IsPow2 n) : 0 < n := by
  obtain ⟨k, -, rfl⟩ := h
  exact Nat.two_pow_pos k

theorem isPow2_max {m n : Nat} (hm : IsPow2 m) (hn : IsPow2 n) : IsPow2 (max m n) := by
  obtain ⟨j, hj, rfl⟩ := hm
  obtain ⟨k, hk, rfl⟩ := hn
  exact ⟨max j k, by omega, Nat.max_two_pow j k⟩

/-- Of two powers of two, the smaller divides the larger. -/
theorem IsPow2.dvd_of_le {m n : Nat} (hm : IsPow2 m) (hn : IsPow2 n) (h : m ≤ n) : m ∣ n := by
  obtain ⟨j, -, rfl⟩ := hm
  obtain ⟨k, -, rfl⟩ := hn
  exact Nat.two_pow_dvd_of_le h

/-- `core::alloc::Layout`. -/
structure Layout where
  size : Nat
  align : Nat
  align_pow2 : IsPow2 align
  size_le : size ≤ isizeMax - (align - 1)
  deriving DecidableEq

/-- `core::alloc::LayoutError`. -/
structure LayoutError where
  deriving DecidableEq, Repr

namespace Layout

theorem align_pos (l : Layout) : 0 < l.align := l.align_pow2.pos

theorem align_le (l : Layout) : l.align ≤ 2 ^ 63 := by
  obtain ⟨k, hk, hka⟩ := l.align_pow2
  rw [hka]
  exact Nat.pow_le_pow_right (by omega) (by omega)

/-- `Layout::from_size_align`. -/
def fromSizeAlign (size align : Nat) : Except LayoutError Layout :=
  if h : IsPow2 align ∧ size ≤ isizeMax - (align - 1) then .ok ⟨size, align, h.1, h.2⟩
  else .error ⟨⟩

/-- `layout.align_to(align)`: the same size, aligned to the larger of the two alignments. -/
def alignTo (l : Layout) (align : Nat) : Except LayoutError Layout :=
  if IsPow2 align then fromSizeAlign l.size (max l.align align) else .error ⟨⟩

/-- `size_rounded_up_to_custom_align(self.align)`, the size `pad_to_align` keeps. -/
def sizeRoundedUp (l : Layout) : Nat := (l.size + (l.align - 1)) &&& usizeNot (l.align - 1)

theorem sizeRoundedUp_eq (l : Layout) : l.sizeRoundedUp = Nat.roundUp l.size l.align := by
  obtain ⟨k, hk, hka⟩ := l.align_pow2
  have hs := l.size_le
  have hpos := l.align_pos
  have hle := l.align_le
  have hsum : l.size + l.align - 1 < 2 ^ 64 := by
    unfold isizeMax at hs
    omega
  rw [sizeRoundedUp, usizeNot, hka, ← Nat.add_sub_assoc Nat.one_le_two_pow]
  rw [hka] at hsum
  exact Nat.land_complement_eq_roundUp (by omega) hsum

/-- The padded size still satisfies the invariant: `2 ^ 63 - align` is itself a
multiple of the alignment and at least the size. -/
theorem roundUp_size_le (l : Layout) : Nat.roundUp l.size l.align ≤ isizeMax - (l.align - 1) := by
  obtain ⟨k, hk, hka⟩ := l.align_pow2
  have hle := l.align_le
  have hs := l.size_le
  have hdvd : l.align ∣ 2 ^ 63 := by
    rw [hka]
    exact Nat.two_pow_dvd_of_le (by rw [← hka]; exact hle)
  have hdvd' : l.align ∣ isizeMax - (l.align - 1) := by
    have heq : isizeMax - (l.align - 1) = 2 ^ 63 - l.align := by
      unfold isizeMax
      have := l.align_pos
      omega
    rw [heq]
    exact Nat.dvd_sub hdvd (Nat.dvd_refl _)
  exact Nat.roundUp_le l.align_pos hdvd' hs

/-- `layout.pad_to_align()`. -/
def padToAlign (l : Layout) : Layout :=
  ⟨l.sizeRoundedUp, l.align, l.align_pow2, by rw [sizeRoundedUp_eq]; exact roundUp_size_le l⟩

@[simp] theorem padToAlign_size (l : Layout) : l.padToAlign.size = Nat.roundUp l.size l.align :=
  sizeRoundedUp_eq l

@[simp] theorem padToAlign_align (l : Layout) : l.padToAlign.align = l.align := rfl

/-- `align_to` succeeds exactly when the size fits the raised alignment. -/
theorem alignTo_eq_ok {l : Layout} {a : Nat} (ha : IsPow2 a)
    (h : l.size ≤ isizeMax - (max l.align a - 1)) :
    ∃ l', l.alignTo a = .ok l' ∧ l'.size = l.size ∧ l'.align = max l.align a := by
  have hp : IsPow2 (max l.align a) ∧ l.size ≤ isizeMax - (max l.align a - 1) :=
    ⟨isPow2_max l.align_pow2 ha, h⟩
  exact ⟨⟨l.size, max l.align a, hp.1, hp.2⟩, by simp [alignTo, fromSizeAlign, ha, hp], rfl, rfl⟩

theorem alignTo_eq_error {l : Layout} {a : Nat} (h : ¬ l.size ≤ isizeMax - (max l.align a - 1)) :
    l.alignTo a = .error ⟨⟩ := by
  unfold alignTo fromSizeAlign
  split
  · rw [dif_neg (fun hp => h hp.2)]
  · rfl

end Layout

/-- `unsafe impl GlobalAlloc`: the two methods over an allocator state, `0` being null. -/
structure GlobalAlloc (σ : Type) where
  alloc : Layout → Prog Empty σ Nat
  dealloc : Nat → Layout → Prog Empty σ Unit

/-- A call the heap's user makes: allocate, or free its `i`-th live allocation. -/
inductive HeapOp where
  | alloc (layout : Layout)
  | dealloc (i : Nat)

/-- `GlobalAlloc::alloc` requires a layout of nonzero size. -/
def HeapOp.Obeys : HeapOp → Prop
  | .alloc layout => 0 < layout.size
  | .dealloc _ => True

/-- Every requested alignment is at most `A`. -/
def HeapOp.AlignAtMost (A : Nat) : HeapOp → Prop
  | .alloc layout => layout.align ≤ A
  | .dealloc _ => True

/-- The allocator, with the pointers its user holds (newest first) and their layouts. -/
structure HeapUser (σ : Type) where
  allocator : σ
  live : List (Nat × Layout)
  deriving DecidableEq

/-- A list is its `i`-th element followed by the others. -/
theorem perm_cons_eraseIdx {α : Type} {l : List α} {i : Nat} {x : α} (h : l[i]? = some x) :
    l.Perm (x :: l.eraseIdx i) := by
  obtain ⟨hi, rfl⟩ := List.getElem?_eq_some_iff.mp h
  have hlen : i ≤ (l.eraseIdx i).length := by
    rw [List.length_eraseIdx_of_lt hi]
    omega
  have hperm := @List.perm_insertIdx _ l[i] (l.eraseIdx i) i hlen
  rw [List.insertIdx_eraseIdx_getElem hi] at hperm
  exact hperm

/-- Flattening a family of lists in which one list gained the head `x` gains `x`. -/
theorem perm_flatMap_of_eq_cons {ι β : Type} {l : List ι} (hl : l.Nodup) {i : ι} (hi : i ∈ l)
    {F G : ι → List β} {x : β} (hFi : F i = x :: G i) (hFG : ∀ j, j ≠ i → F j = G j) :
    (l.flatMap F).Perm (x :: l.flatMap G) := by
  induction l with
  | nil => exact absurd hi List.not_mem_nil
  | cons j l ih =>
    rw [List.nodup_cons] at hl
    rw [List.flatMap_cons, List.flatMap_cons]
    by_cases hj : j = i
    · subst hj
      -- `j` is not in the rest, where the two families agree
      have hrest : l.flatMap F = l.flatMap G :=
        List.flatMap_congr fun k hk => hFG k fun hkj => hl.1 (hkj ▸ hk)
      rw [hFi, hrest, List.cons_append]
    · have hi' : i ∈ l := (List.mem_cons.mp hi).resolve_left (Ne.symm hj)
      rw [hFG j hj]
      exact (List.Perm.append_left _ (ih hl.2 hi')).trans List.perm_middle

/-- The bytes a live allocation may use. -/
def liveSpan (x : Nat × Layout) : Span := ⟨x.1, x.2.size⟩

/-- **What a heap allocator promises**: every allocation its user holds is
aligned to its layout and lies in the heap, and no two share a byte. -/
structure HeapSafe (heap : Span) (live : List (Nat × Layout)) : Prop where
  aligned : ∀ x ∈ live, x.2.align ∣ x.1
  inside : ∀ x ∈ live, (liveSpan x).Within heap
  apart : (live.map liveSpan).Pairwise Span.Apart

namespace GlobalAlloc

variable {σ α : Type} (g : GlobalAlloc σ)

/-- Run an allocator method on the allocator of a user state. -/
def onAllocator (x : Prog Empty σ α) : Prog Empty (HeapUser σ) α :=
  Prog.focus HeapUser.allocator (fun u a => { u with allocator := a }) x

/-- One call: a non-null pointer becomes live; freeing takes a live pointer back. -/
def step : HeapOp → Prog Empty (HeapUser σ) Unit
  | .alloc layout => do
    let p ← onAllocator (g.alloc layout)
    if p = 0 then pure () else Prog.modify fun u => { u with live := (p, layout) :: u.live }
  | .dealloc i => do
    let u ← Prog.get
    match u.live[i]? with
    | some (p, layout) => do
      onAllocator (g.dealloc p layout)
      Prog.modify fun u => { u with live := u.live.eraseIdx i }
    | none => pure ()

/-- A sequence of calls. -/
def run : List HeapOp → Prog Empty (HeapUser σ) Unit
  | [] => pure ()
  | op :: ops => do
    g.step op
    run ops

/-- `Box::new` on this allocator: a null pointer ends in `handle_alloc_error`,
which panics in a kernel. -/
def boxNew (layout : Layout) : Prog Empty σ Nat := do
  let p ← g.alloc layout
  if p = 0 then panic ("memory allocation of " ++ toString layout.size ++ " bytes failed")
  else pure p

/-- `n` rounds of `Box::new` and the drop of the box at the end of the round. -/
def boxRounds (layout : Layout) : Nat → Prog Empty σ Unit
  | 0 => pure ()
  | n + 1 => do
    let p ← g.boxNew layout
    g.dealloc p layout
    boxRounds layout n

/-- The user states reached from `u₀` by calls allowed by `ok` that did not panic. -/
inductive Reachable (ok : HeapOp → Prop) (u₀ : HeapUser σ) : HeapUser σ → Prop where
  | init : Reachable ok u₀ u₀
  | step {u u' : HeapUser σ} {op : HeapOp} :
      Reachable ok u₀ u → ok op → g.step op u = .ok () u' → Reachable ok u₀ u'

variable {g}

theorem onAllocator_ok {x : Prog Empty σ α} {u : HeapUser σ} {a : α} {t : σ}
    (h : x u.allocator = .ok a t) : onAllocator x u = .ok a { u with allocator := t } := by
  simp only [onAllocator, Prog.focus, h]

theorem onAllocator_panic {x : Prog Empty σ α} {u : HeapUser σ} {m : String}
    (h : x u.allocator = .panic m) : onAllocator x u = .panic m := by
  simp only [onAllocator, Prog.focus, h]

/-- What an allocation step did. -/
theorem step_alloc_eq_ok {l : Layout} {u u' : HeapUser σ} (h : g.step (.alloc l) u = .ok () u') :
    ∃ p a, g.alloc l u.allocator = .ok p a ∧
      u' = ⟨a, if p = 0 then u.live else (p, l) :: u.live⟩ := by
  cases hx : g.alloc l u.allocator with
  | ok p a =>
    rw [step, Prog.bind_apply, onAllocator_ok hx, Outcome.bind_ok] at h
    refine ⟨p, a, rfl, ?_⟩
    by_cases hp : p = 0
    · simp only [hp, if_true, Prog.pure_apply, Outcome.ok.injEq] at h ⊢
      rw [← h.2]
    · simp only [hp, if_false, Prog.modify_apply, Outcome.ok.injEq] at h ⊢
      rw [← h.2]
  | err e a => exact e.elim
  | panic m => rw [step, Prog.bind_apply, onAllocator_panic hx, Outcome.bind_panic] at h; cases h

/-- What a freeing step did. -/
theorem step_dealloc_eq_ok {i : Nat} {u u' : HeapUser σ} (h : g.step (.dealloc i) u = .ok () u') :
    (u.live[i]? = none ∧ u' = u) ∨
      ∃ p l a, u.live[i]? = some (p, l) ∧ g.dealloc p l u.allocator = .ok () a ∧
        u' = ⟨a, u.live.eraseIdx i⟩ := by
  simp only [step, Prog.bind_apply, Prog.get_apply, Outcome.bind_ok] at h
  cases hi : u.live[i]? with
  | none =>
    rw [hi] at h
    exact .inl ⟨rfl, (Outcome.ok.inj h).2.symm⟩
  | some x =>
    obtain ⟨p, l⟩ := x
    rw [hi] at h
    dsimp only at h
    cases hx : g.dealloc p l u.allocator with
    | ok v a =>
      rw [Prog.bind_apply, onAllocator_ok hx, Outcome.bind_ok, Prog.modify_apply] at h
      exact .inr ⟨p, l, a, rfl, hx, (Outcome.ok.inj h).2.symm⟩
    | err e a => exact e.elim
    | panic m => rw [Prog.bind_apply, onAllocator_panic hx, Outcome.bind_panic] at h; cases h

/-- An allocation step panics only where `alloc` does. -/
theorem step_alloc_panic {l : Layout} {u : HeapUser σ} {m : String}
    (h : g.step (.alloc l) u = .panic m) : g.alloc l u.allocator = .panic m := by
  cases hx : g.alloc l u.allocator with
  | ok p a =>
    rw [step, Prog.bind_apply, onAllocator_ok hx, Outcome.bind_ok] at h
    split at h <;> cases h
  | err e a => exact e.elim
  | panic m' =>
    rw [step, Prog.bind_apply, onAllocator_panic hx, Outcome.bind_panic] at h
    rw [Outcome.panic.inj h]

/-- A freeing step panics only where `dealloc` does, on a live pointer. -/
theorem step_dealloc_panic {i : Nat} {u : HeapUser σ} {m : String}
    (h : g.step (.dealloc i) u = .panic m) :
    ∃ p l, u.live[i]? = some (p, l) ∧ g.dealloc p l u.allocator = .panic m := by
  simp only [step, Prog.bind_apply, Prog.get_apply, Outcome.bind_ok] at h
  cases hi : u.live[i]? with
  | none => rw [hi] at h; cases h
  | some x =>
    obtain ⟨p, l⟩ := x
    rw [hi] at h
    dsimp only at h
    cases hx : g.dealloc p l u.allocator with
    | ok v a =>
      rw [Prog.bind_apply, onAllocator_ok hx, Outcome.bind_ok, Prog.modify_apply] at h; cases h
    | err e a => exact e.elim
    | panic m' =>
      rw [Prog.bind_apply, onAllocator_panic hx, Outcome.bind_panic] at h
      exact ⟨p, l, rfl, by rw [hx, Outcome.panic.inj h]⟩

theorem step_alloc_of_panic {l : Layout} {u : HeapUser σ} {m : String}
    (h : g.alloc l u.allocator = .panic m) : g.step (.alloc l) u = .panic m := by
  rw [step, Prog.bind_apply, onAllocator_panic h, Outcome.bind_panic]

theorem step_dealloc_of_none {i : Nat} {u : HeapUser σ} (hi : u.live[i]? = none) :
    g.step (.dealloc i) u = .ok () u := by
  simp only [step, Prog.bind_apply, Prog.get_apply, Outcome.bind_ok, hi, Prog.pure_apply]

theorem step_dealloc_apply {i : Nat} {u : HeapUser σ} {p : Nat} {l : Layout} {a : σ}
    (hi : u.live[i]? = some (p, l)) (h : g.dealloc p l u.allocator = .ok () a) :
    g.step (.dealloc i) u = .ok () ⟨a, u.live.eraseIdx i⟩ := by
  simp only [step, Prog.bind_apply, Prog.get_apply, Outcome.bind_ok, hi, onAllocator_ok h,
    Prog.modify_apply]

theorem step_alloc_apply {l : Layout} {u : HeapUser σ} {p : Nat} {a : σ}
    (h : g.alloc l u.allocator = .ok p a) :
    g.step (.alloc l) u = .ok () ⟨a, if p = 0 then u.live else (p, l) :: u.live⟩ := by
  rw [step, Prog.bind_apply, onAllocator_ok h, Outcome.bind_ok]
  by_cases hp : p = 0 <;> simp [hp]

/-- **The invariant rule**: what holds initially and is kept by every allowed
step that does not panic holds in every reachable state. -/
theorem Reachable.induction {ok : HeapOp → Prop} {u₀ : HeapUser σ} (I : HeapUser σ → Prop)
    (h0 : I u₀)
    (hs : ∀ u u' op, g.Reachable ok u₀ u → I u → ok op → g.step op u = .ok () u' → I u')
    {u : HeapUser σ} (h : g.Reachable ok u₀ u) : I u := by
  induction h with
  | init => exact h0
  | step hr hop hstep ih => exact hs _ _ _ hr ih hop hstep

theorem Reachable.mono {ok ok' : HeapOp → Prop} {u₀ u : HeapUser σ} (h : g.Reachable ok u₀ u)
    (hok : ∀ op, ok op → ok' op) : g.Reachable ok' u₀ u := by
  induction h with
  | init => exact .init
  | step _ hop hstep ih => exact .step ih (hok _ hop) hstep

/-- A run of allowed calls that did not panic ends in a reachable state. -/
theorem reachable_of_run {ok : HeapOp → Prop} {u₀ : HeapUser σ} :
    ∀ (ops : List HeapOp) (u u' : HeapUser σ), g.Reachable ok u₀ u → (∀ op ∈ ops, ok op) →
      g.run ops u = .ok () u' → g.Reachable ok u₀ u'
  | [], u, u', hu, _, h => by
    rw [run, Prog.pure_apply] at h
    rw [← (Outcome.ok.inj h).2]
    exact hu
  | op :: ops, u, u', hu, hops, h => by
    obtain ⟨_, u₁, h₁, h₂⟩ := Prog.bind_eq_ok h
    exact reachable_of_run ops u₁ u' (.step hu (hops op (by simp)) h₁)
      (fun op' hop' => hops op' (by simp [hop'])) h₂

theorem boxNew_of_ok {l : Layout} {a a' : σ} {p : Nat} (h : g.alloc l a = .ok p a') (hp : p ≠ 0) :
    g.boxNew l a = .ok p a' := by
  rw [boxNew, Prog.bind_apply, h, Outcome.bind_ok, if_neg hp, Prog.pure_apply]

/-- **Rounds of one layout reuse one block.** If allocating gives `p` in `a₁`,
freeing `p` there gives `a₂`, and allocating from `a₂` gives `p` in `a₁`
again, then any number of rounds succeeds, never seeing null. -/
theorem boxRounds_of_reuse {l : Layout} {p : Nat} {a₁ a₂ : σ} (hp : p ≠ 0)
    (hfree : g.dealloc p l a₁ = .ok () a₂) (hagain : g.alloc l a₂ = .ok p a₁) :
    ∀ (n : Nat) (a : σ), g.alloc l a = .ok p a₁ → g.boxRounds l (n + 1) a = .ok () a₂
  | 0, a, h => by
    rw [boxRounds, Prog.bind_apply, boxNew_of_ok h hp, Outcome.bind_ok, Prog.bind_apply, hfree,
      Outcome.bind_ok, boxRounds, Prog.pure_apply]
  | n + 1, a, h => by
    rw [boxRounds, Prog.bind_apply, boxNew_of_ok h hp, Outcome.bind_ok, Prog.bind_apply, hfree,
      Outcome.bind_ok]
    -- every later round starts from `a₂`, where the allocation is the same
    exact boxRounds_of_reuse hp hfree hagain n a₂ hagain

end GlobalAlloc
