import Mathlib

/-!
# A bounded queue and a waker slot, by their documentation

Two crates that interrupt handlers and async tasks share, each of whose
operations is taken to be one atomic step. Neither crate's code is part of the
repository, so each is a parameter here: a structure that carries an
implementation's state type, its operations, a view of what a state holds,
and, as named fields, what the crate's documentation promises of each
operation. Everything built on them holds for every implementation that keeps
those promises. One instance of each, on lists and options, is what concrete
runs evaluate.

* `ArrayQueue`, crossbeam's bounded FIFO queue: `new(cap)` is empty with
  capacity `cap`; `push` appends while fewer than `cap` values are held and
  hands the value back otherwise; `pop` takes the oldest value, or returns
  none on an empty queue.
* `AtomicWaker`, futures' slot for one waker: `register` puts a waker in the
  slot in place of any earlier one, and `take` returns what the slot holds
  and empties it. `wake` is `take` followed by waking what it took; here it
  returns the waker it woke.
-/

/-- crossbeam's `ArrayQueue<α>`, by its documented behaviour. -/
structure ArrayQueue (α : Type) where
  /-- The queue's values. -/
  State : Type
  /-- `ArrayQueue::new(cap)`. -/
  new : Nat → State
  /-- `push(value)`: `Err(value)` when the queue is full. -/
  push : State → α → Except α State
  /-- `pop()`. -/
  pop : State → Option (α × State)
  /-- `capacity()`. -/
  cap : State → Nat
  /-- The values held, oldest first: what `len()` counts and `pop` takes in turn. -/
  items : State → List α
  /-- A queue never holds more than its capacity. -/
  bounded : ∀ q, (items q).length ≤ cap q
  new_items : ∀ c, items (new c) = []
  new_cap : ∀ c, cap (new c) = c
  /-- A push with room left appends the value, at the same capacity. -/
  push_room : ∀ q a, (items q).length < cap q →
    ∃ q', push q a = .ok q' ∧ items q' = items q ++ [a] ∧ cap q' = cap q
  /-- A push on a full queue hands the value back. -/
  push_full : ∀ q a, cap q ≤ (items q).length → push q a = .error a
  /-- A pop of an empty queue returns none. -/
  pop_empty : ∀ q, items q = [] → pop q = none
  /-- A pop returns the oldest value and leaves the rest, at the same capacity. -/
  pop_front : ∀ q a rest, items q = a :: rest →
    ∃ q', pop q = some (a, q') ∧ items q' = rest ∧ cap q' = cap q

/-! The operations on a queue's values, for dot notation. -/

namespace ArrayQueue.State

variable {α : Type} {A : ArrayQueue α}

/-- `push(value)`. -/
def push (q : A.State) (a : α) : Except α A.State := A.push q a

/-- `pop()`. -/
def pop (q : A.State) : Option (α × A.State) := A.pop q

/-- `capacity()`. -/
def cap (q : A.State) : Nat := A.cap q

/-- The values held, oldest first. -/
def items (q : A.State) : List α := A.items q

theorem bounded (q : A.State) : q.items.length ≤ q.cap := A.bounded q

end ArrayQueue.State

namespace ArrayQueue

variable {α : Type} {A : ArrayQueue α} {q q' : A.State} {a : α}

@[simp] theorem items_new (c : Nat) : (A.new c).items = [] := A.new_items c

@[simp] theorem cap_new (c : Nat) : (A.new c).cap = c := A.new_cap c

theorem push_of_lt (h : q.items.length < q.cap) :
    ∃ q', q.push a = .ok q' ∧ q'.items = q.items ++ [a] ∧ q'.cap = q.cap :=
  A.push_room q a h

theorem push_of_full (h : q.cap ≤ q.items.length) : q.push a = .error a := A.push_full q a h

/-- A push that succeeded had room, so it appended. -/
theorem push_eq_ok (h : q.push a = .ok q') : q'.items = q.items ++ [a] ∧ q'.cap = q.cap := by
  by_cases hl : q.items.length < q.cap
  · obtain ⟨q'', hpush, hitems, hcap⟩ := push_of_lt (a := a) hl
    obtain rfl : q' = q'' := Except.ok.inj (h.symm.trans hpush)
    exact ⟨hitems, hcap⟩
  · rw [push_of_full (Nat.le_of_not_lt hl)] at h
    cases h

theorem items_of_push (h : q.push a = .ok q') : q'.items = q.items ++ [a] := (push_eq_ok h).1

theorem cap_of_push (h : q.push a = .ok q') : q'.cap = q.cap := (push_eq_ok h).2

/-- `pop` on a queue whose oldest value is `a` returns it, with the rest. -/
theorem pop_of_items_cons {rest : List α} (h : q.items = a :: rest) :
    ∃ q', q.pop = some (a, q') ∧ q'.items = rest ∧ q'.cap = q.cap :=
  A.pop_front q a rest h

theorem pop_eq_none_iff : q.pop = none ↔ q.items = [] := by
  constructor
  · intro h
    rcases hq : q.items with _ | ⟨b, rest⟩
    · rfl
    · obtain ⟨q', hpop, -⟩ := pop_of_items_cons hq
      rw [h] at hpop
      cases hpop
  · exact A.pop_empty q

/-- A pop that returned a value took the oldest one. -/
theorem pop_eq_some (h : q.pop = some (a, q')) : q.items = a :: q'.items ∧ q'.cap = q.cap := by
  rcases hq : q.items with _ | ⟨b, rest⟩
  · rw [pop_eq_none_iff.mpr hq] at h
    cases h
  · obtain ⟨q'', hpop, hrest, hcap⟩ := pop_of_items_cons hq
    rw [h, Option.some.injEq, Prod.mk.injEq] at hpop
    obtain ⟨rfl, rfl⟩ := hpop
    exact ⟨by rw [hrest], hcap⟩

theorem items_of_pop (h : q.pop = some (a, q')) : q.items = a :: q'.items := (pop_eq_some h).1

theorem cap_of_pop (h : q.pop = some (a, q')) : q'.cap = q.cap := (pop_eq_some h).2

/-- A value among the first `n` that the next `pop` does not return is among
the first `n - 1` of the rest. -/
theorem mem_take_tail_of_pop_ne {n : Nat} (h : a ∈ q.items.take n) (hpop : ∀ q', q.pop ≠ some (a, q')) :
    ∃ m, n = m + 1 ∧ a ∈ q.items.tail.take m := by
  rcases hq : q.items with _ | ⟨b, rest⟩
  · rw [hq] at h
    simp at h
  · rw [hq] at h
    cases n with
    | zero => simp at h
    | succ m =>
      refine ⟨m, rfl, ?_⟩
      rw [List.take_succ_cons, List.mem_cons] at h
      rcases h with rfl | h
      · obtain ⟨q', hq', -⟩ := pop_of_items_cons hq
        exact absurd hq' (hpop q')
      · exact h

/-- A queue with a value pops it, or an older one. -/
theorem pop_of_ne_nil (h : q.items ≠ []) : ∃ b q', q.pop = some (b, q') := by
  cases hpop : q.pop with
  | none => exact absurd (pop_eq_none_iff.mp hpop) h
  | some p => exact ⟨p.1, p.2, rfl⟩

end ArrayQueue

/-- A list with a capacity it stays within, oldest value first. -/
structure BoundedList (α : Type) where
  cap : Nat
  items : List α
  bounded : items.length ≤ cap

namespace BoundedList

variable {α : Type}

/-- Append while there is room. -/
def push (q : BoundedList α) (a : α) : Except α (BoundedList α) :=
  if h : q.items.length < q.cap then
    .ok ⟨q.cap, q.items ++ [a], by rw [List.length_append, List.length_singleton]; omega⟩
  else .error a

/-- Take the oldest value. -/
def pop (q : BoundedList α) : Option (α × BoundedList α) :=
  match q with
  | ⟨_, [], _⟩ => none
  | ⟨cap, a :: rest, h⟩ => some (a, ⟨cap, rest, Nat.le_of_succ_le h⟩)

theorem pop_of_nil {q : BoundedList α} (h : q.items = []) : q.pop = none := by
  obtain ⟨cap, items, hb⟩ := q
  change items = [] at h
  subst h
  rfl

theorem pop_of_cons {q : BoundedList α} {a : α} {rest : List α} (h : q.items = a :: rest) :
    ∃ q', q.pop = some (a, q') ∧ q'.items = rest ∧ q'.cap = q.cap := by
  obtain ⟨cap, items, hb⟩ := q
  change items = a :: rest at h
  subst h
  exact ⟨⟨cap, rest, Nat.le_of_succ_le hb⟩, rfl, rfl, rfl⟩

end BoundedList

/-- A bounded queue kept as a list: an implementation that keeps every promise. -/
def ArrayQueue.boundedList (α : Type) : ArrayQueue α where
  State := BoundedList α
  new cap := ⟨cap, [], Nat.zero_le cap⟩
  push := BoundedList.push
  pop := BoundedList.pop
  cap := BoundedList.cap
  items := BoundedList.items
  bounded := BoundedList.bounded
  new_items _ := rfl
  new_cap _ := rfl
  push_room _ _ h := ⟨_, dif_pos h, rfl, rfl⟩
  push_full _ _ h := dif_neg (Nat.not_lt.mpr h)
  pop_empty _ h := BoundedList.pop_of_nil h
  pop_front _ _ _ h := BoundedList.pop_of_cons h

/-- futures' `AtomicWaker` for wakers of type `ω`, by its documented behaviour. -/
structure AtomicWaker (ω : Type) where
  /-- The slot's contents. -/
  State : Type
  /-- `AtomicWaker::new()`. -/
  new : State
  /-- `register(waker)`. -/
  register : State → ω → State
  /-- `take()`. -/
  take : State → Option ω × State
  /-- The waker registered, if any. -/
  slot : State → Option ω
  /-- A new slot holds no waker. -/
  new_slot : slot new = none
  /-- `register` puts the waker in the slot, in place of any earlier one. -/
  register_slot : ∀ a w, slot (register a w) = some w
  /-- `take` returns the waker in the slot, -/
  take_fst : ∀ a, (take a).1 = slot a
  /-- and leaves the slot empty. -/
  take_slot : ∀ a, slot (take a).2 = none

namespace AtomicWaker.State

variable {ω : Type} {W : AtomicWaker ω}

/-- `register(waker)`. -/
def register (a : W.State) (w : ω) : W.State := W.register a w

/-- `take()`: the registered waker, leaving the slot empty. -/
def take (a : W.State) : Option ω × W.State := W.take a

/-- `wake()`: takes the registered waker and wakes it. The waker woken, if any. -/
def wake (a : W.State) : Option ω × W.State := a.take

/-- The waker registered, if any. -/
def slot (a : W.State) : Option ω := W.slot a

end AtomicWaker.State

namespace AtomicWaker

variable {ω : Type} {W : AtomicWaker ω} {a : W.State}

@[simp] theorem slot_new : (W.new).slot = none := W.new_slot

@[simp] theorem slot_register (w : ω) : (a.register w).slot = some w := W.register_slot a w

@[simp] theorem fst_take : a.take.1 = a.slot := W.take_fst a

@[simp] theorem slot_take : a.take.2.slot = none := W.take_slot a

/-- A slot kept as an option: an implementation that keeps every promise. -/
def option (ω : Type) : AtomicWaker ω where
  State := Option ω
  new := none
  register _ w := some w
  take a := (a, none)
  slot a := a
  new_slot := rfl
  register_slot _ _ := rfl
  take_fst _ := rfl
  take_slot _ := rfl

end AtomicWaker
