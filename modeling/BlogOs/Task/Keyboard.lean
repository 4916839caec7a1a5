import BlogOs.Lib.Sim
import BlogOs.Lib.Sync

/-!
# The scancode hand-off (`src/task/keyboard.rs`)

The keyboard interrupt handler calls `add_scancode`, which pushes the scancode
onto `SCANCODE_QUEUE` (capacity 100) and, if the push succeeded, wakes
`SCANCODE_WAKER`. The consumer task polls `ScancodeStream::poll_next`:

1. pop the queue, and return `Ready(Some(_))` on a scancode;
2. otherwise register the context's waker in `SCANCODE_WAKER`;
3. pop again; on a scancode, `take` the waker back and return it;
4. otherwise return `Pending`.

The handler runs with interrupts off and the consumer on the same core, so a
run of `add_scancode` is one step; it may come between any two steps of
`poll_next`. `PollPc` says which statement of `poll_next` the consumer runs
next. Each call of `poll_next` registers a waker of its own, named by the
number of the call.

The state keeps three ghost lists: the scancodes whose push succeeded, those
returned as `Ready(Some(_))`, and the wakers woken. What is shown, over every
interleaving (`keyboard_handoff`): the returned scancodes, then the one the
consumer holds between a `pop` and its `return`, then the queue, are the
pushed scancodes in push order; and a consumer whose last call returned
`Pending` while the queue is not empty has had that call's waker woken.
-/

namespace BlogOs.Task

open Prog

/-- `ArrayQueue::new(100)` of `ScancodeStream::new`. -/
def scancodeQueueCapacity : Nat := 100

/-- The statement of `poll_next` the consumer runs next. -/
inductive PollPc where
  /-- Not inside `poll_next`. -/
  | idle
  /-- The first `pop` found nothing: `SCANCODE_WAKER.register` is next. -/
  | registering
  /-- The waker is registered: the second `pop` is next. -/
  | popping
  /-- The second `pop` returned `scancode`: `SCANCODE_WAKER.take()` is next. -/
  | taking (scancode : UInt8)
  /-- `return Poll::Ready(Some(scancode))` is next. -/
  | returningReady (scancode : UInt8)
  /-- The second `pop` found nothing: `Poll::Pending` is next. -/
  | returningPending
  deriving DecidableEq, Repr

/-- What the last finished `poll_next` returned. -/
inductive LastPoll where
  | none
  | ready
  /-- `Pending`, with the waker that call registered. -/
  | pending (waker : Nat)
  deriving DecidableEq, Repr

/-- The queue, the waker slot, the consumer's place in `poll_next`, and the ghost lists. -/
structure KeyboardState (B : ArrayQueue UInt8) (W : AtomicWaker Nat) where
  queue : B.State
  waker : W.State
  pc : PollPc
  last : LastPoll
  /-- The calls of `poll_next` begun so far; call `n` registers waker `n`. -/
  polls : Nat
  pushed : List UInt8
  returned : List UInt8
  woken : List Nat

variable {B : ArrayQueue UInt8} {W : AtomicWaker Nat}

namespace KeyboardState

variable {ε : Type}

/-- After `ScancodeStream::new`: an empty queue, no waker, no call yet. -/
def init : KeyboardState B W :=
  ⟨B.new scancodeQueueCapacity, W.new, .idle, .none, 0, [], [], []⟩

/-- `add_scancode(scancode)`. -/
def addScancode (scancode : UInt8) : Prog ε (KeyboardState B W) Unit := do
  let s ← get
  match s.queue.push scancode with
  | .error _ =>
    -- `println!("WARNING: SCANCODE_QUEUE full; dropping keyboard input")`
    pure ()
  | .ok queue =>
    -- `SCANCODE_WAKER.wake()`
    let (woken, waker) := s.waker.wake
    set { s with queue, waker, pushed := s.pushed ++ [scancode], woken := s.woken ++ woken.toList }

/-- The next statement of `poll_next`. -/
def pollNextStep : Prog ε (KeyboardState B W) Unit := do
  let s ← get
  match s.pc with
  | .idle =>
    -- a new call; `SCANCODE_QUEUE.try_get()` succeeds after `ScancodeStream::new`
    match s.queue.pop with
    | some (scancode, queue) => set { s with queue, polls := s.polls + 1, pc := .returningReady scancode }
    | none => set { s with polls := s.polls + 1, pc := .registering }
  | .registering => set { s with waker := s.waker.register s.polls, pc := .popping }
  | .popping =>
    match s.queue.pop with
    | some (scancode, queue) => set { s with queue, pc := .taking scancode }
    | none => set { s with pc := .returningPending }
  | .taking scancode => set { s with waker := s.waker.take.2, pc := .returningReady scancode }
  | .returningReady scancode =>
    set { s with returned := s.returned ++ [scancode], last := .ready, pc := .idle }
  | .returningPending => set { s with last := .pending s.polls, pc := .idle }

end KeyboardState

/-- Who moves: the interrupt handler with a scancode, or the consumer. -/
inductive KeyboardEvent where
  | interrupt (scancode : UInt8)
  | consumer
  deriving DecidableEq, Repr

/-- One step of the system. -/
def keyboardStep : KeyboardEvent → Prog Empty (KeyboardState B W) Unit
  | .interrupt scancode => KeyboardState.addScancode scancode
  | .consumer => KeyboardState.pollNextStep

namespace KeyboardState

variable {ε : Type} {s : KeyboardState B W} {scancode : UInt8} {queue : B.State}

/-! ## One lemma per path -/

/-- A push that succeeded wakes the registered waker, if any. -/
theorem addScancode_of_push (h : s.queue.push scancode = .ok queue) :
    (addScancode scancode : Prog ε (KeyboardState B W) Unit) s =
      .ok () { s with
        queue
        waker := s.waker.take.2
        pushed := s.pushed ++ [scancode]
        woken := s.woken ++ s.waker.slot.toList } := by
  simp only [addScancode, bind_apply, get_apply, Outcome.bind_ok, h, set_apply,
    AtomicWaker.State.wake, AtomicWaker.fst_take]

theorem addScancode_of_full {a : UInt8} (h : s.queue.push scancode = .error a) :
    (addScancode scancode : Prog ε (KeyboardState B W) Unit) s = .ok () s := by
  simp only [addScancode, bind_apply, get_apply, Outcome.bind_ok, h, pure_apply]

section Consumer

variable {s : KeyboardState B W}

theorem pollNextStep_idle_some (hpc : s.pc = .idle) (h : s.queue.pop = some (scancode, queue)) :
    (pollNextStep : Prog ε (KeyboardState B W) Unit) s =
      .ok () { s with queue, polls := s.polls + 1, pc := .returningReady scancode } := by
  simp only [pollNextStep, bind_apply, get_apply, Outcome.bind_ok, hpc, h, set_apply]

theorem pollNextStep_idle_none (hpc : s.pc = .idle) (h : s.queue.pop = none) :
    (pollNextStep : Prog ε (KeyboardState B W) Unit) s =
      .ok () { s with polls := s.polls + 1, pc := .registering } := by
  simp only [pollNextStep, bind_apply, get_apply, Outcome.bind_ok, hpc, h, set_apply]

theorem pollNextStep_registering (hpc : s.pc = .registering) :
    (pollNextStep : Prog ε (KeyboardState B W) Unit) s =
      .ok () { s with waker := s.waker.register s.polls, pc := .popping } := by
  simp only [pollNextStep, bind_apply, get_apply, Outcome.bind_ok, hpc, set_apply]

theorem pollNextStep_popping_some (hpc : s.pc = .popping) (h : s.queue.pop = some (scancode, queue)) :
    (pollNextStep : Prog ε (KeyboardState B W) Unit) s = .ok () { s with queue, pc := .taking scancode } := by
  simp only [pollNextStep, bind_apply, get_apply, Outcome.bind_ok, hpc, h, set_apply]

theorem pollNextStep_popping_none (hpc : s.pc = .popping) (h : s.queue.pop = none) :
    (pollNextStep : Prog ε (KeyboardState B W) Unit) s = .ok () { s with pc := .returningPending } := by
  simp only [pollNextStep, bind_apply, get_apply, Outcome.bind_ok, hpc, h, set_apply]

theorem pollNextStep_taking (hpc : s.pc = .taking scancode) :
    (pollNextStep : Prog ε (KeyboardState B W) Unit) s =
      .ok () { s with waker := s.waker.take.2, pc := .returningReady scancode } := by
  simp only [pollNextStep, bind_apply, get_apply, Outcome.bind_ok, hpc, set_apply]

theorem pollNextStep_returningReady (hpc : s.pc = .returningReady scancode) :
    (pollNextStep : Prog ε (KeyboardState B W) Unit) s =
      .ok () { s with returned := s.returned ++ [scancode], last := .ready, pc := .idle } := by
  simp only [pollNextStep, bind_apply, get_apply, Outcome.bind_ok, hpc, set_apply]

theorem pollNextStep_returningPending (hpc : s.pc = .returningPending) :
    (pollNextStep : Prog ε (KeyboardState B W) Unit) s =
      .ok () { s with last := .pending s.polls, pc := .idle } := by
  simp only [pollNextStep, bind_apply, get_apply, Outcome.bind_ok, hpc, set_apply]

end Consumer

end KeyboardState

/-! ## The invariant -/

/-- The scancode the consumer holds between a `pop` that returned it and its `return`. -/
def PollPc.held : PollPc → List UInt8
  | .taking scancode => [scancode]
  | .returningReady scancode => [scancode]
  | _ => []

namespace KeyboardState

variable {ε : Type} {s s' : KeyboardState B W} {scancode : UInt8} {w : Nat}

/-- Waker `w` is in the slot, or has been woken. -/
def Registered (s : KeyboardState B W) (w : Nat) : Prop := s.waker.slot = some w ∨ w ∈ s.woken

/-- Waker `w` cannot miss a scancode: the queue is empty with `w` in the slot,
or `w` has been woken. -/
def Armed (s : KeyboardState B W) (w : Nat) : Prop :=
  (s.queue.items = [] ∧ s.waker.slot = some w) ∨ w ∈ s.woken

/-- **The invariant of the hand-off.** -/
structure Inv (s : KeyboardState B W) : Prop where
  /-- No scancode lost or duplicated, the one in the consumer's hands counted. -/
  conserved : s.returned ++ s.pc.held ++ s.queue.items = s.pushed
  /-- Between `register` and the second `pop`, the call's waker is registered or woken. -/
  registered : s.pc = .popping → s.Registered s.polls
  /-- After a second `pop` that found nothing, the call's waker is armed. -/
  pending : s.pc = .returningPending → s.Armed s.polls
  /-- A consumer parked by `Pending` has its waker armed. -/
  parked : s.pc = .idle → ∀ w, s.last = .pending w → s.Armed w

theorem inv_init : Inv (init : KeyboardState B W) :=
  ⟨by simp [init, PollPc.held], (fun h => nomatch h), (fun h => nomatch h), (fun _ _ h => nomatch h)⟩

theorem Armed.registered (h : s.Armed w) : s.Registered w := by
  rcases h with ⟨-, h⟩ | h
  · exact .inl h
  · exact .inr h

/-- A waker that is registered or woken has been woken once a push succeeds. -/
theorem mem_woken_of_registered (h : s.Registered w) : w ∈ s.woken ++ s.waker.slot.toList := by
  rcases h with h | h
  · rw [h]
    exact List.mem_append_right _ (List.mem_singleton_self w)
  · exact List.mem_append_left _ h

/-- **The interrupt keeps the invariant**: a push adds at the end of the queue
and wakes whatever waker the consumer left. -/
theorem Inv.addScancode (hi : Inv s)
    (h : (addScancode scancode : Prog ε (KeyboardState B W) Unit) s = .ok () s') : Inv s' := by
  cases hpush : s.queue.push scancode with
  | error a =>
    rw [addScancode_of_full hpush] at h
    obtain rfl := (Outcome.ok.inj h).2
    exact hi
  | ok queue =>
    rw [addScancode_of_push hpush] at h
    obtain rfl := (Outcome.ok.inj h).2
    refine ⟨?_, fun hpc => .inr (mem_woken_of_registered (hi.registered hpc)),
      fun hpc => .inr (mem_woken_of_registered (hi.pending hpc).registered),
      fun hpc w hw => .inr (mem_woken_of_registered (hi.parked hpc w hw).registered)⟩
    show s.returned ++ s.pc.held ++ queue.items = s.pushed ++ [scancode]
    rw [ArrayQueue.items_of_push hpush, ← hi.conserved]
    simp only [List.append_assoc]

/-- A `pop` by a consumer that holds nothing moves the head of the queue into its hands. -/
theorem conserved_of_pop {pc : PollPc} (hheld : pc.held = [])
    (hc : s.returned ++ pc.held ++ s.queue.items = s.pushed) {c : UInt8} {queue : B.State}
    (hpop : s.queue.pop = some (c, queue)) : s.returned ++ [c] ++ queue.items = s.pushed := by
  rw [← hc, ArrayQueue.items_of_pop hpop, hheld]
  simp

/-- **Each statement of `poll_next` keeps the invariant.** The double check is
the `popping` case: the second `pop` finds nothing only while the waker it
registered is still in the slot or already woken. -/
theorem Inv.pollNextStep (hi : Inv s)
    (h : (pollNextStep : Prog ε (KeyboardState B W) Unit) s = .ok () s') : Inv s' := by
  have hc := hi.conserved
  cases hpc : s.pc with
  | idle =>
    rw [hpc] at hc
    cases hpop : s.queue.pop with
    | none =>
      rw [pollNextStep_idle_none hpc hpop] at h
      obtain rfl := (Outcome.ok.inj h).2
      exact ⟨hc, (fun h => nomatch h), (fun h => nomatch h), (fun h => nomatch h)⟩
    | some p =>
      obtain ⟨c, queue⟩ := p
      rw [pollNextStep_idle_some hpc hpop] at h
      obtain rfl := (Outcome.ok.inj h).2
      -- the popped scancode moves from the queue into the consumer's hands
      exact ⟨conserved_of_pop rfl hc hpop, (fun h => nomatch h), (fun h => nomatch h), (fun h => nomatch h)⟩
  | registering =>
    rw [pollNextStep_registering hpc] at h
    obtain rfl := (Outcome.ok.inj h).2
    rw [hpc] at hc
    exact ⟨hc, fun _ => .inl (AtomicWaker.slot_register _), (fun h => nomatch h), (fun h => nomatch h)⟩
  | popping =>
    have hreg := hi.registered hpc
    rw [hpc] at hc
    cases hpop : s.queue.pop with
    | none =>
      rw [pollNextStep_popping_none hpc hpop] at h
      obtain rfl := (Outcome.ok.inj h).2
      -- the queue was empty at the second pop: the waker is armed
      have hempty := ArrayQueue.pop_eq_none_iff.mp hpop
      refine ⟨hc, (fun h => nomatch h), fun _ => ?_, (fun h => nomatch h)⟩
      rcases hreg with hslot | hwoken
      · exact .inl ⟨hempty, hslot⟩
      · exact .inr hwoken
    | some p =>
      obtain ⟨c, queue⟩ := p
      rw [pollNextStep_popping_some hpc hpop] at h
      obtain rfl := (Outcome.ok.inj h).2
      exact ⟨conserved_of_pop rfl hc hpop, (fun h => nomatch h), (fun h => nomatch h), (fun h => nomatch h)⟩
  | taking c =>
    rw [pollNextStep_taking hpc] at h
    obtain rfl := (Outcome.ok.inj h).2
    rw [hpc] at hc
    exact ⟨hc, (fun h => nomatch h), (fun h => nomatch h), (fun h => nomatch h)⟩
  | returningReady c =>
    rw [pollNextStep_returningReady hpc] at h
    obtain rfl := (Outcome.ok.inj h).2
    rw [hpc] at hc
    refine ⟨?_, (fun h => nomatch h), (fun h => nomatch h), (fun _ _ h => nomatch h)⟩
    show (s.returned ++ [c]) ++ [] ++ s.queue.items = s.pushed
    rw [← hc]
    simp [PollPc.held]
  | returningPending =>
    have harmed := hi.pending hpc
    rw [pollNextStep_returningPending hpc] at h
    obtain rfl := (Outcome.ok.inj h).2
    rw [hpc] at hc
    refine ⟨hc, (fun h => nomatch h), (fun h => nomatch h), fun _ w hw => ?_⟩
    -- the parked waker is the one this call registered
    obtain rfl : s.polls = w := LastPoll.pending.inj hw
    exact harmed

theorem Inv.step (hi : Inv s) {e : KeyboardEvent} (h : keyboardStep e s = .ok () s') : Inv s' := by
  cases e with
  | interrupt scancode => exact hi.addScancode h
  | consumer => exact hi.pollNextStep h

theorem inv_reachable (h : Prog.Reachable keyboardStep init s) : Inv s :=
  Prog.Reachable.induction Inv inv_init (fun _ _ _ _ hi hstep => hi.step hstep) h

/-- **No lost wake-up, and no lost or duplicated scancode.** In every state
the interrupt handler and the consumer reach, in any interleaving: the
scancodes returned as `Ready(Some(_))`, then the one the consumer holds
between a `pop` and its `return`, then the queue, are the scancodes whose push
succeeded, in push order, so the returned ones and the queue alone when the
consumer holds none; and a consumer parked after a call that returned
`Pending`, with the queue not empty, has had that call's waker woken. -/
theorem keyboard_handoff (h : Prog.Reachable keyboardStep init s) :
    s.returned ++ s.pc.held ++ s.queue.items = s.pushed ∧
      (s.pc.held = [] → s.returned ++ s.queue.items = s.pushed) ∧
      (s.pc = .idle → ∀ w, s.last = .pending w → s.queue.items ≠ [] → w ∈ s.woken) := by
  have hi := inv_reachable h
  refine ⟨hi.conserved, fun hheld => ?_, fun hpc w hw hne => ?_⟩
  · have hc := hi.conserved
    rwa [hheld, List.append_nil] at hc
  · rcases hi.parked hpc w hw with ⟨hempty, -⟩ | hwoken
    · exact absurd hempty hne
    · exact hwoken

/-- The interrupt has pushed 7 and the consumer's first `pop` has taken it; the
call has not returned yet. -/
def poppedState : KeyboardState (ArrayQueue.boundedList UInt8) (AtomicWaker.option Nat) :=
  ⟨(ArrayQueue.boundedList UInt8).new scancodeQueueCapacity, (AtomicWaker.option Nat).new,
    .returningReady 7, .none, 1, [7], [], []⟩

theorem reachable_poppedState : Prog.Reachable keyboardStep init poppedState := by
  obtain ⟨s₁, hpush⟩ : ∃ s₁, keyboardStep (.interrupt 7)
      (init : KeyboardState (ArrayQueue.boundedList UInt8) (AtomicWaker.option Nat)) = .ok () s₁ :=
    ⟨_, rfl⟩
  have hpop : keyboardStep .consumer s₁ = .ok () poppedState := by
    rw [← (Outcome.ok.inj hpush).2]
    rfl
  exact .step .consumer (.step (.interrupt 7) .init hpush) hpop

theorem keyboard_handoff_poppedState :
    Prog.Reachable keyboardStep init poppedState ∧
      (poppedState.returned ++ poppedState.pc.held ++ poppedState.queue.items = poppedState.pushed ∧
        (poppedState.pc.held = [] → poppedState.returned ++ poppedState.queue.items = poppedState.pushed) ∧
        (poppedState.pc = .idle → ∀ w, poppedState.last = .pending w → poppedState.queue.items ≠ [] →
          w ∈ poppedState.woken)) :=
  ⟨reachable_poppedState, keyboard_handoff reachable_poppedState⟩

/-- Between the `pop` of the fast path and its `return`, the scancode is in
neither list: returned scancodes and the queue alone miss it. -/
theorem keyboard_pop_before_return :
    Prog.Reachable keyboardStep init poppedState ∧
      poppedState.returned ++ poppedState.queue.items ≠ poppedState.pushed := by
  refine ⟨reachable_poppedState, ?_⟩
  simp [poppedState, ArrayQueue.items_new]

end KeyboardState

end BlogOs.Task
