import BlogOs.Task.Keyboard
import BlogOs.Task.Fairness

/-!
# The keyboard task under the executor (`src/task/keyboard.rs`, `src/task/executor.rs`)

`kernel_main` spawns `example_task` and then `print_keypresses`, and runs the
`Executor`. The keyboard interrupt handler calls `add_scancode`.
`print_keypresses` calls `ScancodeStream::poll_next` again after every
`Ready(Some(_))`, so its task's poll returns `Pending` when `poll_next` does.
The waker that `poll_next` registers in `SCANCODE_WAKER` is the one the
executor made for the keyboard task, so a wake from `add_scancode` pushes that
task's id onto `task_queue`.

`kernelStep` puts the executor and the hand-off together. An interrupt may
come between any two steps, also between two statements of the keyboard
task's poll, which are the `consumer` steps; the executor moves only between
polls of the keyboard task. Other tasks are polled in one executor step, as in
`executorStep`: their futures do not touch the hand-off.

What is shown over every run from boot: while the keyboard task is not being
polled, a scancode waiting in `SCANCODE_QUEUE` has the task's id in
`task_queue` (`keyboard_task_queued`); and every scancode pushed so far has
been returned by `poll_next` once the executor has made more than 100 rounds
(`keypresses_delivered`). At most 99 ids are ahead of the keyboard task's, a
round begins its poll, and the next round waits for the poll to end, which is
after a `pop` found the queue empty.
-/

namespace BlogOs.Task

open Prog

/-- The keyboard path of the kernel: the executor, `SCANCODE_QUEUE` with
`SCANCODE_WAKER`, and the keyboard task while the executor polls it. -/
structure KernelState (A : ArrayQueue TaskId) (B : ArrayQueue UInt8) (W : AtomicWaker Nat) where
  exec : ExecutorState A
  /-- `ScancodeStream::new` has initialised `SCANCODE_QUEUE`. -/
  streamReady : Bool
  kb : KeyboardState B W
  /-- The keyboard task, while `run_ready_tasks` polls it. -/
  polling : Option Task

/-- The keyboard path over the list-backed queues and the option slot, which
the concrete runs below evaluate. -/
abbrev ListKernelState : Type :=
  KernelState (ArrayQueue.boundedList TaskId) (ArrayQueue.boundedList UInt8) (AtomicWaker.option Nat)

variable {A : ArrayQueue TaskId} {B : ArrayQueue UInt8} {W : AtomicWaker Nat}

/-- Who moves next. -/
inductive KernelEvent where
  /-- The keyboard interrupt handler, with the scancode it read from port `0x60`. -/
  | interrupt (scancode : UInt8)
  /-- A spawn, a wake, or a round of `run_ready_tasks`, between polls of the keyboard task. -/
  | executor (e : ExecutorEvent)
  /-- The next statement of the keyboard task's poll. -/
  | consumer
  deriving DecidableEq, Repr

/-- Whether the step is a round of `run_ready_tasks`. -/
def KernelEvent.isRound : KernelEvent → Bool
  | .executor e => e.isRound
  | _ => false

namespace KernelState

variable (kbTask : TaskId)

/-- A computation of the executor, on its part of the state. -/
def onExec (x : Prog Empty (ExecutorState A) Unit) : Prog Unit (KernelState A B W) Unit :=
  mapErr Empty.elim (focus exec (fun s e => { s with exec := e }) x)

/-- A computation of the hand-off, on its part of the state. -/
def onKb (x : Prog Unit (KeyboardState B W) Unit) : Prog Unit (KernelState A B W) Unit :=
  focus kb (fun s k => { s with kb := k }) x

/-- `add_scancode(scancode)`. Before `ScancodeStream::new`,
`SCANCODE_QUEUE.try_get()` fails and the scancode is dropped. After a push
that succeeded, `SCANCODE_WAKER.wake()` wakes the waker in the slot; only the
keyboard task calls `poll_next`, so that waker is the task's `TaskWaker`, and
its `wake` pushes the task's id. -/
def interrupt (scancode : UInt8) : Prog Unit (KernelState A B W) Unit := do
  let s ← get
  if s.streamReady then
    onKb (KeyboardState.addScancode scancode)
    if (s.kb.queue.push scancode).isOk && s.kb.waker.slot.isSome then
      onExec (ExecutorState.wakeTask ⟨kbTask⟩)

/-- A round that popped the keyboard task's id, with the queue it left:
`tasks.get_mut`, the cached waker, and the poll begins. The first poll runs
`ScancodeStream::new`. -/
def beginPoll (taskQueue : A.State) : Prog Unit (KernelState A B W) Unit := do
  let s ← get
  set { s with exec := { s.exec with executor := { s.exec.executor with taskQueue } } }
  match s.exec.executor.tasks kbTask with
  | none => pure ()
  | some task =>
    onExec (ExecutorState.cacheWaker kbTask)
    modify fun s => { s with streamReady := true, polling := some task }

/-- A step of the executor, taken only between polls of the keyboard task. A
round whose `pop` gives the keyboard task's id begins its poll; any other step
is the executor's own. -/
def executorMove (e : ExecutorEvent) : Prog Unit (KernelState A B W) Unit := do
  let s ← get
  if s.polling.isSome then Prog.throw ()
  else
    match e.isRound, s.exec.executor.taskQueue.pop with
    | true, some (tid, taskQueue) =>
      if tid = kbTask then beginPoll kbTask taskQueue else onExec (executorStep e)
    | _, _ => onExec (executorStep e)

/-- The next statement of the keyboard task's poll, one of `poll_next`. When
`poll_next` returns `Pending`, so does the task's poll. -/
def consumer : Prog Unit (KernelState A B W) Unit := do
  let s ← get
  match s.polling with
  | none => Prog.throw ()
  | some task =>
    onKb KeyboardState.pollNextStep
    if s.kb.pc = .returningPending then
      onExec (ExecutorState.recordPoll task false)
      modify fun s => { s with polling := none }

/-- `kernel_main` entering `executor.run()` after spawning `example_task` and
`print_keypresses`, which has not run `ScancodeStream::new` yet. -/
def boot : KernelState A B W := ⟨twoSpawned, false, KeyboardState.init, none⟩

@[simp] theorem boot_exec : (boot : KernelState A B W).exec = twoSpawned := rfl

@[simp] theorem boot_streamReady : (boot : KernelState A B W).streamReady = false := rfl

@[simp] theorem boot_kb : (boot : KernelState A B W).kb = KeyboardState.init := rfl

@[simp] theorem boot_polling : (boot : KernelState A B W).polling = none := rfl

end KernelState

/-- One step of the keyboard path, with `kbTask` the id of the keyboard task. -/
def kernelStep (kbTask : TaskId) : KernelEvent → Prog Unit (KernelState A B W) Unit
  | .interrupt scancode => KernelState.interrupt kbTask scancode
  | .executor e => KernelState.executorMove kbTask e
  | .consumer => KernelState.consumer

/-! ## What the hand-off's steps can do -/

namespace KeyboardState

variable {ε : Type} {s s' : KeyboardState B W} {sc : UInt8}

theorem addScancode_eq_ok (h : (addScancode sc : Prog ε (KeyboardState B W) Unit) s = .ok () s') :
    ((s.queue.push sc).isOk = false ∧ s' = s) ∨
      ∃ q, s.queue.push sc = .ok q ∧ s' = { s with
        queue := q
        waker := s.waker.take.2
        pushed := s.pushed ++ [sc]
        woken := s.woken ++ s.waker.slot.toList } := by
  cases hpush : s.queue.push sc with
  | error a =>
    rw [addScancode_of_full hpush] at h
    exact .inl ⟨rfl, (Outcome.ok.inj h).2.symm⟩
  | ok q =>
    rw [addScancode_of_push hpush] at h
    exact .inr ⟨q, rfl, (Outcome.ok.inj h).2.symm⟩

/-- `add_scancode` leaves the consumer where it is and only adds to what was pushed. -/
theorem addScancode_frame (h : (addScancode sc : Prog ε (KeyboardState B W) Unit) s = .ok () s') :
    s'.pc = s.pc ∧ s'.polls = s.polls ∧ s'.returned = s.returned ∧ s.pushed <+: s'.pushed := by
  rcases addScancode_eq_ok h with ⟨-, rfl⟩ | ⟨q, -, rfl⟩
  · exact ⟨rfl, rfl, rfl, List.prefix_refl _⟩
  · exact ⟨rfl, rfl, rfl, List.prefix_append _ _⟩

/-- **Every statement of `poll_next`**, with what it reads and what it leaves. -/
theorem pollNextStep_eq_ok (h : (pollNextStep : Prog ε (KeyboardState B W) Unit) s = .ok () s') :
    (s.pc = .idle ∧ ∃ c q, s.queue.pop = some (c, q) ∧
        s' = { s with queue := q, polls := s.polls + 1, pc := .returningReady c }) ∨
      (s.pc = .idle ∧ s.queue.pop = none ∧ s' = { s with polls := s.polls + 1, pc := .registering }) ∨
      (s.pc = .registering ∧ s' = { s with waker := s.waker.register s.polls, pc := .popping }) ∨
      (s.pc = .popping ∧ ∃ c q, s.queue.pop = some (c, q) ∧ s' = { s with queue := q, pc := .taking c }) ∨
      (s.pc = .popping ∧ s.queue.pop = none ∧ s' = { s with pc := .returningPending }) ∨
      (∃ c, s.pc = .taking c ∧ s' = { s with waker := s.waker.take.2, pc := .returningReady c }) ∨
      (∃ c, s.pc = .returningReady c ∧
        s' = { s with returned := s.returned ++ [c], last := .ready, pc := .idle }) ∨
      (s.pc = .returningPending ∧ s' = { s with last := .pending s.polls, pc := .idle }) := by
  cases hpc : s.pc with
  | idle =>
    cases hpop : s.queue.pop with
    | none =>
      rw [pollNextStep_idle_none hpc hpop] at h
      exact .inr (.inl ⟨rfl, rfl, (Outcome.ok.inj h).2.symm⟩)
    | some p =>
      rw [pollNextStep_idle_some hpc hpop] at h
      exact .inl ⟨rfl, p.1, p.2, rfl, (Outcome.ok.inj h).2.symm⟩
  | registering =>
    rw [pollNextStep_registering hpc] at h
    exact .inr (.inr (.inl ⟨rfl, (Outcome.ok.inj h).2.symm⟩))
  | popping =>
    cases hpop : s.queue.pop with
    | none =>
      rw [pollNextStep_popping_none hpc hpop] at h
      exact .inr (.inr (.inr (.inr (.inl ⟨rfl, rfl, (Outcome.ok.inj h).2.symm⟩))))
    | some p =>
      rw [pollNextStep_popping_some hpc hpop] at h
      exact .inr (.inr (.inr (.inl ⟨rfl, p.1, p.2, rfl, (Outcome.ok.inj h).2.symm⟩)))
  | taking c =>
    rw [pollNextStep_taking hpc] at h
    exact .inr (.inr (.inr (.inr (.inr (.inl ⟨c, rfl, (Outcome.ok.inj h).2.symm⟩)))))
  | returningReady c =>
    rw [pollNextStep_returningReady hpc] at h
    exact .inr (.inr (.inr (.inr (.inr (.inr (.inl ⟨c, rfl, (Outcome.ok.inj h).2.symm⟩))))))
  | returningPending =>
    rw [pollNextStep_returningPending hpc] at h
    exact .inr (.inr (.inr (.inr (.inr (.inr (.inr ⟨rfl, (Outcome.ok.inj h).2.symm⟩))))))

/-- Every waker woken or in the slot was registered by a call of `poll_next`
begun so far. -/
structure Numbered (s : KeyboardState B W) : Prop where
  woken : ∀ w ∈ s.woken, w ≤ s.polls
  slot : ∀ w, s.waker.slot = some w → w ≤ s.polls

theorem numbered_init : (init : KeyboardState B W).Numbered :=
  ⟨(fun _ h => nomatch h), fun _ h => by simp [init] at h⟩

theorem Numbered.addScancode (hn : s.Numbered)
    (h : (addScancode sc : Prog ε (KeyboardState B W) Unit) s = .ok () s') : s'.Numbered := by
  rcases addScancode_eq_ok h with ⟨-, rfl⟩ | ⟨q, -, rfl⟩
  · exact hn
  · -- the push took the waker out of the slot
    refine ⟨fun w hw => ?_, fun w hw => by simp at hw⟩
    rcases List.mem_append.mp hw with hw | hw
    · exact hn.woken w hw
    · exact hn.slot w (Option.mem_toList.mp hw)

theorem Numbered.pollNextStep (hn : s.Numbered)
    (h : (pollNextStep : Prog ε (KeyboardState B W) Unit) s = .ok () s') : s'.Numbered := by
  rcases pollNextStep_eq_ok h with ⟨-, c, q, -, rfl⟩ | ⟨-, -, rfl⟩ | ⟨-, rfl⟩ | ⟨-, c, q, -, rfl⟩ |
      ⟨-, -, rfl⟩ | ⟨c, -, rfl⟩ | ⟨c, -, rfl⟩ | ⟨-, rfl⟩
  · exact ⟨fun w hw => Nat.le_succ_of_le (hn.woken w hw), fun w hw => Nat.le_succ_of_le (hn.slot w hw)⟩
  · exact ⟨fun w hw => Nat.le_succ_of_le (hn.woken w hw), fun w hw => Nat.le_succ_of_le (hn.slot w hw)⟩
  · -- the slot gets this call's waker
    refine ⟨hn.woken, fun w hw => ?_⟩
    obtain rfl : s.polls = w := by simpa using hw
    exact le_rfl
  · exact ⟨hn.woken, hn.slot⟩
  · exact ⟨hn.woken, hn.slot⟩
  · exact ⟨hn.woken, fun w hw => by simp at hw⟩
  · exact ⟨hn.woken, hn.slot⟩
  · exact ⟨hn.woken, hn.slot⟩

/-- Inside a call, a woken waker of that call was woken before the statement:
a new call's waker has a number no waker woken so far has. -/
theorem pollNextStep_woken (hn : s.Numbered)
    (h : (pollNextStep : Prog ε (KeyboardState B W) Unit) s = .ok () s') (hpc : s'.pc ≠ .idle)
    (hw : s'.polls ∈ s'.woken) : s.pc ≠ .idle ∧ s.polls ∈ s.woken := by
  rcases pollNextStep_eq_ok h with ⟨-, c, q, -, rfl⟩ | ⟨-, -, rfl⟩ | ⟨h0, rfl⟩ | ⟨h0, c, q, -, rfl⟩ |
      ⟨h0, -, rfl⟩ | ⟨c, h0, rfl⟩ | ⟨c, -, rfl⟩ | ⟨-, rfl⟩
  · exact absurd (hn.woken _ hw) (Nat.not_succ_le_self _)
  · exact absurd (hn.woken _ hw) (Nat.not_succ_le_self _)
  · exact ⟨by rw [h0]; exact nofun, hw⟩
  · exact ⟨by rw [h0]; exact nofun, hw⟩
  · exact ⟨by rw [h0]; exact nofun, hw⟩
  · exact ⟨by rw [h0]; exact nofun, hw⟩
  · exact absurd rfl hpc
  · exact absurd rfl hpc

/-- Only a second `pop` that finds the queue empty leads to `Pending`. -/
theorem pollNextStep_to_pending (h : (pollNextStep : Prog ε (KeyboardState B W) Unit) s = .ok () s')
    (hpc : s'.pc = .returningPending) : s.pc = .popping ∧ s.queue.items = [] ∧ s' = { s with pc := .returningPending } := by
  rcases pollNextStep_eq_ok h with ⟨-, c, q, -, rfl⟩ | ⟨-, -, rfl⟩ | ⟨-, rfl⟩ | ⟨-, c, q, -, rfl⟩ |
      ⟨h0, hpop, rfl⟩ | ⟨c, -, rfl⟩ | ⟨c, -, rfl⟩ | ⟨-, rfl⟩
  · cases hpc
  · cases hpc
  · cases hpc
  · cases hpc
  · exact ⟨h0, ArrayQueue.pop_eq_none_iff.mp hpop, rfl⟩
  · cases hpc
  · cases hpc
  · cases hpc

/-- `poll_next` pushes nothing, wakes nothing, and only adds to what it returned. -/
theorem pollNextStep_lists (h : (pollNextStep : Prog ε (KeyboardState B W) Unit) s = .ok () s') :
    s'.pushed = s.pushed ∧ s'.woken = s.woken ∧ s.returned <+: s'.returned := by
  rcases pollNextStep_eq_ok h with ⟨-, c, q, -, rfl⟩ | ⟨-, -, rfl⟩ | ⟨-, rfl⟩ | ⟨-, c, q, -, rfl⟩ |
      ⟨-, -, rfl⟩ | ⟨c, -, rfl⟩ | ⟨c, -, rfl⟩ | ⟨-, rfl⟩
  all_goals first
    | exact ⟨rfl, rfl, List.prefix_refl _⟩
    | exact ⟨rfl, rfl, List.prefix_append _ _⟩

end KeyboardState

/-! ## What the executor's steps do to another task -/

namespace ExecutorState

variable {s s' : ExecutorState A} {tid : TaskId} {wakes : List Nat} {ready : Bool}

/-- A round that does not pop `tid` keeps the task under it and the queue's
capacity, and leaves the queue after the popped id in front of what it pushes. -/
theorem runReadyTask_of_not_front (hpop : ∀ q, s.executor.taskQueue.pop ≠ some (tid, q))
    (h : (runReadyTask wakes ready : Prog Empty (ExecutorState A) Unit) s = .ok () s') :
    s'.executor.tasks tid = s.executor.tasks tid ∧
      s'.executor.taskQueue.cap = s.executor.taskQueue.cap ∧
      s.executor.taskQueue.items.tail <+: s'.executor.taskQueue.items := by
  rcases runReadyTask_eq_ok h with ⟨hnone, rfl⟩ | ⟨x, q, hpopx, ⟨-, rfl⟩ | ⟨u, -, hpoll⟩⟩
  · rw [ArrayQueue.pop_eq_none_iff.mp hnone]
    exact ⟨rfl, rfl, List.nil_prefix⟩
  · refine ⟨rfl, ArrayQueue.cap_of_pop hpopx, ?_⟩
    rw [ArrayQueue.items_of_pop hpopx]
    exact List.prefix_refl _
  · have hx : tid ≠ x := by
      rintro rfl
      exact hpop q hpopx
    obtain ⟨htasks, -, hqueue, hcap⟩ := pollTask_eq_ok hpoll
    refine ⟨htasks tid hx, hcap.trans (ArrayQueue.cap_of_pop hpopx), ?_⟩
    rw [ArrayQueue.items_of_pop hpopx]
    exact hqueue

end ExecutorState

/-! ## What the kernel's steps can do -/

namespace KernelState

variable {kbTask : TaskId} {s s' : KernelState A B W} {sc : UInt8} {e : ExecutorEvent}

theorem onExec_eq_ok {x : Prog Empty (ExecutorState A) Unit} (h : onExec x s = .ok () s') :
    ∃ ex, x s.exec = .ok () ex ∧ s' = { s with exec := ex } := by
  unfold onExec mapErr at h
  split at h
  · rename_i heq
    cases h
    exact focus_eq_ok heq
  · cases h
  · cases h

theorem interrupt_of_not_ready (h : s.streamReady = false) : interrupt kbTask sc s = .ok () s := by
  simp only [interrupt, bind_apply, get_apply, Outcome.bind_ok, h, Bool.false_eq_true, if_false,
    pure_apply]

theorem interrupt_of_ready (hr : s.streamReady = true) {kb : KeyboardState B W}
    (hkb : (KeyboardState.addScancode sc : Prog Unit (KeyboardState B W) Unit) s.kb = .ok () kb) :
    interrupt kbTask sc s =
      (if (s.kb.queue.push sc).isOk && s.kb.waker.slot.isSome then
        onExec (ExecutorState.wakeTask ⟨kbTask⟩) else pure ()) { s with kb } := by
  simp only [interrupt, bind_apply, get_apply, Outcome.bind_ok, hr, if_true, onKb, focus, hkb]

/-- **An interrupt** does nothing, or runs `add_scancode` on the hand-off and
then, unless the slot was empty, takes the waker out of it and pushes the
keyboard task's id. -/
theorem interrupt_eq_ok (h : interrupt kbTask sc s = .ok () s') :
    s' = s ∨ ∃ kb, (KeyboardState.addScancode sc : Prog Unit (KeyboardState B W) Unit) s.kb = .ok () kb ∧
      ((s.kb.waker.slot = none ∧ kb.woken = s.kb.woken ∧ s' = { s with kb }) ∨
        ∃ ex, s.kb.waker.slot.isSome ∧ kb.waker.slot = none ∧
          (ExecutorState.wakeTask ⟨kbTask⟩ : Prog Empty (ExecutorState A) Unit) s.exec = .ok () ex ∧
          s' = { s with kb, exec := ex }) := by
  -- a case split on the flag itself would rewrite it inside the goal's records
  rcases Bool.eq_false_or_eq_true s.streamReady with hr | hr
  · cases hpush : s.kb.queue.push sc with
    | error a =>
      -- a full queue drops the scancode and wakes nothing
      rw [interrupt_of_ready hr (KeyboardState.addScancode_of_full hpush), hpush] at h
      exact .inl (Outcome.ok.inj h).2.symm
    | ok q =>
      have hkb := KeyboardState.addScancode_of_push (ε := Unit) hpush
      rw [interrupt_of_ready hr hkb, hpush] at h
      refine .inr ⟨_, hkb, ?_⟩
      rcases Option.eq_none_or_eq_some s.kb.waker.slot with hslot | ⟨w, hslot⟩
      · rw [if_neg (by simp [hslot, Except.isOk, Except.toBool])] at h
        exact .inl ⟨hslot, by simp [hslot], (Outcome.ok.inj h).2.symm⟩
      · rw [if_pos (by simp [hslot, Except.isOk, Except.toBool])] at h
        obtain ⟨ex, hex, rfl⟩ := onExec_eq_ok h
        exact .inr ⟨ex, by rw [hslot]; rfl, AtomicWaker.slot_take, hex, rfl⟩
  · rw [interrupt_of_not_ready hr] at h
    exact .inl (Outcome.ok.inj h).2.symm

/-- An interrupt leaves the poll where it is, only adds to what was pushed,
and only pushes onto the task queue. -/
theorem interrupt_frame (h : interrupt kbTask sc s = .ok () s') :
    s'.polling = s.polling ∧ s'.kb.pc = s.kb.pc ∧ s.kb.pushed <+: s'.kb.pushed ∧
      s'.kb.returned = s.kb.returned ∧
      s.exec.executor.taskQueue.items <+: s'.exec.executor.taskQueue.items := by
  rcases interrupt_eq_ok h with rfl | ⟨kb, hkb, ⟨-, -, rfl⟩ | ⟨ex, -, -, hex, rfl⟩⟩
  · exact ⟨rfl, rfl, List.prefix_refl _, rfl, List.prefix_refl _⟩
  · obtain ⟨hpc, -, hret, hpush⟩ := KeyboardState.addScancode_frame hkb
    exact ⟨rfl, hpc, hpush, hret, List.prefix_refl _⟩
  · obtain ⟨hpc, -, hret, hpush⟩ := KeyboardState.addScancode_frame hkb
    exact ⟨rfl, hpc, hpush, hret, (ExecutorState.grows_pushTaskId hex).queue⟩

/-- **An executor step** is taken between polls of the keyboard task only. It
begins the keyboard task's poll, or it is the executor's own step and does not
pop the keyboard task's id. -/
theorem executorMove_eq_ok (h : executorMove kbTask e s = .ok () s') :
    s.polling = none ∧
      ((∃ q, e.isRound = true ∧ s.exec.executor.taskQueue.pop = some (kbTask, q) ∧
          beginPoll kbTask q s = .ok () s') ∨
        ((∀ q, e.isRound = true → s.exec.executor.taskQueue.pop ≠ some (kbTask, q)) ∧
          ∃ ex, executorStep e s.exec = .ok () ex ∧ s' = { s with exec := ex })) := by
  rcases Option.eq_none_or_eq_some s.polling with hp | ⟨t, hp⟩
  · refine ⟨hp, ?_⟩
    simp only [executorMove, bind_apply, get_apply, Outcome.bind_ok, hp, Option.isSome_none,
      Bool.false_eq_true, if_false] at h
    cases hr : e.isRound with
    | false =>
      simp only [hr] at h
      exact .inr ⟨(fun _ h' => nomatch h'), onExec_eq_ok h⟩
    | true =>
      rcases Option.eq_none_or_eq_some s.exec.executor.taskQueue.pop with hpop | ⟨⟨tid, q⟩, hpop⟩
      · simp only [hr, hpop] at h
        refine .inr ⟨fun _ _ h' => ?_, onExec_eq_ok h⟩
        rw [hpop] at h'
        cases h'
      · simp only [hr, hpop] at h
        by_cases ht : tid = kbTask
        · subst ht
          rw [if_pos rfl] at h
          exact .inl ⟨q, rfl, hpop, h⟩
        · rw [if_neg ht] at h
          refine .inr ⟨fun q' _ h' => ht ?_, onExec_eq_ok h⟩
          rw [hpop, Option.some.injEq, Prod.mk.injEq] at h'
          exact h'.1
  · simp only [executorMove, bind_apply, get_apply, Outcome.bind_ok, hp, Option.isSome_some,
      if_true, throw_apply] at h
    cases h

theorem beginPoll_eq_ok {t : Task} {q : A.State} (ht : s.exec.executor.tasks kbTask = some t)
    (h : beginPoll kbTask q s = .ok () s') :
    ∃ ex, (ExecutorState.cacheWaker kbTask : Prog Empty (ExecutorState A) Unit)
        { s.exec with executor := { s.exec.executor with taskQueue := q } } = .ok () ex ∧
      s' = { s with exec := ex, streamReady := true, polling := some t } := by
  simp only [beginPoll, bind_apply, get_apply, Outcome.bind_ok, set_apply, ht] at h
  obtain ⟨_, s₁, h₁, h₂⟩ := bind_eq_ok h
  obtain ⟨ex, hex, rfl⟩ := onExec_eq_ok h₁
  exact ⟨ex, hex, (Outcome.ok.inj h₂).2.symm⟩

/-- Beginning a poll leaves the hand-off alone. -/
theorem beginPoll_kb {q : A.State} (h : beginPoll kbTask q s = .ok () s') : s'.kb = s.kb := by
  rcases Option.eq_none_or_eq_some (s.exec.executor.tasks kbTask) with ht | ⟨t, ht⟩
  · simp only [beginPoll, bind_apply, get_apply, Outcome.bind_ok, set_apply, ht, pure_apply] at h
    obtain rfl := (Outcome.ok.inj h).2
    rfl
  · obtain ⟨ex, -, rfl⟩ := beginPoll_eq_ok ht h
    rfl

theorem executorMove_kb (h : executorMove kbTask e s = .ok () s') : s'.kb = s.kb := by
  obtain ⟨-, ⟨q, -, -, hb⟩ | ⟨-, ex, -, rfl⟩⟩ := executorMove_eq_ok h
  · exact beginPoll_kb hb
  · rfl

/-- **A statement of the keyboard task's poll** is taken inside that poll
only; after the statement that returns `Pending`, the poll is recorded and
over. -/
theorem consumer_eq_ok (h : consumer s = .ok () s') :
    ∃ t kb, s.polling = some t ∧
      (KeyboardState.pollNextStep : Prog Unit (KeyboardState B W) Unit) s.kb = .ok () kb ∧
      ((s.kb.pc = .returningPending ∧ s' = { s with
          kb
          exec := { s.exec with history := s.exec.history ++ [⟨t.serial, false⟩] }
          polling := none }) ∨
        (s.kb.pc ≠ .returningPending ∧ s' = { s with kb })) := by
  rcases Option.eq_none_or_eq_some s.polling with hp | ⟨t, hp⟩
  · simp only [consumer, bind_apply, get_apply, Outcome.bind_ok, hp, throw_apply] at h
    cases h
  · simp only [consumer, bind_apply, get_apply, Outcome.bind_ok, hp] at h
    obtain ⟨_, s₁, h₁, h₂⟩ := bind_eq_ok h
    obtain ⟨kb, hkb, rfl⟩ := focus_eq_ok h₁
    refine ⟨t, kb, hp, hkb, ?_⟩
    by_cases hpc : s.kb.pc = .returningPending
    · rw [if_pos hpc] at h₂
      obtain ⟨_, s₂, h₃, h₄⟩ := bind_eq_ok h₂
      obtain ⟨ex, hex, rfl⟩ := onExec_eq_ok h₃
      obtain rfl := (Outcome.ok.inj hex).2.symm
      exact .inl ⟨hpc, (Outcome.ok.inj h₄).2.symm⟩
    · rw [if_neg hpc] at h₂
      exact .inr ⟨hpc, (Outcome.ok.inj h₂).2.symm⟩

/-! ## The invariant -/

/-- **The invariant of the keyboard path**, for the keyboard task's id `kbTask`. -/
structure Inv (kbTask : TaskId) (s : KernelState A B W) : Prop where
  handoff : KeyboardState.Inv s.kb
  numbered : s.kb.Numbered
  /-- The keyboard task never returns `Ready`, and its id stays in use. -/
  task : (s.exec.executor.tasks kbTask).isSome
  cap : s.exec.executor.taskQueue.cap = taskQueueCapacity
  /-- Between polls the consumer is parked, and either the task is queued or a
  wake-up is owed to it: the queue is empty with a waker in the slot. -/
  parked : s.polling = none → s.kb.pc = .idle ∧
    (kbTask ∈ s.exec.executor.taskQueue.items ∨
      ∃ w, s.kb.last = .pending w ∧ s.kb.queue.items = [] ∧ s.kb.waker.slot = some w)
  /-- Inside a poll, once the current call's waker is woken the task is queued. -/
  busy : s.polling.isSome → s.kb.pc ≠ .idle → s.kb.polls ∈ s.kb.woken →
    kbTask ∈ s.exec.executor.taskQueue.items

theorem inv_boot : Inv (.nth 1) (boot : KernelState A B W) where
  handoff := KeyboardState.inv_init
  numbered := KeyboardState.numbered_init
  task := by simp
  cap := by simp
  parked _ := ⟨rfl, .inl (by simp)⟩
  busy h := nomatch h

/-- **The interrupt keeps the invariant**: a wake it makes pushes the task's
id, and without a waker in the slot the task was queued already. -/
theorem Inv.interrupt (hi : Inv kbTask s) (h : interrupt kbTask sc s = .ok () s') : Inv kbTask s' := by
  rcases interrupt_eq_ok h with rfl | ⟨kb, hkb, ⟨hslot, hwoken, rfl⟩ | ⟨ex, -, -, hex, rfl⟩⟩
  · exact hi
  · obtain ⟨hpc, hpolls, -⟩ := KeyboardState.addScancode_frame hkb
    refine ⟨hi.handoff.addScancode hkb, hi.numbered.addScancode hkb, hi.task, hi.cap,
      fun hp => ⟨hpc.trans (hi.parked hp).1, ?_⟩, fun hp hpc' hw => ?_⟩
    · rcases (hi.parked hp).2 with hq | ⟨w, -, -, hw⟩
      · exact .inl hq
      · rw [hslot] at hw
        cases hw
    · have hw' : s.kb.polls ∈ s.kb.woken := by
        rw [← hpolls, ← hwoken]
        exact hw
      exact hi.busy hp (fun h0 => hpc' (hpc.trans h0)) hw'
  · obtain ⟨hpc, -⟩ := KeyboardState.addScancode_frame hkb
    obtain ⟨qe, hqe, rfl⟩ := ExecutorState.pushTaskId_eq_ok hex
    have hmem : kbTask ∈ qe.items := by
      rw [ArrayQueue.items_of_push hqe]
      exact List.mem_append_right _ (List.mem_singleton_self _)
    exact ⟨hi.handoff.addScancode hkb, hi.numbered.addScancode hkb, hi.task,
      (ArrayQueue.cap_of_push hqe).trans hi.cap, fun hp => ⟨hpc.trans (hi.parked hp).1, .inl hmem⟩,
      fun _ _ _ => hmem⟩

/-- **The executor's steps keep the invariant.** One that begins the keyboard
task's poll leaves the consumer parked at the start of `poll_next`; any other
pops another id, so the keyboard task stays queued if it was. -/
theorem Inv.executorMove (hi : Inv kbTask s) (h : executorMove kbTask e s = .ok () s') :
    Inv kbTask s' := by
  obtain ⟨hp, ⟨q, -, hpop, hb⟩ | ⟨hnot, ex, hex, rfl⟩⟩ := executorMove_eq_ok h
  · obtain ⟨t, ht⟩ := Option.isSome_iff_exists.mp hi.task
    obtain ⟨ex, hex, rfl⟩ := beginPoll_eq_ok ht hb
    have hg := ExecutorState.grows_cacheWaker hex
    refine ⟨hi.handoff, hi.numbered, ?_, ?_, (fun hp' => nomatch hp'), fun _ hpc => absurd (hi.parked hp).1 hpc⟩
    · rw [(ExecutorState.sameTasks_cacheWaker hex).tasks]
      exact hi.task
    · rw [hg.cap, ArrayQueue.cap_of_pop hpop]
      exact hi.cap
  · cases hr : e.isRound with
    | false =>
      obtain ⟨htask, hg⟩ := ExecutorState.executorStep_of_not_round hr hi.task hex
      refine ⟨hi.handoff, hi.numbered, by rw [htask]; exact hi.task, hg.cap.trans hi.cap,
        fun hp' => ⟨(hi.parked hp').1, ?_⟩, fun hp' => absurd hp (Option.isSome_iff_ne_none.mp hp')⟩
      rcases (hi.parked hp').2 with hq | hw
      · exact .inl (hg.queue.subset hq)
      · exact .inr hw
    | true =>
      cases e with
      | spawn => cases hr
      | wake i => cases hr
      | runReadyTask wakes ready =>
        obtain ⟨htask, hcap, htail⟩ :=
          ExecutorState.runReadyTask_of_not_front (fun q => hnot q rfl) hex
        refine ⟨hi.handoff, hi.numbered, by rw [htask]; exact hi.task, hcap.trans hi.cap,
          fun hp' => ⟨(hi.parked hp').1, ?_⟩, fun hp' => absurd hp (Option.isSome_iff_ne_none.mp hp')⟩
        rcases (hi.parked hp').2 with hq | hw
        · -- the popped id is another, so the task's id is in the rest of the queue
          have hlen : kbTask ∈ s.exec.executor.taskQueue.items.take s.exec.executor.taskQueue.items.length := by
            rw [List.take_length]
            exact hq
          obtain ⟨m, -, hm⟩ := ArrayQueue.mem_take_tail_of_pop_ne hlen (fun q => hnot q rfl)
          exact .inl (htail.subset (List.take_subset _ _ hm))
        · exact .inr hw

/-- **The statements of the poll keep the invariant.** The one that returns
`Pending` ends the poll with a waker armed: in the slot over an empty queue,
or already woken, and then the task is queued. -/
theorem Inv.consumer (hi : Inv kbTask s) (h : consumer s = .ok () s') : Inv kbTask s' := by
  obtain ⟨t, kb, hp, hkb, ⟨hpc, rfl⟩ | ⟨hpc, rfl⟩⟩ := consumer_eq_ok h
  · have harmed := hi.handoff.pending hpc
    rw [KeyboardState.pollNextStep_returningPending hpc] at hkb
    obtain rfl := (Outcome.ok.inj hkb).2
    have hstep := KeyboardState.pollNextStep_returningPending (ε := Unit) hpc
    refine ⟨hi.handoff.pollNextStep hstep, hi.numbered.pollNextStep hstep, hi.task, hi.cap,
      fun _ => ⟨rfl, ?_⟩, (fun hp' => nomatch hp')⟩
    rcases harmed with ⟨hempty, hslot⟩ | hwoken
    · exact .inr ⟨s.kb.polls, rfl, hempty, hslot⟩
    · exact .inl (hi.busy (by rw [hp]; rfl) (by rw [hpc]; exact nofun) hwoken)
  · refine ⟨hi.handoff.pollNextStep hkb, hi.numbered.pollNextStep hkb, hi.task, hi.cap,
      (fun hp' => by rw [hp] at hp'; cases hp'), fun hp' hpc' hw => ?_⟩
    obtain ⟨hpc₀, hw₀⟩ := KeyboardState.pollNextStep_woken hi.numbered hkb hpc' hw
    exact hi.busy (by rw [hp]; rfl) hpc₀ hw₀

theorem Inv.step (hi : Inv kbTask s) {a : KernelEvent} (h : kernelStep kbTask a s = .ok () s') :
    Inv kbTask s' := by
  cases a with
  | interrupt sc => exact hi.interrupt h
  | executor e => exact hi.executorMove h
  | consumer => exact hi.consumer h

theorem inv_reachable (h : Prog.Reachable (kernelStep (.nth 1)) boot s) : Inv (.nth 1) s :=
  Prog.Reachable.induction (Inv (.nth 1)) inv_boot (fun _ _ _ _ hi hstep => hi.step hstep) h

/-! ## Every keypress is delivered -/

/-- Every step only adds to what was pushed and to what was returned. -/
theorem kbLists_step {a : KernelEvent} (h : kernelStep kbTask a s = .ok () s') :
    s.kb.pushed <+: s'.kb.pushed ∧ s.kb.returned <+: s'.kb.returned := by
  cases a with
  | interrupt sc =>
    obtain ⟨-, -, hpush, hret, -⟩ := interrupt_frame h
    exact ⟨hpush, by rw [hret]⟩
  | executor e =>
    rw [executorMove_kb h]
    exact ⟨List.prefix_refl _, List.prefix_refl _⟩
  | consumer =>
    obtain ⟨t, kb, -, hkb, ⟨-, rfl⟩ | ⟨-, rfl⟩⟩ := consumer_eq_ok h <;>
    · obtain ⟨hpush, -, hret⟩ := KeyboardState.pollNextStep_lists hkb
      exact ⟨by rw [hpush], hret⟩

/-- The end of the wait for the scancodes `P`: all of them have been returned. -/
def Delivered (P : List UInt8) (s : KernelState A B W) : Prop := P <+: s.kb.returned

/-- The variant of the wait for the pushed scancodes `P`, at most `n` rounds
from their delivery: the keyboard task is among the first `n` ids of the
queue, or its poll is on and has not passed the `pop` that found the queue
empty. -/
def Waiting (kbTask : TaskId) (P : List UInt8) (s : KernelState A B W) (n : Nat) : Prop :=
  Inv kbTask s ∧ P <+: s.kb.pushed ∧
    ((s.polling = none ∧ kbTask ∈ s.exec.executor.taskQueue.items.take n) ∨
      (s.polling.isSome ∧ s.kb.pc ≠ .returningPending))

variable {P : List UInt8} {n : Nat}

/-- Between polls, the wait is the keyboard task's place in the queue. -/
theorem Waiting.mem_take (hw : Waiting kbTask P s n) (hp : s.polling = none) :
    kbTask ∈ s.exec.executor.taskQueue.items.take n := by
  rcases hw.2.2 with ⟨-, hm⟩ | ⟨hp', -⟩
  · exact hm
  · rw [hp] at hp'
    cases hp'

theorem Delivered.step {a : KernelEvent} (hd : Delivered P s) (h : kernelStep kbTask a s = .ok () s') :
    Delivered P s' :=
  List.IsPrefix.trans hd (kbLists_step h).2

/-- An interrupt, a spawn, a wake or a statement of the poll does not lengthen
the wait; the statement after which `poll_next` returns `Pending` ends it. -/
theorem Waiting.step_of_not_round {a : KernelEvent} (hc : a.isRound = false)
    (hw : Waiting kbTask P s n) (h : kernelStep kbTask a s = .ok () s') :
    Delivered P s' ∨ Waiting kbTask P s' n := by
  have hi' := hw.1.step h
  have hP' := hw.2.1.trans (kbLists_step h).1
  cases a with
  | interrupt sc =>
    obtain ⟨hpol, hpc, -, -, hq⟩ := interrupt_frame h
    refine .inr ⟨hi', hP', ?_⟩
    rcases hw.2.2 with ⟨hp, hmem⟩ | ⟨hp, hpc₀⟩
    · exact .inl ⟨hpol.trans hp, (hq.take n).subset hmem⟩
    · exact .inr ⟨by rw [hpol]; exact hp, by rw [hpc]; exact hpc₀⟩
  | executor e =>
    obtain ⟨hp, ⟨q, hr, -, -⟩ | ⟨-, ex, hex, rfl⟩⟩ := executorMove_eq_ok h
    · have he : e.isRound = false := hc
      rw [he] at hr
      cases hr
    · -- a spawn or a wake, between polls: it only pushes
      obtain ⟨-, hg⟩ := ExecutorState.executorStep_of_not_round hc hw.1.task hex
      exact .inr ⟨hi', hP', .inl ⟨hp, (hg.queue.take n).subset (hw.mem_take hp)⟩⟩
  | consumer =>
    obtain ⟨t, kb, hp, hkb, ⟨hpc, rfl⟩ | ⟨hpc, rfl⟩⟩ := consumer_eq_ok h
    · -- the return of `Pending` comes after the wait has ended
      rcases hw.2.2 with ⟨hp', -⟩ | ⟨-, hpc₀⟩
      · rw [hp] at hp'
        cases hp'
      · exact absurd hpc hpc₀
    · by_cases hpend : kb.pc = .returningPending
      · -- the second `pop` found the queue empty: all that was pushed has been returned
        left
        obtain ⟨hpop, hempty, rfl⟩ := KeyboardState.pollNextStep_to_pending hkb hpend
        have hc := hw.1.handoff.conserved
        rw [hpop, hempty] at hc
        simp only [PollPc.held, List.append_nil] at hc
        show P <+: s.kb.returned
        rw [hc]
        exact hw.2.1
      · exact .inr ⟨hi', hP', .inr ⟨by rw [hp]; rfl, hpend⟩⟩

/-- A round begins the keyboard task's poll or pops an id ahead of it: the
wait is one round shorter. -/
theorem Waiting.round {a : KernelEvent} (hc : a.isRound = true)
    (hw : Waiting kbTask P s n) (h : kernelStep kbTask a s = .ok () s') :
    Delivered P s' ∨ ∃ m, n = m + 1 ∧ Waiting kbTask P s' m := by
  have hi' := hw.1.step h
  have hP' := hw.2.1.trans (kbLists_step h).1
  cases a with
  | interrupt sc => cases hc
  | consumer => cases hc
  | executor e =>
    obtain ⟨hp, hbegin | ⟨hnot, ex, hex, rfl⟩⟩ := executorMove_eq_ok h
    · -- the poll begins, at the start of `poll_next`
      have hmem := hw.mem_take hp
      obtain ⟨q, -, hpop, hb⟩ := hbegin
      obtain ⟨t, ht⟩ := Option.isSome_iff_exists.mp hw.1.task
      obtain ⟨ex, -, rfl⟩ := beginPoll_eq_ok ht hb
      have hn : n ≠ 0 := by
        rintro rfl
        simp at hmem
      refine .inr ⟨n - 1, by omega, hi', hP', .inr ⟨rfl, ?_⟩⟩
      show s.kb.pc ≠ .returningPending
      rw [(hw.1.parked hp).1]
      exact nofun
    · -- another id is popped, and the keyboard task moves up
      cases e with
      | spawn => cases hc
      | wake i => cases hc
      | runReadyTask wakes ready =>
        obtain ⟨-, -, htail⟩ := ExecutorState.runReadyTask_of_not_front (fun q => hnot q rfl) hex
        obtain ⟨m, rfl, hm⟩ := ArrayQueue.mem_take_tail_of_pop_ne (hw.mem_take hp) (fun q => hnot q rfl)
        exact .inr ⟨m, rfl, hi', hP', .inl ⟨hp, (htail.take m).subset hm⟩⟩

end KernelState

open KernelState in
/-- **No lost wake-up between the interrupt handler and the executor.** In
every state of the keyboard path reached from boot, under any interleaving of
keyboard interrupts, executor steps and statements of the keyboard task's
poll, the keyboard task is still in `tasks`; and while it is not being polled,
a scancode waiting in `SCANCODE_QUEUE` means its id is in `task_queue`. -/
theorem keyboard_task_queued {s : KernelState A B W} (h : Prog.Reachable (kernelStep (.nth 1)) boot s) :
    (s.exec.executor.tasks (.nth 1)).isSome ∧
      (s.polling = none → s.kb.queue.items ≠ [] → TaskId.nth 1 ∈ s.exec.executor.taskQueue.items) := by
  have hi := inv_reachable h
  refine ⟨hi.task, fun hp hne => ?_⟩
  rcases (hi.parked hp).2 with hq | ⟨w, -, hempty, -⟩
  · exact hq
  · exact absurd hempty hne

/-- From boot: a round that runs task 0 to completion, a round that begins the
keyboard task's poll, the four statements of a poll that finds no scancode and
parks, and a keypress. -/
def pollThenKeypress : List KernelEvent :=
  [.executor (.runReadyTask [] true), .executor (.runReadyTask [] false),
    .consumer, .consumer, .consumer, .consumer, .interrupt 0x1e]

theorem keyboard_task_queued_keypress :
    ∃ s : ListKernelState, Prog.Reachable (kernelStep (.nth 1)) KernelState.boot s ∧ s.polling = none ∧
      s.kb.queue.items = [0x1e] ∧ (s.exec.executor.tasks (.nth 1)).isSome ∧
      (s.polling = none → s.kb.queue.items ≠ [] → TaskId.nth 1 ∈ s.exec.executor.taskQueue.items) := by
  obtain ⟨_, s, h, hs⟩ := Outcome.exists_of_returns
    (p := fun _ s => s.polling = none && s.kb.queue.items = [0x1e])
    (o := runSteps (kernelStep (.nth 1)) pollThenKeypress (KernelState.boot : ListKernelState))
    (by decide +kernel)
  simp only [Bool.and_eq_true, decide_eq_true_eq] at hs
  have hr := reachable_runSteps _ .init h
  exact ⟨s, hr, hs.1, hs.2, keyboard_task_queued hr⟩

open KernelState in
/-- **Every keypress is delivered.** From every state reached from boot in
which the keyboard task is not being polled, every run that returns and has
more than 100 rounds of `run_ready_tasks` ends with each scancode pushed
before it returned by `poll_next`, in push order, whatever interrupts, spawns,
wakes and statements of the poll come in between. -/
theorem keypresses_delivered {s s' : KernelState A B W} (hr : Prog.Reachable (kernelStep (.nth 1)) boot s)
    (hp : s.polling = none) {es : List KernelEvent} (hn : taskQueueCapacity < es.countP KernelEvent.isRound)
    (h : runSteps (kernelStep (.nth 1)) es s = .ok () s') : s.kb.pushed <+: s'.kb.returned := by
  have hi := inv_reachable hr
  rcases (hi.parked hp).2 with hq | ⟨w, -, hempty, -⟩
  · -- the keyboard task is queued, behind at most 99 ids
    have hlen : s.exec.executor.taskQueue.items.length ≤ taskQueueCapacity := by
      rw [← hi.cap]
      exact s.exec.executor.taskQueue.bounded
    have hw : Waiting (.nth 1) s.kb.pushed s taskQueueCapacity :=
      ⟨hi, List.prefix_refl _, .inl ⟨hp, by rw [List.take_of_length_le hlen]; exact hq⟩⟩
    exact runSteps_reaches (kernelStep (.nth 1)) KernelEvent.isRound (Delivered s.kb.pushed)
      (Waiting (.nth 1) s.kb.pushed) (fun _ _ _ hd hstep => hd.step hstep)
      (fun _ _ _ _ hc hw hstep => hw.step_of_not_round hc hstep)
      (fun _ _ _ _ hc hw hstep => hw.round hc hstep) es hw hn h
  · -- nothing waits: the consumer is parked and all that was pushed was returned
    have hc := hi.handoff.conserved
    rw [(hi.parked hp).1, hempty] at hc
    simp only [PollPc.held, List.append_nil] at hc
    have hd : Delivered s.kb.pushed s := by
      show s.kb.pushed <+: s.kb.returned
      rw [hc]
    exact runSteps_keeps (kernelStep (.nth 1)) (Delivered s.kb.pushed)
      (fun _ _ _ hd hstep => hd.step hstep) es hd h

/-- A round that begins the keyboard task's poll, the six statements of a
poll that returns the scancode and then parks, and a hundred idle rounds. -/
def drainRun : List KernelEvent :=
  .executor (.runReadyTask [] false) :: List.replicate 6 .consumer ++
    List.replicate 100 (.executor (.runReadyTask [] false))

theorem keypresses_delivered_afterKeypress :
    ∃ s : ListKernelState, Prog.Reachable (kernelStep (.nth 1)) KernelState.boot s ∧ s.polling = none ∧
      taskQueueCapacity < drainRun.countP KernelEvent.isRound ∧ s.kb.pushed = [0x1e] ∧
      ∃ s', runSteps (kernelStep (.nth 1)) drainRun s = .ok () s' ∧ s.kb.pushed <+: s'.kb.returned := by
  -- the run from the state reached is checked inside the check of the run to it
  obtain ⟨_, s, h₁, hs⟩ := Outcome.exists_of_returns
    (p := fun _ s => s.polling = none && s.kb.pushed = [0x1e] &&
      (runSteps (kernelStep (.nth 1)) drainRun s).returns fun _ _ => true)
    (o := runSteps (kernelStep (.nth 1)) pollThenKeypress (KernelState.boot : ListKernelState))
    (by decide +kernel)
  simp only [Bool.and_eq_true, decide_eq_true_eq] at hs
  obtain ⟨⟨hp, hpush⟩, hrun⟩ := hs
  obtain ⟨_, s', h₂, -⟩ := Outcome.exists_of_returns hrun
  have hr := reachable_runSteps _ .init h₁
  have hn : taskQueueCapacity < drainRun.countP KernelEvent.isRound := by decide +kernel
  exact ⟨s, hr, hp, hn, hpush, s', h₂, keypresses_delivered hr hp hn h₂⟩

end BlogOs.Task
