import BlogOs.Task.KeyboardTask

/-!
# Wakes of the keyboard task are not merged (`src/task/keyboard.rs`, `src/task/executor.rs`)

`TaskWaker::wake_task` pushes the task's id onto `task_queue` on every wake,
whether the id is queued already or not, and `.expect("task_queue full")`s
the push. `print_keypresses` calls `poll_next` again after every
`Ready(Some(_))`, inside one poll of its task, and each call that finds
`SCANCODE_QUEUE` empty registers the task's waker in `SCANCODE_WAKER` before
its second `pop`. A keypress that arrives between that `register` and that
`pop` wakes the waker, so its interrupt pushes the keyboard task's id once
more, and the `pop` then takes the scancode, so the call returns `Ready` and
the next call registers again.

So one poll of the keyboard task can queue its id any number of times. From
every state reached from boot in which the keyboard task's poll is at the
start of a call of `poll_next` with `SCANCODE_QUEUE` empty, a run of such
keypresses, one more than `task_queue` has room for, makes the keyboard
interrupt handler panic (`keypresses_overflow_task_queue`).
-/

namespace BlogOs.Task

open Prog

variable {A : ArrayQueue TaskId} {B : ArrayQueue UInt8} {W : AtomicWaker Nat}

/-! ## What the hand-off's steps keep of `SCANCODE_QUEUE` -/

namespace KeyboardState

variable {ε : Type} {s s' : KeyboardState B W} {sc : UInt8}

theorem addScancode_cap (h : (addScancode sc : Prog ε (KeyboardState B W) Unit) s = .ok () s') :
    s'.queue.cap = s.queue.cap := by
  rcases addScancode_eq_ok h with ⟨-, rfl⟩ | ⟨q, hq, rfl⟩
  · rfl
  · exact ArrayQueue.cap_of_push hq

theorem pollNextStep_cap (h : (pollNextStep : Prog ε (KeyboardState B W) Unit) s = .ok () s') :
    s'.queue.cap = s.queue.cap := by
  rcases pollNextStep_eq_ok h with ⟨-, c, q, hq, rfl⟩ | ⟨-, -, rfl⟩ | ⟨-, rfl⟩ | ⟨-, c, q, hq, rfl⟩ |
      ⟨-, -, rfl⟩ | ⟨c, -, rfl⟩ | ⟨c, -, rfl⟩ | ⟨-, rfl⟩
  -- only the two `pop`s change the queue
  · exact ArrayQueue.cap_of_pop hq
  · rfl
  · rfl
  · exact ArrayQueue.cap_of_pop hq
  all_goals rfl

end KeyboardState

namespace KernelState

variable {kbTask : TaskId} {s s' : KernelState A B W} {sc : UInt8} {e : ExecutorEvent}

/-! ## Inside a poll, `SCANCODE_QUEUE` is there -/

/-- The keyboard task's poll runs after `ScancodeStream::new`, and
`SCANCODE_QUEUE` keeps the capacity it was made with. -/
structure Streaming (s : KernelState A B W) : Prop where
  ready : s.polling.isSome → s.streamReady = true
  cap : s.kb.queue.cap = scancodeQueueCapacity

theorem streaming_boot : Streaming (boot : KernelState A B W) where
  ready h := nomatch h
  cap := by simp [KeyboardState.init]

theorem Streaming.interrupt (hst : Streaming s) (h : interrupt kbTask sc s = .ok () s') : Streaming s' := by
  rcases interrupt_eq_ok h with rfl | ⟨kb, hkb, ⟨-, -, rfl⟩ | ⟨ex, -, -, -, rfl⟩⟩
  · exact hst
  · exact ⟨hst.ready, (KeyboardState.addScancode_cap hkb).trans hst.cap⟩
  · exact ⟨hst.ready, (KeyboardState.addScancode_cap hkb).trans hst.cap⟩

/-- A round that begins the keyboard task's poll runs `ScancodeStream::new`
first, if it has not run; the other executor steps leave the poll off. -/
theorem Streaming.executorMove (hi : Inv kbTask s) (hst : Streaming s)
    (h : executorMove kbTask e s = .ok () s') : Streaming s' := by
  have hcap : s'.kb.queue.cap = scancodeQueueCapacity := by
    rw [executorMove_kb h]
    exact hst.cap
  obtain ⟨hp, ⟨q, -, -, hb⟩ | ⟨-, ex, -, rfl⟩⟩ := executorMove_eq_ok h
  · obtain ⟨t, ht⟩ := Option.isSome_iff_exists.mp hi.task
    obtain ⟨ex, -, rfl⟩ := beginPoll_eq_ok ht hb
    exact ⟨fun _ => rfl, hcap⟩
  · refine ⟨fun hp' => ?_, hcap⟩
    rw [hp] at hp'
    cases hp'

theorem Streaming.consumer (hst : Streaming s) (h : consumer s = .ok () s') : Streaming s' := by
  obtain ⟨t, kb, hp, hkb, ⟨-, rfl⟩ | ⟨-, rfl⟩⟩ := consumer_eq_ok h
  · exact ⟨(fun hp' => nomatch hp'), (KeyboardState.pollNextStep_cap hkb).trans hst.cap⟩
  · exact ⟨hst.ready, (KeyboardState.pollNextStep_cap hkb).trans hst.cap⟩

theorem Streaming.step (hi : Inv kbTask s) (hst : Streaming s) {a : KernelEvent}
    (h : kernelStep kbTask a s = .ok () s') : Streaming s' := by
  cases a with
  | interrupt sc => exact hst.interrupt h
  | executor e => exact hst.executorMove hi h
  | consumer => exact hst.consumer h

theorem streaming_reachable (h : Prog.Reachable (kernelStep (.nth 1)) boot s) : Streaming s :=
  (Prog.Reachable.induction (fun s => Inv (.nth 1) s ∧ Streaming s) ⟨inv_boot, streaming_boot⟩
    (fun _ _ _ _ hi hstep => ⟨hi.1.step hstep, hi.2.step hi.1 hstep⟩) h).2

/-! ## The steps of a late keypress -/

theorem onExec_of_ok {x : Prog Empty (ExecutorState A) Unit} {ex : ExecutorState A} (h : x s.exec = .ok () ex) :
    onExec x s = .ok () { s with exec := ex } := by
  simp only [onExec, mapErr, focus, h]

theorem onExec_of_panic {x : Prog Empty (ExecutorState A) Unit} {m : String} (h : x s.exec = .panic m) :
    onExec x s = .panic m := by
  simp only [onExec, mapErr, focus, h]

/-- A statement of the poll other than the return of `Pending` runs on the
hand-off alone. -/
theorem consumer_step {t : Task} {kb : KeyboardState B W} {rest : List KernelEvent} (hp : s.polling = some t)
    (hkb : (KeyboardState.pollNextStep : Prog Unit (KeyboardState B W) Unit) s.kb = .ok () kb)
    (hpc : s.kb.pc ≠ .returningPending) :
    runSteps (kernelStep kbTask) (.consumer :: rest) s = runSteps (kernelStep kbTask) rest { s with kb } := by
  have h : consumer s = .ok () { s with kb } := by
    simp only [consumer, bind_apply, get_apply, Outcome.bind_ok, hp, onKb, focus, hkb, if_neg hpc,
      pure_apply]
  rw [runSteps_cons_apply]
  exact congrArg (fun o => Outcome.bind o fun _ => runSteps (kernelStep kbTask) rest) h

/-- A keypress whose push succeeds while a waker is in the slot wakes it, and
the wake pushes the keyboard task's id onto `task_queue`. -/
theorem interrupt_step {kb : KeyboardState B W} {ex : ExecutorState A} {rest : List KernelEvent}
    (hr : s.streamReady = true) (hkb : (KeyboardState.addScancode sc : Prog Unit (KeyboardState B W) Unit) s.kb = .ok () kb)
    (hwake : (s.kb.queue.push sc).isOk && s.kb.waker.slot.isSome)
    (hex : (ExecutorState.wakeTask ⟨kbTask⟩ : Prog Empty (ExecutorState A) Unit) s.exec = .ok () ex) :
    runSteps (kernelStep kbTask) (.interrupt sc :: rest) s =
      runSteps (kernelStep kbTask) rest { s with kb, exec := ex } := by
  have h : interrupt kbTask sc s = .ok () { s with kb, exec := ex } := by
    rw [interrupt_of_ready hr hkb, if_pos hwake]
    exact onExec_of_ok hex
  rw [runSteps_cons_apply]
  exact congrArg (fun o => Outcome.bind o fun _ => runSteps (kernelStep kbTask) rest) h

/-- The same wake with `task_queue` full panics in the interrupt handler. -/
theorem interrupt_step_panic {kb : KeyboardState B W} {m : String} {rest : List KernelEvent}
    (hr : s.streamReady = true) (hkb : (KeyboardState.addScancode sc : Prog Unit (KeyboardState B W) Unit) s.kb = .ok () kb)
    (hwake : (s.kb.queue.push sc).isOk && s.kb.waker.slot.isSome)
    (hex : (ExecutorState.wakeTask ⟨kbTask⟩ : Prog Empty (ExecutorState A) Unit) s.exec = .panic m) :
    runSteps (kernelStep kbTask) (.interrupt sc :: rest) s = .panic m := by
  have h : interrupt kbTask sc s = .panic m := by
    rw [interrupt_of_ready hr hkb, if_pos hwake]
    exact onExec_of_panic hex
  rw [runSteps_cons_apply, show kernelStep kbTask (.interrupt sc) s = .panic m from h, Outcome.bind_panic]

end KernelState

/-! ## A keypress per call of `poll_next` -/

/-- The rest of a call of `poll_next` that found `SCANCODE_QUEUE` empty, with
a keypress between its `register` and its second `pop`: the first `pop`, the
`register`, the keypress, the second `pop`, the `take` and the return of
`Ready(Some(sc))`. -/
def lateKeypress (sc : UInt8) : List KernelEvent :=
  [.consumer, .consumer, .interrupt sc, .consumer, .consumer, .consumer]

/-- `n` late keypresses, one per call of `poll_next`, all inside one poll of
the keyboard task. -/
def lateKeypresses (sc : UInt8) : Nat → List KernelEvent
  | 0 => []
  | n + 1 => lateKeypress sc ++ lateKeypresses sc n

namespace KernelState

variable {kbTask : TaskId} {s : KernelState A B W} {sc : UInt8}

/-- The keyboard task's poll is at the start of a call of `poll_next`, after
`ScancodeStream::new`, with `SCANCODE_QUEUE` empty and room in it. -/
structure AtCall (s : KernelState A B W) : Prop where
  polling : s.polling.isSome
  ready : s.streamReady = true
  pc : s.kb.pc = .idle
  empty : s.kb.queue.items = []
  room : 0 < s.kb.queue.cap

/-- The first two statements of a late keypress: the first `pop` finds
nothing, and the call registers its waker. The keypress then finds room in
`SCANCODE_QUEUE` and that waker in the slot. -/
theorem lateKeypress_registers (kbTask : TaskId) (sc : UInt8) (hs : AtCall s) :
    ∃ t kb q, s.polling = some t ∧ kb.pc = .popping ∧ kb.queue = s.kb.queue ∧
      kb.queue.push sc = .ok q ∧ kb.waker.slot.isSome ∧
      runSteps (kernelStep kbTask) (lateKeypress sc) s =
        runSteps (kernelStep kbTask) [.interrupt sc, .consumer, .consumer, .consumer] { s with kb } := by
  obtain ⟨t, hp⟩ := Option.isSome_iff_exists.mp hs.polling
  obtain ⟨kb₁, h₁, hpc₁, hq₁⟩ : ∃ kb₁, (KeyboardState.pollNextStep : Prog Unit (KeyboardState B W) Unit) s.kb = .ok () kb₁ ∧
      kb₁.pc = .registering ∧ kb₁.queue = s.kb.queue :=
    ⟨_, KeyboardState.pollNextStep_idle_none hs.pc (ArrayQueue.pop_eq_none_iff.mpr hs.empty), rfl, rfl⟩
  obtain ⟨kb₂, h₂, hpc₂, hq₂, hw₂⟩ : ∃ kb₂, (KeyboardState.pollNextStep : Prog Unit (KeyboardState B W) Unit) kb₁ = .ok () kb₂ ∧
      kb₂.pc = .popping ∧ kb₂.queue = kb₁.queue ∧ kb₂.waker.slot.isSome :=
    ⟨_, KeyboardState.pollNextStep_registering hpc₁, rfl, rfl, by simp⟩
  have hroom : kb₂.queue.items.length < kb₂.queue.cap := by
    rw [hq₂, hq₁, hs.empty]
    exact hs.room
  obtain ⟨q, hpush, -, -⟩ := ArrayQueue.push_of_lt (a := sc) hroom
  refine ⟨t, kb₂, q, hp, hpc₂, hq₂.trans hq₁, hpush, hw₂, ?_⟩
  calc runSteps (kernelStep kbTask) (lateKeypress sc) s
      = runSteps (kernelStep kbTask) [.consumer, .interrupt sc, .consumer, .consumer, .consumer]
          { s with kb := kb₁ } := consumer_step hp h₁ (by simp [hs.pc])
    _ = runSteps (kernelStep kbTask) [.interrupt sc, .consumer, .consumer, .consumer]
          { s with kb := kb₂ } := consumer_step hp h₂ (by simp [hpc₁])

/-- **A late keypress queues the keyboard task once more**, when `task_queue`
has room, and leaves its poll at the start of the next call of `poll_next`. -/
theorem lateKeypress_of_push (sc : UInt8) {qe : A.State} (hs : AtCall s)
    (hqe : s.exec.executor.taskQueue.push kbTask = .ok qe) :
    ∃ s', runSteps (kernelStep kbTask) (lateKeypress sc) s = .ok () s' ∧ AtCall s' ∧
      s'.exec.executor.taskQueue = qe := by
  obtain ⟨t, kb₂, q, hp, hpc₂, hq₂, hpush, hw₂, hrun⟩ := lateKeypress_registers kbTask sc hs
  have hwake : (kb₂.queue.push sc).isOk && kb₂.waker.slot.isSome := by
    simp [hpush, hw₂, Except.isOk, Except.toBool]
  -- the keypress, then the second `pop` takes its scancode
  obtain ⟨kb₃, h₃, hpc₃, hq₃⟩ : ∃ kb₃, (KeyboardState.addScancode sc : Prog Unit (KeyboardState B W) Unit) kb₂ = .ok () kb₃ ∧
      kb₃.pc = .popping ∧ kb₃.queue = q :=
    ⟨_, KeyboardState.addScancode_of_push hpush, hpc₂, rfl⟩
  obtain ⟨q', hpop, hitems, hcap⟩ := ArrayQueue.pop_of_items_cons
    (show kb₃.queue.items = [sc] by rw [hq₃, ArrayQueue.items_of_push hpush, hq₂, hs.empty]; rfl)
  obtain ⟨kb₄, h₄, hpc₄, hq₄⟩ : ∃ kb₄, (KeyboardState.pollNextStep : Prog Unit (KeyboardState B W) Unit) kb₃ = .ok () kb₄ ∧
      kb₄.pc = .taking sc ∧ kb₄.queue = q' :=
    ⟨_, KeyboardState.pollNextStep_popping_some hpc₃ hpop, rfl, rfl⟩
  obtain ⟨kb₅, h₅, hpc₅, hq₅⟩ : ∃ kb₅, (KeyboardState.pollNextStep : Prog Unit (KeyboardState B W) Unit) kb₄ = .ok () kb₅ ∧
      kb₅.pc = .returningReady sc ∧ kb₅.queue = q' :=
    ⟨_, KeyboardState.pollNextStep_taking hpc₄, rfl, hq₄⟩
  obtain ⟨kb₆, h₆, hpc₆, hq₆⟩ : ∃ kb₆, (KeyboardState.pollNextStep : Prog Unit (KeyboardState B W) Unit) kb₅ = .ok () kb₆ ∧
      kb₆.pc = .idle ∧ kb₆.queue = q' :=
    ⟨_, KeyboardState.pollNextStep_returningReady hpc₅, rfl, hq₅⟩
  -- the wake pushes the keyboard task's id
  obtain ⟨ex, hex, hqex⟩ : ∃ ex, (ExecutorState.wakeTask ⟨kbTask⟩ : Prog Empty (ExecutorState A) Unit) s.exec =
      .ok () ex ∧ ex.executor.taskQueue = qe :=
    ⟨_, ExecutorState.pushTaskId_of_push hqe, rfl⟩
  have hroom : 0 < kb₆.queue.cap := by
    rw [hq₆, hcap, hq₃, ArrayQueue.cap_of_push hpush, hq₂]
    exact hs.room
  refine ⟨{ s with kb := kb₆, exec := ex }, ?_, ⟨hs.polling, hs.ready, hpc₆, by rw [hq₆, hitems], hroom⟩, hqex⟩
  calc runSteps (kernelStep kbTask) (lateKeypress sc) s
      = runSteps (kernelStep kbTask) [.interrupt sc, .consumer, .consumer, .consumer] { s with kb := kb₂ } := hrun
    _ = runSteps (kernelStep kbTask) [.consumer, .consumer, .consumer] { s with kb := kb₃, exec := ex } :=
          interrupt_step hs.ready h₃ hwake hex
    _ = runSteps (kernelStep kbTask) [.consumer, .consumer] { s with kb := kb₄, exec := ex } :=
          consumer_step hp h₄ (by simp [hpc₃])
    _ = runSteps (kernelStep kbTask) [.consumer] { s with kb := kb₅, exec := ex } :=
          consumer_step hp h₅ (by simp [hpc₄])
    _ = runSteps (kernelStep kbTask) [] { s with kb := kb₆, exec := ex } :=
          consumer_step hp h₆ (by simp [hpc₅])
    _ = .ok () { s with kb := kb₆, exec := ex } := rfl

/-- **A late keypress with `task_queue` full panics**: its wake cannot push the
keyboard task's id. -/
theorem lateKeypress_of_full (sc : UInt8) {a : TaskId} (hs : AtCall s)
    (hfull : s.exec.executor.taskQueue.push kbTask = .error a) :
    runSteps (kernelStep kbTask) (lateKeypress sc) s = .panic ("task_queue full" ++ ": " ++ kbTask.debug) := by
  obtain ⟨t, kb₂, q, hp, hpc₂, hq₂, hpush, hw₂, hrun⟩ := lateKeypress_registers kbTask sc hs
  have hwake : (kb₂.queue.push sc).isOk && kb₂.waker.slot.isSome := by
    simp [hpush, hw₂, Except.isOk, Except.toBool]
  rw [hrun]
  exact interrupt_step_panic hs.ready (KeyboardState.addScancode_of_push hpush) hwake
    (ExecutorState.pushTaskId_of_full hfull)

/-- **The run rule of late keypresses**: from a poll at the start of a call of
`poll_next`, with room for `n` more ids in `task_queue`, `n + 1` late
keypresses panic. The induction is on `n`, and each keypress queues one more id. -/
theorem lateKeypresses_panic (sc : UInt8) :
    ∀ (n : Nat) {s : KernelState A B W}, AtCall s →
      s.exec.executor.taskQueue.items.length + n = s.exec.executor.taskQueue.cap →
      runSteps (kernelStep kbTask) (lateKeypresses sc (n + 1)) s = .panic ("task_queue full" ++ ": " ++ kbTask.debug)
  | 0, s, hs, hn => by
    rw [lateKeypresses, runSteps_append, lateKeypress_of_full sc hs (ArrayQueue.push_of_full (by omega)),
      Outcome.bind_panic]
  | n + 1, s, hs, hn => by
    obtain ⟨qe, hqe, hitems, hcap⟩ := ArrayQueue.push_of_lt (q := s.exec.executor.taskQueue) (a := kbTask)
      (by omega)
    obtain ⟨s', h, hs', hq'⟩ := lateKeypress_of_push sc hs hqe
    have hn' : s'.exec.executor.taskQueue.items.length + n = s'.exec.executor.taskQueue.cap := by
      rw [hq', hitems, hcap, List.length_append, List.length_singleton]
      omega
    rw [lateKeypresses, runSteps_append, h, Outcome.bind_ok]
    exact lateKeypresses_panic sc n hs' hn'

end KernelState

open KernelState in
/-- **Late keypresses panic the kernel.** From every state reached from boot
in which the keyboard task's poll is at the start of a call of `poll_next`
with `SCANCODE_QUEUE` empty, one late keypress more than `task_queue` has
room for, each between the `register` and the second `pop` of its own call,
makes the keyboard interrupt handler panic in `wake_task`. -/
theorem keypresses_overflow_task_queue {s : KernelState A B W}
    (hr : Prog.Reachable (kernelStep (.nth 1)) boot s) (hp : s.polling.isSome) (hpc : s.kb.pc = .idle)
    (hq : s.kb.queue.items = []) (sc : UInt8) :
    runSteps (kernelStep (.nth 1))
        (lateKeypresses sc (taskQueueCapacity - s.exec.executor.taskQueue.items.length + 1)) s =
      .panic "task_queue full: TaskId(1)" := by
  have hi := inv_reachable hr
  have hst := streaming_reachable hr
  have hs : AtCall s := ⟨hp, hst.ready hp, hpc, hq, by rw [hst.cap]; decide⟩
  have hlen : s.exec.executor.taskQueue.items.length ≤ taskQueueCapacity := by
    rw [← hi.cap]
    exact s.exec.executor.taskQueue.bounded
  have hmsg : "task_queue full" ++ ": " ++ (TaskId.nth 1).debug = "task_queue full: TaskId(1)" := rfl
  rw [← hmsg]
  exact lateKeypresses_panic sc _ hs (by rw [hi.cap]; omega)

/-- From boot: a round that runs task 0 to completion, and a round that begins
the keyboard task's poll. -/
def bootRounds : List KernelEvent :=
  [.executor (.runReadyTask [] true), .executor (.runReadyTask [] false)]

theorem keypresses_overflow_task_queue_bootRounds :
    ∃ s : ListKernelState, Prog.Reachable (kernelStep (.nth 1)) KernelState.boot s ∧ s.polling.isSome ∧ s.kb.pc = .idle ∧
      s.kb.queue.items = [] ∧
      runSteps (kernelStep (.nth 1))
          (lateKeypresses 0x1e (taskQueueCapacity - s.exec.executor.taskQueue.items.length + 1)) s =
        .panic "task_queue full: TaskId(1)" := by
  obtain ⟨_, s, h, hs⟩ := Outcome.exists_of_returns
    (p := fun _ s => s.polling.isSome && s.kb.pc = .idle && s.kb.queue.items = [])
    (o := runSteps (kernelStep (.nth 1)) bootRounds (KernelState.boot : ListKernelState))
    (by decide +kernel)
  simp only [Bool.and_eq_true, decide_eq_true_eq] at hs
  obtain ⟨⟨hp, hpc⟩, hq⟩ := hs
  have hr := reachable_runSteps _ .init h
  exact ⟨s, hr, hp, hpc, hq, keypresses_overflow_task_queue hr hp hpc hq 0x1e⟩

/-! ## Without late keypresses `task_queue` stays short

The overflow needs keypresses in the window of a call of `poll_next`, between
its `register` and its `take`. With none there, each wake the keyboard task is
owed is one waker put in the slot: a wake either replaces a waker in the slot
by a copy of the id in `task_queue`, or finds the slot empty and pushes
nothing. The count of the copies, the waker in the slot and the poll going on
is then at most 2, one more while the call's own waker is out; so the id is
queued at most twice and `task_queue` never holds more than three ids. -/

/-- Whether the call of `poll_next` has registered its waker and not taken it
back: between `register` and the `take` after the second `pop`. -/
def PollPc.inWindow : PollPc → Bool
  | .idle => false
  | .registering => false
  | .popping => true
  | .taking _ => true
  | .returningReady _ => false
  | .returningPending => false

/-- Whether the call has put its own waker in the slot and not taken it back:
the window, and the return of `Pending`. -/
def PollPc.armed : PollPc → Bool
  | .idle => false
  | .registering => false
  | .popping => true
  | .taking _ => true
  | .returningReady _ => false
  | .returningPending => true

/-- The steps of the kernel as built, with no keypress in the window of a call
of `poll_next`. `example_task` is ready at its first poll and wakes nothing,
and nothing is spawned after boot, so every round of `run_ready_tasks` is
`runReadyTask [] true`; no waker is woken but by `add_scancode`. -/
def KernelState.allows (s : KernelState A B W) : KernelEvent → Bool
  | .interrupt _ => !(s.polling.isSome && s.kb.pc.inWindow)
  | .executor e => e == .runReadyTask [] true
  | .consumer => true

/-- A step of the kernel as built, with every keypress in time. -/
def timelyStep (kbTask : TaskId) (a : KernelEvent) : Prog Unit (KernelState A B W) Unit := do
  let s ← get
  if s.allows a then kernelStep kbTask a else Prog.throw ()

namespace ExecutorState

variable {ε : Type} {s s' : ExecutorState A} {x : TaskId} {u : Task} {ready : Bool}

theorem cacheWaker_taskQueue (h : (cacheWaker x : Prog ε (ExecutorState A) Unit) s = .ok () s') :
    s'.executor.taskQueue = s.executor.taskQueue := by
  cases hc : s.executor.wakerCache x with
  | some w =>
    rw [cacheWaker_of_some hc] at h
    obtain rfl := (Outcome.ok.inj h).2
    rfl
  | none =>
    rw [cacheWaker_of_none hc] at h
    obtain rfl := (Outcome.ok.inj h).2
    rfl

/-- A poll of a future that wakes nothing leaves `task_queue` as it is. -/
theorem pollTask_nil_taskQueue (h : (pollTask x u [] ready : Prog ε (ExecutorState A) Unit) s = .ok () s') :
    s'.executor.taskQueue = s.executor.taskQueue := by
  obtain ⟨_, s₁, hc, h⟩ := bind_eq_ok h
  obtain ⟨_, s₂, hw, h⟩ := bind_eq_ok h
  -- `wakeAll []` returns at once
  have hs₂ : s₂ = s₁ := (Outcome.ok.inj (show Outcome.ok () s₁ = .ok () s₂ from hw)).2.symm
  rw [hs₂] at h
  rw [← cacheWaker_taskQueue hc]
  cases ready with
  | false =>
    have h' : (recordPoll u false : Prog ε (ExecutorState A) Unit) s₁ = .ok () s' := by
      simpa only [Bool.false_eq_true, if_false] using h
    obtain rfl := (Outcome.ok.inj h').2
    rfl
  | true =>
    have h' : (removeTask x >>= fun _ => recordPoll u true : Prog ε (ExecutorState A) Unit) s₁ = .ok () s' := by
      simpa only [if_true] using h
    obtain ⟨_, s₃, hr, h'⟩ := bind_eq_ok h'
    obtain rfl := (Outcome.ok.inj hr).2
    obtain rfl := (Outcome.ok.inj h').2
    rfl

end ExecutorState

namespace KernelState

variable {s s' : KernelState A B W}

theorem timelyStep_eq_ok {kbTask : TaskId} {a : KernelEvent} (h : timelyStep kbTask a s = .ok () s') :
    s.allows a = true ∧ kernelStep kbTask a s = .ok () s' := by
  simp only [timelyStep, bind_apply, get_apply, Outcome.bind_ok] at h
  by_cases ha : s.allows a = true
  · rw [if_pos ha] at h
    exact ⟨ha, h⟩
  · rw [if_neg ha, throw_apply] at h
    cases h

/-- What the kernel's own steps keep of `task_queue`: only the two tasks' ids,
`example_task`'s at most once, and the keyboard task's copies, the waker in
the slot and the poll going on at most two, three while the call's own waker
is out. -/
structure Short (s : KernelState A B W) : Prop where
  ids : ∀ tid ∈ s.exec.executor.taskQueue.items, tid = .nth 0 ∨ tid = .nth 1
  first : s.exec.executor.taskQueue.items.count (.nth 0) ≤ 1
  inWindow : s.polling.isSome → s.kb.pc.inWindow → s.kb.waker.slot.isSome
  copies : s.exec.executor.taskQueue.items.count (.nth 1) + s.kb.waker.slot.isSome.toNat +
      s.polling.isSome.toNat ≤ 2 + (s.polling.isSome && s.kb.pc.armed).toNat

theorem short_boot : Short (boot : KernelState A B W) where
  ids tid h := by
    simp only [boot_exec, twoSpawned_items, List.mem_cons, List.not_mem_nil, or_false] at h
    exact h
  first := by
    rw [boot_exec, twoSpawned_items]
    decide
  inWindow h := by simp at h
  copies := by
    simp only [boot_exec, twoSpawned_items, boot_kb, boot_polling, KeyboardState.init, AtomicWaker.slot_new]
    decide

theorem count_nth_zero_nth_one : [TaskId.nth 1].count (.nth 0) = 0 := by decide

theorem count_nth_one_nth_one : [TaskId.nth 1].count (.nth 1) = 1 := by decide

/-- The interrupt, when not in the window: a wake trades the waker in the slot
for a copy of the id. -/
theorem Short.interrupt {sc : UInt8} (hs : Short s) (ha : s.allows (.interrupt sc) = true)
    (h : interrupt (.nth 1) sc s = .ok () s') : Short s' := by
  have hout : s.polling.isSome → s.kb.pc.inWindow = false := by
    intro hp
    simpa [allows, hp] using ha
  rcases interrupt_eq_ok h with rfl | ⟨kb, hkb, ⟨hslot, -, rfl⟩ | ⟨ex, hsome, hnone, hex, rfl⟩⟩
  · exact hs
  · obtain ⟨hpc, -⟩ := KeyboardState.addScancode_frame hkb
    have hnone : kb.waker.slot = none := by
      rcases KeyboardState.addScancode_eq_ok hkb with ⟨-, rfl⟩ | ⟨q, -, rfl⟩
      · exact hslot
      · exact AtomicWaker.slot_take
    refine ⟨hs.ids, hs.first, fun hp hw => ?_, ?_⟩
    · rw [show kb.pc = s.kb.pc from hpc, hout hp] at hw
      cases hw
    · have := hs.copies
      simp only [hnone, hslot, hpc] at this ⊢
      exact this
  · obtain ⟨hpc, -⟩ := KeyboardState.addScancode_frame hkb
    obtain ⟨q, hq, rfl⟩ := ExecutorState.pushTaskId_eq_ok hex
    have hitems : q.items = s.exec.executor.taskQueue.items ++ [.nth 1] := ArrayQueue.items_of_push hq
    refine ⟨fun tid htid => ?_, ?_, fun hp hw => ?_, ?_⟩
    · rw [hitems, List.mem_append, List.mem_singleton] at htid
      rcases htid with htid | rfl
      · exact hs.ids tid htid
      · exact .inr rfl
    · show q.items.count (.nth 0) ≤ 1
      rw [hitems, List.count_append, count_nth_zero_nth_one]
      exact hs.first
    · rw [show kb.pc = s.kb.pc from hpc, hout hp] at hw
      cases hw
    · have := hs.copies
      show q.items.count (.nth 1) + kb.waker.slot.isSome.toNat + s.polling.isSome.toNat ≤
        2 + (s.polling.isSome && kb.pc.armed).toNat
      rw [hitems, List.count_append, count_nth_one_nth_one, hnone, hpc]
      simp only [hsome, Option.isSome_none, Bool.toNat_false, Bool.toNat_true] at this ⊢
      omega

theorem nth_one_ne_nth_zero : TaskId.nth 1 ≠ TaskId.nth 0 := by decide

theorem nth_zero_ne_nth_one : TaskId.nth 0 ≠ TaskId.nth 1 := by decide

/-- A round that pops an id other than the keyboard task's and pushes nothing. -/
theorem Short.of_pop_other {x : TaskId} {q : A.State} {ex : ExecutorState A} (hs : Short s)
    (hpop : s.exec.executor.taskQueue.pop = some (x, q)) (hx : x ≠ .nth 1)
    (hq : ex.executor.taskQueue = q) : Short { s with exec := ex } := by
  have hitems := ArrayQueue.items_of_pop hpop
  have hx0 : x = .nth 0 := by
    rcases hs.ids x (by rw [hitems]; exact List.mem_cons_self) with h0 | h1
    · exact h0
    · exact absurd h1 hx
  refine ⟨fun tid htid => hs.ids tid ?_, ?_, hs.inWindow, ?_⟩
  · rw [hitems]
    exact List.mem_cons_of_mem _ (hq ▸ htid)
  · show ex.executor.taskQueue.items.count (.nth 0) ≤ 1
    have := hs.first
    rw [hitems, hx0, List.count_cons_self] at this
    rw [hq]
    omega
  · show ex.executor.taskQueue.items.count (.nth 1) + _ + _ ≤ _
    have := hs.copies
    rw [hitems, hx0, List.count_cons_of_ne nth_zero_ne_nth_one] at this
    rw [hq]
    exact this

/-- **The executor's rounds keep the invariant**: a round pops the keyboard
task's id and begins its poll, or pops `example_task`'s and runs it, waking
nothing. -/
theorem Short.executorMove {e : ExecutorEvent} (hi : Inv (.nth 1) s) (hs : Short s)
    (ha : s.allows (.executor e) = true) (h : executorMove (.nth 1) e s = .ok () s') : Short s' := by
  have he : e = .runReadyTask [] true := by simpa [allows] using ha
  subst he
  obtain ⟨hp, ⟨q, -, hpop, hb⟩ | ⟨hnot, ex, hex, rfl⟩⟩ := executorMove_eq_ok h
  · -- the poll begins at the start of `poll_next`, with one copy fewer queued
    obtain ⟨t, ht⟩ := Option.isSome_iff_exists.mp hi.task
    obtain ⟨ex, hex, rfl⟩ := beginPoll_eq_ok ht hb
    have hq : ex.executor.taskQueue = q := ExecutorState.cacheWaker_taskQueue hex
    have hitems := ArrayQueue.items_of_pop hpop
    have hpc := (hi.parked hp).1
    refine ⟨fun tid htid => hs.ids tid ?_, ?_, fun _ hw => ?_, ?_⟩
    · rw [hitems]
      exact List.mem_cons_of_mem _ (hq ▸ htid)
    · show ex.executor.taskQueue.items.count (.nth 0) ≤ 1
      have := hs.first
      rw [hitems, List.count_cons_of_ne nth_one_ne_nth_zero] at this
      rw [hq]
      exact this
    · simp [hpc, PollPc.inWindow] at hw
    · show ex.executor.taskQueue.items.count (.nth 1) + s.kb.waker.slot.isSome.toNat + 1 ≤
        2 + (true && s.kb.pc.armed).toNat
      have := hs.copies
      rw [hitems, List.count_cons_self, hp] at this
      rw [hq, hpc]
      simp only [PollPc.armed, Option.isSome_none, Bool.false_and, Bool.and_false, Bool.toNat_false] at this ⊢
      omega
  · -- `example_task`'s round, or one that finds the queue empty or the task gone
    rcases ExecutorState.runReadyTask_eq_ok hex with ⟨-, rfl⟩ | ⟨x, q, hpop, ⟨-, rfl⟩ | ⟨u, -, hpoll⟩⟩
    · exact hs
    · exact hs.of_pop_other hpop (fun hx => hnot q rfl (hx ▸ hpop)) rfl
    · exact hs.of_pop_other hpop (fun hx => hnot q rfl (hx ▸ hpop)) (ExecutorState.pollTask_nil_taskQueue hpoll)

/-- A statement of the poll that changes the hand-off only. -/
theorem Short.of_kb {kb : KeyboardState B W} (hs : Short s)
    (hw : s.polling.isSome → kb.pc.inWindow → kb.waker.slot.isSome)
    (hc : s.exec.executor.taskQueue.items.count (.nth 1) + kb.waker.slot.isSome.toNat + s.polling.isSome.toNat ≤
      2 + (s.polling.isSome && kb.pc.armed).toNat) : Short { s with kb } :=
  ⟨hs.ids, hs.first, hw, hc⟩

/-- A statement that leaves the slot and the armed flag as they were, and is in
the window only if it was before. -/
theorem Short.of_kb_same {kb : KeyboardState B W} (hs : Short s) (hslot : kb.waker.slot = s.kb.waker.slot)
    (harmed : kb.pc.armed = s.kb.pc.armed) (hw : kb.pc.inWindow → s.kb.pc.inWindow) : Short { s with kb } :=
  hs.of_kb (fun hp h => hslot ▸ hs.inWindow hp (hw h)) (by rw [hslot, harmed]; exact hs.copies)

/-- **The statements of the poll keep the invariant.** `register` puts the
call's waker out, `take` and the return of `Pending` bring the count back. -/
theorem Short.consumer (hs : Short s) (h : consumer s = .ok () s') : Short s' := by
  obtain ⟨t, kb, hp, hkb, ⟨hpc, rfl⟩ | ⟨hpc, rfl⟩⟩ := consumer_eq_ok h
  · -- the return of `Pending` ends the poll
    rw [KeyboardState.pollNextStep_returningPending hpc] at hkb
    obtain rfl := (Outcome.ok.inj hkb).2
    refine ⟨hs.ids, hs.first, fun h => by simp at h, ?_⟩
    have := hs.copies
    show s.exec.executor.taskQueue.items.count (.nth 1) + s.kb.waker.slot.isSome.toNat + 0 ≤
      2 + (false && PollPc.armed .idle).toNat
    simp only [hp, hpc, Option.isSome_some, PollPc.armed, Bool.and_true, Bool.toNat_true] at this
    simp only [Bool.false_and, Bool.toNat_false]
    omega
  · -- every other statement keeps the call running and changes the hand-off only
    have hq : s.polling.isSome = true := by rw [hp]; rfl
    have hc := hs.copies
    have hw := hs.inWindow hq
    rw [hq] at hc
    simp only [Bool.true_and, Bool.toNat_true] at hc
    rcases KeyboardState.pollNextStep_eq_ok hkb with ⟨h0, c, q, -, rfl⟩ | ⟨h0, -, rfl⟩ | ⟨h0, rfl⟩ |
        ⟨h0, c, q, -, rfl⟩ | ⟨h0, -, rfl⟩ | ⟨c, h0, rfl⟩ | ⟨c, h0, rfl⟩ | ⟨h0, rfl⟩
    · -- a scancode at the first `pop`: nothing is registered
      exact hs.of_kb_same rfl (by rw [h0]; rfl) (fun h => by simp [PollPc.inWindow] at h)
    · -- nothing at the first `pop`: the call goes on to `register`
      exact hs.of_kb_same rfl (by rw [h0]; rfl) (fun h => by simp [PollPc.inWindow] at h)
    · -- `register` puts the call's waker out, and the call is now armed
      refine hs.of_kb (fun _ _ => by simp) ?_
      simp only [hq, h0, PollPc.armed, Bool.toNat_false, Bool.true_and, Bool.toNat_true,
        AtomicWaker.slot_register, Option.isSome_some] at hc ⊢
      omega
    · -- a scancode at the second `pop`: the waker stays out until `take`
      exact hs.of_kb_same rfl (by rw [h0]; rfl) (fun _ => by rw [h0]; rfl)
    · -- nothing at the second `pop`: the call returns `Pending`, still armed
      exact hs.of_kb_same rfl (by rw [h0]; rfl) (fun h => by simp [PollPc.inWindow] at h)
    · -- `take` brings the call's waker back, which was out in the window
      have hσ := hw (by simp [h0, PollPc.inWindow])
      refine hs.of_kb (fun _ h => by simp [PollPc.inWindow] at h) ?_
      simp only [hq, h0, hσ, PollPc.armed, Bool.toNat_false, Bool.true_and, Bool.toNat_true,
        AtomicWaker.slot_take, Option.isSome_none] at hc ⊢
      omega
    · -- the return of `Ready` ends the poll with nothing registered
      exact hs.of_kb_same rfl (by rw [h0]; rfl) (fun h => by simp [PollPc.inWindow] at h)
    · exact absurd h0 hpc

theorem Short.step (hi : Inv (.nth 1) s) (hs : Short s) {a : KernelEvent}
    (h : timelyStep (.nth 1) a s = .ok () s') : Short s' := by
  obtain ⟨ha, hk⟩ := timelyStep_eq_ok h
  cases a with
  | interrupt sc => exact hs.interrupt ha hk
  | executor e => exact hs.executorMove hi ha hk
  | consumer => exact hs.consumer hk

/-- A run in time is a run of the kernel as built, so its invariant holds there. -/
theorem inv_timely_reachable (h : Prog.Reachable (timelyStep (.nth 1)) boot s) : Inv (.nth 1) s :=
  inv_reachable (h.mono fun _ _ _ hk => (timelyStep_eq_ok hk).2)

theorem short_reachable (h : Prog.Reachable (timelyStep (.nth 1)) boot s) : Short s :=
  Prog.Reachable.induction Short short_boot (fun _ _ _ hr hs hstep => hs.step (inv_timely_reachable hr) hstep) h

theorem toNat_and_le (p a : Bool) : (p && a).toNat ≤ p.toNat := by
  cases p
  · exact Nat.le_refl 0
  · exact Bool.toNat_le a

theorem length_le_count_add_count {a b : TaskId} :
    ∀ {l : List TaskId}, (∀ x ∈ l, x = a ∨ x = b) → l.length ≤ l.count a + l.count b
  | [], _ => Nat.zero_le _
  | x :: l, h => by
    have ih := length_le_count_add_count fun y hy => h y (List.mem_cons_of_mem x hy)
    -- the head counts once for the id it is, and the other count cannot fall
    rw [List.length_cons]
    rcases h x List.mem_cons_self with rfl | rfl
    · have hx := List.count_cons_self (a := x) (l := l)
      have hb := List.count_le_count_cons (a := b) (b := x) (l := l)
      omega
    · have hx := List.count_cons_self (a := x) (l := l)
      have ha := List.count_le_count_cons (a := a) (b := x) (l := l)
      omega

/-- The keyboard task's id is queued at most twice: the extra copy allowed
while the call is armed is paid for by the poll itself. -/
theorem Short.count_nth_one_le (hs : Short s) : s.exec.executor.taskQueue.items.count (.nth 1) ≤ 2 := by
  have hc := hs.copies
  have harmed := toNat_and_le s.polling.isSome s.kb.pc.armed
  omega

theorem Short.length_le (hs : Short s) : s.exec.executor.taskQueue.items.length ≤ 3 :=
  calc s.exec.executor.taskQueue.items.length
      ≤ s.exec.executor.taskQueue.items.count (.nth 0) + s.exec.executor.taskQueue.items.count (.nth 1) :=
        length_le_count_add_count hs.ids
    _ ≤ 1 + 2 := Nat.add_le_add hs.first hs.count_nth_one_le

end KernelState

theorem KeyboardState.addScancode_returns {ε : Type} (sc : UInt8) (s : KeyboardState B W) :
    ∃ kb, (KeyboardState.addScancode sc : Prog ε (KeyboardState B W) Unit) s = .ok () kb := by
  cases h : s.queue.push sc with
  | error a => exact ⟨s, KeyboardState.addScancode_of_full h⟩
  | ok q => exact ⟨_, KeyboardState.addScancode_of_push h⟩

namespace KernelState

variable {kbTask : TaskId} {s : KernelState A B W}

/-- With room in `task_queue` the interrupt handler returns: the scancode
queue drops what it cannot hold, and the wake's push succeeds. -/
theorem interrupt_returns_of_room (sc : UInt8)
    (h : s.exec.executor.taskQueue.items.length < s.exec.executor.taskQueue.cap) :
    ∃ s', interrupt kbTask sc s = .ok () s' := by
  rcases Bool.eq_false_or_eq_true s.streamReady with hr | hr
  · obtain ⟨kb, hkb⟩ := KeyboardState.addScancode_returns (ε := Unit) sc s.kb
    rw [interrupt_of_ready hr hkb]
    by_cases hw : ((s.kb.queue.push sc).isOk && s.kb.waker.slot.isSome) = true
    · rw [if_pos hw]
      obtain ⟨q, hq, -, -⟩ := ArrayQueue.push_of_lt (a := kbTask) h
      exact ⟨_, onExec_of_ok (ExecutorState.pushTaskId_of_push hq)⟩
    · rw [if_neg hw]
      exact ⟨_, rfl⟩
  · exact ⟨s, interrupt_of_not_ready hr⟩

end KernelState

open KernelState in
/-- **Keypresses in time never fill `task_queue`.** Along every run of the
kernel as built in which no keypress arrives while a call of `poll_next` has
its waker registered, `task_queue` holds `example_task`'s id at most once, the
keyboard task's at most twice and no other, so at most three ids; and a
keypress at any point of the run is handled without a panic. -/
theorem timely_keypresses_fit_task_queue {s : KernelState A B W}
    (h : Prog.Reachable (timelyStep (.nth 1)) boot s) :
    s.exec.executor.taskQueue.items.count (.nth 0) ≤ 1 ∧
      s.exec.executor.taskQueue.items.count (.nth 1) ≤ 2 ∧
      s.exec.executor.taskQueue.items.length ≤ 3 ∧ ∀ sc, ∃ s', interrupt (.nth 1) sc s = .ok () s' := by
  have hs := short_reachable h
  refine ⟨hs.first, hs.count_nth_one_le, hs.length_le, fun sc => interrupt_returns_of_room sc ?_⟩
  rw [(inv_timely_reachable h).cap]
  exact lt_of_le_of_lt hs.length_le (by decide)

/-- From boot in time: `example_task`'s round, the round that begins the
keyboard task's poll, the poll through to `Pending`, and a keypress after it
that wakes the task. -/
def timelyRun : List KernelEvent :=
  [.executor (.runReadyTask [] true), .executor (.runReadyTask [] true),
    .consumer, .consumer, .consumer, .consumer, .interrupt 0x1e]

theorem timely_keypresses_fit_task_queue_timelyRun :
    ∃ s : ListKernelState, Prog.Reachable (timelyStep (.nth 1)) KernelState.boot s ∧
      s.exec.executor.taskQueue.items.count (.nth 0) ≤ 1 ∧
      s.exec.executor.taskQueue.items.count (.nth 1) ≤ 2 ∧
      s.exec.executor.taskQueue.items.length ≤ 3 ∧ ∀ sc, ∃ s', KernelState.interrupt (.nth 1) sc s = .ok () s' := by
  obtain ⟨_, s, h, -⟩ := Outcome.exists_of_returns (p := fun _ _ => true)
    (o := runSteps (timelyStep (.nth 1)) timelyRun (KernelState.boot : ListKernelState))
    (by decide +kernel)
  have hr := reachable_runSteps _ .init h
  exact ⟨s, hr, timely_keypresses_fit_task_queue hr⟩

end BlogOs.Task
