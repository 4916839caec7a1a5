import BlogOs.Lib.Sim
import BlogOs.Lib.Sync
import BlogOs.Lib.Alloc

/-!
# The task executor (`src/task/executor.rs`, `src/task/mod.rs`)

`Executor::spawn` inserts a task under its id and pushes the id onto
`task_queue` (capacity 100). `run_ready_tasks` pops ids and polls their tasks,
each with a `TaskWaker` cached under the id, whose `wake` pushes the id again.
A task that returns `Ready` is removed from `tasks` with its cached waker; the
wakers its future handed out live on, and may push the id of a finished task.
Ids come from `TaskId::new`, a `fetch_add(1)` on the static `NEXT_ID:
AtomicU64`, which wraps.

The state is the executor and `NEXT_ID`, with ghost data: the number of calls
of `Task::new`, each task's `serial` (the number of the call that built it,
standing for its future), every waker the executor made, the ids spawned, and
every poll with what it returned. A step (`executorStep`) is a spawn, a wake
of any waker made so far, or one round of the loop of `run_ready_tasks`, in
which the polled future wakes wakers of its choice and returns `Ready` or
`Pending` as the step says. A wake by an interrupt during a round is one of the
round's wakes, since a wake only pushes onto the queue.

What is shown over every sequence of steps (`executor_safe`): no task is polled
after it has returned `Ready`; the keys of `waker_cache` are keys of `tasks`;
every queued id was spawned; the ids of the first `2 ^ 64` spawns are distinct,
and the duplicate check of `spawn` cannot fire before the `2 ^ 64`-th. Then
`NEXT_ID` is back at 0, and with the first task still pending the next spawn
panics (`spawn_duplicate_after_wrap`).
-/

-- the source's `task::Task`
set_option linter.dupNamespace false

namespace BlogOs.Task

open Prog

/-- `ArrayQueue::new(100)` of `Executor::new`. -/
def taskQueueCapacity : Nat := 100

/-- `TaskId(u64)`. -/
structure TaskId where
  val : UInt64
  deriving DecidableEq, Repr

namespace TaskId

/-- The derived `Debug` text `TaskId(n)`, which `expect` puts in its message. -/
def debug (tid : TaskId) : String := "TaskId(" ++ toString tid.val ++ ")"

/-- The id that call `k` of `TaskId::new` returns, counting from 0. -/
def nth (k : Nat) : TaskId := ⟨UInt64.ofNat k⟩

/-- Below `2 ^ 64` calls, the ids are distinct. -/
theorem nth_inj {a b : Nat} (ha : a < 2 ^ 64) (hb : b < 2 ^ 64) (h : nth a = nth b) : a = b := by
  have hv := congrArg (fun tid : TaskId => tid.val.toNat) h
  simp only [nth] at hv
  rwa [UInt64.toNat_ofNat_of_lt' ha, UInt64.toNat_ofNat_of_lt' hb] at hv

end TaskId

/-- A `Task`. Its future is left out; `serial` numbers the `Task::new` call
that built it, and tells tasks apart where their ids may not. -/
structure Task where
  id : TaskId
  serial : Nat
  deriving DecidableEq, Repr

/-- A `TaskWaker`; the `task_queue` it pushes to is the executor's. -/
structure TaskWaker where
  taskId : TaskId
  deriving DecidableEq, Repr

/-- An `Executor`, its `BTreeMap`s as maps from ids, over an implementation
`A` of `ArrayQueue`. -/
structure Executor (A : ArrayQueue TaskId) where
  tasks : TaskId → Option Task
  taskQueue : A.State
  wakerCache : TaskId → Option TaskWaker

variable {A : ArrayQueue TaskId}

/-- `Executor::new()`. -/
def Executor.new : Executor A := ⟨fun _ => none, A.new taskQueueCapacity, fun _ => none⟩

/-- A poll of the task with that serial, and whether it returned `Ready`. -/
structure PollRecord where
  serial : Nat
  ready : Bool
  deriving DecidableEq, Repr

/-- The executor, `NEXT_ID`, and the ghost data. -/
structure ExecutorState (A : ArrayQueue TaskId) where
  nextId : UInt64
  executor : Executor A
  /-- The calls of `Task::new` so far. -/
  created : Nat
  /-- Every waker the executor made, oldest first. -/
  wakers : List TaskWaker
  /-- Every poll so far, oldest first. -/
  history : List PollRecord
  /-- The ids of the spawned tasks, oldest first. -/
  spawned : List TaskId

/-- At boot: `NEXT_ID` is 0 and `Executor::new()` holds nothing. -/
def ExecutorState.init : ExecutorState A := ⟨0, Executor.new, 0, [], [], []⟩

variable {ε : Type}

/-- `TaskId::new()`: `NEXT_ID.fetch_add(1, Relaxed)`, which wraps. -/
def TaskId.new : Prog ε (ExecutorState A) TaskId := do
  let s ← get
  set { s with nextId := s.nextId + 1 }
  pure ⟨s.nextId⟩

/-- `Task::new(future)`. -/
def Task.new : Prog ε (ExecutorState A) Task := do
  let tid ← TaskId.new
  let s ← get
  set { s with created := s.created + 1 }
  pure ⟨tid, s.created⟩

namespace ExecutorState

/-- `task_queue.push(task_id).expect(msg)`. -/
def pushTaskId (msg : String) (taskId : TaskId) : Prog ε (ExecutorState A) Unit := do
  let s ← get
  let taskQueue ← expectOk (msg ++ ": " ++ taskId.debug) (s.executor.taskQueue.push taskId)
  set { s with executor := { s.executor with taskQueue } }

/-- `Executor::spawn(task)`. -/
def spawn (task : Task) : Prog ε (ExecutorState A) Unit := do
  let s ← get
  -- `tasks.insert(task.id, task)` returns what the key held
  let old := s.executor.tasks task.id
  set { s with
    executor := { s.executor with tasks := Function.update s.executor.tasks task.id (some task) }
    spawned := s.spawned ++ [task.id] }
  if old.isSome then Prog.panic "task with same ID already in tasks"
  pushTaskId "queue full" task.id

/-- `TaskWaker::wake_task`, which both `wake` and `wake_by_ref` call. -/
def wakeTask (w : TaskWaker) : Prog ε (ExecutorState A) Unit :=
  pushTaskId "task_queue full" w.taskId

/-- `wake` or `wake_by_ref` on waker `i` of those the executor made. -/
def wakeNth (i : Nat) : Prog ε (ExecutorState A) Unit := do
  let s ← get
  match s.wakers[i]? with
  | some w => wakeTask w
  | none => pure ()

/-- The wakes a future makes while it is polled. -/
def wakeAll : List Nat → Prog ε (ExecutorState A) Unit
  | [] => pure ()
  | i :: is => do
    wakeNth i
    wakeAll is

/-- `waker_cache.entry(task_id).or_insert_with(|| TaskWaker::new(task_id, ..))`. -/
def cacheWaker (taskId : TaskId) : Prog ε (ExecutorState A) Unit := do
  let s ← get
  match s.executor.wakerCache taskId with
  | some _ => pure ()
  | none =>
    set { s with
      executor := { s.executor with
        wakerCache := Function.update s.executor.wakerCache taskId (some ⟨taskId⟩) }
      wakers := s.wakers ++ [⟨taskId⟩] }

/-- `tasks.remove(&task_id); waker_cache.remove(&task_id)`. -/
def removeTask (taskId : TaskId) : Prog ε (ExecutorState A) Unit :=
  modify fun s => { s with
    executor := { s.executor with
      tasks := Function.update s.executor.tasks taskId none
      wakerCache := Function.update s.executor.wakerCache taskId none } }

/-- Ghost: the poll of `task` is over. -/
def recordPoll (task : Task) (ready : Bool) : Prog ε (ExecutorState A) Unit :=
  modify fun s => { s with history := s.history ++ [⟨task.serial, ready⟩] }

/-- The body of the loop of `run_ready_tasks` once `tasks.get_mut(&task_id)`
found `task`: the future wakes `wakes` and returns `Ready` when `ready`. -/
def pollTask (taskId : TaskId) (task : Task) (wakes : List Nat) (ready : Bool) :
    Prog ε (ExecutorState A) Unit := do
  cacheWaker taskId
  -- `task.poll(&mut context)`
  wakeAll wakes
  -- `Poll::Ready(())`
  if ready then removeTask taskId
  recordPoll task ready

/-- One round of the loop of `run_ready_tasks`. -/
def runReadyTask (wakes : List Nat) (ready : Bool) : Prog ε (ExecutorState A) Unit := do
  let s ← get
  match s.executor.taskQueue.pop with
  | none => pure ()  -- the loop ends, and `run` starts it again
  | some (taskId, taskQueue) =>
    set { s with executor := { s.executor with taskQueue } }
    match s.executor.tasks taskId with
    | none => pure ()  -- `continue`: the task is done
    | some task => pollTask taskId task wakes ready

end ExecutorState

/-- Who moves next. -/
inductive ExecutorEvent where
  /-- `executor.spawn(Task::new(..))`. -/
  | spawn
  /-- `wake` or `wake_by_ref` on waker `i` of those made, by an interrupt handler or a task. -/
  | wake (i : Nat)
  /-- A round of `run_ready_tasks`. -/
  | runReadyTask (wakes : List Nat) (ready : Bool)
  deriving DecidableEq, Repr

/-- One step of the system. -/
def executorStep : ExecutorEvent → Prog Empty (ExecutorState A) Unit
  | .spawn => do ExecutorState.spawn (← Task.new)
  | .wake i => ExecutorState.wakeNth i
  | .runReadyTask wakes ready => ExecutorState.runReadyTask wakes ready

namespace ExecutorState

variable {ε : Type} {s s' : ExecutorState A} {t : Task} {tid : TaskId} {msg : String}
  {q : A.State}

/-! ## One lemma per path -/

theorem taskNew_apply (s : ExecutorState A) :
    (Task.new : Prog ε (ExecutorState A) Task) s =
      .ok ⟨⟨s.nextId⟩, s.created⟩ { s with nextId := s.nextId + 1, created := s.created + 1 } :=
  rfl

theorem pushTaskId_of_push (h : s.executor.taskQueue.push tid = .ok q) :
    (pushTaskId msg tid : Prog ε (ExecutorState A) Unit) s =
      .ok () { s with executor := { s.executor with taskQueue := q } } := by
  simp only [pushTaskId, bind_apply, get_apply, Outcome.bind_ok, h, expectOk_ok, pure_apply,
    set_apply]

theorem pushTaskId_of_full {a : TaskId} (h : s.executor.taskQueue.push tid = .error a) :
    (pushTaskId msg tid : Prog ε (ExecutorState A) Unit) s = .panic (msg ++ ": " ++ tid.debug) := by
  simp only [pushTaskId, bind_apply, get_apply, Outcome.bind_ok, h, expectOk_error, panic_apply,
    Outcome.bind_panic]

theorem pushTaskId_eq_ok (h : (pushTaskId msg tid : Prog ε (ExecutorState A) Unit) s = .ok () s') :
    ∃ q, s.executor.taskQueue.push tid = .ok q ∧
      s' = { s with executor := { s.executor with taskQueue := q } } := by
  cases hq : s.executor.taskQueue.push tid with
  | error a =>
    rw [pushTaskId_of_full hq] at h
    cases h
  | ok q =>
    rw [pushTaskId_of_push hq] at h
    exact ⟨q, rfl, (Outcome.ok.inj h).2.symm⟩

theorem spawn_of_free (h : s.executor.tasks t.id = none) :
    (spawn t : Prog ε (ExecutorState A) Unit) s =
      pushTaskId "queue full" t.id { s with
        executor := { s.executor with tasks := Function.update s.executor.tasks t.id (some t) }
        spawned := s.spawned ++ [t.id] } := by
  simp only [spawn, bind_apply, get_apply, Outcome.bind_ok, set_apply, h, Option.isSome_none,
    Bool.false_eq_true, if_false]

theorem spawn_of_taken (h : (s.executor.tasks t.id).isSome) :
    (spawn t : Prog ε (ExecutorState A) Unit) s = .panic "task with same ID already in tasks" := by
  simp only [spawn, bind_apply, get_apply, Outcome.bind_ok, set_apply, h, if_true, panic_apply,
    Outcome.bind_panic]

theorem wakeNth_of_some {i : Nat} {w : TaskWaker} (h : s.wakers[i]? = some w) :
    (wakeNth i : Prog ε (ExecutorState A) Unit) s = wakeTask w s := by
  simp only [wakeNth, bind_apply, get_apply, Outcome.bind_ok, h]

theorem wakeNth_of_none {i : Nat} (h : s.wakers[i]? = none) :
    (wakeNth i : Prog ε (ExecutorState A) Unit) s = .ok () s := by
  simp only [wakeNth, bind_apply, get_apply, Outcome.bind_ok, h, pure_apply]

theorem cacheWaker_of_some {w : TaskWaker} (h : s.executor.wakerCache tid = some w) :
    (cacheWaker tid : Prog ε (ExecutorState A) Unit) s = .ok () s := by
  simp only [cacheWaker, bind_apply, get_apply, Outcome.bind_ok, h, pure_apply]

theorem cacheWaker_of_none (h : s.executor.wakerCache tid = none) :
    (cacheWaker tid : Prog ε (ExecutorState A) Unit) s =
      .ok () { s with
        executor := { s.executor with
          wakerCache := Function.update s.executor.wakerCache tid (some ⟨tid⟩) }
        wakers := s.wakers ++ [⟨tid⟩] } := by
  simp only [cacheWaker, bind_apply, get_apply, Outcome.bind_ok, h, set_apply]

theorem runReadyTask_of_empty {wakes : List Nat} {ready : Bool}
    (h : s.executor.taskQueue.pop = none) :
    (runReadyTask wakes ready : Prog ε (ExecutorState A) Unit) s = .ok () s := by
  simp only [runReadyTask, bind_apply, get_apply, Outcome.bind_ok, h, pure_apply]

theorem runReadyTask_of_done {wakes : List Nat} {ready : Bool}
    (hpop : s.executor.taskQueue.pop = some (tid, q)) (ht : s.executor.tasks tid = none) :
    (runReadyTask wakes ready : Prog ε (ExecutorState A) Unit) s =
      .ok () { s with executor := { s.executor with taskQueue := q } } := by
  simp only [runReadyTask, bind_apply, get_apply, Outcome.bind_ok, hpop, set_apply, ht,
    pure_apply]

theorem runReadyTask_of_found {wakes : List Nat} {ready : Bool}
    (hpop : s.executor.taskQueue.pop = some (tid, q)) (ht : s.executor.tasks tid = some t) :
    (runReadyTask wakes ready : Prog ε (ExecutorState A) Unit) s =
      pollTask tid t wakes ready { s with executor := { s.executor with taskQueue := q } } := by
  simp only [runReadyTask, bind_apply, get_apply, Outcome.bind_ok, hpop, set_apply, ht]

/-- A spawn whose id is free: the task goes in under it, and its id onto the queue. -/
theorem spawnStep_of_free (h : s.executor.tasks ⟨s.nextId⟩ = none) :
    executorStep .spawn s = pushTaskId "queue full" ⟨s.nextId⟩ { s with
      nextId := s.nextId + 1
      created := s.created + 1
      executor := { s.executor with
        tasks := Function.update s.executor.tasks ⟨s.nextId⟩ (some ⟨⟨s.nextId⟩, s.created⟩) }
      spawned := s.spawned ++ [⟨s.nextId⟩] } := by
  rw [executorStep, bind_apply, taskNew_apply, Outcome.bind_ok]
  exact spawn_of_free h

/-- A spawn whose id is free, into a queue with room: it returns, with the id
at the back of the queue. -/
theorem spawnStep_of_room (h : s.executor.tasks ⟨s.nextId⟩ = none)
    (hroom : s.executor.taskQueue.items.length < s.executor.taskQueue.cap) :
    ∃ q : A.State, q.items = s.executor.taskQueue.items ++ [⟨s.nextId⟩] ∧
      q.cap = s.executor.taskQueue.cap ∧ executorStep .spawn s = .ok () { s with
        nextId := s.nextId + 1
        created := s.created + 1
        executor := { s.executor with
          tasks := Function.update s.executor.tasks ⟨s.nextId⟩ (some ⟨⟨s.nextId⟩, s.created⟩)
          taskQueue := q }
        spawned := s.spawned ++ [⟨s.nextId⟩] } := by
  obtain ⟨q, hq, hitems, hcap⟩ := ArrayQueue.push_of_lt (a := ⟨s.nextId⟩) hroom
  refine ⟨q, hitems, hcap, ?_⟩
  rw [spawnStep_of_free h]
  exact pushTaskId_of_push hq

theorem spawnStep_of_taken (h : (s.executor.tasks ⟨s.nextId⟩).isSome) :
    executorStep .spawn s = .panic "task with same ID already in tasks" := by
  rw [executorStep, bind_apply, taskNew_apply, Outcome.bind_ok]
  exact spawn_of_taken h

/-! ## Wakes touch only the queue -/

/-- What every wake keeps, the wakes of a poll keep. -/
theorem wakeAll_keeps (Q : ExecutorState A → Prop)
    (hQ : ∀ i s s', Q s → (wakeNth i : Prog ε (ExecutorState A) Unit) s = .ok () s' → Q s') :
    ∀ {is : List Nat} {s s' : ExecutorState A}, Q s →
      (wakeAll is : Prog ε (ExecutorState A) Unit) s = .ok () s' → Q s'
  | [], _, _, hs, h => by
    obtain ⟨-, rfl⟩ := pure_eq_ok h
    exact hs
  | i :: is, _, _, hs, h => by
    obtain ⟨_, s₁, h₁, h⟩ := bind_eq_ok h
    exact wakeAll_keeps Q hQ (hQ i _ s₁ hs h₁) h

/-- `s'` has the tasks, the calls of `Task::new` and the polls of `s`. -/
structure SameTasks (s s' : ExecutorState A) : Prop where
  tasks : s'.executor.tasks = s.executor.tasks
  created : s'.created = s.created
  history : s'.history = s.history

theorem SameTasks.refl (s : ExecutorState A) : SameTasks s s := ⟨rfl, rfl, rfl⟩

theorem SameTasks.trans {s₁ s₂ : ExecutorState A} (h₁ : SameTasks s s₁) (h₂ : SameTasks s₁ s₂) :
    SameTasks s s₂ :=
  ⟨h₂.tasks.trans h₁.tasks, h₂.created.trans h₁.created, h₂.history.trans h₁.history⟩

theorem sameTasks_pushTaskId (h : (pushTaskId msg tid : Prog ε (ExecutorState A) Unit) s = .ok () s') :
    SameTasks s s' := by
  obtain ⟨q, -, rfl⟩ := pushTaskId_eq_ok h
  exact ⟨rfl, rfl, rfl⟩

theorem sameTasks_wakeNth {i : Nat} (h : (wakeNth i : Prog ε (ExecutorState A) Unit) s = .ok () s') :
    SameTasks s s' := by
  cases hw : s.wakers[i]? with
  | none =>
    rw [wakeNth_of_none hw] at h
    obtain rfl := (Outcome.ok.inj h).2
    exact .refl s
  | some w =>
    rw [wakeNth_of_some hw] at h
    exact sameTasks_pushTaskId h

theorem sameTasks_wakeAll {is : List Nat}
    (h : (wakeAll is : Prog ε (ExecutorState A) Unit) s = .ok () s') : SameTasks s s' :=
  wakeAll_keeps (SameTasks s) (fun _ _ _ h₁ h => h₁.trans (sameTasks_wakeNth h)) (.refl s) h

theorem sameTasks_cacheWaker (h : (cacheWaker tid : Prog ε (ExecutorState A) Unit) s = .ok () s') :
    SameTasks s s' := by
  cases hc : s.executor.wakerCache tid with
  | some w =>
    rw [cacheWaker_of_some hc] at h
    obtain rfl := (Outcome.ok.inj h).2
    exact .refl s
  | none =>
    rw [cacheWaker_of_none hc] at h
    obtain rfl := (Outcome.ok.inj h).2
    exact ⟨rfl, rfl, rfl⟩

/-! ## The invariant -/

/-- **The invariant of the executor.** -/
structure Inv (s : ExecutorState A) : Prop where
  /-- `NEXT_ID` counts the calls of `TaskId::new`, wrapped. -/
  nextId_eq : s.nextId = UInt64.ofNat s.created
  /-- Every task built was spawned, in order. -/
  spawned_eq : s.spawned = (List.range s.created).map TaskId.nth
  /-- A task sits under its own id, the id of its call, and was built. -/
  task_wf : ∀ tid t, s.executor.tasks tid = some t →
    t.id = tid ∧ tid = .nth t.serial ∧ t.serial < s.created
  /-- A task still in `tasks` has not returned `Ready`. -/
  task_pending : ∀ tid t, s.executor.tasks tid = some t →
    ∀ r ∈ s.history, r.ready = true → r.serial ≠ t.serial
  history_lt : ∀ r ∈ s.history, r.serial < s.created
  /-- No poll of a task after a poll of it returned `Ready`. -/
  history_ready : s.history.Pairwise fun r r' => r.ready = true → r'.serial ≠ r.serial
  cache_sub : ∀ tid, (s.executor.wakerCache tid).isSome → (s.executor.tasks tid).isSome
  queue_spawned : ∀ tid ∈ s.executor.taskQueue.items, tid ∈ s.spawned
  wakers_spawned : ∀ w ∈ s.wakers, w.taskId ∈ s.spawned

theorem inv_init : Inv (init : ExecutorState A) where
  nextId_eq := rfl
  spawned_eq := rfl
  task_wf := by
    intro _ _ h
    cases h
  task_pending := by
    intro _ _ h
    cases h
  history_lt := by simp [init]
  history_ready := List.Pairwise.nil
  cache_sub := by
    intro _ h
    cases h
  queue_spawned := by simp [init, Executor.new]
  wakers_spawned := by simp [init]

theorem Inv.mem_spawned_of_task (hi : Inv s) (ht : s.executor.tasks tid = some t) :
    tid ∈ s.spawned := by
  obtain ⟨-, hid, hlt⟩ := hi.task_wf tid t ht
  rw [hi.spawned_eq, hid]
  exact List.mem_map.mpr ⟨t.serial, List.mem_range.mpr hlt, rfl⟩

/-- Pushing a spawned id keeps the invariant. -/
theorem Inv.push (hi : Inv s) (hid : tid ∈ s.spawned) (hq : s.executor.taskQueue.push tid = .ok q) :
    Inv { s with executor := { s.executor with taskQueue := q } } :=
  { hi with
    queue_spawned := by
      intro tid' h'
      rw [show q.items = _ from ArrayQueue.items_of_push hq] at h'
      rcases List.mem_append.mp h' with h' | h'
      · exact hi.queue_spawned tid' h'
      · rw [List.mem_singleton.mp h']
        exact hid }

theorem Inv.pushTaskId (hi : Inv s) (hid : tid ∈ s.spawned)
    (h : (pushTaskId msg tid : Prog ε (ExecutorState A) Unit) s = .ok () s') : Inv s' := by
  obtain ⟨q, hq, rfl⟩ := pushTaskId_eq_ok h
  exact hi.push hid hq

theorem Inv.wakeNth {i : Nat} (hi : Inv s) (h : (wakeNth i : Prog ε (ExecutorState A) Unit) s = .ok () s') :
    Inv s' := by
  cases hw : s.wakers[i]? with
  | none =>
    rw [wakeNth_of_none hw] at h
    obtain rfl := (Outcome.ok.inj h).2
    exact hi
  | some w =>
    rw [wakeNth_of_some hw] at h
    exact hi.pushTaskId (hi.wakers_spawned w (List.mem_of_getElem? hw)) h

theorem Inv.wakeAll {is : List Nat} (hi : Inv s)
    (h : (wakeAll is : Prog ε (ExecutorState A) Unit) s = .ok () s') : Inv s' :=
  wakeAll_keeps Inv (fun _ _ _ hi h => hi.wakeNth h) hi h

/-- The task of the next call of `Task::new`, put under its id. -/
theorem Inv.insert (hi : Inv s) :
    Inv { s with
      nextId := s.nextId + 1
      created := s.created + 1
      executor := { s.executor with
        tasks := Function.update s.executor.tasks ⟨s.nextId⟩ (some ⟨⟨s.nextId⟩, s.created⟩) }
      spawned := s.spawned ++ [⟨s.nextId⟩] } := by
  have hnext : (⟨s.nextId⟩ : TaskId) = .nth s.created := by rw [hi.nextId_eq]; rfl
  refine ⟨?_, ?_, ?_, ?_, ?_, hi.history_ready, ?_, ?_, ?_⟩
  · show s.nextId + 1 = UInt64.ofNat (s.created + 1)
    rw [hi.nextId_eq, UInt64.ofNat_add]
    rfl
  · show s.spawned ++ [⟨s.nextId⟩] = (List.range (s.created + 1)).map TaskId.nth
    rw [hi.spawned_eq, hnext, List.range_succ, List.map_append, List.map_singleton]
  · intro tid t' ht
    by_cases he : tid = ⟨s.nextId⟩
    · subst he
      obtain rfl : ⟨⟨s.nextId⟩, s.created⟩ = t' :=
        Option.some.inj (by simpa only [Function.update_self] using ht)
      exact ⟨rfl, hnext, Nat.lt_add_one _⟩
    · obtain ⟨h₁, h₂, h₃⟩ := hi.task_wf tid t' (by simpa only [Function.update_of_ne he] using ht)
      exact ⟨h₁, h₂, Nat.lt_add_one_of_lt h₃⟩
  · intro tid t' ht r hr hready
    by_cases he : tid = ⟨s.nextId⟩
    · subst he
      obtain rfl : ⟨⟨s.nextId⟩, s.created⟩ = t' :=
        Option.some.inj (by simpa only [Function.update_self] using ht)
      -- the new serial is above every serial polled so far
      exact Nat.ne_of_lt (hi.history_lt r hr)
    · exact hi.task_pending tid t' (by simpa only [Function.update_of_ne he] using ht) r hr hready
  · intro r hr
    exact Nat.lt_add_one_of_lt (hi.history_lt r hr)
  · intro tid hc
    by_cases he : tid = ⟨s.nextId⟩
    · subst he
      simp only [Function.update_self, Option.isSome_some]
    · simpa only [Function.update_of_ne he] using hi.cache_sub tid hc
  · intro tid h
    exact List.mem_append_left _ (hi.queue_spawned tid h)
  · intro w hw
    exact List.mem_append_left _ (hi.wakers_spawned w hw)

theorem Inv.spawnStep (hi : Inv s) (h : executorStep .spawn s = .ok () s') : Inv s' := by
  cases hold : s.executor.tasks ⟨s.nextId⟩ with
  | some t =>
    rw [spawnStep_of_taken (by simp only [hold, Option.isSome_some])] at h
    cases h
  | none =>
    rw [spawnStep_of_free hold] at h
    -- the id is pushed once the task is in
    refine hi.insert.pushTaskId ?_ h
    exact List.mem_append_right _ (List.mem_singleton_self _)

theorem Inv.pop (hi : Inv s) (hpop : s.executor.taskQueue.pop = some (tid, q)) :
    Inv { s with executor := { s.executor with taskQueue := q } } :=
  { hi with
    queue_spawned := fun tid' h' =>
      hi.queue_spawned tid' (by rw [ArrayQueue.items_of_pop hpop]; exact List.mem_cons_of_mem _ h') }

theorem Inv.cacheWaker (hi : Inv s) (ht : s.executor.tasks tid = some t)
    (h : (cacheWaker tid : Prog ε (ExecutorState A) Unit) s = .ok () s') : Inv s' := by
  cases hc : s.executor.wakerCache tid with
  | some w =>
    rw [cacheWaker_of_some hc] at h
    obtain rfl := (Outcome.ok.inj h).2
    exact hi
  | none =>
    rw [cacheWaker_of_none hc] at h
    obtain rfl := (Outcome.ok.inj h).2
    refine { hi with cache_sub := ?_, wakers_spawned := ?_ }
    · intro tid' hc'
      by_cases he : tid' = tid
      · subst he
        simp only [ht, Option.isSome_some]
      · exact hi.cache_sub tid' (by simpa only [Function.update_of_ne he] using hc')
    · intro w hw
      rcases List.mem_append.mp hw with hw | hw
      · exact hi.wakers_spawned w hw
      · rw [List.mem_singleton.mp hw]
        exact hi.mem_spawned_of_task ht

theorem Inv.removeTask (hi : Inv s) :
    Inv { s with
      executor := { s.executor with
        tasks := Function.update s.executor.tasks tid none
        wakerCache := Function.update s.executor.wakerCache tid none } } := by
  refine { hi with task_wf := ?_, task_pending := ?_, cache_sub := ?_ }
  · intro tid' t' ht
    by_cases he : tid' = tid
    · subst he
      simp only [Function.update_self, reduceCtorEq] at ht
    · exact hi.task_wf tid' t' (by simpa only [Function.update_of_ne he] using ht)
  · intro tid' t' ht
    by_cases he : tid' = tid
    · subst he
      simp only [Function.update_self, reduceCtorEq] at ht
    · exact hi.task_pending tid' t' (by simpa only [Function.update_of_ne he] using ht)
  · intro tid' hc
    by_cases he : tid' = tid
    · subst he
      simp only [Function.update_self, Option.isSome_none, Bool.false_eq_true] at hc
    · simpa only [Function.update_of_ne he] using hi.cache_sub tid' (by
        simpa only [Function.update_of_ne he] using hc)

/-- Recording a poll of `t` keeps the invariant when `t` was built, has not
returned `Ready` before, and, if it returns `Ready` now, is out of `tasks`. -/
theorem Inv.recordPoll {ready : Bool} (hi : Inv s) (hlt : t.serial < s.created)
    (hfresh : ∀ r ∈ s.history, r.ready = true → r.serial ≠ t.serial)
    (hdone : ready = true → ∀ tid t', s.executor.tasks tid = some t' → t'.serial ≠ t.serial) :
    Inv { s with history := s.history ++ [⟨t.serial, ready⟩] } := by
  refine { hi with task_pending := ?_, history_lt := ?_, history_ready := ?_ }
  · intro tid t' ht r hr hready
    rcases List.mem_append.mp hr with hr | hr
    · exact hi.task_pending tid t' ht r hr hready
    · obtain rfl := List.mem_singleton.mp hr
      exact Ne.symm (hdone hready tid t' ht)
  · intro r hr
    rcases List.mem_append.mp hr with hr | hr
    · exact hi.history_lt r hr
    · rw [List.mem_singleton.mp hr]
      exact hlt
  · refine List.pairwise_append.mpr ⟨hi.history_ready, List.pairwise_singleton _ _, ?_⟩
    intro r hr r' hr' hready
    rw [List.mem_singleton.mp hr']
    exact Ne.symm (hfresh r hr hready)

/-- **Polling a task keeps the invariant.** A `Ready` poll removes the task
before it is recorded, and no other task has its serial, since the serial
fixes the id. -/
theorem Inv.pollTask {wakes : List Nat} {ready : Bool} (hi : Inv s)
    (ht : s.executor.tasks tid = some t)
    (h : (pollTask tid t wakes ready : Prog ε (ExecutorState A) Unit) s = .ok () s') : Inv s' := by
  obtain ⟨_, s₁, hc, h⟩ := bind_eq_ok h
  obtain ⟨_, s₂, hw, h⟩ := bind_eq_ok h
  have hi₂ := (hi.cacheWaker ht hc).wakeAll hw
  have hs₂ : SameTasks s s₂ := (sameTasks_cacheWaker hc).trans (sameTasks_wakeAll hw)
  obtain ⟨-, hid, hlt⟩ := hi.task_wf tid t ht
  have hfresh := hi.task_pending tid t ht
  cases ready with
  | false =>
    have h' : (ExecutorState.recordPoll t false : Prog ε (ExecutorState A) Unit) s₂ = .ok () s' := by
      simpa only [Bool.false_eq_true, if_false] using h
    obtain rfl := (Outcome.ok.inj h').2
    refine hi₂.recordPoll (hs₂.created ▸ hlt) (hs₂.history ▸ hfresh) ?_
    intro h
    cases h
  | true =>
    have h' : (ExecutorState.removeTask tid >>= fun _ => ExecutorState.recordPoll t true : Prog ε (ExecutorState A) Unit) s₂ =
        .ok () s' := by
      simpa only [if_true] using h
    obtain ⟨_, s₃, hr, h'⟩ := bind_eq_ok h'
    obtain rfl := (Outcome.ok.inj hr).2
    obtain rfl := (Outcome.ok.inj h').2
    refine hi₂.removeTask.recordPoll (hs₂.created ▸ hlt) (hs₂.history ▸ hfresh) ?_
    intro _ tid' t' ht' hserial
    -- a task left in `tasks` sits under another id, so has another serial
    have hne : tid' ≠ tid := by
      rintro rfl
      simp only [Function.update_self, reduceCtorEq] at ht'
    have ht's : s.executor.tasks tid' = some t' := by
      rw [← hs₂.tasks]
      simpa only [Function.update_of_ne hne] using ht'
    obtain ⟨-, hid', -⟩ := hi.task_wf tid' t' ht's
    exact hne (by rw [hid', hid, hserial])

theorem Inv.runReadyTask {wakes : List Nat} {ready : Bool} (hi : Inv s)
    (h : (runReadyTask wakes ready : Prog ε (ExecutorState A) Unit) s = .ok () s') : Inv s' := by
  cases hpop : s.executor.taskQueue.pop with
  | none =>
    rw [runReadyTask_of_empty hpop] at h
    obtain rfl := (Outcome.ok.inj h).2
    exact hi
  | some p =>
    obtain ⟨tid, q⟩ := p
    have hi₁ := hi.pop hpop
    cases ht : s.executor.tasks tid with
    | none =>
      rw [runReadyTask_of_done hpop ht] at h
      obtain rfl := (Outcome.ok.inj h).2
      exact hi₁
    | some t =>
      rw [runReadyTask_of_found hpop ht] at h
      exact hi₁.pollTask ht h

theorem Inv.step (hi : Inv s) {e : ExecutorEvent} (h : executorStep e s = .ok () s') : Inv s' := by
  cases e with
  | spawn => exact hi.spawnStep h
  | wake i => exact hi.wakeNth h
  | runReadyTask wakes ready => exact hi.runReadyTask h

theorem inv_reachable (h : Prog.Reachable executorStep init s) : Inv s :=
  Prog.Reachable.induction Inv inv_init (fun _ _ _ _ hi hstep => hi.step hstep) h

/-! ## Distinct ids below the wrap -/

theorem Inv.spawned_nodup (hi : Inv s) (hc : s.created ≤ 2 ^ 64) : s.spawned.Nodup := by
  rw [hi.spawned_eq]
  refine List.Nodup.map_on ?_ List.nodup_range
  intro a ha b hb h
  exact TaskId.nth_inj (Nat.lt_of_lt_of_le (List.mem_range.mp ha) hc)
    (Nat.lt_of_lt_of_le (List.mem_range.mp hb) hc) h

/-- Below `2 ^ 64` calls, the id the next `Task::new` hands out is free. -/
theorem Inv.nextId_free (hi : Inv s) (hc : s.created < 2 ^ 64) :
    s.executor.tasks ⟨s.nextId⟩ = none := by
  cases ht : s.executor.tasks ⟨s.nextId⟩ with
  | none => rfl
  | some t =>
    obtain ⟨-, hid, hlt⟩ := hi.task_wf _ t ht
    have hid' : TaskId.nth s.created = .nth t.serial := by rw [← hid, hi.nextId_eq]; rfl
    have := TaskId.nth_inj hc (Nat.lt_trans hlt hc) hid'
    omega

/-- Below `2 ^ 64` calls, a spawn returns, or panics on a full queue. -/
theorem Inv.spawn_outcome (hi : Inv s) (hc : s.created < 2 ^ 64) :
    (∃ s', executorStep .spawn s = .ok () s') ∨
      executorStep .spawn s = .panic ("queue full" ++ ": " ++ TaskId.debug ⟨s.nextId⟩) := by
  rw [spawnStep_of_free (hi.nextId_free hc)]
  generalize hs₁ : ({ s with
    nextId := s.nextId + 1
    created := s.created + 1
    executor := { s.executor with
      tasks := Function.update s.executor.tasks ⟨s.nextId⟩ (some ⟨⟨s.nextId⟩, s.created⟩) }
    spawned := s.spawned ++ [⟨s.nextId⟩] } : ExecutorState A) = s₁
  cases hq : s₁.executor.taskQueue.push ⟨s.nextId⟩ with
  | ok q => exact .inl ⟨_, pushTaskId_of_push hq⟩
  | error a => exact .inr (pushTaskId_of_full hq)

/-- **The executor keeps its bookkeeping straight**, over every interleaving
of spawns, wakes of any waker made, and rounds of `run_ready_tasks`: no task is
polled after a poll of it returned `Ready`; every key of `waker_cache` is a key
of `tasks`; every queued id was spawned; the ids of the first `2 ^ 64` spawns
are distinct; and before `2 ^ 64` calls of `Task::new` a spawn does not panic
on a duplicate id. -/
theorem executor_safe (h : Prog.Reachable executorStep init s) :
    s.history.Pairwise (fun r r' => r.ready = true → r'.serial ≠ r.serial) ∧
      (∀ tid, (s.executor.wakerCache tid).isSome → (s.executor.tasks tid).isSome) ∧
      (∀ tid ∈ s.executor.taskQueue.items, tid ∈ s.spawned) ∧
      (s.created ≤ 2 ^ 64 → s.spawned.Nodup) ∧
      (s.created < 2 ^ 64 →
        executorStep .spawn s ≠ .panic "task with same ID already in tasks") := by
  have hi := inv_reachable h
  refine ⟨hi.history_ready, hi.cache_sub, hi.queue_spawned, hi.spawned_nodup, fun hc hdup => ?_⟩
  rcases hi.spawn_outcome hc with ⟨s', hok⟩ | hfull
  · rw [hok] at hdup
    cases hdup
  · rw [hfull] at hdup
    -- the queue-full message is not the duplicate-id one
    have hchars := congrArg String.toList (Outcome.panic.inj hdup)
    simp at hchars

/-! ## After `2 ^ 64` spawns -/

/-- After `n ≥ 1` rounds, each a spawn and one poll of the new task: task 0
returned `Pending` and stays, every later one returned `Ready` and is gone. -/
def wrapState (n : Nat) : ExecutorState (ArrayQueue.boundedList TaskId) where
  nextId := UInt64.ofNat n
  executor :=
    ⟨Function.update (fun _ => none) (.nth 0) (some ⟨.nth 0, 0⟩),
      (ArrayQueue.boundedList TaskId).new taskQueueCapacity,
      Function.update (fun _ => none) (.nth 0) (some ⟨.nth 0⟩)⟩
  created := n
  wakers := (List.range n).map fun k => ⟨.nth k⟩
  history := (List.range n).map fun k => ⟨k, k != 0⟩
  spawned := (List.range n).map TaskId.nth

theorem wrapState_tasks_of_ne {n : Nat} {tid : TaskId} (h : tid ≠ .nth 0) :
    (wrapState n).executor.tasks tid = none :=
  Function.update_of_ne h _ (fun _ => none)

theorem wrapState_wakerCache_of_ne {n : Nat} {tid : TaskId} (h : tid ≠ .nth 0) :
    (wrapState n).executor.wakerCache tid = none :=
  Function.update_of_ne h _ (fun _ => none)

theorem wrapState_tasks_zero {n : Nat} :
    (wrapState n).executor.tasks (.nth 0) = some ⟨.nth 0, 0⟩ := by
  unfold wrapState
  exact Function.update_self (TaskId.nth 0) _ (fun _ => none)

theorem reachable_wrapState_one : Prog.Reachable executorStep init (wrapState 1) := by
  obtain ⟨s₁, h₁⟩ : ∃ s₁, executorStep .spawn (init : ExecutorState (ArrayQueue.boundedList TaskId)) = .ok () s₁ :=
    ⟨_, rfl⟩
  have h₂ : executorStep (.runReadyTask [] false) s₁ = .ok () (wrapState 1) := by
    rw [← (Outcome.ok.inj h₁).2]
    rfl
  exact .step _ (.step _ .init h₁) h₂

/-- One more round: task `k` is spawned, polled, and returns `Ready`. -/
theorem wrapState_round {k : Nat} (hk : 0 < k) (hk' : k < 2 ^ 64) :
    ∃ s₁, executorStep .spawn (wrapState k) = .ok () s₁ ∧
      executorStep (.runReadyTask [] true) s₁ = .ok () (wrapState (k + 1)) := by
  have hne : TaskId.nth k ≠ .nth 0 := fun h => Nat.ne_of_gt hk (TaskId.nth_inj hk' (Nat.two_pow_pos 64) h)
  refine ⟨{ wrapState k with
      nextId := UInt64.ofNat k + 1
      created := k + 1
      executor := ⟨Function.update (wrapState k).executor.tasks (.nth k) (some ⟨.nth k, k⟩),
        ⟨taskQueueCapacity, [.nth k], by rw [List.length_singleton]; decide⟩,
        (wrapState k).executor.wakerCache⟩
      spawned := (wrapState k).spawned ++ [.nth k] }, ?_, ?_⟩
  · rw [spawnStep_of_free (wrapState_tasks_of_ne hne)]
    exact pushTaskId_of_push rfl
  · rw [executorStep, runReadyTask_of_found rfl (Function.update_self _ _ _), pollTask, bind_apply,
      cacheWaker_of_none, Outcome.bind_ok]
    rotate_left
    · exact wrapState_wakerCache_of_ne (n := k) hne
    simp only [wakeAll, if_true, bind_apply, pure_apply, Outcome.bind_ok, removeTask, recordPoll,
      modify_apply]
    congr 1
    simp only [wrapState, ExecutorState.mk.injEq]
    refine ⟨(UInt64.ofNat_add k 1).symm, ?_, trivial, ?_, ?_, ?_⟩
    · congr 1
      · rw [Function.update_idem, Function.update_eq_self_iff]
        exact (wrapState_tasks_of_ne (n := k) hne).symm
      · rw [Function.update_idem, Function.update_eq_self_iff]
        exact (wrapState_wakerCache_of_ne (n := k) hne).symm
    · rw [List.range_succ, List.map_append, List.map_singleton]
    · rw [List.range_succ, List.map_append, List.map_singleton, bne_iff_ne.mpr (Nat.ne_of_gt hk)]
    · rw [List.range_succ, List.map_append, List.map_singleton]

theorem reachable_wrapState {n : Nat} (hn : 0 < n) (hn' : n ≤ 2 ^ 64) :
    Prog.Reachable executorStep init (wrapState n) := by
  induction n with
  | zero => exact absurd hn (Nat.lt_irrefl 0)
  | succ k ih =>
    rcases Nat.eq_zero_or_pos k with rfl | hk
    · exact reachable_wrapState_one
    · obtain ⟨s₁, h₁, h₂⟩ := wrapState_round hk (by omega)
      exact .step _ (.step _ (ih hk (by omega)) h₁) h₂

theorem executor_safe_wrapState :
    Prog.Reachable executorStep init (wrapState 2) ∧
      ((wrapState 2).history.Pairwise (fun r r' => r.ready = true → r'.serial ≠ r.serial) ∧
        (∀ tid, ((wrapState 2).executor.wakerCache tid).isSome →
          ((wrapState 2).executor.tasks tid).isSome) ∧
        (∀ tid ∈ (wrapState 2).executor.taskQueue.items, tid ∈ (wrapState 2).spawned) ∧
        ((wrapState 2).created ≤ 2 ^ 64 → (wrapState 2).spawned.Nodup) ∧
        ((wrapState 2).created < 2 ^ 64 →
          executorStep .spawn (wrapState 2) ≠ .panic "task with same ID already in tasks")) :=
  ⟨reachable_wrapState Nat.two_pos (by omega),
    executor_safe (reachable_wrapState Nat.two_pos (by omega))⟩

/-- **`NEXT_ID` wraps.** After `2 ^ 64` rounds in which task 0 stays pending,
`Task::new` hands out id 0 again, and `spawn` panics on it. -/
theorem spawn_duplicate_after_wrap :
    Prog.Reachable executorStep init (wrapState (2 ^ 64)) ∧ (wrapState (2 ^ 64)).created = 2 ^ 64 ∧
      executorStep .spawn (wrapState (2 ^ 64)) = .panic "task with same ID already in tasks" := by
  refine ⟨reachable_wrapState (Nat.two_pow_pos 64) le_rfl, rfl, ?_⟩
  have hzero : (⟨(wrapState (2 ^ 64)).nextId⟩ : TaskId) = .nth 0 := by decide
  apply spawnStep_of_taken
  rw [hzero, wrapState_tasks_zero]
  rfl

end ExecutorState

end BlogOs.Task
