import BlogOs.Task.Executor

/-!
# No starvation in `run_ready_tasks` (`src/task/executor.rs`)

`task_queue` is first in, first out, and every round of the loop of
`run_ready_tasks` pops one id. So an id at place `i` of the queue is popped
within `i + 1` rounds, whatever spawns, wakes and polls of other tasks come in
between: they only push at the back. When it is popped, the task under it is
still the one that was there, since a task leaves `tasks` only after a poll of
it, and a spawn under an id in use panics before it returns. So that task is
polled (`queued_task_polled`), whether the poll returns `Ready` or not, and
from any state of the executor, not only those reached from boot.

The wait is a variant for `Prog.runSteps_reaches`: `Waiting` says the task is
still under its id and the id is among the first `n + 1` of the queue; `Grows`
says that a step only pushed at the back of the queue and of the polls.
-/

namespace BlogOs.Task

open Prog

/-- Whether the step is a round of `run_ready_tasks`. -/
def ExecutorEvent.isRound : ExecutorEvent → Bool
  | .runReadyTask _ _ => true
  | _ => false

namespace ExecutorState

variable {ε : Type} {A : ArrayQueue TaskId} {s s' : ExecutorState A} {tid x : TaskId} {t u : Task}
  {msg : String} {wakes : List Nat} {ready : Bool} {h₀ : List PollRecord} {n : Nat}

/-- `s'` extends the queue and the polls of `s` at their ends, and has the
queue's capacity. -/
structure Grows (s s' : ExecutorState A) : Prop where
  queue : s.executor.taskQueue.items <+: s'.executor.taskQueue.items
  history : s.history <+: s'.history
  cap : s'.executor.taskQueue.cap = s.executor.taskQueue.cap

theorem Grows.refl (s : ExecutorState A) : Grows s s := ⟨List.prefix_refl _, List.prefix_refl _, rfl⟩

theorem Grows.trans {s₁ s₂ : ExecutorState A} (h₁ : Grows s s₁) (h₂ : Grows s₁ s₂) : Grows s s₂ :=
  ⟨h₁.queue.trans h₂.queue, h₁.history.trans h₂.history, h₂.cap.trans h₁.cap⟩

/-! ## What pushes, spawns and polls keep -/

theorem grows_pushTaskId (h : (pushTaskId msg x : Prog ε (ExecutorState A) Unit) s = .ok () s') :
    Grows s s' := by
  obtain ⟨q, hq, rfl⟩ := pushTaskId_eq_ok h
  refine ⟨?_, List.prefix_refl _, ArrayQueue.cap_of_push hq⟩
  rw [ArrayQueue.items_of_push hq]
  exact List.prefix_append _ _

theorem grows_wakeNth {i : Nat} (h : (wakeNth i : Prog ε (ExecutorState A) Unit) s = .ok () s') :
    Grows s s' := by
  cases hw : s.wakers[i]? with
  | none =>
    rw [wakeNth_of_none hw] at h
    obtain rfl := (Outcome.ok.inj h).2
    exact .refl s
  | some w =>
    rw [wakeNth_of_some hw] at h
    exact grows_pushTaskId h

theorem grows_wakeAll {is : List Nat} (h : (wakeAll is : Prog ε (ExecutorState A) Unit) s = .ok () s') :
    Grows s s' :=
  wakeAll_keeps (Grows s) (fun _ _ _ h₁ h => h₁.trans (grows_wakeNth h)) (.refl s) h

theorem grows_cacheWaker (h : (cacheWaker x : Prog ε (ExecutorState A) Unit) s = .ok () s') :
    Grows s s' := by
  cases hc : s.executor.wakerCache x with
  | some w =>
    rw [cacheWaker_of_some hc] at h
    obtain rfl := (Outcome.ok.inj h).2
    exact .refl s
  | none =>
    rw [cacheWaker_of_none hc] at h
    obtain rfl := (Outcome.ok.inj h).2
    exact ⟨List.prefix_refl _, List.prefix_refl _, rfl⟩

/-- **A spawn that returns** put its task under a free id, changed no other
entry of `tasks`, and pushed at the back of the queue. -/
theorem spawnStep_eq_ok (h : executorStep .spawn s = .ok () s') :
    s.executor.tasks ⟨s.nextId⟩ = none ∧
      (∀ tid, tid ≠ ⟨s.nextId⟩ → s'.executor.tasks tid = s.executor.tasks tid) ∧ Grows s s' := by
  cases hold : s.executor.tasks ⟨s.nextId⟩ with
  | some _ =>
    rw [spawnStep_of_taken (by rw [hold]; rfl)] at h
    cases h
  | none =>
    rw [spawnStep_of_free hold] at h
    -- the state before the push has the queue and the polls of `s`
    have hg := grows_pushTaskId h
    refine ⟨rfl, fun tid hne => ?_, ⟨hg.queue, hg.history, hg.cap⟩⟩
    rw [(sameTasks_pushTaskId h).tasks]
    exact Function.update_of_ne hne _ _

/-- A spawn or a wake that returns leaves alone an id that holds a task, and
only pushes at the back of the queue. -/
theorem executorStep_of_not_round {a : ExecutorEvent} (hc : a.isRound = false)
    (ht : (s.executor.tasks tid).isSome) (h : executorStep a s = .ok () s') :
    s'.executor.tasks tid = s.executor.tasks tid ∧ Grows s s' := by
  cases a with
  | spawn =>
    obtain ⟨hfree, htasks, hg⟩ := spawnStep_eq_ok h
    -- the new task went in under a free id, so not under `tid`
    have hne : tid ≠ ⟨s.nextId⟩ := by
      rintro rfl
      rw [hfree] at ht
      cases ht
    exact ⟨htasks tid hne, hg⟩
  | wake i => exact ⟨by rw [(sameTasks_wakeNth h).tasks], grows_wakeNth h⟩
  | runReadyTask wakes ready => cases hc

/-- **A poll of the task under `x`**: its waker and its wakes only push, a
`Ready` poll takes the task out, and the poll is recorded last. -/
theorem pollTask_eq_ok (h : (pollTask x u wakes ready : Prog ε (ExecutorState A) Unit) s = .ok () s') :
    (∀ tid, tid ≠ x → s'.executor.tasks tid = s.executor.tasks tid) ∧
      s'.history = s.history ++ [⟨u.serial, ready⟩] ∧
      s.executor.taskQueue.items <+: s'.executor.taskQueue.items ∧
      s'.executor.taskQueue.cap = s.executor.taskQueue.cap := by
  obtain ⟨_, s₁, hc, h⟩ := bind_eq_ok h
  obtain ⟨_, s₂, hw, h⟩ := bind_eq_ok h
  have hsame : SameTasks s s₂ := (sameTasks_cacheWaker hc).trans (sameTasks_wakeAll hw)
  have hgrow : Grows s s₂ := (grows_cacheWaker hc).trans (grows_wakeAll hw)
  cases ready with
  | false =>
    have h' : (ExecutorState.recordPoll u false : Prog ε (ExecutorState A) Unit) s₂ = .ok () s' := by
      simpa only [Bool.false_eq_true, if_false] using h
    obtain rfl := (Outcome.ok.inj h').2
    exact ⟨fun tid _ => by rw [← hsame.tasks], by rw [← hsame.history], hgrow.queue, hgrow.cap⟩
  | true =>
    have h' : (ExecutorState.removeTask x >>= fun _ => ExecutorState.recordPoll u true :
        Prog ε (ExecutorState A) Unit) s₂ = .ok () s' := by
      simpa only [if_true] using h
    obtain ⟨_, s₃, hr, h'⟩ := bind_eq_ok h'
    obtain rfl := (Outcome.ok.inj hr).2
    obtain rfl := (Outcome.ok.inj h').2
    refine ⟨fun tid hne => ?_, by rw [← hsame.history], hgrow.queue, hgrow.cap⟩
    rw [← hsame.tasks]
    exact Function.update_of_ne hne _ _

/-- **A round that returns** found the queue empty, or popped an id whose task
is done, or popped an id and polled the task under it. -/
theorem runReadyTask_eq_ok
    (h : (runReadyTask wakes ready : Prog ε (ExecutorState A) Unit) s = .ok () s') :
    (s.executor.taskQueue.pop = none ∧ s' = s) ∨
      ∃ x q, s.executor.taskQueue.pop = some (x, q) ∧
        ((s.executor.tasks x = none ∧ s' = { s with executor := { s.executor with taskQueue := q } }) ∨
          ∃ u, s.executor.tasks x = some u ∧
            (pollTask x u wakes ready : Prog ε (ExecutorState A) Unit)
              { s with executor := { s.executor with taskQueue := q } } = .ok () s') := by
  cases hpop : s.executor.taskQueue.pop with
  | none =>
    rw [runReadyTask_of_empty hpop] at h
    exact .inl ⟨rfl, (Outcome.ok.inj h).2.symm⟩
  | some p =>
    obtain ⟨x, q⟩ := p
    refine .inr ⟨x, q, rfl, ?_⟩
    cases hu : s.executor.tasks x with
    | none =>
      rw [runReadyTask_of_done hpop hu] at h
      exact .inl ⟨rfl, (Outcome.ok.inj h).2.symm⟩
    | some u =>
      rw [runReadyTask_of_found hpop hu] at h
      exact .inr ⟨u, rfl, h⟩

/-- **A round while `tid` is queued with the task `t` under it** polls `t`,
or pops an id ahead of `tid` and keeps the task and the rest of the queue. -/
theorem runReadyTask_of_queued (ht : s.executor.tasks tid = some t)
    (hq : tid ∈ s.executor.taskQueue.items)
    (h : (runReadyTask wakes ready : Prog ε (ExecutorState A) Unit) s = .ok () s') :
    s'.history = s.history ++ [⟨t.serial, ready⟩] ∨
      ∃ x rest, s.executor.taskQueue.items = x :: rest ∧ x ≠ tid ∧
        s'.executor.tasks tid = some t ∧ rest <+: s'.executor.taskQueue.items ∧
        s.history <+: s'.history := by
  rcases runReadyTask_eq_ok h with ⟨hpop, -⟩ | ⟨x, q, hpop, ⟨hu, rfl⟩ | ⟨u, hu, hpoll⟩⟩
  · rw [ArrayQueue.pop_eq_none_iff.mp hpop] at hq
    cases hq
  · -- the popped id has no task, so it is not `tid`
    have hx : x ≠ tid := by
      rintro rfl
      rw [ht] at hu
      cases hu
    exact .inr ⟨x, q.items, ArrayQueue.items_of_pop hpop, hx, ht, List.prefix_refl _,
      List.prefix_refl _⟩
  · obtain ⟨htasks, hhist, hqueue, -⟩ := pollTask_eq_ok hpoll
    by_cases hx : x = tid
    · -- `tid` is at the front: its task is polled
      subst hx
      rw [ht, Option.some.injEq] at hu
      subst hu
      exact .inl hhist
    · refine .inr ⟨x, q.items, ArrayQueue.items_of_pop hpop, hx,
        (htasks tid (Ne.symm hx)).trans ht, hqueue, ?_⟩
      rw [hhist]
      exact List.prefix_append _ _

/-- Every step that returns extends the polls. -/
theorem history_prefix_step {a : ExecutorEvent} (h : executorStep a s = .ok () s') :
    s.history <+: s'.history := by
  cases a with
  | spawn => exact (spawnStep_eq_ok h).2.2.history
  | wake i => exact (grows_wakeNth h).history
  | runReadyTask wakes ready =>
    rcases runReadyTask_eq_ok h with ⟨-, rfl⟩ | ⟨x, q, -, ⟨-, rfl⟩ | ⟨u, -, hpoll⟩⟩
    · exact List.prefix_refl _
    · exact List.prefix_refl _
    · rw [(pollTask_eq_ok hpoll).2.1]
      exact List.prefix_append _ _

/-! ## The wait -/

/-- The variant of the wait for the task `t` under `tid`: the polls extend
`h₀`, `t` is still under `tid`, and `tid` is among the first `n + 1` ids of the
queue. -/
def Waiting (h₀ : List PollRecord) (tid : TaskId) (t : Task) (s : ExecutorState A) (n : Nat) : Prop :=
  h₀ <+: s.history ∧ s.executor.tasks tid = some t ∧ tid ∈ s.executor.taskQueue.items.take (n + 1)

/-- The end of the wait: a poll of `t` after the polls `h₀`. -/
def Polled (h₀ : List PollRecord) (t : Task) (s : ExecutorState A) : Prop :=
  ∃ e, s.history = h₀ ++ e ∧ ∃ r ∈ e, r.serial = t.serial

theorem Polled.of_prefix (hp : Polled h₀ t s) (hs : s.history <+: s'.history) : Polled h₀ t s' := by
  obtain ⟨e, he, r, hr, hser⟩ := hp
  obtain ⟨d, hd⟩ := hs
  exact ⟨e ++ d, by rw [← hd, he, List.append_assoc], r, List.mem_append_left _ hr, hser⟩

theorem Waiting.of_grows (hw : Waiting h₀ tid t s n) (hg : Grows s s')
    (htask : s'.executor.tasks tid = s.executor.tasks tid) : Waiting h₀ tid t s' n :=
  ⟨hw.1.trans hg.history, htask.trans hw.2.1, (hg.queue.take (n + 1)).subset hw.2.2⟩

/-- A spawn or a wake does not lengthen the wait. -/
theorem Waiting.step_of_not_round {a : ExecutorEvent} (hc : a.isRound = false)
    (hw : Waiting h₀ tid t s n) (h : executorStep a s = .ok () s') : Waiting h₀ tid t s' n := by
  obtain ⟨htask, hg⟩ := executorStep_of_not_round hc (by rw [hw.2.1]; rfl) h
  exact hw.of_grows hg htask

/-- A round ends the wait or shortens it by one. -/
theorem Waiting.round {a : ExecutorEvent} (hc : a.isRound = true)
    (hw : Waiting h₀ tid t s n) (h : executorStep a s = .ok () s') :
    Polled h₀ t s' ∨ ∃ m, n = m + 1 ∧ Waiting h₀ tid t s' m := by
  cases a with
  | spawn => cases hc
  | wake i => cases hc
  | runReadyTask wakes ready =>
    obtain ⟨hpre, ht, hq⟩ := hw
    rcases runReadyTask_of_queued ht (List.take_subset _ _ hq) h with hhist | ⟨x, rest, hitems, hx, ht', hrest, hpre'⟩
    · left
      obtain ⟨d, hd⟩ := hpre
      exact ⟨d ++ [⟨t.serial, ready⟩], by rw [hhist, ← hd, List.append_assoc], _,
        List.mem_append_right _ (List.mem_singleton_self _), rfl⟩
    · right
      rw [hitems] at hq
      -- `tid` is behind `x`, so the bound was at least one
      cases n with
      | zero =>
        simp only [Nat.zero_add, List.take_succ_cons, List.take_zero, List.mem_singleton] at hq
        exact absurd hq.symm hx
      | succ m =>
        rw [List.take_succ_cons, List.mem_cons] at hq
        refine ⟨m, rfl, hpre.trans hpre', ht', ?_⟩
        exact (hrest.take (m + 1)).subset (hq.resolve_left (Ne.symm hx))

end ExecutorState

open ExecutorState in
/-- **No queued task starves.** From any state of the executor, a task whose
id is at place `i` of `task_queue` is polled in every run of spawns, wakes and
rounds of `run_ready_tasks` that returns and has more than `i` rounds, whatever
the other polled futures wake and return. -/
theorem queued_task_polled {A : ArrayQueue TaskId} {s s' : ExecutorState A} {tid : TaskId} {t : Task}
    {i : Nat}
    (ht : s.executor.tasks tid = some t) (hq : s.executor.taskQueue.items[i]? = some tid)
    {es : List ExecutorEvent} (hr : i < es.countP ExecutorEvent.isRound)
    (h : runSteps executorStep es s = .ok () s') :
    ∃ e, s'.history = s.history ++ e ∧ ∃ r ∈ e, r.serial = t.serial := by
  have hmem : tid ∈ s.executor.taskQueue.items.take (i + 1) := by
    apply List.mem_of_getElem?
    rw [List.getElem?_take_of_lt (Nat.lt_succ_self i)]
    exact hq
  have hw : Waiting s.history tid t s i := ⟨List.prefix_refl _, ht, hmem⟩
  exact runSteps_reaches executorStep ExecutorEvent.isRound (Polled s.history t)
    (Waiting s.history tid t)
    (fun _ _ _ hp hstep => hp.of_prefix (history_prefix_step hstep))
    (fun _ _ _ _ hc hw hstep => .inr (hw.step_of_not_round hc hstep))
    (fun _ _ _ _ hc hw hstep => hw.round hc hstep) es hw hr h

section Boot

variable {A : ArrayQueue TaskId}

open ExecutorState

/-- `kernel_main`'s two spawns, of `example_task` and then of
`print_keypresses` (`src/main.rs`). -/
def bootSpawns : List ExecutorEvent := [.spawn, .spawn]

/-- The executor after `kernel_main`'s two spawns, which return (`runSteps_bootSpawns`). -/
def twoSpawned : ExecutorState A :=
  match runSteps executorStep bootSpawns init with
  | .ok () s => s
  | _ => init

/-- The two spawns return, with tasks 0 and 1 in `tasks` and their ids queued
in spawn order. -/
theorem runSteps_bootSpawns : ∃ q : A.State, q.items = [.nth 0, .nth 1] ∧ q.cap = taskQueueCapacity ∧
    runSteps executorStep bootSpawns init = .ok () ⟨2,
      ⟨Function.update (Function.update (fun _ => none) (.nth 0) (some ⟨.nth 0, 0⟩)) (.nth 1)
        (some ⟨.nth 1, 1⟩), q, fun _ => none⟩, 2, [], [], [.nth 0, .nth 1]⟩ := by
  -- `example_task` under id 0, into the empty queue
  obtain ⟨q₁, hitems₁, hcap₁, h₁⟩ := spawnStep_of_room (s := (init : ExecutorState A)) rfl
    (by simp only [init, Executor.new, ArrayQueue.items_new, ArrayQueue.cap_new]; decide)
  -- `print_keypresses` under id 1, behind it
  obtain ⟨q₂, hitems₂, hcap₂, h₂⟩ := spawnStep_of_room
    (s := ⟨1, ⟨Function.update (fun _ => none) (.nth 0) (some ⟨.nth 0, 0⟩), q₁, fun _ => none⟩, 1,
      [], [], [.nth 0]⟩)
    (by
      show Function.update (fun _ => none) (TaskId.nth 0) (some ⟨.nth 0, 0⟩) ⟨1⟩ = none
      exact Function.update_of_ne (by decide) _ _)
    (by simp only [hitems₁, hcap₁, init, Executor.new, ArrayQueue.items_new, ArrayQueue.cap_new]; decide)
  refine ⟨q₂, ?_, by rw [hcap₂, hcap₁]; exact ArrayQueue.cap_new _, ?_⟩
  · rw [hitems₂, hitems₁]
    simp only [init, Executor.new, ArrayQueue.items_new, List.nil_append]
    rfl
  rw [bootSpawns, runSteps_cons_apply, h₁, Outcome.bind_ok, runSteps_cons_apply]
  erw [h₂]
  rfl

theorem twoSpawned_eq : ∃ q : A.State, q.items = [.nth 0, .nth 1] ∧ q.cap = taskQueueCapacity ∧
    (twoSpawned : ExecutorState A) = ⟨2,
      ⟨Function.update (Function.update (fun _ => none) (.nth 0) (some ⟨.nth 0, 0⟩)) (.nth 1)
        (some ⟨.nth 1, 1⟩), q, fun _ => none⟩, 2, [], [], [.nth 0, .nth 1]⟩ := by
  obtain ⟨q, hitems, hcap, hrun⟩ := runSteps_bootSpawns (A := A)
  exact ⟨q, hitems, hcap, by rw [twoSpawned, hrun]⟩

theorem runSteps_twoSpawned :
    runSteps executorStep bootSpawns init = .ok () (twoSpawned : ExecutorState A) := by
  obtain ⟨q, -, -, hrun⟩ := runSteps_bootSpawns (A := A)
  rw [twoSpawned, hrun]

@[simp] theorem twoSpawned_tasks_one : (twoSpawned : ExecutorState A).executor.tasks (.nth 1) = some ⟨.nth 1, 1⟩ := by
  obtain ⟨q, -, -, heq⟩ := twoSpawned_eq (A := A)
  rw [heq]
  simp only [Function.update_self]

@[simp] theorem twoSpawned_items : (twoSpawned : ExecutorState A).executor.taskQueue.items = [.nth 0, .nth 1] := by
  obtain ⟨q, hitems, -, heq⟩ := twoSpawned_eq (A := A)
  rw [heq]
  exact hitems

@[simp] theorem twoSpawned_cap : (twoSpawned : ExecutorState A).executor.taskQueue.cap = taskQueueCapacity := by
  obtain ⟨q, -, hcap, heq⟩ := twoSpawned_eq (A := A)
  rw [heq]
  exact hcap

end Boot

/-- A round that polls task 0, a wake of its waker, and a round. -/
def roundWakeRound : List ExecutorEvent := [.runReadyTask [] false, .wake 0, .runReadyTask [] true]

/-- The executor after `kernel_main`'s spawns, over the list-backed queue. -/
def listTwoSpawned : ExecutorState (ArrayQueue.boundedList TaskId) := twoSpawned

theorem queued_task_polled_twoSpawned :
    listTwoSpawned.executor.tasks (.nth 1) = some ⟨.nth 1, 1⟩ ∧
      listTwoSpawned.executor.taskQueue.items[1]? = some (.nth 1) ∧
      1 < roundWakeRound.countP ExecutorEvent.isRound ∧
      ∃ s', runSteps executorStep roundWakeRound listTwoSpawned = .ok () s' ∧
        ∃ e, s'.history = listTwoSpawned.history ++ e ∧ ∃ r ∈ e, r.serial = 1 := by
  have ht : listTwoSpawned.executor.tasks (.nth 1) = some ⟨.nth 1, 1⟩ := by
    rw [listTwoSpawned]
    exact twoSpawned_tasks_one
  have hq : listTwoSpawned.executor.taskQueue.items[1]? = some (.nth 1) := by
    rw [listTwoSpawned, twoSpawned_items]
    rfl
  have hr : 1 < roundWakeRound.countP ExecutorEvent.isRound := by decide
  obtain ⟨_, s', h, -⟩ := Outcome.exists_of_returns (p := fun _ _ => true)
    (o := runSteps executorStep roundWakeRound listTwoSpawned) (by decide +kernel)
  exact ⟨ht, hq, hr, s', h, queued_task_polled ht hq hr h⟩

end BlogOs.Task
