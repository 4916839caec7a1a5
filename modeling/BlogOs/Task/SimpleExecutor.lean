import BlogOs.Lib.RoundRobin
import BlogOs.Task.Executor

/-!
# The simple executor (`src/task/simple_executor.rs`)

`SimpleExecutor` keeps its tasks in a `VecDeque`, front first. `spawn` pushes a
task at the back. `run` pops the front task and polls it with a waker whose
wakes do nothing; a task that returned `Pending` goes to the back, one that
returned `Ready` is dropped, and `run` returns once `pop_front` finds the
queue empty. A task's future is a state `φ`, and `poll : φ → Poll × φ` is its
`Future::poll`, which may change that state; since the waker does nothing, a
poll has no other effect. The state also holds, as ghost data, the ids of the
tasks that returned `Ready`, in that order.

`run` loops for as long as tasks are left, so it is modelled with a bound on
the tests of its loop (`run fuel`), whose result says whether the loop ended
within them. Each test is a turn of the round-robin service of
`Lib/RoundRobin` (`runOnce_embed`), so over every queue of tasks:

* when each task's future is ready at its `k`-th poll, `run` returns after
  exactly as many polls as the tasks need in all, and the tasks finish by the
  number of polls they need, ties in queue order (`run_completes`);
* a task whose future is ready at its `k`-th poll finishes within `k` times
  the queue's length in polls, whatever the other futures do (`run_fair`);
* one future that is never ready keeps `run` from ever returning
  (`run_diverges`).
-/

namespace BlogOs.Task

open Prog RoundRobin

/-- `Poll<()>`. -/
inductive Poll where
  | ready
  | pending
  deriving DecidableEq, Repr

/-- A `Task` as the simple executor holds it: its id and its future's state. -/
structure SimpleTask (φ : Type) where
  id : TaskId
  future : φ

/-- `SimpleExecutor`, with the ghost log of the ids of the tasks that finished. -/
structure SimpleExecutor (φ : Type) where
  taskQueue : List (SimpleTask φ)
  finished : List TaskId

namespace SimpleExecutor

variable {φ ε : Type} (poll : φ → Poll × φ)

/-- `SimpleExecutor::new()`. -/
def new : SimpleExecutor φ := ⟨[], []⟩

/-- `spawn(task)`: `push_back`. -/
def spawn (task : SimpleTask φ) : Prog ε (SimpleExecutor φ) Unit :=
  modify fun e => { e with taskQueue := e.taskQueue ++ [task] }

/-- `task.poll(&mut context)` with the dummy waker. -/
def pollTask (task : SimpleTask φ) : Poll × SimpleTask φ :=
  ((poll task.future).1, { task with future := (poll task.future).2 })

/-- One test of `while let Some(mut task) = self.task_queue.pop_front()` and
its body: `false` when the queue was empty and the loop ends. -/
def runOnce : Prog ε (SimpleExecutor φ) Bool := do
  let e ← get
  match e.taskQueue with
  | [] => pure false
  | task :: rest =>
    let (p, task) := pollTask poll task
    -- `Poll::Ready(())`: the task is done; `Poll::Pending`: back of the queue
    set (match p with
      | .ready => { e with taskQueue := rest, finished := e.finished ++ [task.id] }
      | .pending => { e with taskQueue := rest ++ [task] })
    pure true

/-- `run()`, given room for `fuel` tests of its loop: `true` when the loop
ended within them. -/
def run : Nat → Prog ε (SimpleExecutor φ) Bool
  | 0 => pure false
  | fuel + 1 => do
    if ← runOnce poll then run fuel else pure true

/-! ## The loop is round-robin service -/

/-- A future's poll as the round-robin library sees it: `none` once `Ready`. -/
def futurePoll (f : φ) : Option φ :=
  match poll f with
  | (.ready, _) => none
  | (.pending, f') => some f'

/-- A task's poll as the round-robin library sees it. -/
def taskPoll (t : SimpleTask φ) : Option (SimpleTask φ) :=
  (futurePoll poll t.future).map fun f => { t with future := f }

/-- The executor holding a round-robin state; `fin` are the ids finished before. -/
def embed (fin : List TaskId) (s : State (SimpleTask φ)) : SimpleExecutor φ :=
  ⟨s.queue, fin ++ s.log.map SimpleTask.id⟩

theorem embed_init (fin : List TaskId) (q : List (SimpleTask φ)) : embed fin ⟨q, []⟩ = ⟨q, fin⟩ := by
  rw [embed, List.map_nil, List.append_nil]

theorem id_taskPoll {t t' : SimpleTask φ} (h : taskPoll poll t = some t') : t'.id = t.id := by
  rw [taskPoll, Option.map_eq_some_iff] at h
  obtain ⟨f, -, rfl⟩ := h
  rfl

/-- **One test of the loop is one turn.** -/
theorem runOnce_embed (fin : List TaskId) (s : State (SimpleTask φ)) :
    (runOnce poll : Prog ε (SimpleExecutor φ) Bool) (embed fin s) =
      .ok (!s.queue.isEmpty) (embed fin (turn (taskPoll poll) s)) := by
  obtain ⟨queue, log⟩ := s
  cases queue with
  | nil => rfl
  | cons task rest =>
    simp only [runOnce, embed, bind_apply, get_apply, Outcome.bind_ok, set_apply, pure_apply]
    cases hp : poll task.future with
    | mk p f =>
      cases p with
      | ready =>
        have hpoll : taskPoll poll task = none := by
          rw [taskPoll, futurePoll, hp]
          rfl
        rw [turn_cons_done _ hpoll, List.map_append, List.map_singleton, ← List.append_assoc]
        simp only [pollTask, hp]
        rfl
      | pending =>
        have hpoll : taskPoll poll task = some { task with future := f } := by
          rw [taskPoll, futurePoll, hp]
          rfl
        rw [turn_cons_pending _ hpoll]
        simp only [pollTask, hp]
        rfl

/-- `run` from an embedded state: the state after `fuel` turns, and whether
the queue was empty by the last test. -/
theorem run_embed (fin : List TaskId) (fuel : Nat) (s : State (SimpleTask φ)) :
    (run poll fuel : Prog ε (SimpleExecutor φ) Bool) (embed fin s) =
      .ok (decide (0 < fuel ∧ (turns (taskPoll poll) (fuel - 1) s).queue = []))
        (embed fin (turns (taskPoll poll) fuel s)) := by
  induction fuel generalizing s with
  | zero => rfl
  | succ fuel ih =>
    obtain ⟨queue, log⟩ := s
    rw [run, bind_apply, runOnce_embed, Outcome.bind_ok]
    cases queue with
    | nil =>
      -- the loop ends at this test, and later turns change nothing
      simp [turns_nil]
    | cons task rest =>
      simp only [List.isEmpty_cons, Bool.not_false, if_true]
      rw [ih]
      congr 1
      cases fuel with
      | zero => simp [turns]
      | succ fuel =>
        simp only [Nat.succ_pos, true_and, Nat.add_sub_cancel]
        rfl

/-! ## Futures and tasks -/

variable {poll}

theorem readyIn_taskPoll {f : φ} {k : Nat} (h : ReadyIn (futurePoll poll) f k) :
    ∀ tid : TaskId, ReadyIn (taskPoll poll) ⟨tid, f⟩ k := by
  induction h with
  | now hf =>
    intro tid
    exact ReadyIn.now (by rw [taskPoll, hf, Option.map_none])
  | later hf _ ih =>
    intro tid
    exact ReadyIn.later (by rw [taskPoll, hf, Option.map_some]) (ih tid)

theorem never_taskPoll {t : SimpleTask φ} (h : Never (futurePoll poll) t.future) :
    Never (taskPoll poll) t := by
  intro k hk
  -- a task done at its `k`-th poll has its future ready at that poll
  have hfut : ∀ {t : SimpleTask φ} {k}, ReadyIn (taskPoll poll) t k → ReadyIn (futurePoll poll) t.future k := by
    intro t k hk
    induction hk with
    | now ht =>
      rw [taskPoll, Option.map_eq_none_iff] at ht
      exact ReadyIn.now ht
    | later ht _ ih =>
      rw [taskPoll, Option.map_eq_some_iff] at ht
      obtain ⟨f, hf, rfl⟩ := ht
      exact ReadyIn.later hf ih
  exact h k (hfut hk)

/-! ## A future that counts down -/

/-- A future with `n` polls to go, ready at the `n`-th; from `0` it never is. -/
def countdown (n : Nat) : Poll × Nat := if n = 1 then (.ready, 0) else (.pending, n - 1)

theorem readyIn_countdown : ∀ n, 0 < n → ReadyIn (futurePoll countdown) n n
  | 1, _ => ReadyIn.now rfl
  | n + 2, _ => ReadyIn.later rfl (readyIn_countdown (n + 1) (Nat.succ_pos n))

theorem never_countdown : Never (futurePoll countdown) 0 := by
  -- no future that is ever ready counts down from `0`
  have hne : ∀ {f k}, ReadyIn (futurePoll countdown) f k → f ≠ 0 := by
    intro f k hk
    induction hk with
    | now hf =>
      rintro rfl
      exact absurd hf (by decide)
    | @later f f' k hf _ ih =>
      rintro rfl
      have hf' : f' = 0 := (Option.some.inj hf).symm
      exact ih hf'
  intro k hk
  exact hne hk rfl

/-- Two tasks, the first never ready and the second ready at its second poll. -/
def spinAndTwo : List (SimpleTask Nat) := [⟨⟨0⟩, 0⟩, ⟨⟨1⟩, 2⟩]

/-- Two tasks, ready at their second and first polls. -/
def twoAndOne : List (SimpleTask Nat) := [⟨⟨0⟩, 2⟩, ⟨⟨1⟩, 1⟩]

theorem readyIn_twoAndOne : ∀ t ∈ twoAndOne, ReadyIn (futurePoll countdown) t.future t.future := by
  intro t ht
  rcases List.mem_cons.mp ht with rfl | ht
  · exact readyIn_countdown 2 (by decide)
  · rw [List.mem_singleton.mp ht]
    exact readyIn_countdown 1 (by decide)

theorem future_le_twoAndOne : ∀ t ∈ twoAndOne, t.future ≤ 2 := by
  intro t ht
  rcases List.mem_cons.mp ht with rfl | ht
  · exact Nat.le_refl 2
  · rw [List.mem_singleton.mp ht]
    decide

/-! ## Whole runs -/

/-- **`run` returns once every task is done, after exactly the polls they
need, and the tasks finish in order of the polls they need.** When each task
`t` of the queue has its future ready at its `k t`-th poll, the loop has not
ended after `Σ k t` tests and has after one more, with the queue empty; the
ids logged are those of the tasks ready at their first poll, then at their
second, and so on up to any bound `K` of the counts, each group in queue
order. -/
theorem run_completes (q : List (SimpleTask φ)) (fin : List TaskId) {k : SimpleTask φ → Nat}
    (hk : ∀ t ∈ q, ReadyIn (futurePoll poll) t.future (k t)) {K : Nat} (hK : ∀ t ∈ q, k t ≤ K) :
    (∃ e, (run poll (q.map k).sum : Prog ε (SimpleExecutor φ) Bool) ⟨q, fin⟩ = .ok false e) ∧
      (run poll ((q.map k).sum + 1) : Prog ε (SimpleExecutor φ) Bool) ⟨q, fin⟩ =
        .ok true ⟨[], fin ++ (List.range K).flatMap fun r => (q.filter fun t => k t = r + 1).map SimpleTask.id⟩ := by
  have hk' : ∀ t ∈ q, ReadyIn (taskPoll poll) t (k t) := fun t ht => readyIn_taskPoll (hk t ht) t.id
  obtain ⟨hfinal, horder⟩ := log_total (fun t t' h => id_taskPoll poll h) hk' hK
  obtain ⟨-, hbefore⟩ := turns_total (needs_map hk') []
  rw [← embed_init fin q]
  refine ⟨⟨embed fin (turns (taskPoll poll) (q.map k).sum ⟨q, []⟩), ?_⟩, ?_⟩
  · rw [run_embed, decide_eq_false]
    -- the queue still holds a task at the last of those tests
    rintro ⟨hpos, hnil⟩
    exact hbefore _ (Nat.sub_lt hpos Nat.one_pos) hnil
  · rw [run_embed, Nat.add_sub_cancel, hfinal, decide_eq_true ⟨Nat.succ_pos _, rfl⟩,
      turns_add, hfinal, turns_nil, embed, horder]

theorem run_completes_twoAndOne :
    (∀ t ∈ twoAndOne, ReadyIn (futurePoll countdown) t.future t.future) ∧ (∀ t ∈ twoAndOne, t.future ≤ 2) ∧
      (∃ e, (run countdown (twoAndOne.map SimpleTask.future).sum : Prog Empty (SimpleExecutor Nat) Bool)
          ⟨twoAndOne, []⟩ = .ok false e) ∧
        (run countdown ((twoAndOne.map SimpleTask.future).sum + 1) : Prog Empty (SimpleExecutor Nat) Bool)
            ⟨twoAndOne, []⟩ =
          .ok true ⟨[], [] ++ (List.range 2).flatMap fun r =>
            (twoAndOne.filter fun t => t.future = r + 1).map SimpleTask.id⟩ :=
  ⟨readyIn_twoAndOne, future_le_twoAndOne,
    run_completes twoAndOne [] readyIn_twoAndOne future_le_twoAndOne⟩

/-- **No task starves.** A task of the queue whose future is ready at its
`k`-th poll has finished within `k` times the queue's length in tests of the
loop, whatever the other futures do. -/
theorem run_fair (q : List (SimpleTask φ)) (fin : List TaskId) {t : SimpleTask φ} (ht : t ∈ q) {k : Nat}
    (hk : ReadyIn (futurePoll poll) t.future k) :
    ∃ n ≤ k * q.length, ∃ b e, (run poll n : Prog ε (SimpleExecutor φ) Bool) ⟨q, fin⟩ = .ok b e ∧
      t.id ∈ e.finished := by
  obtain ⟨n, hn, hmem⟩ := logged_within (fun t t' h => id_taskPoll poll h) ht (readyIn_taskPoll hk t.id)
  rw [← embed_init fin q]
  refine ⟨n, hn, _, embed fin (turns (taskPoll poll) n ⟨q, []⟩), run_embed poll fin n _, ?_⟩
  exact List.mem_append_right fin hmem

theorem run_fair_spinAndTwo :
    (⟨⟨1⟩, 2⟩ : SimpleTask Nat) ∈ spinAndTwo ∧ ReadyIn (futurePoll countdown) 2 2 ∧
      ∃ n ≤ 2 * spinAndTwo.length, ∃ b e,
        (run countdown n : Prog Empty (SimpleExecutor Nat) Bool) ⟨spinAndTwo, []⟩ = .ok b e ∧
          (⟨1⟩ : TaskId) ∈ e.finished :=
  have ht : (⟨⟨1⟩, 2⟩ : SimpleTask Nat) ∈ spinAndTwo := List.mem_cons_of_mem _ List.mem_cons_self
  have hk : ReadyIn (futurePoll countdown) 2 2 := readyIn_countdown 2 (by decide)
  ⟨ht, hk, run_fair spinAndTwo [] ht hk⟩

/-- **One future that is never ready keeps `run` from returning**: however
many tests of its loop are allowed, the loop has not ended. -/
theorem run_diverges (q : List (SimpleTask φ)) (fin : List TaskId) {t : SimpleTask φ} (ht : t ∈ q)
    (hnever : Never (futurePoll poll) t.future) :
    ∀ fuel, ∃ e, (run poll fuel : Prog ε (SimpleExecutor φ) Bool) ⟨q, fin⟩ = .ok false e := by
  intro fuel
  rw [← embed_init fin q]
  refine ⟨embed fin (turns (taskPoll poll) fuel ⟨q, []⟩), ?_⟩
  rw [run_embed, decide_eq_false]
  rintro ⟨-, hnil⟩
  obtain ⟨t', ht', -⟩ := never_in_queue ht (never_taskPoll hnever) [] (fuel - 1)
  rw [hnil] at ht'
  exact List.not_mem_nil ht'

theorem run_diverges_spinAndTwo :
    (⟨⟨0⟩, 0⟩ : SimpleTask Nat) ∈ spinAndTwo ∧ Never (futurePoll countdown) 0 ∧
      ∀ fuel, ∃ e, (run countdown fuel : Prog Empty (SimpleExecutor Nat) Bool) ⟨spinAndTwo, []⟩ = .ok false e :=
  have ht : (⟨⟨0⟩, 0⟩ : SimpleTask Nat) ∈ spinAndTwo := List.mem_cons_self
  ⟨ht, never_countdown, run_diverges spinAndTwo [] ht never_countdown⟩

end SimpleExecutor

end BlogOs.Task
