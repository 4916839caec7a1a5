import Mathlib

/-!
# Round-robin service of a FIFO queue of jobs

A queue of jobs is served one turn at a time: the front job is polled, and it
leaves the queue when it is done or goes to the back in its new state when it
is not. `poll : β → Option β` is one poll of a job: `none` when the job is
done, `some b'` when it is still pending, now in state `b'`. The jobs done so
far are logged in the order they were done, each as it was at its last poll.

Everything rests on one lemma about rounds: serving the jobs `q` at the front
of `q ++ r` leaves `r` followed by the jobs of `q` still pending, in their
order, and logs those of `q` that are done (`turns_prefix`). So after `i`
rounds the queue holds the jobs not done within `i` polls, each polled `i`
times (`turns_rounds`). From there:

* a job done at its `k`-th poll is logged within `k` rounds, so within `k`
  times the queue's length in turns, whatever the other jobs do
  (`logged_within`);
* when every job is done after finitely many polls, the queue is empty after
  exactly as many turns as polls are needed in all, and not before
  (`turns_total`), and the log lists the jobs done at their first poll, then
  those done at their second, and so on, each group in queue order
  (`log_total`);
* a job that no number of polls finishes keeps the queue from ever emptying
  (`never_in_queue`).
-/

namespace RoundRobin

variable {β ι : Type} (poll : β → Option β)

/-- The queue, front first, and the jobs done so far in the order they were done. -/
structure State (β : Type) where
  queue : List β
  log : List β

/-- One turn: the front job is polled, and leaves or goes to the back. -/
def turn (s : State β) : State β :=
  match s.queue with
  | [] => s
  | b :: rest =>
    match poll b with
    | none => ⟨rest, s.log ++ [b]⟩
    | some b' => ⟨rest ++ [b'], s.log⟩

/-- `n` turns. -/
def turns : Nat → State β → State β
  | 0, s => s
  | n + 1, s => turns n (turn poll s)

/-- The state of a job after `i` polls, `none` once it is done. -/
def advance : Nat → β → Option β
  | 0, b => some b
  | i + 1, b => (advance i b).bind poll

/-- The turns that the first `i` rounds from the queue `q` take: round `r`
serves the jobs still pending after `r` polls. -/
def roundTurns (q : List β) : Nat → Nat
  | 0 => 0
  | i + 1 => roundTurns q i + (q.filterMap (advance poll i)).length

/-- The jobs done in the first `i` rounds from `q`, each as at its last poll. -/
def doneBy (q : List β) (i : Nat) : List β :=
  (List.range i).flatMap fun r => (q.filterMap (advance poll r)).filter fun b => (poll b).isNone

/-- The job `b` is done at its `k`-th poll. -/
inductive ReadyIn : β → Nat → Prop
  | now {b : β} : poll b = none → ReadyIn b 1
  | later {b b' : β} {k : Nat} : poll b = some b' → ReadyIn b' k → ReadyIn b (k + 1)

/-- No number of polls finishes the job `b`. -/
def Never (b : β) : Prop := ∀ k, ¬ ReadyIn poll b k

/-! ## Turns -/

@[simp] theorem turn_nil (log : List β) : turn poll ⟨[], log⟩ = ⟨[], log⟩ := rfl

theorem turn_cons_done {b : β} {rest log : List β} (h : poll b = none) :
    turn poll ⟨b :: rest, log⟩ = ⟨rest, log ++ [b]⟩ := by
  simp only [turn, h]

theorem turn_cons_pending {b b' : β} {rest log : List β} (h : poll b = some b') :
    turn poll ⟨b :: rest, log⟩ = ⟨rest ++ [b'], log⟩ := by
  simp only [turn, h]

theorem turns_add (m n : Nat) (s : State β) : turns poll (m + n) s = turns poll n (turns poll m s) := by
  induction m generalizing s with
  | zero => rw [Nat.zero_add]; rfl
  | succ m ih =>
    rw [Nat.succ_add]
    exact ih (turn poll s)

/-- Turns on an empty queue change nothing. -/
theorem turns_nil (n : Nat) (log : List β) : turns poll n ⟨[], log⟩ = ⟨[], log⟩ := by
  induction n with
  | zero => rfl
  | succ n ih => exact ih

/-- Once the queue is empty it stays so, with the log as it is. -/
theorem turns_of_queue_nil {m : Nat} {s : State β} (h : (turns poll m s).queue = []) {n : Nat}
    (hn : m ≤ n) : turns poll n s = turns poll m s := by
  obtain ⟨d, rfl⟩ := Nat.exists_eq_add_of_le hn
  rw [turns_add]
  cases hst : turns poll m s with
  | mk queue log =>
    rw [hst] at h
    change queue = [] at h
    subst h
    exact turns_nil poll d log

/-- **One round.** Serving the jobs `q` at the front of the queue puts those of
them still pending behind `r`, in their order, and logs those that are done. -/
theorem turns_prefix (q : List β) : ∀ (r log : List β),
    turns poll q.length ⟨q ++ r, log⟩ =
      ⟨r ++ q.filterMap poll, log ++ q.filter fun b => (poll b).isNone⟩ := by
  induction q with
  | nil =>
    intro r log
    simp [turns]
  | cons b q ih =>
    intro r log
    cases hb : poll b with
    | none =>
      rw [List.length_cons, turns, List.cons_append, turn_cons_done poll hb, ih,
        List.filterMap_cons_none hb, List.filter_cons_of_pos (by rw [hb]; rfl), List.append_assoc,
        List.singleton_append]
    | some b' =>
      rw [List.length_cons, turns, List.cons_append, turn_cons_pending poll hb, List.append_assoc, ih,
        List.filterMap_cons_some hb, List.filter_cons_of_neg (by simp [hb]), List.append_assoc,
        List.singleton_append]

theorem filterMap_advance_succ (q : List β) (i : Nat) :
    (q.filterMap (advance poll i)).filterMap poll = q.filterMap (advance poll (i + 1)) := by
  rw [List.filterMap_filterMap]
  rfl

/-- **Rounds.** After `i` rounds the queue holds the jobs of `q` pending after
`i` polls, in their order, and the log holds the jobs done in those rounds. -/
theorem turns_rounds (q : List β) (i : Nat) :
    turns poll (roundTurns poll q i) ⟨q, []⟩ = ⟨q.filterMap (advance poll i), doneBy poll q i⟩ := by
  induction i with
  | zero => simp [roundTurns, turns, advance, doneBy]
  | succ i ih =>
    have hround := turns_prefix poll (q.filterMap (advance poll i)) [] (doneBy poll q i)
    rw [List.append_nil, List.nil_append] at hround
    rw [roundTurns, turns_add, ih, hround, filterMap_advance_succ, doneBy, doneBy, List.range_succ,
      List.flatMap_append, List.flatMap_singleton]

/-- No round is longer than the queue it starts from. -/
theorem roundTurns_le (q : List β) (i : Nat) : roundTurns poll q i ≤ i * q.length := by
  induction i with
  | zero => simp [roundTurns]
  | succ i ih =>
    have hround : (q.filterMap (advance poll i)).length ≤ q.length := List.length_filterMap_le _ _
    rw [roundTurns, Nat.succ_mul]
    omega

/-! ## Jobs done after a number of polls -/

variable {poll}

theorem ReadyIn.pos {b : β} {k : Nat} (h : ReadyIn poll b k) : 0 < k := by
  cases h with
  | now _ => exact Nat.one_pos
  | later _ _ => exact Nat.succ_pos _

/-- A job is done at one poll only. -/
theorem ReadyIn.unique {b : β} {k k' : Nat} (h : ReadyIn poll b k) (h' : ReadyIn poll b k') : k = k' := by
  induction h generalizing k' with
  | now hb =>
    cases h' with
    | now _ => rfl
    | later hb' _ => rw [hb] at hb'; cases hb'
  | later hb _ ih =>
    cases h' with
    | now hb' => rw [hb] at hb'; cases hb'
    | later hb' h'' =>
      rw [hb] at hb'
      cases hb'
      rw [ih h'']

theorem ReadyIn.poll_eq_none {b : β} (h : ReadyIn poll b 1) : poll b = none := by
  cases h with
  | now hb => exact hb
  | later _ h' => exact absurd h'.pos (Nat.lt_irrefl 0)

/-- The job after one poll that left it pending. -/
theorem ReadyIn.of_poll {b b' : β} {k : Nat} (h : ReadyIn poll b k) (hb : poll b = some b') :
    ReadyIn poll b' (k - 1) := by
  cases h with
  | now hb' => rw [hb] at hb'; cases hb'
  | later hb' h' =>
    rw [hb] at hb'
    cases hb'
    exact h'

theorem Never.poll_eq_some {b : β} (h : Never poll b) : ∃ b', poll b = some b' ∧ Never poll b' := by
  cases hb : poll b with
  | none => exact absurd (ReadyIn.now hb) (h 1)
  | some b' => exact ⟨b', rfl, fun k hk => h (k + 1) (ReadyIn.later hb hk)⟩

theorem advance_succ_front (i : Nat) (b : β) :
    advance poll (i + 1) b = (poll b).bind (advance poll i) := by
  induction i with
  | zero =>
    show (some b).bind poll = (poll b).bind (advance poll 0)
    rw [Option.bind_some]
    cases poll b <;> rfl
  | succ i ih =>
    show (advance poll (i + 1) b).bind poll = _
    rw [ih]
    cases poll b <;> rfl

/-- Before its last poll the job is pending, with that many polls fewer to go. -/
theorem ReadyIn.advance_of_lt {b : β} {k : Nat} (h : ReadyIn poll b k) {i : Nat} (hi : i < k) :
    ∃ b', advance poll i b = some b' ∧ ReadyIn poll b' (k - i) := by
  induction h generalizing i with
  | now hb =>
    obtain rfl : i = 0 := by omega
    exact ⟨_, rfl, ReadyIn.now hb⟩
  | @later b b' k hb h' ih =>
    cases i with
    | zero => exact ⟨b, rfl, ReadyIn.later hb h'⟩
    | succ i =>
      obtain ⟨b'', hadv, hready⟩ := ih (Nat.lt_of_succ_lt_succ hi)
      refine ⟨b'', ?_, by rw [Nat.add_sub_add_right]; exact hready⟩
      rw [advance_succ_front, hb, Option.bind_some, hadv]

theorem advance_add_of_none {b : β} {i : Nat} (h : advance poll i b = none) (j : Nat) :
    advance poll (i + j) b = none := by
  induction j with
  | zero => exact h
  | succ j ih => rw [← Nat.add_assoc, advance, ih, Option.bind_none]

/-- From its last poll on the job is gone. -/
theorem ReadyIn.advance_eq_none {b : β} {k : Nat} (h : ReadyIn poll b k) {i : Nat} (hi : k ≤ i) :
    advance poll i b = none := by
  have hk : advance poll k b = none := by
    clear hi
    induction h with
    | now hb => exact hb
    | later hb _ ih => rw [advance_succ_front, hb, Option.bind_some, ih]
  obtain ⟨j, rfl⟩ := Nat.exists_eq_add_of_le hi
  exact advance_add_of_none hk j

/-- A name kept by every poll is kept by every advance. -/
theorem id_advance {id : β → ι} (hid : ∀ b b', poll b = some b' → id b' = id b) :
    ∀ (i : Nat) {b b' : β}, advance poll i b = some b' → id b' = id b
  | 0, _, _, h => by cases h; rfl
  | i + 1, b, b', h => by
    rw [advance] at h
    cases hadv : advance poll i b with
    | none => rw [hadv, Option.bind_none] at h; cases h
    | some b₁ =>
      rw [hadv, Option.bind_some] at h
      rw [hid b₁ b' h, id_advance hid i hadv]

/-- The jobs of `q` done in round `r`, by name: those done at their
`(r + 1)`-th poll, in queue order. -/
theorem map_done_round {id : β → ι} (hid : ∀ b b', poll b = some b' → id b' = id b) {k : β → Nat}
    (r : Nat) : ∀ (q : List β), (∀ b ∈ q, ReadyIn poll b (k b)) →
      ((q.filterMap (advance poll r)).filter fun b => (poll b).isNone).map id =
        (q.filter fun b => k b = r + 1).map id
  | [], _ => rfl
  | b :: q, hk => by
    have hrest := map_done_round hid r q fun b' hb' => hk b' (List.mem_cons_of_mem b hb')
    have hb := hk b List.mem_cons_self
    by_cases hlt : r < k b
    · obtain ⟨b', hadv, hready⟩ := hb.advance_of_lt hlt
      rw [List.filterMap_cons_some hadv]
      by_cases hlast : k b = r + 1
      · -- `b` is done at this round's poll
        have hnone : poll b' = none := by
          rw [hlast, Nat.add_sub_cancel_left] at hready
          exact hready.poll_eq_none
        rw [List.filter_cons_of_pos (by rw [hnone]; rfl), List.filter_cons_of_pos (by simp only [decide_eq_true_eq]; exact hlast),
          List.map_cons, List.map_cons, hrest, id_advance hid r hadv]
      · -- `b` is still pending after this round
        have hsome : (poll b').isNone = false := by
          cases hpoll : poll b' with
          | none => exact absurd (hready.unique (ReadyIn.now hpoll)) (by omega)
          | some _ => rfl
        rw [List.filter_cons_of_neg (by rw [hsome]; decide), List.filter_cons_of_neg (by simpa using hlast),
          hrest]
    · -- `b` was done in an earlier round
      rw [List.filterMap_cons_none (hb.advance_eq_none (Nat.le_of_not_lt hlt)),
        List.filter_cons_of_neg (by simp only [decide_eq_true_eq]; omega), hrest]

/-! ## Whole runs -/

/-- The polls the jobs of a queue still need, job by job. -/
abbrev Needs (poll : β → Option β) (q : List β) (ks : List Nat) : Prop := List.Forall₂ (ReadyIn poll) q ks

theorem Needs.sum_pos {q : List β} {ks : List Nat} (h : Needs poll q ks) (hq : q ≠ []) :
    0 < ks.sum := by
  cases h with
  | nil => exact absurd rfl hq
  | cons hb _ =>
    rw [List.sum_cons]
    exact Nat.lt_of_lt_of_le hb.pos (Nat.le_add_right _ _)

theorem Needs.eq_nil {q : List β} {ks : List Nat} (h : Needs poll q ks) (hks : ks.sum = 0) :
    q = [] := by
  by_contra hq
  exact absurd hks (Nat.pos_iff_ne_zero.mp (h.sum_pos hq))

/-- **A turn on a non-empty queue takes one poll off what is needed.** -/
theorem Needs.after_turn {q : List β} {ks : List Nat} (h : Needs poll q ks) (hq : q ≠ []) (log : List β) :
    ∃ ks', Needs poll (turn poll ⟨q, log⟩).queue ks' ∧ ks'.sum + 1 = ks.sum := by
  cases h with
  | nil => exact absurd rfl hq
  | @cons b k rest ks hb hrest =>
    cases hpoll : poll b with
    | none =>
      rw [turn_cons_done poll hpoll]
      refine ⟨ks, hrest, ?_⟩
      rw [List.sum_cons, hb.unique (ReadyIn.now hpoll), Nat.add_comm]
    | some b' =>
      rw [turn_cons_pending poll hpoll]
      refine ⟨ks ++ [k - 1], List.rel_append hrest (List.Forall₂.cons (hb.of_poll hpoll) .nil), ?_⟩
      have hk := hb.pos
      simp only [List.sum_append, List.sum_cons, List.sum_nil]
      omega

theorem Needs.after_turns {q : List β} {ks : List Nat} (h : Needs poll q ks) (log : List β) :
    ∀ n ≤ ks.sum, ∃ ks', Needs poll (turns poll n ⟨q, log⟩).queue ks' ∧ ks'.sum = ks.sum - n := by
  intro n
  induction n generalizing q ks log with
  | zero => exact fun _ => ⟨ks, h, rfl⟩
  | succ n ih =>
    intro hn
    -- the queue is not empty yet, so the first turn takes one poll off
    have hq : q ≠ [] := fun hq => by
      subst hq
      cases h
      exact absurd hn (by simp)
    obtain ⟨ks₁, h₁, hsum₁⟩ := h.after_turn hq log
    obtain ⟨ks', h', hsum'⟩ := ih h₁ (turn poll ⟨q, log⟩).log (by omega)
    refine ⟨ks', ?_, by omega⟩
    show Needs poll (turns poll n (turn poll ⟨q, log⟩)).queue ks'
    exact h'

/-- **The queue is empty after exactly as many turns as polls are needed.** -/
theorem turns_total {q : List β} {ks : List Nat} (h : Needs poll q ks) (log : List β) :
    (turns poll ks.sum ⟨q, log⟩).queue = [] ∧ ∀ n < ks.sum, (turns poll n ⟨q, log⟩).queue ≠ [] := by
  refine ⟨?_, fun n hn => ?_⟩
  · obtain ⟨ks', h', hsum⟩ := h.after_turns log ks.sum (Nat.le_refl _)
    exact h'.eq_nil (by rw [hsum, Nat.sub_self])
  · obtain ⟨ks', h', hsum⟩ := h.after_turns log n (Nat.le_of_lt hn)
    intro hnil
    rw [hnil] at h'
    cases h'
    simp at hsum
    omega

theorem needs_map {q : List β} {k : β → Nat} (hk : ∀ b ∈ q, ReadyIn poll b (k b)) :
    Needs poll q (q.map k) := by
  rw [Needs, List.forall₂_map_right_iff, List.forall₂_same]
  exact hk

/-- **The order in which the jobs are done.** When each job `b` of `q` is done
at its `k b`-th poll, the log after all the turns lists, by name, the jobs done
at their first poll, then those done at their second, and so on up to any
bound `K` of the counts, each group in queue order. -/
theorem log_total {id : β → ι} (hid : ∀ b b', poll b = some b' → id b' = id b) {q : List β}
    {k : β → Nat} (hk : ∀ b ∈ q, ReadyIn poll b (k b)) {K : Nat} (hK : ∀ b ∈ q, k b ≤ K) :
    turns poll (q.map k).sum ⟨q, []⟩ =
      ⟨[], doneBy poll q K⟩ ∧
    (doneBy poll q K).map id = (List.range K).flatMap fun r => (q.filter fun b => k b = r + 1).map id := by
  obtain ⟨hempty, hbefore⟩ := turns_total (needs_map hk) []
  -- after `K` rounds nothing is left, so the rounds take at least as many turns
  have hrounds := turns_rounds poll q K
  have hgone : q.filterMap (advance poll K) = [] :=
    List.filterMap_eq_nil_iff.mpr fun b hb => (hk b hb).advance_eq_none (hK b hb)
  rw [hgone] at hrounds
  have hle : (q.map k).sum ≤ roundTurns poll q K := by
    by_contra hlt
    exact hbefore _ (Nat.lt_of_not_le hlt) (by rw [hrounds])
  refine ⟨?_, ?_⟩
  · rw [← turns_of_queue_nil poll hempty hle, hrounds]
  · rw [doneBy, List.map_flatMap]
    exact List.flatMap_congr fun r _ => map_done_round hid r q hk

/-- **No job starves.** A job of `q` done at its `k`-th poll is logged within
`k` times the length of `q` turns, whatever the other jobs do. -/
theorem logged_within {id : β → ι} (hid : ∀ b b', poll b = some b' → id b' = id b) {q : List β} {b : β}
    (hb : b ∈ q) {k : Nat} (hk : ReadyIn poll b k) :
    ∃ n ≤ k * q.length, id b ∈ (turns poll n ⟨q, []⟩).log.map id := by
  refine ⟨roundTurns poll q k, roundTurns_le poll q k, ?_⟩
  rw [turns_rounds]
  -- the job is logged in round `k - 1`, at its last poll
  obtain ⟨b', hadv, hready⟩ := hk.advance_of_lt (Nat.sub_lt hk.pos Nat.one_pos)
  have hlast : poll b' = none := by
    rw [Nat.sub_sub_self hk.pos] at hready
    exact hready.poll_eq_none
  have hmem : b' ∈ doneBy poll q k := by
    rw [doneBy, List.mem_flatMap]
    refine ⟨k - 1, List.mem_range.mpr (Nat.sub_lt hk.pos Nat.one_pos), ?_⟩
    rw [List.mem_filter, List.mem_filterMap, hlast]
    exact ⟨⟨b, hb, hadv⟩, rfl⟩
  rw [← id_advance hid (k - 1) hadv]
  exact List.mem_map_of_mem hmem

/-- **A job that is never done stays queued**, in some state, after any number
of turns. -/
theorem never_in_queue {q : List β} {b : β} (hb : b ∈ q) (hnever : Never poll b) (log : List β) :
    ∀ n, ∃ b' ∈ (turns poll n ⟨q, log⟩).queue, Never poll b' := by
  intro n
  induction n generalizing q b log with
  | zero => exact ⟨b, hb, hnever⟩
  | succ n ih =>
    -- after one turn the job, polled or not, is still in the queue
    obtain ⟨b₁, hb₁, hnever₁⟩ : ∃ b₁ ∈ (turn poll ⟨q, log⟩).queue, Never poll b₁ := by
      cases q with
      | nil => cases hb
      | cons front rest =>
        rcases List.mem_cons.mp hb with rfl | hrest
        · obtain ⟨b', hpoll, hnever'⟩ := hnever.poll_eq_some
          rw [turn_cons_pending poll hpoll]
          exact ⟨b', List.mem_append_right _ (List.mem_singleton_self b'), hnever'⟩
        · cases hpoll : poll front with
          | none =>
            rw [turn_cons_done poll hpoll]
            exact ⟨b, hrest, hnever⟩
          | some b' =>
            rw [turn_cons_pending poll hpoll]
            exact ⟨b, List.mem_append_left _ hrest, hnever⟩
    exact ih hb₁ hnever₁ (turn poll ⟨q, log⟩).log

end RoundRobin
