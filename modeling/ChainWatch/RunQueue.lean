/-
Running tasks until none of them can move.

A system is a state and the tasks that share it. A task either can take a step or waits,
and every step leaves less work to be done, so tasks that are run until they wait come to
rest, in whatever order they are run. The order used here is that of a queue: a task that
becomes able to move joins the end, and a task whose turn has come runs until it waits
again. One event may make several tasks able to move; those join in the order in which
they began to wait, which the line of the waiting remembers.

That is how a `tokio` runtime on one thread takes its tasks: a queue, first in first out, and
for each cancellation token the list of those that wait on it, in the order in which they
joined.
-/

set_option autoImplicit false

namespace ChainWatch

/-- Tasks of type `τ` on a shared state of type `σ`. -/
structure System (σ τ : Type) where
  /-- The tasks of a state, in the order in which they were made. -/
  tasks : σ → List τ
  /-- One step of a task; none if it waits or is over. -/
  step : σ → τ → Option σ
  /-- Whether a task that waits now keeps the place it waits in, however often it moves. -/
  keepsPlace : σ → τ → Bool
  /-- A bound on the steps that are left. -/
  work : σ → Nat
  work_step : ∀ {s s' : σ} {t : τ}, step s t = some s' → work s' < work s

/-! ## 1. The line of the waiting -/

/-- The place of a task that waits. -/
structure Place (τ : Type) where
  task : τ
  /-- Whether the task keeps this place when it has moved. -/
  firm : Bool
  deriving DecidableEq

/-- The tasks that have had a turn, in the order in which they began to wait. -/
abbrev Line (τ : Type) : Type := List (Place τ)

namespace Line

variable {τ : Type} [DecidableEq τ]

/-- A task that has moved waits again: at the end of the line, unless its place is firm. -/
def requeue (line : Line τ) (t : τ) (firm : Bool) : Line τ :=
  if line.any fun p => p.task = t && p.firm then line
  else line.filter (fun p => p.task ≠ t) ++ [⟨t, firm⟩]

/-- A task that has not moved goes on waiting, at the end of the line if it is new. -/
def stay (line : Line τ) (t : τ) (firm : Bool) : Line τ :=
  if line.any fun p => p.task = t then line else line ++ [⟨t, firm⟩]

end Line

namespace System

variable {σ τ : Type} (S : System σ τ)

/-! ## 2. Turns -/

/-- Whether a task can take a step. -/
def canMove (s : σ) (t : τ) : Bool := (S.step s t).isSome

/-- Runs one task until it waits or is over. -/
def turn (t : τ) (s : σ) : σ :=
  match _h : S.step s t with
  | none => s
  | some s' => turn t s'
termination_by S.work s
decreasing_by exact S.work_step _h

theorem work_turn_le (t : τ) (s : σ) : S.work (S.turn t s) ≤ S.work s := by
  fun_induction S.turn t s with
  | case1 => exact Nat.le_refl _
  | case2 s s' h ih => exact Nat.le_trans ih (Nat.le_of_lt (S.work_step h))

/-- After its turn a task can move no more. -/
theorem step_turn (t : τ) (s : σ) : S.step (S.turn t s) t = none := by
  fun_induction S.turn t s with
  | case1 s h => exact h
  | case2 s s' h ih => exact ih

variable [DecidableEq τ]

/-! ## 3. The queue -/

/-- Every task, those of the line first and in its order. -/
def inLine (line : Line τ) (s : σ) : List τ :=
  let waiting := line.map Place.task
  waiting ++ (S.tasks s).filter fun t => t ∉ waiting

/-- The queue with the tasks that can move and were not in it. -/
def wake (queue : List τ) (line : Line τ) (s : σ) : List τ :=
  queue ++ (S.inLine line s).filter fun t => S.canMove s t && t ∉ queue

/-- Runs the tasks of a queue, and those they make able to move, until it is empty. Gives
the line in which the tasks wait then, and the state. -/
def run (queue : List τ) (line : Line τ) (s : σ) : Line τ × σ :=
  match queue with
  | [] => (line, s)
  | t :: rest =>
      match _h : S.step s t with
      | none => run rest (line.stay t (S.keepsPlace s t)) s
      | some s' =>
          let s'' := S.turn t s'
          let line := line.requeue t (S.keepsPlace s'' t)
          run (S.wake rest line s'') line s''
termination_by (S.work s, queue.length)
decreasing_by
  -- a task that cannot move only leaves the queue, a turn that moves lowers the work
  · exact Prod.Lex.right _ (by simp)
  · exact Prod.Lex.left _ _ (Nat.lt_of_le_of_lt (S.work_turn_le t s') (S.work_step _h))

/-- Runs everything until no task can move. The given tasks come first. -/
def settle (queue : List τ) (line : Line τ) (s : σ) : Line τ × σ :=
  S.run (S.wake queue line s) line s

/-! ## 4. Rest -/

theorem mem_inLine {line : Line τ} {s : σ} {t : τ} (ht : t ∈ S.tasks s) : t ∈ S.inLine line s := by
  by_cases hl : t ∈ line.map Place.task
  · exact List.mem_append_left _ hl
  · exact List.mem_append_right _ (List.mem_filter.mpr ⟨ht, by simp only [hl, not_false_eq_true,
      decide_true]⟩)

theorem mem_wake {queue : List τ} {line : Line τ} {s : σ} {t : τ} (ht : t ∈ S.tasks s)
    (h : S.canMove s t = true) : t ∈ S.wake queue line s := by
  by_cases hq : t ∈ queue
  · exact List.mem_append_left _ hq
  · exact List.mem_append_right _ (List.mem_filter.mpr ⟨S.mem_inLine ht, by simp [h, hq]⟩)

/-- A queue that holds every task that can move is run until none can. -/
theorem step_run {queue : List τ} {line : Line τ} {s : σ}
    (h : ∀ t ∈ S.tasks s, S.canMove s t = true → t ∈ queue) {t : τ}
    (ht : t ∈ S.tasks (S.run queue line s).2) : S.step (S.run queue line s).2 t = none := by
  fun_induction S.run queue line s with
  | case1 line s =>
      -- the queue is empty, so it held no task that can move
      cases hstep : S.step s t with
      | none => rfl
      | some s' => exact absurd (h t ht (by simp [canMove, hstep])) List.not_mem_nil
  | case2 line s u rest hu ih =>
      refine ih (fun v hv hmove => ?_) ht
      rcases List.mem_cons.mp (h v hv hmove) with rfl | hmem
      · simp [canMove, hu] at hmove
      · exact hmem
  | case3 line s u rest s' hu s'' line' ih =>
      exact ih (fun v hv hmove => S.mem_wake hv hmove) ht

/-- After settling no task can move. -/
theorem step_settle (queue : List τ) (line : Line τ) (s : σ) {t : τ}
    (ht : t ∈ S.tasks (S.settle queue line s).2) : S.step (S.settle queue line s).2 t = none :=
  S.step_run (fun _ hv hmove => S.mem_wake hv hmove) ht

end System

end ChainWatch
