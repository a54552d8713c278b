/-
A roster over time.

Workers start and leave, and waits are made, have turns and are given up, in any order: a roster
moves in acts, and `moment` is what it is like after the first so many. What one act makes of a
wait is said here once. A wait is woken, or returns without having been woken, only where nobody
runs (`Passes`), and nobody sleeps in front of a roster that is closed and empty (`Heard`).
-/
import Mathlib.Data.List.Basic
import ChainWatch.Roster

set_option autoImplicit false

namespace ChainWatch

/-- The state after one more step of a run; behind its end a run stands still. -/
theorem foldl_take_succ {σ τ : Type} (f : σ → τ → σ) (s : σ) (acts : List τ) (n : Nat) :
    (acts.take (n + 1)).foldl f s
      = acts[n]?.elim ((acts.take n).foldl f s) (f ((acts.take n).foldl f s)) := by
  rw [List.take_add_one, List.foldl_append]
  cases acts[n]? <;> rfl

namespace Wait

/-- A sleeping wait is woken, and the others stay as they are. -/
theorem phase_wake (w : Wait) : w.wake.phase = if w.phase = .asleep then .woken else w.phase := by
  unfold wake
  split <;> rfl

theorem eq_of_wake_over {w : Wait} {abandoned : Bool} (h : w.wake = ⟨.over, abandoned⟩) :
    w = ⟨.over, abandoned⟩ := by
  unfold wake at h
  split at h
  · cases h
  · exact h

end Wait

namespace Roster

/-! ## 1. Acts -/

/-- One thing that can happen to a roster. -/
inductive Act where
  | enter
  /-- A worker leaves, if there is one. -/
  | leave
  | addWait
  /-- A wait has a turn, if it can take one. -/
  | stepWait (i : Nat)
  | abandon (i : Nat)
  /-- A wait that is not given time to sleep. -/
  | waitNow
  deriving DecidableEq

def act (r : Roster) : Act → Roster
  | .enter => r.enter
  | .leave => if r.running = 0 then r else r.leave
  | .addWait => r.addWait
  | .stepWait i => (r.stepWait i).getD r
  | .abandon i => r.abandon i
  | .waitNow => r.waitNow.1

def follow (r : Roster) (acts : List Act) : Roster := acts.foldl act r

/-- The roster after the first `n` acts. -/
def moment (acts : List Act) (n : Nat) : Roster := empty.follow (acts.take n)

theorem moment_succ (acts : List Act) (n : Nat) :
    moment acts (n + 1) = acts[n]?.elim (moment acts n) (moment acts n).act :=
  foldl_take_succ act empty acts n

/-- How far a wait has come, if it was made. -/
def phase? (r : Roster) (i : Nat) : Option WaitPhase := r.waits[i]?.map Wait.phase

/-- Whether a wait has had its first turn, which is where the waiting begins. -/
def isCalled (r : Roster) (i : Nat) : Bool :=
  match r.phase? i with
  | some .fresh | none => false
  | some .asleep | some .woken | some .over => true

theorem isOver_iff {r : Roster} {i : Nat} : r.isOver i = true ↔ r.phase? i = some .over := by
  unfold isOver phase?
  cases r.waits[i]? <;> simp

theorem phase?_eq {r : Roster} {i : Nat} {w : Wait} (h : r.waits[i]? = some w) :
    r.phase? i = some w.phase := by
  rw [phase?, h, Option.map_some]

/-! ## 2. What the operations do to the waits -/

theorem waits_setPhase (r : Roster) (i : Nat) (phase : WaitPhase) :
    (r.setPhase i phase).waits = r.waits.modify i fun w => { w with phase } := by
  rw [List.modify_eq_set_getElem?, setPhase]
  cases r.waits[i]? <;> rfl

theorem waits_abandon (r : Roster) (i : Nat) :
    (r.abandon i).waits = r.waits.modify i fun w => { w with abandoned := true } := by
  rw [List.modify_eq_set_getElem?, abandon]
  cases r.waits[i]? <;> rfl

/-- Closing a roster wakes those who sleep if it was open and empty, and nobody otherwise. -/
theorem waits_close (r : Roster) :
    r.close.waits
      = if r.running = 0 ∧ r.closed = false then r.waits.map Wait.wake else r.waits := by
  unfold close
  by_cases h : r.running = 0 ∧ r.closed = false
  · rw [if_pos h, if_pos (by simp [h])]
    rfl
  · rw [if_neg h, if_neg (by simpa using h)]

theorem phase?_setPhase (r : Roster) (i : Nat) (phase : WaitPhase) (j : Nat) :
    (r.setPhase i phase).phase? j
      = if i = j then (r.phase? j).map fun _ => phase else r.phase? j := by
  rw [phase?, waits_setPhase, List.getElem?_modify, phase?]
  cases r.waits[j]? with
  | none => simp
  | some w => by_cases hij : i = j <;> simp [hij]

theorem phase?_abandon (r : Roster) (i j : Nat) : (r.abandon i).phase? j = r.phase? j := by
  rw [phase?, waits_abandon, List.getElem?_modify, phase?]
  cases r.waits[j]? with
  | none => rfl
  | some w => by_cases hij : i = j <;> simp [hij]

/-- A wait closes and opens a roster and never counts as a worker. -/
theorem running_setPhase (r : Roster) (i : Nat) (phase : WaitPhase) :
    (r.setPhase i phase).running = r.running := by
  unfold setPhase
  split <;> rfl

theorem closed_setPhase (r : Roster) (i : Nat) (phase : WaitPhase) :
    (r.setPhase i phase).closed = r.closed := by
  unfold setPhase
  split <;> rfl

theorem running_abandon (r : Roster) (i : Nat) : (r.abandon i).running = r.running := by
  unfold abandon
  split <;> rfl

theorem closed_abandon (r : Roster) (i : Nat) : (r.abandon i).closed = r.closed := by
  unfold abandon
  split <;> rfl

theorem running_close (r : Roster) : r.close.running = r.running := by
  unfold close
  dsimp only
  split <;> rfl

theorem running_leave (r : Roster) : r.leave.running = r.running - 1 := by
  unfold leave
  dsimp only
  split <;> rfl

/-! ## 3. A turn of a wait -/

/-- What a turn of a wait can be. -/
inductive Turned (r : Roster) (i : Nat) : Roster → Prop where
  /-- A wait that was given up before its first turn is over and does nothing else. -/
  | given (hw : r.waits[i]? = some ⟨.fresh, true⟩) : Turned r i (r.setPhase i .over)
  /-- Nobody runs when the wait begins, so it returns at once. -/
  | passed (hw : r.waits[i]? = some ⟨.fresh, false⟩) (hrun : r.running = 0) :
      Turned r i (r.close.finish i)
  | slept (hw : r.waits[i]? = some ⟨.fresh, false⟩) (hrun : r.running ≠ 0) :
      Turned r i ({ r with closed := true }.setPhase i .asleep)
  | ended {w : Wait} (hw : r.waits[i]? = some w)
      (hphase : w.phase = .woken
        ∨ w.phase = .asleep ∧ (w.abandoned = true ∨ r.closed = true ∧ r.running = 0)) :
      Turned r i (r.finish i)

/-- Every turn that a wait takes is one of these. -/
theorem turned_of_stepWait {r r' : Roster} {i : Nat} (h : r.stepWait i = some r') :
    Turned r i r' := by
  unfold stepWait at h
  split at h
  · cases h
  · rename_i w hw
    obtain ⟨phase, abandoned⟩ := w
    cases phase with
    | fresh =>
        cases abandoned with
        | true =>
            cases h
            exact .given hw
        | false =>
            simp only [Bool.false_eq_true, if_false] at h
            split at h
            · rename_i hrun
              cases h
              exact .passed hw hrun
            · rename_i hrun
              cases h
              -- closing a roster that is not empty wakes nobody
              have hclose : r.close = { r with closed := true } := by
                unfold close
                simp only [hrun, decide_false, Bool.false_and, Bool.false_eq_true, if_false]
              rw [hclose]
              exact .slept hw hrun
    | asleep =>
        dsimp only at h
        split at h
        · rename_i hturn
          cases h
          refine .ended hw (Or.inr ⟨rfl, ?_⟩)
          simpa using hturn
        · cases h
    | woken =>
        cases h
        exact .ended hw (Or.inl rfl)
    | _ => cases h

theorem running_finish (r : Roster) (i : Nat) : (r.finish i).running = r.running :=
  running_setPhase ..

theorem closed_finish (r : Roster) (i : Nat) : (r.finish i).closed = false :=
  closed_setPhase ..

theorem running_stepWait {r r' : Roster} {i : Nat} (h : r.stepWait i = some r') :
    r'.running = r.running := by
  cases turned_of_stepWait h with
  | given => exact running_setPhase ..
  | passed => exact (running_finish ..).trans (running_close r)
  | slept => exact running_setPhase ..
  | ended => exact running_finish ..

/-! ## 4. A wait without time to sleep -/

section Last

variable (r : Roster) (w : Wait)

/-- The roster with one more wait. -/
def push : Roster := { r with waits := r.waits ++ [w] }

theorem getElem?_push (i : Nat) :
    (r.push w).waits[i]? = if i = r.waits.length then some w else r.waits[i]? := by
  rw [push, List.getElem?_append]
  split
  · rw [if_neg (by omega)]
  · rename_i hle
    rw [List.getElem?_singleton]
    by_cases hi : i = r.waits.length
    · rw [if_pos hi, if_pos (by omega)]
    · rw [if_neg hi, if_neg (by omega), List.getElem?_eq_none (by omega)]

theorem phase?_push (i : Nat) :
    (r.push w).phase? i = if i = r.waits.length then some w.phase else r.phase? i := by
  rw [phase?, getElem?_push]
  split <;> rfl

theorem addWait_eq : r.addWait = r.push .fresh := rfl

theorem getElem?_push_self : (r.push w).waits[r.waits.length]? = some w := by
  rw [getElem?_push, if_pos rfl]

theorem setPhase_push (phase : WaitPhase) :
    (r.push w).setPhase r.waits.length phase = r.push { w with phase } := by
  unfold setPhase
  rw [getElem?_push_self]
  simp [push]

theorem abandon_push : (r.push w).abandon r.waits.length = r.push { w with abandoned := true } := by
  unfold abandon
  rw [getElem?_push_self]
  simp [push]

theorem isOver_push : (r.push w).isOver r.waits.length = decide (w.phase = .over) := by
  unfold isOver
  rw [getElem?_push_self]

theorem length_close : r.close.waits.length = r.waits.length := by
  rw [waits_close]
  split
  · exact List.length_map _
  · rfl

/-- A wait that has not run yet does not hear that the roster is closed. -/
theorem close_push : (r.push .fresh).close = r.close.push .fresh := by
  unfold close
  by_cases h : (decide (r.running = 0) && !r.closed) = true
  · have h' : (decide ((r.push .fresh).running = 0) && !(r.push .fresh).closed) = true := h
    rw [if_pos h, if_pos h']
    simp [push, wakeAll, Wait.wake, Wait.fresh]
  · have h' : ¬ (decide ((r.push .fresh).running = 0) && !(r.push .fresh).closed) = true := h
    rw [if_neg h, if_neg h']
    rfl

/-- The first turn of a new wait. -/
theorem stepWait_push :
    (r.push .fresh).stepWait r.waits.length
      = some (if r.running = 0 then r.close.reopen.push ⟨.over, false⟩
          else r.close.push ⟨.asleep, false⟩) := by
  have hrunning : (r.push .fresh).running = r.running := rfl
  unfold stepWait finish
  rw [getElem?_push_self, close_push, hrunning]
  simp only [Wait.fresh, Bool.false_eq_true, if_false]
  split
  · rw [← length_close r]
    exact congrArg some (setPhase_push r.close.reopen ⟨.fresh, false⟩ .over)
  · rw [← length_close r]
    exact congrArg some (setPhase_push r.close ⟨.fresh, false⟩ .asleep)

/-- A wait that sleeps and is given up has one more turn. -/
theorem stepWait_push_given :
    (r.push ⟨.asleep, true⟩).stepWait r.waits.length = some (r.reopen.push ⟨.over, true⟩) := by
  unfold stepWait
  rw [getElem?_push_self]
  simp only [Bool.true_or, if_true]
  exact congrArg some (setPhase_push r.reopen ⟨.asleep, true⟩ .over)

/-- A wait without time to sleep closes the roster and opens it again, and it has returned if
nobody runs. -/
theorem waitNow_eq :
    r.waitNow = (r.close.reopen.push ⟨.over, decide (r.running ≠ 0)⟩, decide (r.running = 0)) := by
  have hlen := length_close r
  unfold waitNow
  simp only [addWait_eq, stepWait_push, Option.getD_some]
  by_cases hrun : r.running = 0
  · have hover := isOver_push r.close.reopen ⟨.over, false⟩
    rw [show r.close.reopen.waits.length = r.waits.length from hlen] at hover
    simp only [hrun, if_true, hover, ne_eq, not_true_eq_false, decide_false, decide_true]
  · have hover := isOver_push r.close ⟨.asleep, false⟩
    have habandon := abandon_push r.close ⟨.asleep, false⟩
    have hstep := stepWait_push_given r.close
    rw [hlen] at hover habandon hstep
    simp [hrun, hover, habandon, hstep]

theorem running_waitNow : r.waitNow.1.running = r.running := by
  rw [waitNow_eq]
  exact running_close r

end Last

/-! ## 5. Waking and returning -/

/-- Between two rosters a wait is woken, or returns unwoken, only where nobody runs. A wait that
was given up does not return, it only ends. -/
structure Passes (r r' : Roster) : Prop where
  woken : ∀ {i : Nat}, r'.phase? i = some .woken → r'.running = 0 ∨ r.phase? i = some .woken
  returned : ∀ {i : Nat}, r'.waits[i]? = some ⟨.over, false⟩ →
    r.running = 0 ∨ r.phase? i = some .woken ∨ r.waits[i]? = some ⟨.over, false⟩

variable {r r' r'' : Roster}

theorem Passes.trans (h : Passes r r') (h' : Passes r' r'') (hrun : r'.running = r.running)
    (hrun' : r''.running = r'.running) : Passes r r'' where
  woken hw := by
    rcases h'.woken hw with hzero | hw'
    · exact Or.inl hzero
    · exact (h.woken hw').imp_left fun hzero => hrun'.trans hzero
  returned ho := by
    rcases h'.returned ho with hzero | hw' | ho'
    · exact Or.inl (hrun.symm.trans hzero)
    · rcases h.woken hw' with hzero | hw
      · exact Or.inl (hrun.symm.trans hzero)
      · exact Or.inr (Or.inl hw)
    · exact h.returned ho'

theorem passes_of_waits (h : r'.waits = r.waits) : Passes r r' where
  woken hw := by
    rw [phase?, h] at hw
    exact Or.inr hw
  returned ho := by
    rw [h] at ho
    exact Or.inr (Or.inr ho)

/-- Those who sleep are woken where nobody runs. -/
theorem passes_of_wake (h : r'.waits = r.waits.map Wait.wake) (hrun : r'.running = 0) :
    Passes r r' where
  woken _ := Or.inl hrun
  returned {i} ho := by
    right
    right
    rw [h, List.getElem?_map, Option.map_eq_some_iff] at ho
    obtain ⟨w, hw, hwake⟩ := ho
    rw [hw, Wait.eq_of_wake_over hwake]

theorem passes_close (r : Roster) : Passes r r.close := by
  have hwaits := waits_close r
  split at hwaits
  · rename_i hempty
    exact passes_of_wake hwaits ((running_close r).trans hempty.1)
  · exact passes_of_waits hwaits

theorem passes_leave (r : Roster) : Passes r r.leave := by
  unfold leave
  dsimp only
  split
  · rename_i hlast
    exact passes_of_wake rfl (of_decide_eq_true (Bool.and_eq_true_iff.mp hlast).1)
  · exact passes_of_waits rfl

theorem passes_push (r : Roster) {w : Wait} (hwoken : w.phase ≠ .woken)
    (hover : w = ⟨.over, false⟩ → r.running = 0) : Passes r (r.push w) where
  woken {i} hw := by
    right
    rw [phase?_push] at hw
    split at hw
    · exact absurd (Option.some.inj hw) hwoken
    · exact hw
  returned {i} ho := by
    rw [getElem?_push] at ho
    split at ho
    · exact Or.inl (hover (Option.some.inj ho))
    · exact Or.inr (Or.inr ho)

theorem passes_abandon (r : Roster) (i : Nat) : Passes r (r.abandon i) where
  woken hw := by
    rw [phase?_abandon] at hw
    exact Or.inr hw
  returned {j} ho := by
    right
    right
    rw [waits_abandon, List.getElem?_modify, Option.map_eq_map, Option.map_eq_some_iff] at ho
    obtain ⟨w, hw, hafter⟩ := ho
    split at hafter
    · exact absurd (Wait.mk.inj hafter).2.symm Bool.false_ne_true
    · rw [hw, hafter]

/-- A wait may be put to sleep, and it may end if it was woken or given up, or if nobody runs. -/
theorem passes_setPhase {i : Nat} {phase : WaitPhase} (hwoken : phase ≠ .woken)
    (hover : ∀ w, r.waits[i]? = some w → phase = .over →
      r.running = 0 ∨ w.phase = .woken ∨ w.abandoned = true) : Passes r (r.setPhase i phase) where
  woken {j} hw := by
    right
    rw [phase?_setPhase] at hw
    split at hw
    · obtain ⟨-, -, hphase⟩ := Option.map_eq_some_iff.mp hw
      exact absurd hphase hwoken
    · exact hw
  returned {j} ho := by
    rw [waits_setPhase, List.getElem?_modify, Option.map_eq_map, Option.map_eq_some_iff] at ho
    obtain ⟨w, hw, hafter⟩ := ho
    split at hafter
    · rename_i hij
      subst hij
      obtain ⟨rfl, habandoned⟩ := Wait.mk.inj hafter
      rcases hover w hw rfl with hzero | hphase | hgiven
      · exact Or.inl hzero
      · exact Or.inr (Or.inl (by rw [phase?_eq hw, hphase]))
      · exact absurd (habandoned.symm.trans hgiven) Bool.false_ne_true
    · exact Or.inr (Or.inr (by rw [hw, hafter]))

theorem passes_finish {i : Nat} (hover : ∀ w, r.waits[i]? = some w →
    r.running = 0 ∨ w.phase = .woken ∨ w.abandoned = true) : Passes r (r.finish i) := by
  have hopen : Passes r r.reopen := passes_of_waits rfl
  refine hopen.trans (passes_setPhase (by simp) ?_) rfl (running_setPhase ..)
  intro w hw _
  exact hover w hw

theorem passes_stepWait {i : Nat} (h : r.stepWait i = some r') : Passes r r' := by
  cases turned_of_stepWait h with
  | given hw =>
      refine passes_setPhase (by simp) ?_
      intro w hw' _
      rw [hw] at hw'
      cases hw'
      exact Or.inr (Or.inr rfl)
  | passed hw hrun =>
      have hzero : r.close.running = 0 := (running_close r).trans hrun
      exact (passes_close r).trans (passes_finish fun _ _ => Or.inl hzero) (running_close r)
        (running_finish ..)
  | slept hw hrun =>
      have hclose : Passes r { r with closed := true } := passes_of_waits rfl
      exact hclose.trans (passes_setPhase (by simp) (by simp)) rfl (running_setPhase ..)
  | ended hw hphase =>
      refine passes_finish ?_
      intro w hw'
      rw [hw] at hw'
      cases hw'
      rcases hphase with hwoken | ⟨-, hgiven | ⟨-, hrun⟩⟩
      · exact Or.inr (Or.inl hwoken)
      · exact Or.inr (Or.inr hgiven)
      · exact Or.inl hrun

/-- One act wakes a wait, or lets it return unwoken, only where nobody runs. -/
theorem passes_act (r : Roster) (a : Act) : Passes r (r.act a) := by
  cases a with
  | enter => exact passes_of_waits rfl
  | leave =>
      rw [act]
      split
      · exact passes_of_waits rfl
      · exact passes_leave r
  | addWait => exact passes_push r (by simp [Wait.fresh]) (by simp [Wait.fresh])
  | stepWait i =>
      rw [act]
      cases h : r.stepWait i with
      | none => exact passes_of_waits rfl
      | some r' => exact passes_stepWait h
  | abandon i => exact passes_abandon r i
  | waitNow =>
      -- it wakes others when it closes the roster, and joins them as one that is over
      rw [act, waitNow_eq]
      have hclose := passes_close r
      have hopen : Passes r r.close.reopen :=
        hclose.trans (passes_of_waits rfl) (running_close r) rfl
      refine hopen.trans (passes_push _ (by simp) ?_) (running_close r) rfl
      intro hover
      have hzero : r.running = 0 := by simpa using hover
      exact (running_close r).trans hzero

/-! ## 6. Sleeping -/

/-- Nobody sleeps in front of a roster that is closed and empty: whatever made it so has woken all
who slept. -/
def Heard (r : Roster) : Prop :=
  r.closed = true → r.running = 0 → ∀ i, r.phase? i ≠ some .asleep

theorem heard_empty : Heard empty := fun hclosed => absurd hclosed Bool.false_ne_true

theorem phase?_ne_asleep_of_wake (h : r'.waits = r.waits.map Wait.wake) (i : Nat) :
    r'.phase? i ≠ some .asleep := by
  rw [phase?, h, List.getElem?_map, Option.map_map]
  intro hasleep
  obtain ⟨w, -, hphase⟩ := Option.map_eq_some_iff.mp hasleep
  rw [Function.comp_apply, Wait.phase_wake] at hphase
  split at hphase
  · cases hphase
  · rename_i hw
    exact hw hphase

theorem heard_leave (r : Roster) : Heard r.leave := by
  unfold leave
  dsimp only
  split
  · exact fun _ _ => phase?_ne_asleep_of_wake rfl
  · rename_i hlast
    intro hclosed hrun
    simp only [Bool.and_eq_true, decide_eq_true_eq, not_and] at hlast
    exact absurd hclosed (hlast hrun)

theorem Heard.stepWait (h : Heard r) {i : Nat} (hstep : r.stepWait i = some r') : Heard r' := by
  intro hclosed hrun j
  -- a wait that ends opens the roster, and one that falls asleep has seen a worker
  cases turned_of_stepWait hstep with
  | given hw =>
      rw [closed_setPhase] at hclosed
      rw [running_setPhase] at hrun
      rw [phase?_setPhase]
      split
      · rename_i hij
        subst hij
        rw [phase?_eq hw]
        simp
      · exact h hclosed hrun j
  | passed => exact absurd ((closed_finish ..).symm.trans hclosed) Bool.false_ne_true
  | slept _ hbusy => exact absurd ((running_setPhase ..).symm.trans hrun) hbusy
  | ended => exact absurd ((closed_finish ..).symm.trans hclosed) Bool.false_ne_true

/-- No act leaves anybody asleep in front of a roster that is closed and empty. A worker that
empties a closed roster wakes all who sleep, and a wait that closes one finds somebody running or
opens it again. -/
theorem Heard.act (h : Heard r) (a : Act) : Heard (r.act a) := by
  cases a with
  | enter => exact fun _ hrun => absurd hrun (Nat.succ_ne_zero _)
  | leave =>
      rw [Roster.act]
      split
      · exact h
      · exact heard_leave r
  | addWait =>
      intro hclosed hrun i
      rw [Roster.act, addWait_eq, phase?_push]
      split
      · simp [Wait.fresh]
      · exact h hclosed hrun i
  | stepWait i =>
      rw [Roster.act]
      cases hstep : r.stepWait i with
      | none => exact h
      | some r' => exact h.stepWait hstep
  | abandon i =>
      intro hclosed hrun j
      rw [Roster.act, closed_abandon] at hclosed
      rw [Roster.act, running_abandon] at hrun
      rw [Roster.act, phase?_abandon]
      exact h hclosed hrun j
  | waitNow =>
      rw [Roster.act, waitNow_eq]
      exact fun hclosed => absurd hclosed Bool.false_ne_true

theorem heard_moment (acts : List Act) (n : Nat) : Heard (moment acts n) := by
  induction n with
  | zero => exact heard_empty
  | succ n ih =>
      rw [moment_succ]
      cases acts[n]? with
      | none => exact ih
      | some a => exact ih.act a

end Roster

end ChainWatch
