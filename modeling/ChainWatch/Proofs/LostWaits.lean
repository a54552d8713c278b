/-
Waits that are lost.

A wait that ends opens the roster for all. One that sleeps on relies on the roster being closed
when the last worker leaves, so another wait that returns, or is given up, before that takes the
wake-up away from it. `Reopened` says that this has happened, and `stranded_iff_reopened` that
nothing else keeps a wait asleep when nobody runs, and that any later wait brings it back.
-/
import Mathlib
import ChainWatch.Proofs.RosterRun
import ChainWatch.Gatehouse

set_option autoImplicit false

namespace ChainWatch

namespace Roster

variable {r r' : Roster} {i j : Nat}

/-! ## 1. Who sleeps on -/

theorem asleep_close (h : r.close.phase? i = some .asleep) : r.phase? i = some .asleep := by
  have hwaits := waits_close r
  split at hwaits
  · exact absurd h (phase?_ne_asleep_of_wake hwaits i)
  · rw [phase?, hwaits] at h
    exact h

/-- A wait that sleeps is not the one that has just ended. -/
theorem asleep_setPhase_over (h : (r.setPhase j .over).phase? i = some .asleep) :
    j ≠ i ∧ r.phase? i = some .asleep := by
  rw [phase?_setPhase] at h
  split at h
  · obtain ⟨-, -, hphase⟩ := Option.map_eq_some_iff.mp h
    cases hphase
  · rename_i hij
    exact ⟨hij, h⟩

theorem asleep_finish (h : (r.finish j).phase? i = some .asleep) :
    j ≠ i ∧ r.phase? i = some .asleep :=
  asleep_setPhase_over (r := r.reopen) h

theorem asleep_waitNow (h : r.waitNow.1.phase? i = some .asleep) :
    i ≠ r.waits.length ∧ r.phase? i = some .asleep := by
  have hlen : r.close.reopen.waits.length = r.waits.length := length_close r
  rw [waitNow_eq, phase?_push, hlen] at h
  split at h
  · cases h
  · rename_i hi
    exact ⟨hi, asleep_close h⟩

/-- A wait that is asleep was so before, or it has just closed the roster. -/
theorem asleep_act {a : Act} (h : (r.act a).phase? i = some .asleep) :
    r.phase? i = some .asleep ∨ (r.act a).closed = true := by
  cases a with
  | enter => exact Or.inl h
  | leave =>
      left
      rw [act] at h
      unfold leave at h
      dsimp only at h
      split at h
      · exact h
      · split at h
        · exact absurd h (phase?_ne_asleep_of_wake rfl i)
        · exact h
  | addWait =>
      left
      rw [act, addWait_eq, phase?_push] at h
      split at h
      · cases h
      · exact h
  | stepWait j =>
      rw [act] at h ⊢
      cases hstep : r.stepWait j with
      | none =>
          rw [hstep] at h
          exact Or.inl h
      | some r' =>
          rw [hstep, Option.getD_some] at h
          rw [Option.getD_some]
          cases turned_of_stepWait hstep with
          | given => exact Or.inl (asleep_setPhase_over h).2
          | passed => exact Or.inl (asleep_close (asleep_finish h).2)
          -- it has closed the roster with this very turn
          | slept => exact Or.inr (closed_setPhase ..)
          | ended => exact Or.inl (asleep_finish h).2
  | abandon j =>
      rw [act, phase?_abandon] at h
      exact Or.inl h
  | waitNow => exact Or.inl (asleep_waitNow h).2

/-! ## 2. Who opens a roster -/

theorem isOver_finish {w : Wait} (hw : r.waits[j]? = some w) : (r.finish j).isOver j = true := by
  have hreopen : r.reopen.phase? j = some w.phase := phase?_eq hw
  rw [isOver_iff, finish, phase?_setPhase, if_pos rfl, hreopen, Option.map_some]

theorem isOver_eq_false {w : Wait} (hw : r.waits[j]? = some w) (hphase : w.phase ≠ .over) :
    r.isOver j = false := by
  rw [← Bool.not_eq_true, isOver_iff, phase?_eq hw]
  exact fun hover => hphase (Option.some.inj hover)

theorem closed_leave (r : Roster) : r.leave.closed = r.closed := by
  unfold leave
  dsimp only
  split <;> rfl

/-- Only another wait that ends opens the roster over a wait that sleeps on. -/
theorem ended_of_opened {a : Act} (hclosed : r.closed = true) (hopen : (r.act a).closed = false)
    (hasleep : (r.act a).phase? i = some .asleep) :
    ∃ j, j ≠ i ∧ r.isOver j = false ∧ (r.act a).isOver j = true := by
  cases a with
  | enter => exact absurd (hopen.symm.trans hclosed) Bool.false_ne_true
  | leave =>
      rw [act] at hopen
      split at hopen
      · exact absurd (hopen.symm.trans hclosed) Bool.false_ne_true
      · exact absurd (hopen.symm.trans ((closed_leave r).trans hclosed)) Bool.false_ne_true
  | addWait => exact absurd (hopen.symm.trans hclosed) Bool.false_ne_true
  | stepWait j =>
      rw [act] at hopen hasleep ⊢
      cases hstep : r.stepWait j with
      | none =>
          rw [hstep] at hopen
          exact absurd (hopen.symm.trans hclosed) Bool.false_ne_true
      | some r' =>
          rw [hstep, Option.getD_some] at hopen hasleep
          rw [Option.getD_some]
          refine ⟨j, ?_⟩
          cases turned_of_stepWait hstep with
          | given =>
              rw [closed_setPhase] at hopen
              exact absurd (hopen.symm.trans hclosed) Bool.false_ne_true
          | passed hw =>
              obtain ⟨w, hw', -⟩ := getElem?_close hw
              exact ⟨(asleep_finish hasleep).1, isOver_eq_false hw (by simp), isOver_finish hw'⟩
          | slept =>
              rw [closed_setPhase] at hopen
              exact Bool.noConfusion hopen
          | ended hw hphase =>
              refine ⟨(asleep_finish hasleep).1, isOver_eq_false hw ?_, isOver_finish hw⟩
              rcases hphase with hphase | ⟨hphase, -⟩
              · simp [hphase]
              · simp [hphase]
  | abandon j =>
      rw [act, closed_abandon] at hopen
      exact absurd (hopen.symm.trans hclosed) Bool.false_ne_true
  | waitNow =>
      refine ⟨r.waits.length, (asleep_waitNow hasleep).1.symm, ?_, ?_⟩
      · rw [isOver, List.getElem?_eq_none (Nat.le_refl _)]
      · have hlen : r.close.reopen.waits.length = r.waits.length := length_close r
        rw [isOver_iff, act, waitNow_eq, phase?_push, hlen, if_pos rfl]

/-! ## 3. Since when a wait is lost -/

/-- Act number `m` ends another wait while this one sleeps and some worker runs. -/
structure Reopened (acts : List Act) (i m : Nat) : Prop where
  asleep : (moment acts m).phase? i = some .asleep
  busy : (moment acts m).running ≠ 0
  ended : ∃ j, j ≠ i ∧ (moment acts m).isOver j = false ∧ (moment acts (m + 1)).isOver j = true

/-- Ever since another wait ended over it, a wait has slept on and nobody has closed the roster. -/
def Stranded (acts : List Act) (i n : Nat) : Prop :=
  ∃ m, m < n ∧ Reopened acts i m
    ∧ ∀ k, m < k → k ≤ n → (moment acts k).phase? i = some .asleep ∧ (moment acts k).closed = false

/-- A wait that sleeps before an open roster is one over which another wait has ended. -/
theorem stranded_of_open (acts : List Act) (i n : Nat)
    (hasleep : (moment acts n).phase? i = some .asleep) (hopen : (moment acts n).closed = false) :
    Stranded acts i n := by
  induction n with
  | zero => cases hasleep
  | succ n ih =>
      have hnext := moment_succ acts n
      -- how it was before the last act decides: open already, or opened by it
      have hbefore : (moment acts n).phase? i = some .asleep := by
        cases ha : acts[n]? with
        | none =>
            rw [ha, Option.elim_none] at hnext
            rw [← hnext]
            exact hasleep
        | some a =>
            rw [ha, Option.elim_some] at hnext
            rw [hnext] at hasleep hopen
            apply (asleep_act hasleep).resolve_right
            rw [hopen]
            exact Bool.false_ne_true
      cases hclosed : (moment acts n).closed with
      | false =>
          obtain ⟨m, hm, hreopened, hsince⟩ := ih hbefore hclosed
          refine ⟨m, by omega, hreopened, ?_⟩
          intro k hk hkn
          by_cases hlast : k = n + 1
          · rw [hlast]
            exact ⟨hasleep, hopen⟩
          · exact hsince k hk (by omega)
      | true =>
          refine ⟨n, by omega, ⟨hbefore, ?_, ?_⟩, ?_⟩
          · exact fun hidle => heard_moment acts n hclosed hidle i hbefore
          · cases ha : acts[n]? with
            | none =>
                rw [ha, Option.elim_none] at hnext
                rw [hnext, hclosed] at hopen
                cases hopen
            | some a =>
                rw [ha, Option.elim_some] at hnext
                rw [hnext] at hasleep hopen ⊢
                exact ended_of_opened hclosed hopen hasleep
          · intro k hk hkn
            have hlast : k = n + 1 := by omega
            rw [hlast]
            exact ⟨hasleep, hopen⟩

/-! ## 4. Waits when nobody runs -/

theorem stepWait_woken (h : r.phase? i = some .woken) : r.stepWait i = some (r.finish i) := by
  obtain ⟨⟨phase, abandoned⟩, hw, rfl⟩ := Option.map_eq_some_iff.mp h
  rw [stepWait, hw]

/-- A wait that is not over cannot move only if it sleeps and has no reason to end. -/
theorem stepWait_eq_none_iff {w : Wait} (hw : r.waits[i]? = some w) (hpending : w.phase ≠ .over) :
    r.stepWait i = none
      ↔ w.phase = .asleep ∧ w.abandoned = false ∧ ¬ (r.closed = true ∧ r.running = 0) := by
  obtain ⟨phase, abandoned⟩ := w
  rw [stepWait, hw]
  cases phase with
  | fresh => cases abandoned <;> by_cases hrun : r.running = 0 <;> simp [hrun]
  | asleep => cases abandoned <;> simp
  | woken => simp
  | _ => exact absurd rfl hpending

/-- Where nobody runs, a wait that can move ends. -/
theorem isOver_of_stepWait (hrun : r.running = 0) (h : r.stepWait i = some r') :
    r'.isOver i = true := by
  cases turned_of_stepWait h with
  | given hw => rw [isOver_iff, phase?_setPhase, if_pos rfl, phase?_eq hw, Option.map_some]
  | passed hw =>
      obtain ⟨w, hw', -⟩ := getElem?_close hw
      exact isOver_finish hw'
  | slept _ hbusy => exact absurd hrun hbusy
  | ended hw => exact isOver_finish hw

/-- A wait that finds a roster open and empty wakes all that sleep there. -/
theorem woken_waitNow (hrun : r.running = 0) (hopen : r.closed = false)
    (h : r.phase? i = some .asleep) : r.waitNow.1.phase? i = some .woken := by
  have hlen : r.close.reopen.waits.length = r.waits.length := length_close r
  obtain ⟨w, hw, hphase⟩ := Option.map_eq_some_iff.mp h
  have hlt : i < r.waits.length := (List.getElem?_eq_some_iff.mp hw).1
  have hclose : r.close.waits = r.waits.map Wait.wake := by
    rw [waits_close, if_pos ⟨hrun, hopen⟩]
  rw [waitNow_eq, phase?_push, hlen, if_neg (by omega)]
  show r.close.waits[i]?.map Wait.phase = some .woken
  rw [hclose, List.getElem?_map, hw, Option.map_some, Option.map_some, Wait.phase_wake,
    if_pos hphase]

/-- When nobody runs, a wait that is not over ends with its next turn, with one exception: it was
not given up, and another wait has ended over it while it slept and some worker ran. Such a wait
sleeps on until a later wait finds the roster empty, which wakes it. -/
theorem stranded_iff_reopened (acts : List Act) (i : Nat) (w : Wait)
    (hrun : (empty.follow acts).running = 0) (hw : (empty.follow acts).waits[i]? = some w)
    (hpending : w.phase ≠ .over) :
    let r := empty.follow acts
    (r.stepWait i = none ↔ w.abandoned = false ∧ Stranded acts i acts.length)
    ∧ (∀ r', r.stepWait i = some r' → r'.isOver i = true)
    ∧ (r.stepWait i = none → ∃ r', (r.act .waitNow).stepWait i = some r' ∧ r'.isOver i = true) := by
  intro r
  have hend : moment acts acts.length = r := by rw [moment, List.take_length]
  have hheard : Heard r := by
    rw [← hend]
    exact heard_moment acts acts.length
  have hphase := phase?_eq hw
  -- a roster that is closed and empty would have woken it
  have hopen (hasleep : w.phase = .asleep) : r.closed = false := by
    rw [← Bool.not_eq_true]
    intro hclosed
    exact hheard hclosed hrun i (hphase.trans (congrArg some hasleep))
  have hnone := stepWait_eq_none_iff hw hpending
  refine ⟨⟨?_, ?_⟩, fun r' => isOver_of_stepWait hrun, ?_⟩
  · intro hstuck
    obtain ⟨hasleep, hgiven, -⟩ := hnone.mp hstuck
    refine ⟨hgiven, stranded_of_open acts i acts.length ?_ ?_⟩
    · rw [hend, hphase, hasleep]
    · rw [hend]
      exact hopen hasleep
  · rintro ⟨hgiven, m, hm, -, hsince⟩
    obtain ⟨hasleep, hclosed⟩ := hsince acts.length hm (Nat.le_refl _)
    rw [hend] at hasleep hclosed
    refine hnone.mpr ⟨?_, hgiven, ?_⟩
    · exact Option.some.inj (hphase.symm.trans hasleep)
    · rintro ⟨hclosed', -⟩
      exact absurd (hclosed.symm.trans hclosed') Bool.false_ne_true
  · intro hstuck
    obtain ⟨hasleep, -⟩ := hnone.mp hstuck
    have hwoken : (r.act .waitNow).phase? i = some .woken :=
      woken_waitNow hrun (hopen hasleep) (hphase.trans (congrArg some hasleep))
    have hidle : (r.act .waitNow).running = 0 := (running_waitNow r).trans hrun
    have hstep := stepWait_woken hwoken
    exact ⟨_, hstep, isOver_of_stepWait hidle hstep⟩

/-- A wait sleeps, a second one is given up, and then the only worker leaves. -/
def givenUpBeside : List Act := [.enter, .addWait, .stepWait 0, .waitNow, .leave]

theorem stranded_iff_reopened_given_up :
    (empty.follow givenUpBeside).running = 0
    ∧ (empty.follow givenUpBeside).waits[0]? = some ⟨.asleep, false⟩
    ∧ Stranded givenUpBeside 0 givenUpBeside.length := by
  have hnone : (empty.follow givenUpBeside).stepWait 0 = none := rfl
  obtain ⟨hstuck, -, -⟩ :=
    stranded_iff_reopened givenUpBeside 0 ⟨.asleep, false⟩ rfl rfl (by decide)
  exact ⟨rfl, rfl, (hstuck.mp hnone).2⟩

/-- A wait is woken and has not run yet when a worker starts and a second wait begins. The first
one returns, and then the worker leaves. -/
def returnedBeside : List Act :=
  [.enter, .addWait, .stepWait 0, .leave, .enter, .addWait, .stepWait 1, .stepWait 0, .leave]

/-- A wait in the background, one in the foreground whose time runs out, and then the only worker
leaves. -/
def timedOutBeside : List GateStep := [.spawn "a", .startWait "w", .wait, .release "a"]

/-- Nobody runs, and a wait that nobody gave up is asleep and cannot move: once beside a wait that
was given up, once beside one that returned. The first also comes of a script that lets all tasks
run after each step. -/
theorem wait_stranded_beside_another :
    ((empty.follow givenUpBeside).running = 0
      ∧ (empty.follow givenUpBeside).waits[0]? = some ⟨.asleep, false⟩
      ∧ (empty.follow givenUpBeside).stepWait 0 = none)
    ∧ ((empty.follow returnedBeside).running = 0
      ∧ (empty.follow returnedBeside).waits[1]? = some ⟨.asleep, false⟩
      ∧ (empty.follow returnedBeside).stepWait 1 = none)
    ∧ let g := timedOutBeside.foldl (fun g step => (g.advance step true).1) Gatehouse.empty
      g.roster.running = 0 ∧ g.waitsEnded = [("w", false)] := by
  refine ⟨by decide, by decide, ?_⟩
  cbv

end Roster

end ChainWatch
