/-
Counting workers, and waiting until all of them have left.

A roster counts the workers that are running and can be closed. A wait closes it and is
over as soon as the roster is closed and empty; the moment at which it becomes so wakes
every wait that is asleep. A wait that ends, or is given up, opens the roster again, also
for the other waits: one of them that was not woken before then stays asleep until a
later wait closes the empty roster.

The count and the closed bit follow the task tracker of `tokio-util` (0.7) as it documents
them: `leave` is the drop of a worker's token, `close` and `reopen` are its own, and a wait is
over once the tracker is closed and empty, or once it was told that it has been so. The guard
that reopens after a wait is the client's.
-/
import ChainWatch.RunQueue
import ChainWatch.Total

set_option autoImplicit false

namespace ChainWatch

/-- How far a wait has come. -/
inductive WaitPhase where
  /-- It has not run yet. -/
  | fresh
  /-- It has closed the roster and sleeps. -/
  | asleep
  /-- It was woken and will be over when it runs. -/
  | woken
  | over
  deriving DecidableEq, Repr

/-- One wait. A wait that was given up is over when it next runs, whatever it waits for. -/
structure Wait where
  phase : WaitPhase
  abandoned : Bool
  deriving DecidableEq, Repr

/-- What is run around a roster: a worker or a wait, each by its index. -/
inductive Task where
  | worker (index : Nat)
  | wait (index : Nat)
  deriving DecidableEq, Repr

structure Roster where
  /-- The workers that have not left. -/
  running : Nat
  closed : Bool
  waits : List Wait
  deriving DecidableEq, Repr

namespace Wait

def fresh : Wait := ⟨.fresh, false⟩

/-- A sleeping wait is woken; the others are not affected. -/
def wake (w : Wait) : Wait := if w.phase = .asleep then { w with phase := .woken } else w

/-- The turns a wait can still take. -/
def work (w : Wait) : Nat :=
  match w.phase with
  | .fresh => 2
  | .asleep | .woken => 1
  | .over => 0

theorem work_wake (w : Wait) : w.wake.work = w.work := by
  unfold wake
  split
  · rename_i h
    simp only [work, h]
  · rfl

end Wait

namespace Roster

def empty : Roster := ⟨0, false, []⟩

/-- Wakes every wait that is asleep. -/
def wakeAll (r : Roster) : Roster := { r with waits := r.waits.map Wait.wake }

/-- A worker starts. -/
def enter (r : Roster) : Roster := { r with running := r.running + 1 }

/-- A worker leaves; the last one to leave a closed roster wakes the waits. -/
def leave (r : Roster) : Roster :=
  let r := { r with running := r.running - 1 }
  if r.running = 0 && r.closed then r.wakeAll else r

/-- Closes the roster; closing an empty one that was open wakes the waits. -/
def close (r : Roster) : Roster :=
  -- an empty roster that is closed already has woken its waits before
  let woken := if r.running = 0 && !r.closed then r.wakeAll else r
  { woken with closed := true }

/-- Opens the roster and wakes nobody. -/
def reopen (r : Roster) : Roster := { r with closed := false }

/-- Adds a wait that has not run yet, at the next index. -/
def addWait (r : Roster) : Roster := { r with waits := r.waits ++ [.fresh] }

/-- Gives a wait up. -/
def abandon (r : Roster) (i : Nat) : Roster :=
  match r.waits[i]? with
  | some w => { r with waits := r.waits.set i { w with abandoned := true } }
  | none => r

/-- Whether a wait has ended, in whatever way. -/
def isOver (r : Roster) (i : Nat) : Bool :=
  match r.waits[i]? with
  | some w => w.phase = .over
  | none => false

/-- Moves a wait to another phase. -/
def setPhase (r : Roster) (i : Nat) (phase : WaitPhase) : Roster :=
  match r.waits[i]? with
  | some w => { r with waits := r.waits.set i { w with phase } }
  | none => r

/-- Ends a wait that had closed the roster. -/
def finish (r : Roster) (i : Nat) : Roster := r.reopen.setPhase i .over

/-- One turn of a wait; none if it is over or has to sleep on. A wait that was given up
before its first turn never closed the roster and does not open it either. -/
def stepWait (r : Roster) (i : Nat) : Option Roster :=
  match r.waits[i]? with
  | none => none
  | some w =>
      match w.phase with
      | .over => none
      | .fresh =>
          if w.abandoned then some (r.setPhase i .over)
          else if r.running = 0 then some (r.close.finish i)
          else some (r.close.setPhase i .asleep)
      | .asleep =>
          -- a turn without a wake-up still sees the roster as it is by then
          if w.abandoned || (r.closed && r.running == 0) then some (r.finish i) else none
      | .woken => some (r.finish i)

/-- A wait that is not given time to sleep: it has its first turn, and if it is not over
then it is given up at once. Says whether it was over. -/
def waitNow (r : Roster) : Roster × Bool :=
  let i := r.waits.length
  let turned := (r.addWait.stepWait i).getD r.addWait
  if turned.isOver i then (turned, true)
  else
    let given := turned.abandon i
    ((given.stepWait i).getD given, false)

/-- The turns that all waits can still take. -/
def work (r : Roster) : Nat := total Wait.work r.waits

theorem work_wakeAll (r : Roster) : r.wakeAll.work = r.work := by
  simp only [work, wakeAll, total_map, Wait.work_wake]

theorem work_close (r : Roster) : r.close.work = r.work := by
  unfold close
  split
  · exact work_wakeAll r
  · rfl

theorem work_leave (r : Roster) : r.leave.work = r.work := by
  unfold leave
  dsimp only
  split
  · exact work_wakeAll _
  · rfl

theorem getElem?_close {r : Roster} {i : Nat} {w : Wait} (h : r.waits[i]? = some w) :
    ∃ w', r.close.waits[i]? = some w' ∧ w'.work = w.work := by
  unfold close
  split
  · refine ⟨w.wake, ?_, Wait.work_wake w⟩
    simp only [wakeAll, List.getElem?_map, h, Option.map_some]
  · exact ⟨w, h, rfl⟩

theorem work_setPhase_lt {r : Roster} {i : Nat} {w : Wait} {phase : WaitPhase}
    (h : r.waits[i]? = some w) (hlt : (Wait.mk phase w.abandoned).work < w.work) :
    (r.setPhase i phase).work < r.work := by
  have hsum := total_set Wait.work (b := { w with phase }) h
  simp only [setPhase, h, work]
  omega

/-- A turn leaves one turn less to take. -/
theorem work_stepWait {r r' : Roster} {i : Nat} (h : r.stepWait i = some r') :
    r'.work < r.work := by
  unfold stepWait at h
  split at h
  · cases h
  · rename_i w hw
    split at h
    · cases h
    · rename_i hphase
      obtain ⟨w', hw', hwork'⟩ := getElem?_close hw
      have hwork : w.work = 2 := by simp only [Wait.work, hphase]
      split at h
      · cases h
        exact work_setPhase_lt hw (by rw [hwork]; simp [Wait.work])
      · split at h
        · cases h
          rw [← work_close r]
          exact work_setPhase_lt (r := r.close.reopen) hw' (by rw [hwork', hwork]; simp [Wait.work])
        · cases h
          rw [← work_close r]
          exact work_setPhase_lt hw' (by rw [hwork', hwork]; simp [Wait.work])
    · rename_i hphase
      have hwork : w.work = 1 := by simp only [Wait.work, hphase]
      split at h
      · cases h
        exact work_setPhase_lt (r := r.reopen) hw (by rw [hwork]; simp [Wait.work])
      · cases h
    · rename_i hphase
      have hwork : w.work = 1 := by simp only [Wait.work, hphase]
      cases h
      exact work_setPhase_lt (r := r.reopen) hw (by rw [hwork]; simp [Wait.work])

end Roster

end ChainWatch
