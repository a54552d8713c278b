/-
A roster on its own, with workers that stop at gates.

Each worker here waits for its gate to open and then leaves, whatever it was that opened
the gate: a signal, the loss of the signal, or a failure of the worker itself. That is
all a roster ever sees of a worker, so this is the place to watch one closely. Workers
and waits have names; the newest of a name is meant.
-/
import ChainWatch.Roster

set_option autoImplicit false

namespace ChainWatch

/-- How far a worker has come. -/
inductive GatePhase where
  | shut
  | opened
  | left
  deriving DecidableEq, Repr

structure Gatehouse where
  gates : List GatePhase
  roster : Roster
  gateNames : List (String × Nat)
  waitNames : List (String × Nat)
  /-- The tasks whose turn it is, in that order. -/
  ready : List Task
  deriving DecidableEq

/-- What happens at a gatehouse. -/
inductive GateStep where
  /-- A worker starts and waits at the gate of this name. -/
  | spawn (name : String)
  /-- A worker starts whose gate is open. -/
  | spawnDone
  /-- The gate opens. -/
  | release (name : String)
  /-- A wait that lasts until nothing else can move. -/
  | wait
  /-- A wait that goes on in the background. -/
  | startWait (name : String)
  | abandonWait (name : String)
  | settle

namespace GatePhase

def work : GatePhase → Nat
  | shut | opened => 1
  | left => 0

end GatePhase

namespace Gatehouse

def empty : Gatehouse := ⟨[], .empty, [], [], []⟩

/-! ## 1. Its tasks -/

def tasks (g : Gatehouse) : List Task :=
  (List.range g.gates.length).map .worker ++ (List.range g.roster.waits.length).map .wait

/-- One turn of a task: a worker leaves once its gate is open. -/
def step (g : Gatehouse) : Task → Option Gatehouse
  | .worker i =>
      match g.gates[i]? with
      | some .opened => some { g with gates := g.gates.set i .left, roster := g.roster.leave }
      | _ => none
  | .wait i => (g.roster.stepWait i).map fun roster => { g with roster }

def work (g : Gatehouse) : Nat := total GatePhase.work g.gates + g.roster.work

theorem work_step {g g' : Gatehouse} {t : Task} (h : g.step t = some g') : g'.work < g.work := by
  cases t with
  | worker i =>
      simp only [step] at h
      split at h
      · rename_i hi
        cases h
        have hsum := total_set GatePhase.work (b := .left) hi
        have hroster := g.roster.work_leave
        simp only [GatePhase.work] at hsum
        simp only [work]
        omega
      · cases h
  | wait i =>
      simp only [step, Option.map_eq_some_iff] at h
      obtain ⟨roster, hr, rfl⟩ := h
      have := Roster.work_stepWait hr
      simp only [work]
      omega

/-- Workers and waits as tasks on a shared gatehouse. Nothing shows which of several that
wait began to do so first, so the line of the waiting is not kept. -/
def system : System Gatehouse Task where
  tasks := tasks
  step := step
  keepsPlace := fun _ _ => false
  work := work
  work_step := work_step

/-- Runs the tasks until none can move. -/
def settle (g : Gatehouse) : Gatehouse := { (system.settle g.ready [] g).2 with ready := [] }

/-- Queues the tasks that have become able to move. -/
def wake (g : Gatehouse) : Gatehouse := { g with ready := system.wake g.ready [] g }

/-! ## 2. Its steps -/

/-- Starts a worker, which is due for its first turn. -/
def spawn (g : Gatehouse) (phase : GatePhase) : Gatehouse :=
  { g with
    gates := g.gates ++ [phase]
    roster := g.roster.enter
    ready := g.ready ++ [.worker g.gates.length] }

/-- Opens a gate that is shut. -/
def openGate (g : Gatehouse) (i : Nat) : Gatehouse :=
  match g.gates[i]? with
  | some .shut => { g with gates := g.gates.set i .opened }
  | _ => g

/-- The gatehouse after a step, and for a wait in the foreground whether it was over. -/
def perform (g : Gatehouse) : GateStep → Gatehouse × Option Bool
  | .spawn name =>
      ({ g.spawn .shut with gateNames := (name, g.gates.length) :: g.gateNames }, none)
  | .spawnDone => (g.spawn .opened, none)
  | .release name =>
      match g.gateNames.lookup name with
      | some i => (g.openGate i, none)
      | none => (g, none)
  | .wait =>
      let g := g.settle
      let (roster, isOver) := g.roster.waitNow
      ({ g with roster }, some isOver)
  | .startWait name =>
      ({ g with
          waitNames :=
            (name, g.roster.waits.length) :: g.waitNames.filter fun entry => entry.1 != name
          roster := g.roster.addWait
          ready := g.ready ++ [.wait g.roster.waits.length] }, none)
  | .abandonWait name =>
      match g.waitNames.lookup name with
      | some i => ({ g with roster := g.roster.abandon i }, none)
      | none => (g, none)
  | .settle => (g, none)

/-- A step, after which the tasks run unless they are held back. -/
def advance (g : Gatehouse) (s : GateStep) (settles : Bool) : Gatehouse × Option Bool :=
  let (g, answer) := g.perform s
  (if settles then g.settle else g.wake, answer)

/-- Every name of a background wait with whether that wait has ended. -/
def waitsEnded (g : Gatehouse) : List (String × Bool) :=
  g.waitNames.map fun entry => (entry.1, g.roster.isOver entry.2)

end Gatehouse

end ChainWatch
