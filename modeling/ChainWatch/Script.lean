/-
Sessions step by step.

A script is a list of steps: what the caller does with contexts, registrations, handles
and waits, and what the server sends. `Session.perform` is the effect of one step and its
answer, and after every step the tasks run until none can move, unless the step holds
them back.
-/
import ChainWatch.Session

set_option autoImplicit false

namespace ChainWatch

/-- Frames of a stream of some kind. -/
inductive Frames where
  | epochs (frames : List (Frame BlockEpoch))
  | confirm (frames : List (Frame ConfirmEvent))
  | spend (frames : List (Frame SpendEvent))

inductive Step where
  /-- A context, on the token of another if one is named. -/
  | call (name : String) (source : Option String) (metadata : List TextEntry)
  | viewCall (name : String)
  | cancel (name : String)
  /-- A registration under a context, which may be cancelled while it is in progress, so many
  milliseconds after it began. -/
  | register (name callName : String) (order : Order) (cancelAfter : Option Nat)
  /-- The server sends frames, and may close the stream behind them. -/
  | feed (name : String) (frames : Frames) (close : Bool)
  /-- Asks so many times for the next height. -/
  | recv (name : String) (count : Nat)
  | split (name : String)
  /-- Looks once into each channel of a subscription that was split. -/
  | glance (name : String)
  /-- Looks for a single result. -/
  | tryResult (name : String)
  /-- Waits for a single result, which uses the handle up. -/
  | await (name : String)
  | drop (name : String)
  | dropClient
  /-- Waits for the workers to leave, no longer than it takes until nothing can move. -/
  | wait
  /-- Waits for the workers to leave, in the background. -/
  | startWait (name : String)
  | waitDone (name : String)
  | abandonWait (name : String)
  | settle

/-- The answer to a request for the next height. -/
abbrev Received : Type := Reply (Option (Except WatchError Int32))

inductive Answer where
  | done
  /-- What the step is about does not exist. -/
  | missing
  | flag (b : Bool)
  | view (v : CallView)
  | registered (r : Session.Registered Session.Seen)
  | received (answers : List Received)
  | split (hasReport : Bool)
  | glanced (height : EpochWatch.Glance Int32) (report : Option (EpochWatch.Glance WatchError))
  | confirm (result : Reply (Except WatchError Confirmation))
  | spend (result : Reply (Except WatchError Spend))

namespace Watch

/-- More frames for a stream, if they are of its kind. -/
def feed (frames : Frames) (close : Bool) (w : Watch) : Option Watch :=
  match w, frames with
  | epochs w, .epochs frames => some (.epochs { w with feed := w.feed.push frames close })
  | confirm w, .confirm frames => some (.confirm { w with feed := w.feed.push frames close })
  | spend w, .spend frames => some (.spend { w with feed := w.feed.push frames close })
  | _, _ => none

/-- Whether the caller has the heights as one sequence. -/
def isSequence : Watch → Bool
  | epochs w => w.handle = .stream
  | _ => false

/-- Asks a handle for the next height, if it is one for the sequence of them. -/
def recv? (cancelled : Bool) : Watch → Option (Watch × Received)
  | epochs w =>
      if w.handle = .stream then
        let (w, answer) := w.recv cancelled
        some (.epochs w, answer)
      else none
  | _ => none

/-- Splitting takes the handle. Only the sequence of heights comes back, as its channels;
any other handle is dropped. -/
def split : Watch → Watch × Answer
  | epochs w =>
      if w.handle = .stream then
        let (w, hasReport) := w.split
        (.epochs w, .split hasReport)
      else (.epochs w.drop, .missing)
  | w => (w.drop, .missing)

def glance? : Watch → Option (Watch × Answer)
  | epochs w =>
      if w.handle = .channels then
        let (w, height) := w.tryHeight
        let (w, report) := w.tryReport
        some (.epochs w, .glanced height report)
      else none
  | _ => none

def tryResult? : Watch → Option (Watch × Answer)
  | epochs _ => none
  | confirm w =>
      if w.held then
        let (w, result) := w.tryResult
        some (.confirm w, .confirm result)
      else none
  | spend w =>
      if w.held then
        let (w, result) := w.tryResult
        some (.spend w, .spend result)
      else none

def await? : Watch → Option (Watch × Answer)
  | epochs _ => none
  | confirm w =>
      if w.canAwait then
        let (w, result) := w.await
        some (.confirm w, .confirm result)
      else none
  | spend w =>
      if w.canAwait then
        let (w, result) := w.await
        some (.spend w, .spend result)
      else none

end Watch

namespace Session

/-- Does something with the subscription that has a name, if it can be done. -/
def onWatch {α : Type} (s : Session) (name : String) (f : Subscription → Option (Watch × α)) :
    Option (Session × α) :=
  match s.subNames.lookup name with
  | some i =>
      match s.subs[i]? with
      | some sub =>
          (f sub).map fun r => ({ s with subs := s.subs.set i { sub with watch := r.1 } }, r.2)
      | none => none
  | none => none

/-- What is done, or that there was nothing to do it with. -/
def orMissing (s : Session) : Option (Session × Answer) → Session × Answer
  | some r => r
  | none => (s, .missing)

/-- Queues the worker of a name, whether it can move or not. -/
def rouse (s : Session) (name : String) : Session :=
  match s.subNames.lookup name with
  | some i => if .worker i ∈ s.ready then s else { s with ready := s.ready ++ [.worker i] }
  | none => s

/-- Asks for the next height `n` times and lets the tasks run in between. -/
def recvMany (s : Session) (name : String) : Nat → Session × List Received
  | 0 => (s, [])
  | n + 1 =>
      match s.onWatch name fun sub => sub.watch.recv? (s.isCancelled sub.token) with
      | some (s, answer) =>
          if n = 0 then (s, [answer])
          else
            let (s, answers) := s.settle.recvMany name n
            (s, answer :: answers)
      | none => (s, [])

/-- Whether a name stands for a handle that gives the heights as one sequence. -/
def hasSequence (s : Session) (name : String) : Bool :=
  (s.onWatch name fun sub => if sub.watch.isSequence then some (sub.watch, ()) else none).isSome

/-- The effect of a step, and its answer. -/
def perform (s : Session) : Step → Session × Answer
  | .call name source metadata =>
      let book := match source with
        | none => s.book.create name
        | some source => s.book.derive name source fun c => .onToken c.token
      let fill (c : Call) : Call :=
        metadata.foldl (fun c entry => c.withMetadata entry.1 entry.2) c
      ({ s with book := book.derive name name fill }, .done)
  | .viewCall name =>
      match s.book.find? name with
      | some c => (s, .view (s.book.view c))
      | none => (s, .missing)
  | .cancel name =>
      match s.book.find? name with
      | some c => ({ s with book := s.book.cancel c }, .done)
      | none => (s, .missing)
  | .register name callName order cancelAfter =>
      match s.client, s.book.find? callName with
      | some client, some call =>
          let (s, r) := s.register client name call order (cancelAfter.map (· * 1000000))
          (s, .registered (r.map Incoming.seen))
      | _, _ => (s, .missing)
  | .feed name frames close =>
      match s.onWatch name fun sub => (sub.watch.feed frames close).map (·, Answer.done) with
      | some (s, answer) => (s.rouse name, answer)
      | none => (s, .missing)
  | .recv name count =>
      if s.hasSequence name then
        let (s, answers) := s.recvMany name count
        (s, .received answers)
      else (s, .missing)
  | .split name => s.orMissing (s.onWatch name fun sub => some sub.watch.split)
  | .glance name => s.orMissing (s.onWatch name fun sub => sub.watch.glance?)
  | .tryResult name => s.orMissing (s.onWatch name fun sub => sub.watch.tryResult?)
  | .await name => s.orMissing (s.onWatch name fun sub => sub.watch.await?)
  | .drop name =>
      match s.onWatch name fun sub =>
          if sub.watch.isHeld then some (sub.watch.drop, ()) else none with
      | some (s, ()) => (s, .flag true)
      | none => (s, .flag false)
  | .dropClient =>
      match s.client with
      | some _ => ({ s with client := none }, .done)
      | none => (s, .missing)
  | .wait =>
      match s.client with
      | some _ =>
          let s := s.settle
          let (roster, isOver) := s.roster.waitNow
          ({ s with roster }, .flag isOver)
      | none => (s, .missing)
  | .startWait name =>
      match s.client with
      | some _ =>
          ({ s with
              waitNames := (name, s.roster.waits.length) :: s.waitNames
              roster := s.roster.addWait
              ready := s.ready ++ [.wait s.roster.waits.length] }, .done)
      | none => (s, .missing)
  | .waitDone name =>
      match s.waitNames.lookup name with
      | some i => (s, .flag (s.roster.isOver i))
      | none => (s, .missing)
  | .abandonWait name =>
      match s.waitNames.lookup name with
      | some i => ({ s with roster := s.roster.abandon i }, .done)
      | none => (s, .missing)
  | .settle => (s, .done)

/-- A step, after which the tasks run unless they are held back. -/
def advance (s : Session) (step : Step) (settles : Bool) : Session × Answer :=
  let (s, answer) := s.perform step
  (if settles then s.settle else s.wake, answer)

end Session

end ChainWatch
