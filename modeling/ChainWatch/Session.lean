/-
A client at work.

A session is one client with everything around it: the contexts its calls are made
under, the subscriptions that were registered, the roster that counts their workers, and
the log. Subscriptions, contexts and background waits have names; a name that is used
again stands for the newest.

Workers and waits are tasks (`system`). They run when a session settles; until then a
task that could move keeps its place in the queue `ready`. All that have had a turn stand in
`line`, in the order in which they began to wait, which is the order in which a cancellation
reaches them. Every step of a worker goes through `stepWorker`, which is also where the
roster learns that the worker has left.
-/
import ChainWatch.Registration
import ChainWatch.Roster
import ChainWatch.Settings

set_option autoImplicit false

namespace ChainWatch

/-! ## 1. The state -/

/-- A client: its credential, and how long a stream may take to open. -/
structure Client where
  macaroon : Macaroon
  timeout : Span
  deriving DecidableEq

/-- A client with the timeout of the settings. -/
def Client.ofSettings (macaroon : Macaroon) (s : Settings) : Client := ⟨macaroon, s.rpcTimeout⟩

/-- A subscription and the token its call is cancelled by. -/
structure Subscription where
  token : Token
  watch : Watch

structure Session where
  /-- The client, until it is dropped. -/
  client : Option Client
  book : CallBook
  /-- Every subscription that was ever started, in order. -/
  subs : List Subscription
  roster : Roster
  subNames : List (String × Nat)
  waitNames : List (String × Nat)
  /-- The tasks whose turn it is, in that order. -/
  ready : List Task
  line : Line Task
  log : List Log.Event

namespace Session

/-- A client that has done nothing yet. -/
def start (client : Client) : Session := ⟨some client, .empty, [], .empty, [], [], [], [], []⟩

def isCancelled (s : Session) (token : Token) : Bool := s.book.tokens.isCancelled token

/-! ## 2. Its tasks -/

def tasks (s : Session) : List Task :=
  (List.range s.subs.length).map .worker ++ (List.range s.roster.waits.length).map .wait

/-- The session after a worker has moved. -/
def applyMove (s : Session) (i : Nat) (sub : Subscription) (m : Move Watch) : Session :=
  { s with
    subs := s.subs.set i { sub with watch := m.watch }
    book :=
      if m.cancels then { s.book with tokens := s.book.tokens.cancel sub.token } else s.book
    roster := if m.watch.isLive then s.roster else s.roster.leave
    log := s.log ++ m.log }

/-- One step of a worker. -/
def stepWorker (s : Session) (i : Nat) : Option Session :=
  match s.subs[i]? with
  | some sub => (sub.watch.step (s.isCancelled sub.token)).map (s.applyMove i sub)
  | none => none

/-- One step of a task. -/
def step (s : Session) : Task → Option Session
  | .worker i => s.stepWorker i
  | .wait i => (s.roster.stepWait i).map fun roster => { s with roster }

def work (s : Session) : Nat := total (fun sub => sub.watch.work) s.subs + s.roster.work

theorem work_step {s s' : Session} {t : Task} (h : s.step t = some s') : s'.work < s.work := by
  cases t with
  | worker i =>
      simp only [step, stepWorker] at h
      split at h
      · rename_i sub hi
        simp only [Option.map_eq_some_iff] at h
        obtain ⟨m, hm, rfl⟩ := h
        have hlt := Watch.work_step hm
        -- one watch has less to do, the others and the waits have as much as before
        have hsum := total_set (fun sub : Subscription => sub.watch.work)
          (b := { sub with watch := m.watch }) hi
        have hroster : (s.applyMove i sub m).roster.work = s.roster.work := by
          simp only [applyMove]
          split
          · rfl
          · exact s.roster.work_leave
        simp only [work, hroster]
        simp only [applyMove]
        dsimp only at hsum
        omega
      · cases h
  | wait i =>
      simp only [step, Option.map_eq_some_iff] at h
      obtain ⟨roster, hr, rfl⟩ := h
      have := Roster.work_stepWait hr
      simp only [work]
      omega

/-- Whether the stream of a worker waits for the cancellation of its call. It waits for it
only once, so that is the place of the worker from then on. A worker that itself looks out
for the cancellation does so anew whenever it has moved. -/
def keepsPlace (s : Session) : Task → Bool
  | .worker i =>
      match s.subs[i]? with
      | some sub => sub.watch.awaitsCancel
      | none => false
  | .wait _ => false

/-- Workers and waits as tasks on a shared session. -/
def system : System Session Task where
  tasks := tasks
  step := step
  keepsPlace := keepsPlace
  work := work
  work_step := work_step

/-- Runs the tasks until none can move. -/
def settle (s : Session) : Session :=
  let (line, s) := system.settle s.ready s.line s
  { s with ready := [], line }

/-- Queues the tasks that have become able to move. -/
def wake (s : Session) : Session := { s with ready := system.wake s.ready s.line s }

/-! ## 3. Registrations -/

/-- What reaches the service when its method is started. -/
structure Incoming where
  request : Request
  /-- The context that the service is given for the call. -/
  call : Call
  /-- Whether that is cancelled when the method starts. -/
  cancelled : Bool
  deriving DecidableEq

/-- What can be seen of a call that has reached the service. Which token it is on cannot. -/
structure Seen where
  request : Request
  view : CallView
  deriving DecidableEq

def Incoming.seen (incoming : Incoming) : Seen :=
  ⟨incoming.request, incoming.cancelled, incoming.call.metadata⟩

/-- What a registration comes to, with what has reached the service. -/
inductive Registered (σ : Type) where
  | started (incoming : σ)
  /-- Nothing has reached the service if its method was not started. -/
  | refused (incoming : Option σ) (cause : WatchError)
  deriving DecidableEq

def Registered.map {σ τ : Type} (f : σ → τ) : Registered σ → Registered τ
  | started incoming => .started (f incoming)
  | refused incoming cause => .refused (incoming.map f) cause

/-- The service is given a context for a call that was ordered. -/
def incoming (s : Session) (call : Call) (order : Order) : Incoming :=
  ⟨order.request, call, s.isCancelled call.token⟩

/-- A registration fails: nothing is left of it but a line in the log. -/
def refuse (s : Session) (kind : WatchKind) (incoming : Option Incoming) (cause : LinkError) :
    Session × Registered Incoming :=
  ({ s with log := s.log ++ [⟨.warn, .client, "failed to open notification stream",
      [("kind", .text kind.text), ("error", .shown cause.message)]⟩] },
    .refused incoming (.setup cause))

/-- Drops the handle of the subscription that has a name, if there is one. -/
def dropNamed (s : Session) (name : String) : Session :=
  match s.subNames.lookup name with
  | some i =>
      match s.subs[i]? with
      | some sub => { s with subs := s.subs.set i { sub with watch := sub.watch.drop } }
      | none => s
  | none => s

/-- Starts the worker of a subscription, which is due for its first turn. A handle that had
the name before is dropped. -/
def spawn (s : Session) (name : String) (token : Token) (kind : WatchKind) (watch : Watch) :
    Session :=
  -- the name stands for the new subscription from here on, so nobody has the old handle
  let s := s.dropNamed name
  let roster := s.roster.enter
  { s with
    subs := s.subs ++ [⟨token, watch⟩]
    roster
    subNames := (name, s.subs.length) :: s.subNames
    ready := s.ready ++ [.worker s.subs.length]
    log := s.log ++ [⟨.trace, .tracker, "worker spawned",
      [("kind", .text kind.text), ("active", .number roster.running)]⟩] }

/-- The service answers a call. The stream that it opens is on the token of the context that the
service was given. -/
def answered (s : Session) (name : String) (order : Order) (incoming : Incoming) :
    Session × Registered Incoming :=
  match order.answer with
  | .ok watch =>
      let s := s.spawn name incoming.call.token order.kind watch
      ({ s with log := s.log ++ [order.registered] }, .started incoming)
  | .error cause => s.refuse order.kind (some incoming) cause

/-- Registers a subscription under a name. A context that is cancelled already keeps the
service from being called at all. The service is given a copy of the context with the credential
of the client. Unless the matter is decided at once the tasks run meanwhile, and the cancellation
one of them may cause is noticed before anything that comes later. A cancellation by the
caller, `cancelAfter` nanoseconds from the start, reaches them first and the registration after
them. -/
def register (s : Session) (client : Client) (name : String) (call : Call) (order : Order)
    (cancelAfter : Option Nat) : Session × Registered Incoming :=
  if s.isCancelled call.token then s.refuse order.kind none .cancelled
  else
    let incoming := s.incoming (call.withAuth client.macaroon) order
    let s := if Registration.isImmediate client.timeout order.pace then s else s.settle
    if s.isCancelled call.token then s.refuse order.kind (some incoming) .cancelled
    else
      match Registration.first client.timeout cancelAfter order.pace with
      | .answer => s.answered name order incoming
      | .cancellation =>
          { s with book := s.book.cancel call }.settle.refuse order.kind (some incoming) .cancelled
      | .timeout => s.refuse order.kind (some incoming) (.timeout client.timeout.wholeMillis)

/-- The kind of the subscription that has a name. -/
def kind? (s : Session) (name : String) : Option WatchKind :=
  match s.subNames.lookup name with
  | some i => s.subs[i]?.map fun sub => sub.watch.kind
  | none => none

/-- The number of workers that have not left. -/
def active (s : Session) : Nat := s.roster.running

end Session

end ChainWatch
