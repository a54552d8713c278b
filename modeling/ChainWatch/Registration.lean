/-
Opening a stream.

A registration asks the service for a stream and is decided by whichever comes first: the
answer of the service, the cancellation of the caller's context, or the timeout. `Order` is
what the caller asks for, `Reaction` how the service takes it; `first` says who decides.
-/
import ChainWatch.Call
import ChainWatch.ResultWatch
import ChainWatch.Span

set_option autoImplicit false

namespace ChainWatch

/-! ## 1. Who decides -/

/-- How long the service takes to answer. -/
inductive Pace where
  /-- So many nanoseconds, which may be none. -/
  | delayed (nanos : Nat)
  | never
  deriving DecidableEq, Repr

/-- So many milliseconds. -/
def Pace.after (ms : Nat) : Pace := .delayed (ms * 1000000)

/-- What decides a registration that was not cancelled beforehand. -/
inductive Decider where
  | answer
  | cancellation
  | timeout
  deriving DecidableEq, Repr

namespace Registration

/-- The moment of the answer, in nanoseconds, if it comes. -/
def answerAt : Pace → Option Nat
  | .delayed nanos => some nanos
  | .never => none

/-- Whether a registration is decided where it starts, so that nothing else can move before
it is: by an answer that takes no time, or by a timeout that leaves none. -/
def isImmediate (timeout : Span) (pace : Pace) : Bool :=
  answerAt pace = some 0 || timeout.totalNanos = 0

/-- The sooner of two moments, the first one if they are the same. -/
def sooner (a b : Nat × Decider) : Nat × Decider := if b.1 < a.1 then b else a

/-- What comes first: the answer, the timeout, or the cancellation after `cancelAfter`
nanoseconds. All are counted from the start of the call, which is at a tick of the clock. The
answer and the cancellation are noticed at the moment they come. The timeout is up to a timer,
which notices that it is over at the next tick, and it always comes. Of those that are noticed at
the same moment the answer is first, as a call is looked at before its timer, and the cancellation
last, as whoever cancels has to run before it is there.

Every timeout is counted exactly here. A timer whose clock cannot tell a time so far away
waits for about thirty years instead. -/
def first (timeout : Span) (cancelAfter : Option Nat) (pace : Pace) : Decider :=
  let limit := (timeout.passedAt, Decider.timeout)
  let awaited := match answerAt pace with
    | some nanos => sooner (nanos, .answer) limit
    | none => limit
  match cancelAfter with
  | some nanos => (sooner awaited (nanos, .cancellation)).2
  | none => awaited.2

end Registration

/-! ## 2. What is asked for -/

/-- How the service takes a call. -/
structure Reaction (ε : Type) where
  pace : Pace
  answer : Except LinkError (Feed ε)

/-- The kinds of subscription. -/
inductive WatchKind where
  | epochs
  | confirm
  | spend
  deriving DecidableEq, Repr

/-- The name of a kind in the log. -/
def WatchKind.text : WatchKind → String
  | epochs => "block_epoch"
  | confirm => "confirmation"
  | spend => "spend"

/-- The request that goes out with a call. -/
inductive Request where
  | epochs (m : BlockEpoch)
  | confirm (m : ConfirmRequest)
  | spend (m : SpendRequest)
  deriving DecidableEq

/-- A live subscription of one of the three kinds. -/
inductive Watch where
  | epochs (w : EpochWatch)
  | confirm (w : ResultWatch ConfirmEvent Confirmation)
  | spend (w : ResultWatch SpendEvent Spend)

/-- What the caller registers for, and how the service will take it. -/
inductive Order where
  | epochs (reaction : Reaction BlockEpoch)
  | confirm (txid : Option Digest) (script : Bytes) (numConfs heightHint : UInt32)
      (reaction : Reaction ConfirmEvent)
  | spend (output : Option Outpoint) (script : Bytes) (heightHint : UInt32)
      (reaction : Reaction SpendEvent)

namespace Order

def kind : Order → WatchKind
  | epochs _ => .epochs
  | confirm .. => .confirm
  | spend .. => .spend

/-- The request that carries the arguments. A transaction that is not given is an empty
hash, which is no hash, and an output that is not given is left out. -/
def request : Order → Request
  | epochs _ => .epochs .empty
  | confirm txid script numConfs heightHint _ =>
      .confirm ⟨(txid.map Digest.bytes).getD [], script, numConfs, heightHint⟩
  | spend output script heightHint _ => .spend ⟨output.map Outpoint.toRef, script, heightHint⟩

def pace : Order → Pace
  | epochs r => r.pace
  | confirm _ _ _ _ r => r.pace
  | spend _ _ _ r => r.pace

/-- What the service answers, as the subscription that starts with it. -/
def answer : Order → Except LinkError Watch
  | epochs r => r.answer.map fun feed => .epochs (.start feed)
  | confirm _ _ _ _ r => r.answer.map fun feed => .confirm (.start feed)
  | spend _ _ _ r => r.answer.map fun feed => .spend (.start feed)

/-- The structure of an argument that may be missing. -/
def inspectOptional {α : Type} (inspect : α → String) : Option α → String
  | some a => "Some(" ++ inspect a ++ ")"
  | none => "None"

/-- What is logged when the subscription has started. -/
def registered : Order → Log.Event
  | epochs _ => ⟨.info, .client, "registered block epoch notification", []⟩
  | confirm txid _ numConfs heightHint _ =>
      ⟨.info, .client, "registered confirmation notification",
        [("txid", .shown (inspectOptional Digest.inspect txid)),
          ("num_confs", .number numConfs.toNat), ("height_hint", .number heightHint.toNat)]⟩
  | spend output _ heightHint _ =>
      ⟨.info, .client, "registered spend notification",
        [("outpoint", .shown (inspectOptional Outpoint.inspect output)),
          ("height_hint", .number heightHint.toNat)]⟩

end Order

/-! ## 3. The three kinds as one -/

namespace Watch

def kind : Watch → WatchKind
  | epochs _ => .epochs
  | confirm _ => .confirm
  | spend _ => .spend

/-- Whether the worker has not left. -/
def isLive : Watch → Bool
  | epochs w => w.isLive
  | confirm w => w.running
  | spend w => w.running

/-- Puts the watch of a move back into its kind. -/
def lift {ω : Type} (wrap : ω → Watch) (m : Move ω) : Move Watch := ⟨wrap m.watch, m.cancels, m.log⟩

def step (cancelled : Bool) : Watch → Option (Move Watch)
  | epochs w => (w.step cancelled).map (lift epochs)
  | confirm w => (w.step confirmKind cancelled).map (lift confirm)
  | spend w => (w.step spendKind cancelled).map (lift spend)

def work : Watch → Nat
  | epochs w => w.work
  | confirm w => w.work
  | spend w => w.work

theorem work_step {cancelled : Bool} {w : Watch} {m : Move Watch} (h : w.step cancelled = some m) :
    m.watch.work < w.work := by
  cases w <;> simp only [step, Option.map_eq_some_iff] at h
  case epochs w =>
    obtain ⟨m', hm, rfl⟩ := h
    exact EpochWatch.work_step hm
  case confirm w =>
    obtain ⟨m', hm, rfl⟩ := h
    exact ResultWatch.work_step hm
  case spend w =>
    obtain ⟨m', hm, rfl⟩ := h
    exact ResultWatch.work_step hm

/-- Whether the worker waits for an item of a stream that watches the cancellation. -/
def awaitsCancel : Watch → Bool
  | epochs w => w.worker = .waiting && w.feed.isWatching
  | confirm w => w.running && w.feed.isWatching
  | spend w => w.running && w.feed.isWatching

/-- Whether the caller still has the handle, in whatever form. -/
def isHeld : Watch → Bool
  | epochs w => w.handle ≠ .dropped
  | confirm w => w.held
  | spend w => w.held

def drop : Watch → Watch
  | epochs w => .epochs w.drop
  | confirm w => .confirm w.drop
  | spend w => .spend w.drop

end Watch

end ChainWatch
