/-
Watching for new blocks.

A worker takes block epochs from its stream and passes their heights on through a channel
that holds one height; if the channel is full the worker holds the next height until
there is room. The first failure ends it: it is reported, beside the channel, for the
holder to read after the heights. Cancelling the call ends everything without a report.
A height that is not in the channel by then is dropped by the worker, one that is in it
by the holder.

The worker moves in small steps (`step`), each of which is the whole of what happens
between two points at which it may have to wait: it takes an item, or it disposes of the
height it holds. Cancellation is looked at first in both.

Heights go through a bounded channel of `tokio`, the report through a one-shot one. What was
sent can still be received when its sender has gone, and also when the receiver has closed
the channel; a send fails once the receiver has closed it or is gone.
-/
import ChainWatch.Feed
import ChainWatch.Log.Event
import ChainWatch.Notice

set_option autoImplicit false

namespace ChainWatch

/-- The outcome of asking for something that may not be there yet. -/
inductive Reply (α : Type) where
  | pending
  | ready (value : α)
  deriving DecidableEq

/-- What one step of a worker does: the watch it leaves, whether the call is cancelled by
it, and what is logged. -/
structure Move (ω : Type) where
  watch : ω
  cancels : Bool
  log : List Log.Event

/-- Where the worker of a block subscription stands. -/
inductive EpochWorker where
  /-- It wants the next item. -/
  | waiting
  /-- It has a height to pass on. -/
  | holding (height : Int32)
  | gone
  deriving DecidableEq

/-- What the caller has of a block subscription. -/
inductive EpochHandle where
  /-- The heights and the error as one sequence. -/
  | stream
  /-- The two channels. -/
  | channels
  | dropped
  deriving DecidableEq

/-- One block subscription: its stream, its worker, the two channels between worker and
holder, and the holder's end. -/
structure EpochWatch where
  feed : Feed BlockEpoch
  worker : EpochWorker
  /-- The height in the channel. -/
  slot : Option Int32
  /-- Whether the channel takes heights; it does not once its receiver was closed. -/
  listening : Bool
  /-- The error that was reported and not read yet. -/
  report : Option WatchError
  /-- Whether the holder is done with the error channel. -/
  reportRead : Bool
  handle : EpochHandle
  deriving DecidableEq

namespace EpochWatch

/-- A subscription whose stream has just been opened. -/
def start (feed : Feed BlockEpoch) : EpochWatch :=
  ⟨feed, .waiting, none, true, none, false, .stream⟩

def isLive (w : EpochWatch) : Bool := w.worker ≠ .gone

/-! ## 1. The worker -/

/-- The worker leaves without a report. -/
def leave (w : EpochWatch) (log : List Log.Event) : Move EpochWatch :=
  ⟨{ w with worker := .gone }, false, log⟩

/-- The worker reports an error and leaves. -/
def fail (w : EpochWatch) (cancels : Bool) (e : WatchError) : Move EpochWatch :=
  ⟨{ w with worker := .gone, report := some e }, cancels,
    [⟨.warn, .worker, "block epoch subscription terminated", [("error", .shown e.message)]⟩]⟩

/-- An event at debug level about a height. -/
def aboutHeight (message : String) (height : Int32) : Log.Event :=
  ⟨.debug, .worker, message, [("height", .number height.toInt)]⟩

/-- The worker deals with an item it has taken. -/
def receive (w : EpochWatch) (cancels : Bool) : Arrival BlockEpoch → Move EpochWatch
  | .event epoch =>
      match epoch.decode with
      | .ok height => ⟨{ w with worker := .holding height }, cancels, []⟩
      | .error e => w.fail cancels (.payload e)
  | .fault cause => w.fail cancels (.stream cause)
  | .crash => ⟨{ w with worker := .gone }, cancels, []⟩

/-- One step of the worker; none if it has to wait or is gone. -/
def step (cancelled : Bool) (w : EpochWatch) : Option (Move EpochWatch) :=
  match w.worker with
  | .gone => none
  | .waiting =>
      if cancelled then
        some (w.leave [⟨.debug, .worker, "block epoch subscription cancelled", []⟩])
      else
        match w.feed.pull? cancelled with
        | some p => some ({ w with feed := p.feed }.receive p.cancels p.arrival)
        | none => none
  | .holding height =>
      -- the cancellation comes before the channel, so no height enters it any more
      if cancelled then
        some (w.leave [aboutHeight "block epoch subscription cancelled, dropping height" height])
      else if !w.listening then
        some (w.leave [aboutHeight "block epoch receiver dropped" height])
      else if w.slot = none then
        some ⟨{ w with worker := .waiting, slot := some height }, false, []⟩
      else none

/-- A bound on the steps the worker can still take. -/
def work (w : EpochWatch) : Nat :=
  match w.worker with
  | .gone => 0
  | .waiting => 2 * w.feed.queue.length + 1
  | .holding _ => 2 * w.feed.queue.length + 2

theorem work_step {cancelled : Bool} {w : EpochWatch} {m : Move EpochWatch}
    (h : w.step cancelled = some m) : m.watch.work < w.work := by
  unfold step at h
  split at h
  · cases h
  · rename_i hw
    have hwork : w.work = 2 * w.feed.queue.length + 1 := by simp only [work, hw]
    split at h
    · cases h
      simp only [leave, work, hw]
      omega
    · split at h
      · rename_i p hp
        cases h
        -- an event has left the queue; anything else is the last thing the worker takes
        cases ha : p.arrival with
        | event epoch =>
            have hlen := Feed.length_of_pull?_event hp ha
            simp only [receive]
            split
            · simp only [work, hw]
              omega
            · simp only [fail, work, hw]
              omega
        | fault cause =>
            simp only [receive, fail, work, hw]
            omega
        | crash =>
            simp only [receive, work, hw]
            omega
      · cases h
  · rename_i height hw
    split at h
    · cases h
      simp only [leave, work, hw]
      omega
    · split at h
      · cases h
        simp only [leave, work, hw]
        omega
      · split at h
        · cases h
          simp only [work, hw]
          omega
        · cases h

/-! ## 2. The holder's end -/

/-- Reads the error channel, once no height can come any more: an error that was reported
is handed out, after which the sequence is at its end; without one it is at its end when
the worker is gone. -/
def recvReport (w : EpochWatch) : EpochWatch × Reply (Option (Except WatchError Int32)) :=
  if w.reportRead then (w, .ready none)
  else
    match w.report with
    | some e => ({ w with report := none, reportRead := true }, .ready (some (.error e)))
    | none =>
        if w.isLive then (w, .pending) else ({ w with reportRead := true }, .ready none)

/-- Asks for the next height or the error that ended the subscription. Once the call is
cancelled the channel is closed and what it holds is dropped. -/
def recv (cancelled : Bool) (w : EpochWatch) :
    EpochWatch × Reply (Option (Except WatchError Int32)) :=
  if cancelled then { w with slot := none, listening := false }.recvReport
  else
    match w.slot with
    | some height => ({ w with slot := none }, .ready (some (.ok height)))
    -- the heights are at their end when the worker is gone, and its report is there by then
    | none => if w.isLive then (w, .pending) else w.recvReport

/-- Splits the sequence into its channels. Says whether the error channel is still there. -/
def split (w : EpochWatch) : EpochWatch × Bool := ({ w with handle := .channels }, !w.reportRead)

/-- What looking into a channel shows. -/
inductive Glance (α : Type) where
  | value (a : α)
  | empty
  | closed
  deriving DecidableEq

/-- Takes what the height channel holds, cancelled or not. -/
def tryHeight (w : EpochWatch) : EpochWatch × Glance Int32 :=
  match w.slot with
  | some height => ({ w with slot := none }, .value height)
  | none => (w, if w.isLive && w.listening then .empty else .closed)

/-- Takes what the error channel holds; none if there is no such channel any more. -/
def tryReport (w : EpochWatch) : EpochWatch × Option (Glance WatchError) :=
  if w.reportRead then (w, none)
  else
    match w.report with
    | some e => ({ w with report := none }, some (.value e))
    | none => (w, some (if w.isLive then .empty else .closed))

/-- The holder drops what it has of the subscription. -/
def drop (w : EpochWatch) : EpochWatch :=
  { w with handle := .dropped, slot := none, listening := false }

end EpochWatch

end ChainWatch
