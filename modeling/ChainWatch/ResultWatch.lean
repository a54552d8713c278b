/-
Subscriptions with a single result.

A worker takes events from its stream until one decides; what it decides is the result of
the subscription, and the worker is gone. The result waits in a slot that is read once.
Neither the holder nor the cancellation of the call reaches the worker, the latter only
through a stream that watches it. Confirmations and spends differ in which events decide.

The slot is a one-shot channel of `tokio`: what was sent is there until it is taken, and a
receiver whose sender is gone without a value, or whose value was taken, is told that the
channel is closed. A receiver that has told its outcome must not be waited for, hence `spent`.
-/
import ChainWatch.EpochWatch

set_option autoImplicit false

namespace ChainWatch

/-- What an event means to a worker that waits for a result. -/
inductive Verdict (ρ : Type) where
  | decides (outcome : Except WatchError ρ)
  /-- The event decides nothing and is only logged. -/
  | skips (log : Log.Event)

/-- What sets one kind of single-result subscription apart from another. -/
structure ResultKind (ε ρ : Type) where
  judge : ε → Verdict ρ
  /-- What is logged about the result. -/
  finished : Except WatchError ρ → Log.Event

/-- One single-result subscription: its stream, its worker, the slot between worker and
holder, and the holder's end. -/
structure ResultWatch (ε ρ : Type) where
  feed : Feed ε
  running : Bool
  /-- The result, from the moment it is there until it is read. -/
  result : Option (Except WatchError ρ)
  /-- Whether the caller still has the handle. -/
  held : Bool
  /-- Whether the handle has told the result, or that there will be none. -/
  spent : Bool

namespace ResultWatch

variable {ε ρ : Type}

/-- A subscription whose stream has just been opened. -/
def start (feed : Feed ε) : ResultWatch ε ρ := ⟨feed, true, none, true, false⟩

/-! ## 1. The worker -/

/-- The worker puts the result into the slot and leaves. -/
def finish (k : ResultKind ε ρ) (w : ResultWatch ε ρ) (cancels : Bool)
    (outcome : Except WatchError ρ) : Move (ResultWatch ε ρ) :=
  ⟨{ w with running := false, result := some outcome }, cancels, [k.finished outcome]⟩

/-- The worker deals with an item it has taken. -/
def receive (k : ResultKind ε ρ) (w : ResultWatch ε ρ) (cancels : Bool) :
    Arrival ε → Move (ResultWatch ε ρ)
  | .event e =>
      match k.judge e with
      | .decides outcome => w.finish k cancels outcome
      | .skips log => ⟨w, cancels, [log]⟩
  | .fault cause => w.finish k cancels (.error (.stream cause))
  | .crash => ⟨{ w with running := false }, cancels, []⟩

/-- One step of the worker; none if it has to wait or is gone. -/
def step (k : ResultKind ε ρ) (cancelled : Bool) (w : ResultWatch ε ρ) :
    Option (Move (ResultWatch ε ρ)) :=
  if w.running then
    match w.feed.pull? cancelled with
    | some p => some ({ w with feed := p.feed }.receive k p.cancels p.arrival)
    | none => none
  else none

/-- A bound on the steps the worker can still take. -/
def work (w : ResultWatch ε ρ) : Nat := if w.running then w.feed.queue.length + 1 else 0

theorem work_step {k : ResultKind ε ρ} {cancelled : Bool} {w : ResultWatch ε ρ}
    {m : Move (ResultWatch ε ρ)} (h : w.step k cancelled = some m) : m.watch.work < w.work := by
  unfold step at h
  split at h
  · rename_i hrun
    have hwork : w.work = w.feed.queue.length + 1 := by simp only [work, hrun, if_true]
    split at h
    · rename_i p hp
      cases h
      -- a skipped event has left the queue; anything else ends the worker
      cases ha : p.arrival with
      | event e =>
          have hlen := Feed.length_of_pull?_event hp ha
          simp only [receive]
          split
          · simp only [finish, work, Bool.false_eq_true, if_false, hrun, if_true]
            omega
          · simp only [work, hrun, if_true]
            omega
      | fault cause =>
          simp only [receive, finish, work, Bool.false_eq_true, if_false, hrun, if_true]
          omega
      | crash =>
          simp only [receive, work, Bool.false_eq_true, if_false, hrun, if_true]
          omega
    · cases h
  · cases h

/-! ## 2. The holder's end -/

/-- Takes the result if it is there. Once the worker is gone and nothing is in the slot,
there is nothing to wait for. -/
def tryResult (w : ResultWatch ε ρ) : ResultWatch ε ρ × Reply (Except WatchError ρ) :=
  match w.result with
  | some outcome => ({ w with result := none, spent := true }, .ready outcome)
  | none =>
      if w.running then (w, .pending)
      else ({ w with spent := true }, .ready (.error .workerGone))

/-- Whether the handle can be waited for. One that is spent can only be looked at again. -/
def canAwait (w : ResultWatch ε ρ) : Bool := w.held && !w.spent

/-- Waits for the result; the handle is used up when there is an answer. -/
def await (w : ResultWatch ε ρ) : ResultWatch ε ρ × Reply (Except WatchError ρ) :=
  match w.tryResult with
  | (w, .pending) => (w, .pending)
  | (w, .ready outcome) => ({ w with held := false }, .ready outcome)

/-- The holder drops the handle. -/
def drop (w : ResultWatch ε ρ) : ResultWatch ε ρ := { w with held := false }

end ResultWatch

/-! ## 3. The two kinds -/

/-- The details decide, and so do an event that carries nothing and one of an unknown
kind. Only a reorganization leaves a confirmation open. -/
def ConfirmEvent.judge (e : ConfirmEvent) : Verdict Confirmation :=
  match e.body with
  | some (.details d) => .decides (d.decode.mapError .payload)
  | some (.reorg _) => .skips ⟨.debug, .worker, "ignoring reorg on confirmation stream", []⟩
  | none => .decides (.error (.payload (.emptyEvent "conf")))
  | some (.unknown tag) =>
      .decides (.error (.protocol ("conf event has unexpected type: " ++ tag)))

def confirmKind : ResultKind ConfirmEvent Confirmation where
  judge := ConfirmEvent.judge
  finished
    | .ok c => ⟨.debug, .worker, "confirmation received",
        [("block_height", .number c.blockHeight.toNat), ("block_hash", .shown c.blockHash.text),
          ("tx_index", .number c.txIndex.toNat)]⟩
    | .error e =>
        ⟨.warn, .worker, "confirmation subscription terminated", [("error", .shown e.message)]⟩

/-- A spend event is skipped with its structure in the log. -/
def skippedSpend (structureText : String) : Log.Event :=
  ⟨.debug, .worker, "skipping non-spend event", [("event", .shown structureText)]⟩

/-- Only the details decide; everything else leaves a spend open. -/
def SpendEvent.judge (e : SpendEvent) : Verdict Spend :=
  match e.body with
  | some (.details d) => .decides (d.decode.mapError .payload)
  | none => .skips (skippedSpend "None")
  | some (.reorg _) => .skips (skippedSpend "Some(Reorg(Reorg))")
  | some (.unknown tag) => .skips (skippedSpend ("Some(Unknown(" ++ Quoted.text tag ++ "))"))

def spendKind : ResultKind SpendEvent Spend where
  judge := SpendEvent.judge
  finished
    | .ok s => ⟨.debug, .worker, "spend received",
        [("outpoint", .shown s.output.text), ("spender", .shown s.txHash.text),
          ("height", .number s.height.toInt)]⟩
    | .error e => ⟨.warn, .worker, "spend subscription terminated", [("error", .shown e.message)]⟩

end ChainWatch
