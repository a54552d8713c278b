/-
The stream of one call, as the worker that reads it sees it.

Frames that the server sent and nobody has taken yet stand in a queue. When it is empty
the stream is at its end if the server closed it; otherwise it fails if it watches the
cancellation of its call and that has come; otherwise nothing can be taken yet. Frames
that were queued come before the end, and the end before the cancellation.
-/
import ChainWatch.Error

set_option autoImplicit false

namespace ChainWatch

/-- One item of a stream. Handing out a frame may cancel the call it came for. -/
inductive Frame (ε : Type) where
  | event (e : ε) (cancels : Bool)
  | fault (cause : LinkError) (cancels : Bool)
  /-- Taking this one destroys the worker. -/
  | crash
  deriving DecidableEq

/-- What a worker gets when it takes an item. The end of a stream is a failure of it. -/
inductive Arrival (ε : Type) where
  | event (e : ε)
  | fault (cause : LinkError)
  | crash
  deriving DecidableEq

structure Feed (ε : Type) where
  /-- The frames that nobody has taken yet, the next one first. -/
  queue : List (Frame ε)
  /-- Whether the server has closed the stream. -/
  ended : Bool
  /-- Whether the stream fails once its call is cancelled. -/
  watches : Bool
  deriving DecidableEq

namespace Frame

variable {ε : Type}

def arrival : Frame ε → Arrival ε
  | event e _ => .event e
  | fault cause _ => .fault cause
  | crash => .crash

def cancels : Frame ε → Bool
  | event _ c | fault _ c => c
  | crash => false

end Frame

/-- What taking an item gives: the item, whether the call is cancelled by it, and the
stream that is left. -/
structure Pull (ε : Type) where
  arrival : Arrival ε
  cancels : Bool
  feed : Feed ε

namespace Feed

variable {ε : Type}

/-- More frames from the server, and its close if it comes with them. -/
def push (f : Feed ε) (frames : List (Frame ε)) (close : Bool) : Feed ε :=
  { f with queue := f.queue ++ frames, ended := f.ended || close }

/-- Takes the next item of the stream; none if there is none yet. -/
def pull? (cancelled : Bool) (f : Feed ε) : Option (Pull ε) :=
  match f.queue with
  | frame :: rest => some ⟨frame.arrival, frame.cancels, { f with queue := rest }⟩
  | [] =>
      -- the end can be taken again and again, the cancellation once and then the end
      if f.ended then some ⟨.fault .streamClosed, false, f⟩
      else if f.watches && cancelled then some ⟨.fault .cancelled, false, { f with ended := true }⟩
      else none

/-- Whether a reader that finds nothing here waits for the cancellation too. -/
def isWatching (f : Feed ε) : Bool := f.watches && f.queue.isEmpty && !f.ended

/-- An event is only ever taken out of the queue. -/
theorem length_of_pull?_event {cancelled : Bool} {f : Feed ε} {p : Pull ε} {e : ε}
    (h : f.pull? cancelled = some p) (he : p.arrival = .event e) :
    p.feed.queue.length + 1 = f.queue.length := by
  unfold pull? at h
  split at h
  · rename_i frame rest hq
    cases h
    simp only [hq, List.length_cons]
  · split at h
    · cases h
      simp at he
    · split at h
      · cases h
        simp at he
      · cases h

end Feed

end ChainWatch
