/-
What is taken from a stream.

A worker takes the frames of its stream one by one, in the order in which they arrived, and
behind the last of them perhaps the failure that closes the stream. `Drawn` says so of all
that was taken, and each way in which an item can be taken keeps it.
-/
import ChainWatch.Feed

set_option autoImplicit false

namespace ChainWatch

namespace Feed

variable {ε : Type}

/-! ## 1. One item -/

/-- What can be taken: the next frame, or the end behind the last one, or the cancellation if
the stream watches it. -/
inductive Pulled (cancelled : Bool) (f : Feed ε) : Pull ε → Prop where
  | frame {frame : Frame ε} {rest : List (Frame ε)} (hq : f.queue = frame :: rest) :
      Pulled cancelled f ⟨frame.arrival, frame.cancels, { f with queue := rest }⟩
  | ended (hq : f.queue = []) (he : f.ended = true) :
      Pulled cancelled f ⟨.fault .streamClosed, false, f⟩
  | cancelled (hq : f.queue = []) (he : f.ended = false) (hw : f.watches = true)
      (hc : cancelled = true) :
      Pulled cancelled f ⟨.fault .cancelled, false, { f with ended := true }⟩

theorem pulled_of_pull? {cancelled : Bool} {f : Feed ε} {p : Pull ε}
    (h : f.pull? cancelled = some p) : Pulled cancelled f p := by
  unfold pull? at h
  split at h
  · rename_i frame rest hq
    cases h
    exact .frame hq
  · rename_i hq
    split at h
    · rename_i he
      cases h
      exact .ended hq he
    · rename_i he
      rw [Bool.not_eq_true] at he
      split at h
      · rename_i hw
        rw [Bool.and_eq_true] at hw
        cases h
        exact .cancelled hq he hw.1 hw.2
      · cases h

/-- Nothing can be taken from a stream that is open and holds no frame. -/
theorem pull?_eq_none {cancelled : Bool} {f : Feed ε} (h : f.pull? cancelled = none) :
    f.queue = [] ∧ f.ended = false := by
  unfold pull? at h
  split at h
  · cases h
  · rename_i hq
    split at h
    · cases h
    · rename_i he
      exact ⟨hq, by simpa using he⟩

/-! ## 2. All that was taken -/

/-- The frames that arrived are those that were taken and those that still wait, and what was
taken is the former and perhaps the failure that closed the stream. -/
def Drawn (arrived queue : List (Frame ε)) (closing : Option LinkError)
    (taken : List (Arrival ε)) : Prop :=
  ∃ frames, arrived = frames ++ queue
    ∧ taken = frames.map Frame.arrival ++ (closing.map Arrival.fault).toList

variable {arrived queue : List (Frame ε)} {closing : Option LinkError}
  {taken : List (Arrival ε)}

theorem drawn_nil (queue : List (Frame ε)) : Drawn queue queue none [] := ⟨[], rfl, rfl⟩

theorem Drawn.push (h : Drawn arrived queue closing taken) (more : List (Frame ε)) :
    Drawn (arrived ++ more) (queue ++ more) closing taken := by
  obtain ⟨frames, ha, ht⟩ := h
  exact ⟨frames, by rw [ha, List.append_assoc], ht⟩

theorem Drawn.frame {frame : Frame ε} {rest : List (Frame ε)}
    (h : Drawn arrived (frame :: rest) none taken) :
    Drawn arrived rest none (taken ++ [frame.arrival]) := by
  obtain ⟨frames, ha, ht⟩ := h
  refine ⟨frames ++ [frame], ?_, ?_⟩
  · rw [ha, List.append_assoc, List.singleton_append]
  · rw [ht]
    simp

theorem Drawn.close (h : Drawn arrived queue none taken) (cause : LinkError) :
    Drawn arrived queue (some cause) (taken ++ [.fault cause]) := by
  obtain ⟨frames, ha, ht⟩ := h
  refine ⟨frames, ha, ?_⟩
  rw [ht]
  simp

/-- Once all frames are taken, they are all that was taken of a stream that is not closed. -/
theorem Drawn.all (h : Drawn arrived [] none taken) : taken = arrived.map Frame.arrival := by
  obtain ⟨frames, ha, ht⟩ := h
  rw [ht, ha]
  simp

/-- Something that closes a stream has done so. -/
def Closes (f : Feed ε) (cancelled : Bool) (cause : LinkError) : Prop :=
  f.ended = true
    ∧ (cause = .streamClosed ∨ cause = .cancelled ∧ f.watches = true ∧ cancelled = true)

theorem Closes.push {f : Feed ε} {cancelled : Bool} {cause : LinkError}
    (h : f.Closes cancelled cause) (frames : List (Frame ε)) (close : Bool) :
    (f.push frames close).Closes cancelled cause := by
  obtain ⟨hended, hwhy⟩ := h
  exact ⟨by simp only [Feed.push, hended, Bool.true_or], hwhy⟩

/-- What has closed a stream has still closed it when the call is cancelled. -/
theorem Closes.mono {f : Feed ε} {cancelled cancelled' : Bool} {cause : LinkError}
    (h : f.Closes cancelled cause) (hc : cancelled = true → cancelled' = true) :
    f.Closes cancelled' cause := by
  obtain ⟨hended, hwhy⟩ := h
  exact ⟨hended, hwhy.imp_right fun ⟨hcause, hwatches, hcancel⟩ => ⟨hcause, hwatches, hc hcancel⟩⟩

/-- Behind frames only, the next item is the next frame or closes the stream. -/
theorem Drawn.pull {f : Feed ε} {cancelled : Bool} {p : Pull ε}
    (h : Drawn arrived f.queue none taken) (hp : f.pull? cancelled = some p) :
    ∃ closing, Drawn arrived p.feed.queue closing (taken ++ [p.arrival])
      ∧ ∀ cause, closing = some cause →
        p.arrival = .fault cause ∧ p.feed.Closes cancelled cause := by
  cases pulled_of_pull? hp with
  | frame hq =>
      rw [hq] at h
      exact ⟨none, h.frame, nofun⟩
  | ended hq he =>
      refine ⟨_, h.close _, ?_⟩
      rintro cause ⟨⟩
      exact ⟨rfl, he, Or.inl rfl⟩
  | cancelled hq he hw hc =>
      refine ⟨_, h.close _, ?_⟩
      rintro cause ⟨⟩
      exact ⟨rfl, rfl, Or.inr ⟨rfl, hw, hc⟩⟩

/-! ## 3. What is still to come -/

/-- What closes the stream behind its frames, as things stand. -/
def ending (cancelled : Bool) (f : Feed ε) : Option LinkError :=
  if f.ended then some .streamClosed
  else if f.watches && cancelled then some .cancelled
  else none

/-- The items that the stream has for a worker, as things stand. -/
def items (cancelled : Bool) (f : Feed ε) : List (Arrival ε) :=
  f.queue.map Frame.arrival ++ ((f.ending cancelled).map Arrival.fault).toList

/-- The first of them is the one that is taken next. -/
theorem head?_items (cancelled : Bool) (f : Feed ε) :
    (f.items cancelled).head? = (f.pull? cancelled).map Pull.arrival := by
  unfold items pull? ending
  cases f.queue with
  | cons frame rest => rfl
  | nil =>
      simp only [List.map_nil, List.nil_append]
      split
      · rfl
      · split <;> rfl

theorem items_eq_nil {cancelled : Bool} {f : Feed ε} (h : f.pull? cancelled = none) :
    f.items cancelled = [] := by
  rw [← List.head?_eq_none_iff, head?_items, h, Option.map_none]

end Feed

end ChainWatch
