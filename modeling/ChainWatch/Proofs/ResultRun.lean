/-
A single-result subscription over time.

The runs of `EpochRun`, for the other kind of subscription. A worker takes items until one
decides; `ResultKind.verdict` says what an item means to it, the end of the stream included.
`Awaited` is what every run keeps: the worker is there as long as everything it took was
skipped. At rest that can be read off the stream alone (`running_iff_waits`).
-/
import ChainWatch.Proofs.Feed
import ChainWatch.ResultWatch

set_option autoImplicit false

namespace ChainWatch

variable {ε ρ : Type}

/-- What an item means to a worker that waits for a result: nothing, or the end of the
subscription, with an outcome unless the item destroyed the worker. -/
def ResultKind.verdict (k : ResultKind ε ρ) : Arrival ε → Option (Option (Except WatchError ρ))
  | .event e =>
      match k.judge e with
      | .decides outcome => some (some outcome)
      | .skips _ => none
  | .fault cause => some (some (.error (.stream cause)))
  | .crash => some none

namespace ResultWatch

/-! ## 1. What the worker can do -/

/-- The item the worker takes with its next step, if it takes one. -/
def next? (cancelled : Bool) (w : ResultWatch ε ρ) : Option (Arrival ε) :=
  if w.running then (w.feed.pull? cancelled).map Pull.arrival else none

inductive Stepped (k : ResultKind ε ρ) (cancelled : Bool) (w : ResultWatch ε ρ) :
    Arrival ε → Move (ResultWatch ε ρ) → Prop where
  | skipped {p : Pull ε} (log : List Log.Event) (hw : w.running = true)
      (hp : w.feed.pull? cancelled = some p) (hv : k.verdict p.arrival = none) :
      Stepped k cancelled w p.arrival ⟨{ w with feed := p.feed }, p.cancels, log⟩
  | decided {p : Pull ε} {outcome : Option (Except WatchError ρ)} (log : List Log.Event)
      (hw : w.running = true) (hp : w.feed.pull? cancelled = some p)
      (hv : k.verdict p.arrival = some outcome) :
      Stepped k cancelled w p.arrival
        ⟨{ w with feed := p.feed, running := false, result := outcome.or w.result },
          p.cancels, log⟩

theorem stepped_of_step {k : ResultKind ε ρ} {cancelled : Bool} {w : ResultWatch ε ρ}
    {m : Move (ResultWatch ε ρ)} (h : w.step k cancelled = some m) :
    ∃ a, w.next? cancelled = some a ∧ Stepped k cancelled w a m := by
  unfold step at h
  split at h
  · rename_i hw
    split at h
    · rename_i p hp
      cases h
      refine ⟨p.arrival, ?_, ?_⟩
      · rw [next?, if_pos hw, hp, Option.map_some]
      obtain ⟨arrival, cancels, feed⟩ := p
      cases arrival with
      | event e =>
          simp only [receive]
          split
          · rename_i outcome hjudge
            have hv : k.verdict (.event e) = some (some outcome) := by
              simp only [ResultKind.verdict, hjudge]
            exact .decided _ hw hp hv
          · rename_i log hjudge
            have hv : k.verdict (.event e) = none := by simp only [ResultKind.verdict, hjudge]
            exact .skipped _ hw hp hv
      | fault cause => exact .decided _ hw hp rfl
      | crash => exact .decided _ hw hp rfl
    · cases h
  · cases h

/-- A worker rests only if it is gone or its stream has nothing for it. -/
theorem step_eq_none {k : ResultKind ε ρ} {cancelled : Bool} {w : ResultWatch ε ρ}
    (h : w.step k cancelled = none) : w.running = false ∨ w.feed.pull? cancelled = none := by
  unfold step at h
  split at h
  · split at h
    · cases h
    · rename_i hp
      exact Or.inr hp
  · rename_i hw
    rw [Bool.not_eq_true] at hw
    exact Or.inl hw

/-! ## 2. What can happen, and what comes of it -/

/-- One thing that can happen to a single-result subscription. -/
inductive Act (ε : Type) where
  | push (frames : List (Frame ε)) (close : Bool)
  /-- The worker takes one step, if it can. -/
  | work
  | tryResult
  /-- The holder asks once for the result, with a request that uses up the handle when it is
  answered. -/
  | await
  | drop
  | cancel

/-- A single-result subscription with what has come of it so far. -/
structure Run (ε ρ : Type) where
  watch : ResultWatch ε ρ
  cancelled : Bool
  /-- The frames that arrived on the stream. -/
  arrived : List (Frame ε)
  /-- The items that the worker took. -/
  taken : List (Arrival ε)
  /-- The answers to all requests for the result. -/
  replies : List (Reply (Except WatchError ρ))

namespace Run

/-- A subscription whose stream has just been opened. -/
def start (feed : Feed ε) : Run ε ρ := ⟨.start feed, false, feed.queue, [], []⟩

/-- The holder asks, if the handle is one that can be asked so. -/
def ask (r : Run ε ρ) (possible : Bool)
    (request : ResultWatch ε ρ → ResultWatch ε ρ × Reply (Except WatchError ρ)) : Run ε ρ :=
  if possible then
    { r with watch := (request r.watch).1, replies := r.replies ++ [(request r.watch).2] }
  else r

def act (k : ResultKind ε ρ) (r : Run ε ρ) : Act ε → Run ε ρ
  | .push frames close =>
      { r with
        watch := { r.watch with feed := r.watch.feed.push frames close }
        arrived := r.arrived ++ frames }
  | .work =>
      match r.watch.step k r.cancelled with
      | none => r
      | some m =>
          { r with
            watch := m.watch
            cancelled := r.cancelled || m.cancels
            taken := r.taken ++ (r.watch.next? r.cancelled).toList }
  | .tryResult => r.ask r.watch.held tryResult
  | .await => r.ask r.watch.canAwait await
  | .drop => { r with watch := r.watch.drop }
  | .cancel => { r with cancelled := true }

def follow (k : ResultKind ε ρ) (r : Run ε ρ) (acts : List (Act ε)) : Run ε ρ :=
  acts.foldl (act k) r

theorem follow_append (k : ResultKind ε ρ) (r : Run ε ρ) (acts acts' : List (Act ε)) :
    r.follow k (acts ++ acts') = (r.follow k acts).follow k acts' := List.foldl_append

theorem act_work {k : ResultKind ε ρ} {P : Run ε ρ → Prop} {r : Run ε ρ} (h : P r)
    (hstep : ∀ {a m}, Stepped k r.cancelled r.watch a m →
      P { r with
        watch := m.watch
        cancelled := r.cancelled || m.cancels
        taken := r.taken ++ [a] }) : P (r.act k .work) := by
  simp only [act]
  split
  · exact h
  · rename_i m hm
    obtain ⟨a, hnext, hs⟩ := stepped_of_step hm
    rw [hnext]
    exact hstep hs

theorem follow_induction {k : ResultKind ε ρ} {P : Run ε ρ → Prop}
    (hact : ∀ r a, P r → P (r.act k a)) {r : Run ε ρ} (h : P r) (acts : List (Act ε)) :
    P (r.follow k acts) := by
  induction acts generalizing r with
  | nil => exact h
  | cons a acts ih => exact ih (hact r a h)

/-- Asking for the result changes neither the stream nor the worker. -/
theorem tryResult_frame (w : ResultWatch ε ρ) :
    w.tryResult.1.feed = w.feed ∧ w.tryResult.1.running = w.running := by
  unfold tryResult
  split
  · exact ⟨rfl, rfl⟩
  · split
    · exact ⟨rfl, rfl⟩
    · exact ⟨rfl, rfl⟩

theorem await_frame (w : ResultWatch ε ρ) :
    w.await.1.feed = w.feed ∧ w.await.1.running = w.running := by
  have h := tryResult_frame w
  unfold await
  split
  · rename_i heq
    rw [heq] at h
    exact h
  · rename_i heq
    rw [heq] at h
    exact h

/-! ## 3. Skipping -/

structure Awaited (k : ResultKind ε ρ) (r : Run ε ρ) : Prop where
  /-- The worker takes the frames in the order in which they arrived, and then what closes the
  stream. -/
  drawn : ∃ closing, Feed.Drawn r.arrived r.watch.feed.queue closing r.taken
    ∧ (closing = none ∨ r.watch.running = false ∧ r.watch.feed.ended = true)
  running : r.watch.running = true ↔ ∀ a ∈ r.taken, k.verdict a = none

variable {k : ResultKind ε ρ} {r : Run ε ρ}

theorem awaited_start (k : ResultKind ε ρ) (feed : Feed ε) : Awaited k (start feed) where
  drawn := ⟨none, Feed.drawn_nil _, Or.inl rfl⟩
  running := by simp [start, ResultWatch.start]

/-- An item that is taken is a frame or closes the stream. -/
theorem Awaited.drawn_step (h : Awaited k r) (hw : r.watch.running = true) {p : Pull ε}
    (hp : r.watch.feed.pull? r.cancelled = some p) :
    ∃ closing, Feed.Drawn r.arrived p.feed.queue closing (r.taken ++ [p.arrival])
      ∧ (closing = none ∨ k.verdict p.arrival ≠ none ∧ p.feed.ended = true) := by
  obtain ⟨closing, hd, hclosing⟩ := h.drawn
  -- a worker that runs has not taken what closes the stream
  have hnone : closing = none := by
    apply hclosing.resolve_right
    rintro ⟨hgone, -⟩
    exact absurd (hgone.symm.trans hw) Bool.false_ne_true
  rw [hnone] at hd
  obtain ⟨closing, hdrawn, hcloses⟩ := hd.pull hp
  refine ⟨closing, hdrawn, ?_⟩
  cases closing with
  | none => exact Or.inl rfl
  | some cause =>
      obtain ⟨harrival, hended, -⟩ := hcloses cause rfl
      rw [harrival]
      exact Or.inr ⟨Option.some_ne_none _, hended⟩

theorem Awaited.work (h : Awaited k r) {a : Arrival ε} {m : Move (ResultWatch ε ρ)}
    (hstep : Stepped k r.cancelled r.watch a m) :
    Awaited k { r with
      watch := m.watch
      cancelled := r.cancelled || m.cancels
      taken := r.taken ++ [a] } := by
  cases hstep with
  | skipped log hw hp hv =>
      obtain ⟨closing, hd, hclosing⟩ := h.drawn_step hw hp
      refine { drawn := ⟨closing, hd, ?_⟩, running := ?_ }
      · exact Or.inl (hclosing.resolve_right fun hend => hend.1 hv)
      · rw [List.forall_mem_append, List.forall_mem_singleton]
        exact ⟨fun _ => ⟨h.running.mp hw, hv⟩, fun _ => hw⟩
  | decided log hw hp hv =>
      obtain ⟨closing, hd, hclosing⟩ := h.drawn_step hw hp
      refine { drawn := ⟨closing, hd, ?_⟩, running := ?_ }
      · exact hclosing.imp_right fun hend => ⟨rfl, hend.2⟩
      · rw [List.forall_mem_append, List.forall_mem_singleton, hv]
        simp

theorem Awaited.ask (h : Awaited k r) {possible : Bool}
    {request : ResultWatch ε ρ → ResultWatch ε ρ × Reply (Except WatchError ρ)}
    (hrequest : (request r.watch).1.feed = r.watch.feed
      ∧ (request r.watch).1.running = r.watch.running) : Awaited k (r.ask possible request) := by
  unfold Run.ask
  split
  · obtain ⟨hfeed, hrunning⟩ := hrequest
    refine { drawn := ?_, running := ?_ }
    · simp only [hfeed, hrunning]
      exact h.drawn
    · simp only [hrunning]
      exact h.running
  · exact h

theorem Awaited.act (h : Awaited k r) (a : Act ε) : Awaited k (r.act k a) := by
  cases a with
  | push frames close =>
      obtain ⟨closing, hd, hclosing⟩ := h.drawn
      refine { drawn := ⟨closing, hd.push frames, ?_⟩, running := h.running }
      rcases hclosing with hnone | ⟨hgone, hended⟩
      · exact Or.inl hnone
      · refine Or.inr ⟨hgone, ?_⟩
        simp only [Run.act, Feed.push, hended, Bool.true_or]
  | work => exact act_work h h.work
  | tryResult => exact h.ask (tryResult_frame r.watch)
  | await => exact h.ask (await_frame r.watch)
  | drop => exact { h with }
  | cancel => exact { h with }

theorem awaited_follow (k : ResultKind ε ρ) (feed : Feed ε) (acts : List (Act ε)) :
    Awaited k ((start feed).follow k acts) :=
  follow_induction (fun _ a h => h.act a) (awaited_start k feed) acts

/-- Nobody but the worker itself decides whether it runs. -/
theorem running_act (r : Run ε ρ) {a : Act ε} (ha : a ≠ .work) :
    (r.act k a).watch.running = r.watch.running := by
  cases a with
  | push frames close => rfl
  | work => exact absurd rfl ha
  | tryResult =>
      simp only [act, ask]
      split
      · exact (tryResult_frame r.watch).2
      · rfl
  | await =>
      simp only [act, ask]
      split
      · exact (await_frame r.watch).2
      · rfl
  | drop => rfl
  | cancel => rfl

theorem running_follow (r : Run ε ρ) {acts : List (Act ε)} (h : ∀ a ∈ acts, a ≠ .work) :
    (r.follow k acts).watch.running = r.watch.running := by
  induction acts generalizing r with
  | nil => rfl
  | cons a acts ih =>
      rw [List.forall_mem_cons] at h
      exact (ih (r.act k a) h.2).trans (running_act r h.1)

/-- A worker that has left does not come back. -/
theorem gone_act (h : r.watch.running = false) (a : Act ε) :
    (r.act k a).watch.running = false := by
  by_cases ha : a = .work
  · have hrest : r.watch.step k r.cancelled = none := by
      rw [step, h, if_neg Bool.false_ne_true]
    rw [ha]
    simp only [act, hrest]
    exact h
  · rw [running_act r ha]
    exact h

/-! ## 4. Waiting -/

/-- The worker has reason to wait: every frame that ever arrived is one it skips, and the stream
is still open. Nothing that was done to the handle matters. -/
def Waits (k : ResultKind ε ρ) (r : Run ε ρ) : Prop :=
  (∀ frame ∈ r.arrived, k.verdict frame.arrival = none) ∧ r.watch.feed.ended = false

instance (k : ResultKind ε ρ) (r : Run ε ρ) : Decidable (r.Waits k) :=
  inferInstanceAs (Decidable (_ ∧ _))

/-- At rest a worker is there exactly if nothing that arrived decides and the stream is open. A
worker that is there and cannot move has emptied an open queue, so whatever arrived it has taken and
skipped. Conversely an open stream has not given what closes it, so all that was taken had arrived,
and none of it ended the worker. -/
theorem running_iff_waits (h : Awaited k r) (hrest : r.watch.step k r.cancelled = none) :
    r.watch.running = true ↔ r.Waits k := by
  obtain ⟨closing, hd, hclosing⟩ := h.drawn
  constructor
  · intro hw
    have hpull : r.watch.feed.pull? r.cancelled = none := by
      apply (step_eq_none hrest).resolve_left
      rw [hw]
      exact Bool.noConfusion
    obtain ⟨hqueue, hended⟩ := Feed.pull?_eq_none hpull
    have hnone : closing = none := by
      apply hclosing.resolve_right
      rintro ⟨hgone, -⟩
      exact absurd (hgone.symm.trans hw) Bool.false_ne_true
    rw [hqueue, hnone] at hd
    refine ⟨?_, hended⟩
    intro frame hframe
    apply h.running.mp hw
    rw [hd.all]
    exact List.mem_map_of_mem hframe
  · rintro ⟨hskipped, hended⟩
    -- a stream that is open was not closed by anything the worker took
    have hnone : closing = none := by
      apply hclosing.resolve_right
      rintro ⟨-, hend⟩
      exact absurd (hended.symm.trans hend) Bool.false_ne_true
    rw [hnone] at hd
    obtain ⟨frames, harrived, htaken⟩ := hd
    rw [h.running, htaken]
    intro a ha
    simp only [Option.map_none, Option.toList_none, List.append_nil, List.mem_map] at ha
    obtain ⟨frame, hframe, rfl⟩ := ha
    apply hskipped
    rw [harrived]
    exact List.mem_append_left _ hframe

end Run

end ResultWatch

end ChainWatch
