/-
Cancellation in a session.

The token of a call may be cancelled under any of the contexts that share it, at any moment, and
the subscriptions on it are stopped for good. For block subscriptions that is the barrier of
`EpochBarrier`, which the chronicle carries over to sessions.
-/
import ChainWatch.Proofs.Chronicle
import ChainWatch.Proofs.EpochBarrier

set_option autoImplicit false

namespace ChainWatch

namespace Chronicle

variable {c : Chronicle}

theorem Faithful.kept (h : Faithful c) {token : Token}
    (hc : c.session.isCancelled token = true) (acts : List Session.Act) :
    (c.follow acts).session.isCancelled token = true := by
  induction acts generalizing c with
  | nil => exact hc
  | cons a acts ih => exact ih (h.act a) ((c.session.effect_act a).kept token hc)

/-- The subscription of a story about blocks is one to blocks. -/
theorem Agrees.epochs {s : Session} {sub : Subscription} {r : EpochWatch.Run}
    (h : Agrees s sub (.epochs r)) : sub = ⟨sub.token, .epochs r.watch⟩ := by
  cases sub
  exact congrArg (Subscription.mk _) h.watch.symm

/-- The story of a block subscription on a cancelled token goes on behind the barrier. -/
theorem Faithful.barrier (h : Faithful c) {i : Nat} {token : Token} {w : EpochWatch}
    (hsub : c.session.subs[i]? = some ⟨token, .epochs w⟩)
    (hc : c.session.isCancelled token = true) (acts : List Session.Act) :
    ∃ r r', c.stories[i]? = some (.epochs r) ∧ r.watch = w
      ∧ (c.follow acts).stories[i]? = some (.epochs r')
      ∧ (c.follow acts).session.subs[i]? = some ⟨token, .epochs r'.watch⟩
      ∧ EpochWatch.Run.Barrier r r' := by
  obtain ⟨story, hstory, hagrees⟩ := h.agrees hsub
  obtain ⟨r, rfl⟩ : ∃ r, story = .epochs r := by
    have hwatch := hagrees.watch
    cases story with
    | epochs r => exact ⟨r, rfl⟩
    | confirm r => cases hwatch
    | spend r => cases hwatch
  -- what the session does is to this story some acts of a block subscription
  obtain ⟨acts', sub', hsub', htoken, hstory'⟩ := h.goes_on acts hsub hstory
  obtain ⟨steps, hsteps⟩ := Story.follow_epochs r acts'
  rw [hsteps] at hstory'
  obtain ⟨sub'', hsub'', hagrees'⟩ := (h.follow acts).sub_of_story hstory'
  rw [hsub'] at hsub''
  cases hsub''
  refine ⟨r, r.follow steps, hstory, ?_, hstory', ?_, ?_⟩
  · exact Watch.epochs.inj hagrees.watch
  · rw [hsub', hagrees'.epochs, htoken]
  · exact EpochWatch.Run.barrier_follow (hagrees.cancelled.trans hc) steps

/-- Behind the barrier a worker that cannot move is gone. -/
theorem gone_at_rest {s : Session} {i : Nat} {token : Token} {w : EpochWatch}
    (hsub : s.subs[i]? = some ⟨token, .epochs w⟩) (hc : s.isCancelled token = true)
    (hrest : s.step (.worker i) = none) : w.worker = .gone := by
  simp only [Session.step, Session.stepWorker, hsub, Option.map_eq_none_iff, Watch.step] at hrest
  rw [hc] at hrest
  exact EpochWatch.gone_of_rest hrest

/-- A cancelled block subscription stays silent. From the moment at which its token is cancelled,
under whatever context, and whatever the session does then, its worker takes no item, puts
nothing into either channel, and is gone as soon as it can move no more, as it is once the tasks
have been run. The holder is told the error that had been reported by then, if it was not told
before, and the end; a request never hands out a height, drops the one it finds in the channel,
and never waits for a worker that is gone. -/
theorem cancelled_for_good (client : Client) (acts more : List Session.Act) (i : Nat)
    (token : Token) (w : EpochWatch)
    (hsub : ((start client).follow acts).session.subs[i]? = some ⟨token, .epochs w⟩)
    (hcancelled : ((start client).follow acts).session.isCancelled token = true) :
    let c := (start client).follow acts
    let c' := c.follow more
    ∃ r r' : EpochWatch.Run,
      (c.stories[i]? = some (.epochs r) ∧ r.watch = w)
      ∧ (c'.stories[i]? = some (.epochs r')
        ∧ c'.session.subs[i]? = some ⟨token, .epochs r'.watch⟩)
      ∧ r'.taken = r.taken
      ∧ (r'.watch.slot = r.watch.slot ∨ r'.watch.slot = none)
      ∧ (r'.watch.report = r.watch.report ∨ r'.watch.report = none)
      ∧ (c'.session.step (.worker i) = none → r'.watch.worker = .gone)
      ∧ (∃ w', c'.session.settle.subs[i]? = some ⟨token, .epochs w'⟩ ∧ w'.worker = .gone)
      ∧ (r'.answers = r.answers ∨ ∃ ends, r'.answers = r.answers ++ tale [] r.watch.owed ends)
      ∧ let asked := r'.watch.recv (c'.session.isCancelled token)
        asked.1.slot = none
        ∧ (∀ height, asked.2 ≠ .ready (some (.ok height)))
        ∧ (r'.watch.worker = .gone → asked.2 ≠ .pending) := by
  intro c c'
  have h : Faithful c := faithful_follow client acts
  have hc' : c'.session.isCancelled token = true := h.kept hcancelled more
  obtain ⟨r, r', hstory, hw, hstory', hsub', hbarrier⟩ := h.barrier hsub hcancelled more
  have hsettled : ∃ w', c'.session.settle.subs[i]? = some ⟨token, .epochs w'⟩
      ∧ w'.worker = .gone := by
    -- settling is a matter of acts, so the barrier holds behind it too
    obtain ⟨tasks, htasks⟩ := Session.reaches_settle c'.session
    have hsession : (c'.follow tasks).session = c'.session.settle := by
      rw [session_follow, htasks]
    obtain ⟨-, s, -, -, -, hsub'', -⟩ := (h.follow more).barrier hsub' hc' tasks
    have hc'' := (h.follow more).kept hc' tasks
    rw [hsession] at hsub'' hc''
    exact ⟨s.watch, hsub'', gone_at_rest hsub'' hc'' (Session.step_settle _ _)⟩
  have hask := EpochWatch.asked_recv true r'.watch
  obtain ⟨hslot, hnone, hpending⟩ := EpochWatch.asked_cancelled hask
  refine ⟨r, r', ⟨hstory, hw⟩, ⟨hstory', hsub'⟩, hbarrier.taken, hbarrier.slot, hbarrier.report,
    gone_at_rest hsub' hc', hsettled, ?_, ?_⟩
  · rcases hbarrier.told with ⟨-, hanswers, -⟩ | ⟨-, htold⟩
    · exact Or.inl hanswers
    · exact Or.inr htold
  · rw [hc']
    refine ⟨hslot, ?_, hpending⟩
    intro height hheight
    rw [hheight] at hnone
    cases hnone

/-- A call that is cancelled while one height lies in the channel and the worker holds the next. -/
def interrupted : List Session.Act :=
  [.outer (.call "c" none []),
    .answer "e" "c"
      (.epochs ⟨.after 0, .ok ⟨[.event ⟨[], 1⟩ false, .event ⟨[], 2⟩ false], false, true⟩⟩),
    .turn (.worker 0), .turn (.worker 0), .turn (.worker 0), .outer (.cancel "c")]

theorem cancelled_for_good_interrupted :
    let c := (start ⟨⟨""⟩, ⟨1, 0, by decide⟩⟩).follow interrupted
    let w : EpochWatch := ⟨⟨[], false, true⟩, .holding 2, some 1, true, none, false, .stream⟩
    c.session.subs[0]? = some ⟨⟨0⟩, .epochs w⟩
    ∧ c.session.isCancelled ⟨0⟩ = true
    ∧ ∃ w', (c.follow [.recv "e"]).session.settle.subs[0]? = some ⟨⟨0⟩, .epochs w'⟩
      ∧ w'.worker = .gone := by
  intro c w
  have hsub : c.session.subs[0]? = some ⟨⟨0⟩, .epochs w⟩ := rfl
  have hcancelled : c.session.isCancelled ⟨0⟩ = true := rfl
  obtain ⟨_, _, _, _, _, _, _, _, hsettled, _⟩ :=
    cancelled_for_good ⟨⟨""⟩, ⟨1, 0, by decide⟩⟩ interrupted [.recv "e"] 0 ⟨0⟩ w hsub hcancelled
  exact ⟨hsub, hcancelled, hsettled⟩

end Chronicle

end ChainWatch
