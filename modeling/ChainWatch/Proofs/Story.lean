/-
Subscriptions of any kind over time.

A `Story` is the run of a subscription, whichever of the three kinds it is of. `Watch.Act` are
the things that can happen to one, named as a session performs them; each is at most two acts of
the run. That the two agree is shown function by function (`Mirrors`): what a session makes of a
watch is the watch of the story after the same act.
-/
import ChainWatch.Proofs.EpochRest
import ChainWatch.Proofs.ResultRun
import ChainWatch.Script

set_option autoImplicit false

namespace ChainWatch

/-! ## 1. Acts and stories -/

/-- One thing that can happen to a subscription of any kind. -/
inductive Watch.Act where
  | push (frames : Frames) (close : Bool)
  | work
  | recv
  | split
  | glance
  | tryResult
  | await
  | drop
  | cancel

namespace Watch.Act

/-- The act on a block subscription. A look into the two channels is one into each. -/
def onEpochs : Watch.Act → List EpochWatch.Act
  | push (.epochs frames) close => [.push frames close]
  | push _ _ => []
  | work => [.work]
  | recv => [.recv]
  | split => [.split]
  | glance => [.readHeight, .readReport]
  | tryResult => []
  | await => []
  | drop => [.drop]
  | cancel => [.cancel]

/-- The act on a single-result subscription, whose frames are those that are found. A handle
that is split is lost. -/
def onResult {ε : Type} (find : Frames → Option (List (Frame ε))) :
    Watch.Act → List (ResultWatch.Act ε)
  | push frames close =>
      match find frames with
      | some frames => [.push frames close]
      | none => []
  | work => [.work]
  | recv => []
  | split => [.drop]
  | glance => []
  | tryResult => [.tryResult]
  | await => [.await]
  | drop => [.drop]
  | cancel => [.cancel]

theorem onEpochs_ne_work {a : Watch.Act} (ha : a ≠ .work) : ∀ b ∈ a.onEpochs, b ≠ .work := by
  cases a with
  | push frames close => cases frames <;> simp [onEpochs]
  | work => exact absurd rfl ha
  | _ => simp [onEpochs]

theorem onResult_ne_work {ε : Type} (find : Frames → Option (List (Frame ε))) {a : Watch.Act}
    (ha : a ≠ .work) : ∀ b ∈ a.onResult find, b ≠ .work := by
  cases a with
  | push frames close =>
      simp only [onResult]
      split <;> simp
  | work => exact absurd rfl ha
  | _ => simp [onResult]

end Watch.Act

def Frames.confirm? : Frames → Option (List (Frame ConfirmEvent))
  | .confirm frames => some frames
  | _ => none

def Frames.spend? : Frames → Option (List (Frame SpendEvent))
  | .spend frames => some frames
  | _ => none

/-- The run of a subscription of any kind. -/
inductive Story where
  | epochs (r : EpochWatch.Run)
  | confirm (r : ResultWatch.Run ConfirmEvent Confirmation)
  | spend (r : ResultWatch.Run SpendEvent Spend)

namespace Story

def watch : Story → Watch
  | epochs r => .epochs r.watch
  | confirm r => .confirm r.watch
  | spend r => .spend r.watch

def cancelled : Story → Bool
  | epochs r => r.cancelled
  | confirm r => r.cancelled
  | spend r => r.cancelled

/-- The story of a subscription that starts as it is. -/
def start : Watch → Story
  | .epochs w => .epochs (.start w.feed)
  | .confirm w => .confirm (.start w.feed)
  | .spend w => .spend (.start w.feed)

/-- A subscription that the service started is as its story begins. -/
theorem watch_start {order : Order} {w : Watch} (h : order.answer = .ok w) :
    (start w).watch = w := by
  have hmap {α ε : Type} {f : α → Watch} {x : Except ε α} (h : x.map f = .ok w) : ∃ a, f a = w := by
    cases x with
    | ok a => exact ⟨a, Except.ok.inj h⟩
    | error e => cases h
  cases order with
  | epochs reaction =>
      obtain ⟨feed, rfl⟩ := hmap h
      rfl
  | confirm txid script numConfs heightHint reaction =>
      obtain ⟨feed, rfl⟩ := hmap h
      rfl
  | spend output script heightHint reaction =>
      obtain ⟨feed, rfl⟩ := hmap h
      rfl

def act : Story → Watch.Act → Story
  | epochs r, a => .epochs (r.follow a.onEpochs)
  | confirm r, a => .confirm (r.follow confirmKind (a.onResult Frames.confirm?))
  | spend r, a => .spend (r.follow spendKind (a.onResult Frames.spend?))

def follow (story : Story) (acts : List Watch.Act) : Story := acts.foldl act story

@[simp] theorem follow_nil (story : Story) : story.follow [] = story := rfl

@[simp] theorem follow_cons (story : Story) (a : Watch.Act) (acts : List Watch.Act) :
    story.follow (a :: acts) = (story.act a).follow acts := rfl

theorem follow_append (story : Story) (acts acts' : List Watch.Act) :
    story.follow (acts ++ acts') = (story.follow acts).follow acts' := List.foldl_append

/-- A block subscription stays one, and its story is a run of it. -/
theorem follow_epochs (r : EpochWatch.Run) (acts : List Watch.Act) :
    ∃ acts', (epochs r).follow acts = .epochs (r.follow acts') := by
  induction acts generalizing r with
  | nil => exact ⟨[], rfl⟩
  | cons a acts ih =>
      obtain ⟨acts', h⟩ := ih (r.follow a.onEpochs)
      refine ⟨a.onEpochs ++ acts', ?_⟩
      rw [follow_cons, EpochWatch.Run.follow_append]
      exact h

/-! ## 2. Stories that can be lived -/

/-- A story that has a beginning: some stream was opened, and the rest is what happened. -/
def Lived : Story → Prop
  | epochs r => ∃ feed acts, r = (EpochWatch.Run.start feed).follow acts
  | confirm r => ∃ feed acts, r = (ResultWatch.Run.start feed).follow confirmKind acts
  | spend r => ∃ feed acts, r = (ResultWatch.Run.start feed).follow spendKind acts

theorem lived_start (w : Watch) : (start w).Lived := by
  cases w with
  | epochs w => exact ⟨w.feed, [], rfl⟩
  | confirm w => exact ⟨w.feed, [], rfl⟩
  | spend w => exact ⟨w.feed, [], rfl⟩

theorem Lived.act {story : Story} (h : story.Lived) (a : Watch.Act) : (story.act a).Lived := by
  cases story with
  | epochs r =>
      obtain ⟨feed, acts, rfl⟩ := h
      exact ⟨feed, acts ++ a.onEpochs, (EpochWatch.Run.follow_append ..).symm⟩
  | confirm r =>
      obtain ⟨feed, acts, rfl⟩ := h
      exact ⟨feed, acts ++ a.onResult _, (ResultWatch.Run.follow_append ..).symm⟩
  | spend r =>
      obtain ⟨feed, acts, rfl⟩ := h
      exact ⟨feed, acts ++ a.onResult _, (ResultWatch.Run.follow_append ..).symm⟩

theorem Lived.follow {story : Story} (h : story.Lived) (acts : List Watch.Act) :
    (story.follow acts).Lived := by
  induction acts generalizing story with
  | nil => exact h
  | cons a acts ih => exact ih (h.act a)

/-- A worker that has left does not come back. -/
theorem gone_act {story : Story} (h : story.watch.isLive = false) (a : Watch.Act) :
    (story.act a).watch.isLive = false := by
  cases story with
  | epochs r =>
      have hgone : r.watch.worker = .gone := by
        simpa [watch, Watch.isLive, EpochWatch.isLive] using h
      have hafter : (r.follow a.onEpochs).watch.worker = .gone :=
        EpochWatch.Run.follow_induction (P := fun r => r.watch.worker = .gone)
          (fun _ a h => EpochWatch.Run.gone_act h a) hgone _
      simp [act, watch, Watch.isLive, EpochWatch.isLive, hafter]
  | confirm r =>
      exact ResultWatch.Run.follow_induction (P := fun r => r.watch.running = false)
        (fun _ a h => ResultWatch.Run.gone_act h a) h _
  | spend r =>
      exact ResultWatch.Run.follow_induction (P := fun r => r.watch.running = false)
        (fun _ a h => ResultWatch.Run.gone_act h a) h _

/-- Nobody but the worker itself decides whether it is there. -/
theorem live_act (story : Story) {a : Watch.Act} (ha : a ≠ .work) :
    (story.act a).watch.isLive = story.watch.isLive := by
  cases story with
  | epochs r =>
      have hworker : (r.follow a.onEpochs).watch.worker = r.watch.worker :=
        EpochWatch.Run.worker_follow r (Watch.Act.onEpochs_ne_work ha)
      simp only [act, watch, Watch.isLive, EpochWatch.isLive, hworker]
  | confirm r => exact ResultWatch.Run.running_follow r (Watch.Act.onResult_ne_work _ ha)
  | spend r => exact ResultWatch.Run.running_follow r (Watch.Act.onResult_ne_work _ ha)

/-- The worker of a story that begins is there. -/
theorem live_start (w : Watch) : (start w).watch.isLive = true := by
  cases w <;> rfl

/-! ## 3. What a session does with a watch -/

/-- Acts do to the watch of a story what a session does to the watch itself, and the story is
cancelled by them only if the token is. -/
def Mirrors (c : Bool) (w : Watch) (acts : List Watch.Act) (w' : Watch) (c' : Bool) : Prop :=
  ∀ story : Story, story.Lived → story.watch = w → story.cancelled = c →
    (story.follow acts).watch = w' ∧ ((story.follow acts).cancelled = true → c' = true)

variable {c : Bool} {w : Watch}

theorem mirrors_nil {c' : Bool} (hc : c = true → c' = true) : Mirrors c w [] w c' := by
  rintro story - rfl rfl
  exact ⟨rfl, hc⟩

theorem mirrors_push (frames : Frames) (close : Bool) :
    Mirrors c w [.push frames close] ((w.feed frames close).getD w) c := by
  rintro (r | r | r) - rfl rfl
  · cases frames <;> exact ⟨rfl, id⟩
  · cases frames <;> exact ⟨rfl, id⟩
  · cases frames <;> exact ⟨rfl, id⟩

theorem mirrors_recv :
    Mirrors c w [.recv] ((w.recv? c).elim w Prod.fst) c := by
  rintro (r | r | r) - rfl rfl
  · simp only [follow_cons, follow_nil, act, Watch.Act.onEpochs, EpochWatch.Run.follow_cons,
      EpochWatch.Run.follow_nil, EpochWatch.Run.act, watch, cancelled, Watch.recv?]
    split
    · exact ⟨rfl, id⟩
    · exact ⟨rfl, id⟩
  · exact ⟨rfl, id⟩
  · exact ⟨rfl, id⟩

theorem mirrors_split : Mirrors c w [.split] w.split.1 c := by
  rintro (r | r | r) - rfl rfl
  · simp only [follow_cons, follow_nil, act, Watch.Act.onEpochs, EpochWatch.Run.follow_cons,
      EpochWatch.Run.follow_nil, EpochWatch.Run.act, watch, cancelled, Watch.split]
    split
    · exact ⟨rfl, id⟩
    · exact ⟨rfl, id⟩
  · exact ⟨rfl, id⟩
  · exact ⟨rfl, id⟩

theorem mirrors_glance :
    Mirrors c w [.glance] (w.glance?.elim w Prod.fst) c := by
  rintro (r | r | r) - rfl rfl
  · simp only [follow_cons, follow_nil, act, Watch.Act.onEpochs, EpochWatch.Run.follow_cons,
      EpochWatch.Run.follow_nil, EpochWatch.Run.act, watch, cancelled, Watch.glance?]
    split
    · rename_i hs
      -- after the look into the first channel the handle is still there for the second
      have hstill : r.watch.tryHeight.1.handle = .channels := by
        rw [EpochWatch.tryHeight_fst]
        exact hs
      simp only [hstill, if_true]
      exact ⟨rfl, id⟩
    · exact ⟨rfl, id⟩
  · exact ⟨rfl, id⟩
  · exact ⟨rfl, id⟩

theorem mirrors_tryResult :
    Mirrors c w [.tryResult] (w.tryResult?.elim w Prod.fst) c := by
  rintro (r | r | r) - rfl rfl
  · exact ⟨rfl, id⟩
  all_goals
    simp only [follow_cons, follow_nil, act, Watch.Act.onResult, ResultWatch.Run.follow,
      List.foldl, ResultWatch.Run.act, ResultWatch.Run.ask, watch, cancelled, Watch.tryResult?]
    split
    · exact ⟨rfl, id⟩
    · exact ⟨rfl, id⟩

theorem mirrors_await :
    Mirrors c w [.await] (w.await?.elim w Prod.fst) c := by
  rintro (r | r | r) - rfl rfl
  · exact ⟨rfl, id⟩
  all_goals
    simp only [follow_cons, follow_nil, act, Watch.Act.onResult, ResultWatch.Run.follow,
      List.foldl, ResultWatch.Run.act, ResultWatch.Run.ask, watch, cancelled, Watch.await?]
    split
    · exact ⟨rfl, id⟩
    · exact ⟨rfl, id⟩

theorem mirrors_drop : Mirrors c w [.drop] w.drop c := by
  rintro (r | r | r) - rfl rfl
  · exact ⟨rfl, id⟩
  · exact ⟨rfl, id⟩
  · exact ⟨rfl, id⟩

/-- A handle that is gone cannot be dropped again: nothing is left in the channel, which takes no
heights any more. -/
theorem mirrors_drop_again (hgone : w.isHeld = false) : Mirrors c w [.drop] w c := by
  rintro (r | r | r) hlived rfl rfl
  · obtain ⟨feed, acts, rfl⟩ := hlived
    have hflow := EpochWatch.Run.flow_follow feed acts
    have hparted := EpochWatch.Run.parted_follow feed acts
    generalize (EpochWatch.Run.start feed).follow acts = r at *
    have hdropped : r.watch.handle = .dropped := by
      simpa [watch, Watch.isHeld] using hgone
    have hdeaf := hparted.deaf hdropped
    have hslot := (hflow.closed hdeaf).1
    refine ⟨?_, id⟩
    show Watch.epochs r.watch.drop = Watch.epochs r.watch
    rw [EpochWatch.drop, ← hdropped, ← hslot, ← hdeaf]
  · have hdropped : r.watch.held = false := hgone
    refine ⟨?_, id⟩
    show Watch.confirm r.watch.drop = Watch.confirm r.watch
    rw [ResultWatch.drop, ← hdropped]
  · have hdropped : r.watch.held = false := hgone
    refine ⟨?_, id⟩
    show Watch.spend r.watch.drop = Watch.spend r.watch
    rw [ResultWatch.drop, ← hdropped]

/-- The worker of the story moves as the worker of the watch does. -/
theorem mirrors_work {c' : Bool} (hc : c = true → c' = true)
    (hm : ∀ m, w.step c = some m → m.cancels = true → c' = true) :
    Mirrors c w [.work] ((w.step c).elim w Move.watch) c' := by
  rintro (r | r | r) - rfl rfl
  · simp only [follow_cons, follow_nil, watch, cancelled, Watch.step, act, Watch.Act.onEpochs,
      EpochWatch.Run.follow_cons, EpochWatch.Run.follow_nil, EpochWatch.Run.act] at hm hc ⊢
    cases hstep : r.watch.step r.cancelled with
    | none => exact ⟨rfl, hc⟩
    | some m =>
        refine ⟨rfl, ?_⟩
        rw [Bool.or_eq_true]
        rintro (hbefore | hcancels)
        · exact hc hbefore
        · exact hm _ (by rw [hstep]; rfl) hcancels
  all_goals
    simp only [follow_cons, follow_nil, watch, cancelled, Watch.step, act, Watch.Act.onResult,
      ResultWatch.Run.follow, List.foldl, ResultWatch.Run.act] at hm hc ⊢
    split
    · rename_i hstep
      rw [hstep]
      exact ⟨rfl, hc⟩
    · rename_i m hstep
      rw [hstep]
      refine ⟨rfl, ?_⟩
      rw [Bool.or_eq_true]
      rintro (hbefore | hcancels)
      · exact hc hbefore
      · exact hm _ (by rw [hstep]; rfl) hcancels

end Story

end ChainWatch
