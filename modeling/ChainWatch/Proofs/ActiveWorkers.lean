/-
How many workers are active.

A client counts its workers when they start and when they leave. The count is that of the workers
that are there, in every state (`Faithful.running`); at rest these are the ones that have a reason
to wait, which `Story.Waits` gives for each kind of subscription. A registration that fails has no
worker and is never counted.
-/
import ChainWatch.Proofs.Chronicle

set_option autoImplicit false

namespace ChainWatch

/-! ## 1. Workers at rest -/

namespace Story

/-- The worker of a subscription has a reason to wait. -/
def Waits : Story → Prop
  | epochs r => r.Waits
  | confirm r => r.Waits confirmKind
  | spend r => r.Waits spendKind

instance : DecidablePred Waits
  | epochs r => inferInstanceAs (Decidable r.Waits)
  | confirm r => inferInstanceAs (Decidable (r.Waits confirmKind))
  | spend r => inferInstanceAs (Decidable (r.Waits spendKind))

theorem live_iff_waits {story : Story} (h : story.Lived)
    (hrest : story.watch.step story.cancelled = none) :
    story.watch.isLive = true ↔ story.Waits := by
  cases story with
  | epochs r =>
      obtain ⟨feed, acts, rfl⟩ := h
      have hwaits := EpochWatch.Run.live_iff_waits (EpochWatch.Run.flow_follow feed acts)
        (EpochWatch.Run.parted_follow feed acts) (Option.map_eq_none_iff.mp hrest)
      rw [Waits, ← hwaits]
      simp only [watch, Watch.isLive, EpochWatch.isLive, decide_eq_true_eq]
  | confirm r =>
      obtain ⟨feed, acts, rfl⟩ := h
      exact ResultWatch.Run.running_iff_waits (ResultWatch.Run.awaited_follow _ feed acts)
        (Option.map_eq_none_iff.mp hrest)
  | spend r =>
      obtain ⟨feed, acts, rfl⟩ := h
      exact ResultWatch.Run.running_iff_waits (ResultWatch.Run.awaited_follow _ feed acts)
        (Option.map_eq_none_iff.mp hrest)

end Story

/-! ## 2. Registrations -/

namespace Session

/-- What the tasks do starts no subscription and ends none. -/
theorem length_settle (s : Session) : s.settle.subs.length = s.subs.length := by
  apply settle_keeps (P := fun s' => s'.subs.length = s.subs.length)
  · intro s' t s'' hstep h
    cases t with
    | worker i =>
        obtain ⟨sub, m, -, -, rfl⟩ := stepWorker_some hstep
        simp only [applyMove, List.length_set]
        exact h
    | wait i =>
        rw [step, Option.map_eq_some_iff] at hstep
        obtain ⟨roster, -, rfl⟩ := hstep
        exact h
  · intro s' ready line h
    exact h
  · rfl

/-- How many subscriptions a registration adds. -/
def Registered.count {σ : Type} : Registered σ → Nat
  | .started _ => 1
  | .refused .. => 0

theorem length_answered (s : Session) (name : String) (order : Order) (incoming : Incoming) :
    (s.answered name order incoming).1.subs.length
      = s.subs.length + (s.answered name order incoming).2.count := by
  unfold answered
  split
  · show ((s.dropNamed name).subs ++ [_]).length = s.subs.length + 1
    rw [List.length_append, length_dropNamed, List.length_singleton]
  · rfl

theorem length_meanwhile (s : Session) (client : Client) (order : Order) :
    (s.meanwhile client order).subs.length = s.subs.length := by
  unfold meanwhile
  split
  · rfl
  · exact length_settle s

theorem length_register (s : Session) (client : Client) (name : String) (call : Call)
    (order : Order) (cancelAfter : Option Nat) :
    (s.register client name call order cancelAfter).1.subs.length
      = s.subs.length + (s.register client name call order cancelAfter).2.count := by
  have hr := s.register_cases client name call order cancelAfter
  have hlength := s.length_meanwhile client order
  generalize s.register client name call order cancelAfter = r at hr ⊢
  generalize s.meanwhile client order = m at hr hlength
  cases hr with
  | uncalled => rfl
  | interrupted => exact hlength
  | answered =>
      rw [← hlength]
      exact length_answered ..
  | cancelled => exact (length_settle { m with book := m.book.cancel call }).trans hlength
  | timedOut => exact hlength

/-- No worker can move. -/
def AtRest (s : Session) : Prop := ∀ i, s.step (.worker i) = none

theorem AtRest.watch {s : Session} (h : s.AtRest) {i : Nat} {sub : Subscription}
    (hi : s.subs[i]? = some sub) : sub.watch.step (s.isCancelled sub.token) = none := by
  have hstep : s.stepWorker i = none := h i
  rw [stepWorker_eq hi, Option.map_eq_none_iff] at hstep
  exact hstep

end Session

/-! ## 3. The count -/

namespace Chronicle

variable {c : Chronicle}

theorem Faithful.watches (h : Faithful c) :
    c.stories.map Story.watch = c.session.subs.map Subscription.watch := by
  apply List.ext_getElem?
  intro i
  rw [List.getElem?_map, List.getElem?_map]
  cases hi : c.session.subs[i]? with
  | none =>
      rw [h.story_eq_none hi]
      rfl
  | some sub =>
      obtain ⟨story, hstory, hagrees⟩ := h.agrees hi
      rw [hstory, Option.map_some, Option.map_some, hagrees.watch]

theorem Faithful.active_eq (h : Faithful c) :
    c.session.active = c.stories.countP fun story => story.watch.isLive := by
  have hcount := congrArg (List.countP Watch.isLive) h.watches
  rw [List.countP_map, List.countP_map] at hcount
  rw [Session.active, h.running]
  exact hcount.symm

theorem Faithful.live_iff_waits (h : Faithful c) (hrest : c.session.AtRest) {i : Nat}
    {story : Story} (hstory : c.stories[i]? = some story) :
    story.watch.isLive = true ↔ story.Waits := by
  obtain ⟨sub, hsub, hagrees⟩ := h.sub_of_story hstory
  apply Story.live_iff_waits hagrees.lived
  rw [hagrees.watch, hagrees.cancelled]
  exact hrest.watch hsub

/-- A worker whose receiver was dropped takes one more item at most. -/
theorem Faithful.parted (h : Faithful c) {i : Nat} {r : EpochWatch.Run}
    (hstory : c.stories[i]? = some (.epochs r)) {p : EpochWatch.Parting} (hp : p ∈ r.parting) :
    p.taken ≤ r.taken.length ∧ r.taken.length ≤ p.taken + 1 := by
  obtain ⟨sub, -, hagrees⟩ := h.sub_of_story hstory
  obtain ⟨feed, acts, rfl⟩ := hagrees.lived
  have hparted := EpochWatch.Run.parted_follow feed acts
  have hmost := hparted.atMost hp
  exact ⟨hparted.since p hp, by omega⟩

theorem Faithful.gone_follow (h : Faithful c) (acts : List Session.Act) {i : Nat} {story : Story}
    (hstory : c.stories[i]? = some story) (hgone : story.watch.isLive = false) :
    ∃ story', (c.follow acts).stories[i]? = some story' ∧ story'.watch.isLive = false := by
  obtain ⟨sub, hsub, -⟩ := h.sub_of_story hstory
  obtain ⟨acts', -, -, -, hstory'⟩ := h.goes_on acts hsub hstory
  refine ⟨_, hstory', ?_⟩
  clear hstory hstory' hsub
  induction acts' generalizing story with
  | nil => exact hgone
  | cons a acts' ih => exact ih (Story.gone_act hgone a)

/-- No worker is lost and none leaks. In every state the number of active workers is that of the
subscriptions whose worker has not left, and a worker that has left has left for good. When no
worker can move, which is so once the tasks have been run, the workers that are there are those
that have a reason to wait. A registration adds a subscription exactly if it does not fail. And a
block worker whose receiver was dropped takes one more item at most. -/
theorem active_counts_waiting (client : Client) (acts : List Session.Act) :
    let c := (start client).follow acts
    c.stories.map Story.watch = c.session.subs.map Subscription.watch
    ∧ c.session.active = c.stories.countP (fun story => story.watch.isLive)
    ∧ (c.session.AtRest →
      c.session.active = c.stories.countP (fun story => decide story.Waits)
      ∧ ∀ (i : Nat) (story : Story), c.stories[i]? = some story →
        (story.watch.isLive = true ↔ story.Waits))
    ∧ (∃ tasks, (c.follow tasks).session = c.session.settle ∧ c.session.settle.AtRest)
    ∧ (∀ (i : Nat) (story : Story) (more : List Session.Act), c.stories[i]? = some story →
      story.watch.isLive = false →
      ∃ story', (c.follow more).stories[i]? = some story' ∧ story'.watch.isLive = false)
    ∧ (∀ (client' : Client) (name callName : String) (call : Call) (order : Order)
        (cancelAfter : Option Nat), c.session.book.find? callName = some call →
      let outcome := c.session.register client' name call order cancelAfter
      (∃ more, (c.follow more).session = outcome.1)
      ∧ outcome.1.subs.length = c.session.subs.length + outcome.2.count)
    ∧ ∀ (i : Nat) (r : EpochWatch.Run), c.stories[i]? = some (.epochs r) →
      ∀ p ∈ r.parting, p.taken ≤ r.taken.length ∧ r.taken.length ≤ p.taken + 1 := by
  intro c
  have h : Faithful c := faithful_follow client acts
  have hactive := h.active_eq
  refine ⟨h.watches, hactive, ?_, ?_, ?_, ?_, ?_⟩
  · intro hrest
    refine ⟨?_, fun i story => h.live_iff_waits hrest⟩
    rw [hactive]
    apply List.countP_congr
    intro story hmem
    obtain ⟨i, hstory⟩ := List.getElem?_of_mem hmem
    rw [decide_eq_true_eq]
    exact h.live_iff_waits hrest hstory
  · obtain ⟨tasks, htasks⟩ := Session.reaches_settle c.session
    refine ⟨tasks, ?_, fun i => Session.step_settle _ _⟩
    rw [session_follow, htasks]
  · intro i story more hstory hgone
    exact h.gone_follow more hstory hgone
  · intro client' name callName call order cancelAfter hcall
    obtain ⟨more, hmore⟩ :=
      Session.reaches_register c.session client' name callName hcall order cancelAfter
    exact ⟨⟨more, by rw [session_follow, hmore]⟩, Session.length_register ..⟩
  · intro i r hstory p hp
    exact h.parted hstory hp

/-- A receiver that is dropped while its worker holds a height. -/
def droppedHolding : List Session.Act :=
  [.outer (.call "c" none []),
    .answer "e" "c"
      (.epochs ⟨.after 0, .ok ⟨[.event ⟨[], 1⟩ false, .event ⟨[], 2⟩ false], false, false⟩⟩),
    .turn (.worker 0), .turn (.worker 0), .turn (.worker 0), .outer (.drop "e"),
    .turn (.worker 0)]

/-- That a worker took every item of an open stream, and none since its receiver was dropped, does
not keep it: one that held a height by then leaves without taking another item. -/
theorem dropped_holding_leaves :
    let c := (start ⟨⟨""⟩, ⟨1, 0, by decide⟩⟩).follow droppedHolding
    c.session.AtRest ∧ c.session.active = 0
    ∧ ∃ r : EpochWatch.Run, c.stories = [.epochs r]
      ∧ r.cancelled = false ∧ failure? r.taken = none
      ∧ r.taken = r.arrived.map Frame.arrival ∧ r.watch.feed.ended = false
      ∧ ∀ p ∈ r.parting, p.taken = r.taken.length := by
  refine ⟨?_, rfl, _, rfl, rfl, rfl, rfl, rfl, ?_⟩
  · intro i
    cases i with
    | zero => rfl
    | succ i => rfl
  · rintro p ⟨⟩
    rfl

end Chronicle

end ChainWatch
