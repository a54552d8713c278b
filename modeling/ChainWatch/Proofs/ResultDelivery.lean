/-
How the holder of a single-result subscription is told the result.

There are two ways to ask: one that looks and one that waits and takes the handle away. `Asked`
lists what either comes to, and `Told` is what every run keeps: whatever was answered before the
worker left was that there is nothing yet, and the first answer after that is the outcome, which no
later answer tells again. A handle that has told it is spent: it can be looked at, but not waited
for. Requests that were made too early leave no trace (`Spared.same`): a run without them is the
same run.
-/
import Mathlib.Logic.Basic
import ChainWatch.Proofs.EpochRun
import ChainWatch.Proofs.ResultOutcome

set_option autoImplicit false

namespace ChainWatch

variable {ε ρ : Type}

namespace ResultWatch

/-! ## 1. One request -/

/-- What a request for the result comes to, whether it uses up the handle or not. -/
inductive Asked (w : ResultWatch ε ρ) : ResultWatch ε ρ → Reply (Except WatchError ρ) → Prop where
  /-- The worker is there and has nothing yet. -/
  | early (hw : w.running = true) (hr : w.result = none) : Asked w w .pending
  /-- The result is there. -/
  | told {outcome : Except WatchError ρ} (held : Bool) (hr : w.result = some outcome) :
      Asked w { w with result := none, held, spent := true } (.ready outcome)
  /-- The worker is gone and left nothing, or what it left was taken before. -/
  | late (held : Bool) (hw : w.running = false) (hr : w.result = none) :
      Asked w { w with held, spent := true } (.ready (.error .workerGone))

theorem asked_tryResult (w : ResultWatch ε ρ) : Asked w w.tryResult.1 w.tryResult.2 := by
  unfold tryResult
  split
  · rename_i outcome hr
    exact .told w.held hr
  · rename_i hr
    split
    · rename_i hw
      exact .early hw hr
    · rename_i hw
      exact .late w.held (Bool.not_eq_true _ ▸ hw) hr

theorem asked_await (w : ResultWatch ε ρ) : Asked w w.await.1 w.await.2 := by
  have hask := asked_tryResult w
  unfold await
  split
  · rename_i heq
    rw [heq] at hask
    exact hask
  · rename_i heq
    rw [heq] at hask
    -- an answer with a value is the result, or that there will be none
    generalize hreply : Reply.ready _ = reply at hask
    cases hask with
    | early => cases hreply
    | told held hr =>
        cases hreply
        exact .told false hr
    | late held hw hr =>
        cases hreply
        exact .late false hw hr

/-- A request that comes too early finds everything as it was and leaves it so. -/
theorem Asked.early_eq {w w' : ResultWatch ε ρ} {reply : Reply (Except WatchError ρ)}
    (h : Asked w w' reply) (hw : w.running = true) (hr : w.result = none) :
    w' = w ∧ reply = .pending := by
  cases h with
  | early => exact ⟨rfl, rfl⟩
  | told held hsome =>
      rw [hr] at hsome
      cases hsome
  | late held hgone => exact absurd (hgone.symm.trans hw) Bool.false_ne_true

/-- A request that finds the result tells it. -/
theorem Asked.told_eq {w w' : ResultWatch ε ρ} {reply : Reply (Except WatchError ρ)}
    (h : Asked w w' reply) {outcome : Except WatchError ρ} (hr : w.result = some outcome) :
    w'.result = none ∧ reply = .ready outcome := by
  cases h with
  | early hw hnone =>
      rw [hr] at hnone
      cases hnone
  | told held hsome =>
      rw [hr] at hsome
      cases hsome
      exact ⟨rfl, rfl⟩
  | late held hw hnone =>
      rw [hr] at hnone
      cases hnone

/-- A look that comes too late says so, and uses the handle up if nothing did before. -/
theorem tryResult_late {w : ResultWatch ε ρ} (hw : w.running = false) (hr : w.result = none) :
    w.tryResult = ({ w with spent := true }, .ready (.error .workerGone)) := by
  simp only [tryResult, hr, hw, Bool.false_eq_true, if_false]

namespace Run

/-! ## 2. All requests -/

/-- What was answered so far. As long as the outcome has not been told every answer was that there
is nothing yet. Behind these stands the outcome, if the worker left one, and behind it only that
there is nothing more. The first answer that is not that there is nothing yet spends the handle. -/
structure Told (k : ResultKind ε ρ) (r : Run ε ρ) : Prop where
  spent : r.watch.spent = false ↔ ∀ reply ∈ r.replies, reply = .pending
  slot : r.watch.running = true → r.watch.result = none
  early : r.watch.running = true ∨ r.watch.result ≠ none → ∀ reply ∈ r.replies, reply = .pending
  late : r.watch.running = false → r.watch.result = none →
    ∃ before after,
      r.replies = before ++ ((k.outcomeOf r.taken).map Reply.ready).toList ++ after
      ∧ (∀ reply ∈ before, reply = .pending) ∧ ∀ reply ∈ after, reply = .ready (.error .workerGone)

variable {k : ResultKind ε ρ} {r : Run ε ρ}

theorem told_start (k : ResultKind ε ρ) (feed : Feed ε) : Told k (start feed) where
  spent := ⟨fun _ => nofun, fun _ => rfl⟩
  slot _ := rfl
  early _ := nofun
  late hgone := by cases hgone

/-- One more answer stands behind those before it, and is what the request came to. -/
theorem Told.ask (h : Told k r) (hjudged : Judged k r) {possible : Bool}
    {request : ResultWatch ε ρ → ResultWatch ε ρ × Reply (Except WatchError ρ)}
    (hrequest : Asked r.watch (request r.watch).1 (request r.watch).2) :
    Told k (r.ask possible request) := by
  -- an answer that there is something leaves the handle spent
  have hspent (answer : Except WatchError ρ) : true = false
      ↔ ∀ reply ∈ r.replies ++ [.ready answer], reply = .pending := by
    rw [List.forall_mem_append, List.forall_mem_singleton]
    exact ⟨nofun, fun hall => nomatch hall.2⟩
  unfold Run.ask
  split
  · generalize (request r.watch).1 = w at hrequest ⊢
    generalize (request r.watch).2 = reply at hrequest ⊢
    cases hrequest with
    | early hw hr =>
        have hpending := h.early (Or.inl hw)
        have hall : ∀ reply ∈ r.replies ++ [.pending], reply = .pending := by
          rw [List.forall_mem_append, List.forall_mem_singleton]
          exact ⟨hpending, rfl⟩
        refine { spent := ⟨fun _ => hall, fun _ => h.spent.mpr hpending⟩, slot := fun _ => hr,
                 early := fun _ => hall, late := ?_ }
        · intro hgone
          exact absurd (hgone.symm.trans hw) Bool.false_ne_true
    | @told outcome held hr =>
        have hpending := h.early (Or.inr (by rw [hr]; exact Option.some_ne_none outcome))
        have hgone : r.watch.running = false := by
          rw [← Bool.not_eq_true]
          intro hw
          exact absurd (hr.symm.trans (h.slot hw)) (Option.some_ne_none outcome)
        -- what lay in the slot is the outcome of what the worker took
        have houtcome : k.outcomeOf r.taken = some outcome := by
          rw [← hjudged.outcome, outcome?, hr, Option.some_or]
        refine { spent := hspent outcome, slot := fun _ => rfl, early := ?_,
                 late := fun _ _ => ?_ }
        · rintro (hw | hsome)
          · exact absurd (hgone.symm.trans hw) Bool.false_ne_true
          · exact absurd rfl hsome
        · refine ⟨r.replies, [], ?_, hpending, List.forall_mem_nil _⟩
          show r.replies ++ [.ready outcome] = _
          rw [houtcome, Option.map_some, Option.toList_some, List.append_nil]
    | late held hw hr =>
        obtain ⟨before, after, hreplies, hbefore, hafter⟩ := h.late hw hr
        refine { spent := hspent _, slot := fun _ => hr, early := ?_, late := fun _ _ => ?_ }
        · rintro (hrun | hsome)
          · exact absurd (hw.symm.trans hrun) Bool.false_ne_true
          · exact absurd hr hsome
        · refine ⟨before, after ++ [.ready (.error .workerGone)], ?_, hbefore, ?_⟩
          · show r.replies ++ [.ready (.error .workerGone)] = _
            rw [hreplies, List.append_assoc]
          · rw [List.forall_mem_append, List.forall_mem_singleton]
            exact ⟨hafter, rfl⟩
  · exact h

/-- A move of the worker answers nobody, but it may end the time in which it is too early to ask. A
worker that leaves with an outcome has put it into the slot. Only one that was destroyed leaves the
slot empty, and then there is no outcome to stand between the early answers and the late ones. -/
theorem Told.work (h : Told k r) (hawaited : Awaited k r) {a : Arrival ε}
    {m : Move (ResultWatch ε ρ)} (hstep : Stepped k r.cancelled r.watch a m) :
    Told k { r with
      watch := m.watch
      cancelled := r.cancelled || m.cancels
      taken := r.taken ++ [a] } := by
  cases hstep with
  | @skipped p log hw hp hv =>
      refine { spent := h.spent, slot := h.slot, early := h.early, late := ?_ }
      intro hgone
      exact absurd (hgone.symm.trans hw) Bool.false_ne_true
  | @decided p outcome log hw hp hv =>
      have hpending := h.early (Or.inl hw)
      have houtcome : k.outcomeOf (r.taken ++ [p.arrival]) = outcome :=
        k.outcomeOf_decided (hawaited.running.mp hw) hv
      refine { spent := h.spent, slot := nofun, early := fun _ => hpending,
               late := fun _ hresult => ?_ }
      -- nothing lies in the slot, so the item destroyed the worker
      have hnone : outcome = none := (Option.or_eq_none_iff.mp hresult).1
      refine ⟨r.replies, [], ?_, hpending, List.forall_mem_nil _⟩
      show r.replies = _
      rw [houtcome, hnone, Option.map_none, Option.toList_none, List.append_nil, List.append_nil]

theorem Told.act (h : Told k r) (hjudged : Judged k r) (hawaited : Awaited k r) (a : Act ε) :
    Told k (r.act k a) := by
  cases a with
  | push frames close => exact { h with }
  | work => exact act_work h (h.work hawaited)
  | tryResult => exact h.ask hjudged (asked_tryResult r.watch)
  | await => exact h.ask hjudged (asked_await r.watch)
  | drop => exact { h with }
  | cancel => exact { h with }

theorem told_follow (hfrank : k.Frank) (feed : Feed ε) (acts : List (Act ε)) :
    Told k ((start feed).follow k acts) :=
  (follow_induction (P := fun r => Told k r ∧ Judged k r ∧ Awaited k r)
    (fun _ a h => ⟨h.1.act h.2.1 h.2.2 a, h.2.1.act h.2.2 hfrank a, h.2.2.act a⟩)
    ⟨told_start k feed, judged_start k feed, awaited_start k feed⟩ acts).1

end Run

/-! ## 3. Requests that come too early -/

/-- Whether an act is a request for the result. -/
def Act.asks : Act ε → Bool
  | .tryResult => true
  | .await => true
  | .push .. | .work | .drop | .cancel => false

namespace Run

variable {k : ResultKind ε ρ} {r r' : Run ε ρ}

/-- The second list is the first without some of the requests that are made in it while the worker
is there. -/
inductive Spared (k : ResultKind ε ρ) : Run ε ρ → List (Act ε) → List (Act ε) → Prop where
  | done (r : Run ε ρ) : Spared k r [] []
  | kept {r : Run ε ρ} {acts acts' : List (Act ε)} (a : Act ε)
      (h : Spared k (r.act k a) acts acts') :
      Spared k r (a :: acts) (a :: acts')
  | spared {r : Run ε ρ} {acts acts' : List (Act ε)} {a : Act ε} (ha : a.asks = true)
      (hw : r.watch.running = true) (h : Spared k (r.act k a) acts acts') :
      Spared k r (a :: acts) acts'

/-- Two runs of which one was asked more often than the other before there was anything to tell. -/
structure Same (r r' : Run ε ρ) : Prop where
  watch : r'.watch = r.watch
  cancelled : r'.cancelled = r.cancelled
  arrived : r'.arrived = r.arrived
  taken : r'.taken = r.taken
  answers : r'.replies.filterMap Reply.answer? = r.replies.filterMap Reply.answer?

theorem same_refl (r : Run ε ρ) : Same r r := ⟨rfl, rfl, rfl, rfl, rfl⟩

theorem Same.ask (h : Same r r') (possible : Bool)
    (request : ResultWatch ε ρ → ResultWatch ε ρ × Reply (Except WatchError ρ)) :
    Same (r.ask possible request) (r'.ask possible request) := by
  unfold Run.ask
  rw [h.watch]
  split
  · refine ⟨rfl, h.cancelled, h.arrived, h.taken, ?_⟩
    rw [List.filterMap_append, List.filterMap_append, h.answers]
  · exact h

theorem Same.act (h : Same r r') (a : Act ε) : Same (r.act k a) (r'.act k a) := by
  cases a with
  | push frames close =>
      refine ⟨?_, h.cancelled, ?_, h.taken, h.answers⟩
      · simp only [Run.act, h.watch]
      · simp only [Run.act, h.arrived]
  | work =>
      simp only [Run.act, h.watch, h.cancelled]
      split
      · exact h
      · refine ⟨rfl, rfl, h.arrived, ?_, h.answers⟩
        rw [h.taken]
  | tryResult =>
      simp only [Run.act, h.watch]
      exact h.ask r.watch.held tryResult
  | await =>
      simp only [Run.act, h.watch]
      exact h.ask r.watch.canAwait await
  | drop =>
      refine ⟨?_, h.cancelled, h.arrived, h.taken, h.answers⟩
      simp only [Run.act, h.watch]
  | cancel => exact ⟨h.watch, rfl, h.arrived, h.taken, h.answers⟩

/-- A request that comes too early is answered that there is nothing yet, and that is all. -/
theorem Same.early (h : Same r r') (htold : Told k r) (hw : r.watch.running = true) {a : Act ε}
    (ha : a.asks = true) : Same (r.act k a) r' := by
  have hslot := htold.slot hw
  have hpending {possible : Bool}
      {request : ResultWatch ε ρ → ResultWatch ε ρ × Reply (Except WatchError ρ)}
      (hask : Asked r.watch (request r.watch).1 (request r.watch).2) :
      Same (r.ask possible request) r' := by
    obtain ⟨hwatch, hreply⟩ := hask.early_eq hw hslot
    unfold Run.ask
    split
    · refine ⟨?_, h.cancelled, h.arrived, h.taken, ?_⟩
      · rw [hwatch, h.watch]
      · rw [hreply, List.filterMap_append, h.answers]
        exact (List.append_nil _).symm
    · exact h
  cases a with
  | tryResult => exact hpending (asked_tryResult r.watch)
  | await => exact hpending (asked_await r.watch)
  | _ => cases ha

/-- Leaving out early requests makes no difference to a run. By induction on what is left out, for
any second run that is the same so far: an act that both make keeps them the same (`Same.act`), and
a request that only the first one makes changes nothing but its answers (`Same.early`). That a
request is early says something only about a run from the start, hence `before`. -/
theorem Spared.same (hfrank : k.Frank) {feed : Feed ε} {before acts acts' : List (Act ε)}
    (h : Spared k ((start feed).follow k before) acts acts') :
    Same ((start feed).follow k (before ++ acts)) ((start feed).follow k (before ++ acts')) := by
  rw [follow_append, follow_append]
  -- the second run goes along with the first and is at most not asked as often
  suffices hsuff : ∀ r', Same ((start feed).follow k before) r' →
      Same (((start feed).follow k before).follow k acts) (r'.follow k acts') from
    hsuff _ (same_refl _)
  generalize hr : (start feed).follow k before = r at h ⊢
  induction h generalizing before with
  | done r => exact fun r' hsame => hsame
  | @kept r acts acts' a h ih =>
      intro r' hsame
      have hr' : (start feed).follow k (before ++ [a]) = r.act k a := by
        rw [follow_append, hr]
        rfl
      exact ih hr' _ (hsame.act a)
  | @spared r acts acts' a ha hw h ih =>
      intro r' hsame
      have hr' : (start feed).follow k (before ++ [a]) = r.act k a := by
        rw [follow_append, hr]
        rfl
      have htold : Told k r := hr ▸ told_follow hfrank feed before
      exact ih hr' _ (hsame.early htold hw ha)

/-! ## 4. Told once -/

/-- The outcome is there for the next request, and nothing has been told. -/
def Untold (r : Run ε ρ) (outcome : Except WatchError ρ) : Prop :=
  (∀ reply ∈ r.replies, reply = .pending) ∧ r.watch.spent = false
    ∧ r.watch.tryResult.2 = .ready outcome ∧ r.watch.await.2 = .ready outcome

/-- The outcome was told by one request, and nothing before it; since then, and for good, a look
finds nothing more, and the handle cannot be waited for. -/
def ToldBefore (r : Run ε ρ) (outcome : Except WatchError ρ) : Prop :=
  (∃ before after, r.replies = before ++ .ready outcome :: after
    ∧ (∀ reply ∈ before, reply = .pending) ∧ ∀ reply ∈ after, reply = .ready (.error .workerGone))
  ∧ r.watch.tryResult = (r.watch, .ready (.error .workerGone)) ∧ r.watch.canAwait = false

/-- What the holder of a subscription is told over time, if `Decides` says how an item ends it. -/
structure ToldOnce (k : ResultKind ε ρ) (Decides : Arrival ε → Option (Except WatchError ρ) → Prop)
    (r : Run ε ρ) : Prop where
  /-- As long as the worker is there, every answer is and was that there is nothing yet. -/
  waiting : r.watch.running = true →
    (∀ reply ∈ r.replies, reply = .pending) ∧ r.watch.spent = false
    ∧ r.watch.tryResult = (r.watch, .pending) ∧ r.watch.await = (r.watch, .pending)
  /-- Once it has left, the outcome is that of the item with which it left, and it is told by the
  next request unless it was told before. Only a worker that was destroyed leaves none. -/
  left : r.watch.running = false →
    ∃ skipped a outcome, r.taken = skipped ++ [a] ∧ Decides a outcome
      ∧ match outcome with
        | some outcome => Untold r outcome ∨ ToldBefore r outcome
        | none => a = .crash
          ∧ r.watch.tryResult = ({ r.watch with spent := true }, .ready (.error .workerGone))
  /-- Whatever happens later, an outcome that was told stays the only one. -/
  once : ∀ outcome, outcome ≠ .error .workerGone → ToldBefore r outcome →
    ∀ more, ToldBefore (r.follow k more) outcome
  /-- It makes no difference how often the holder asked too early. -/
  spared : ∀ acts acts', Spared k r acts acts' → Same (r.follow k acts) (r.follow k acts')

theorem Told.untold (h : Told k r) {outcome : Except WatchError ρ}
    (hslot : r.watch.result = some outcome) : Untold r outcome := by
  have hpending := h.early (Or.inr (by rw [hslot]; exact Option.some_ne_none outcome))
  refine ⟨hpending, h.spent.mpr hpending, ?_, ?_⟩
  · exact ((asked_tryResult r.watch).told_eq hslot).2
  · exact ((asked_await r.watch).told_eq hslot).2

/-- A request finds nothing after the outcome was told. -/
theorem Told.toldBefore (h : Told k r) (hgone : r.watch.running = false)
    (hslot : r.watch.result = none) {outcome : Except WatchError ρ}
    (houtcome : k.outcomeOf r.taken = some outcome) : ToldBefore r outcome := by
  obtain ⟨before, after, hreplies, hbefore, hafter⟩ := h.late hgone hslot
  have htold : r.replies = before ++ .ready outcome :: after := by
    rw [hreplies, houtcome, Option.map_some, Option.toList_some, List.append_assoc,
      List.singleton_append]
  have hspent : r.watch.spent = true := by
    rw [← Bool.not_eq_false, h.spent, htold]
    intro hall
    cases hall (.ready outcome) (List.mem_append_right _ List.mem_cons_self)
  refine ⟨⟨before, after, htold, hbefore, hafter⟩, ?_, ?_⟩
  · rw [tryResult_late hgone hslot, ← hspent]
  · rw [canAwait, hspent, Bool.not_true, Bool.and_false]

/-- An outcome that was told is that of what the worker took. -/
theorem Told.of_toldBefore (h : Told k r) {outcome : Except WatchError ρ}
    (hframe : outcome ≠ .error .workerGone) (htold : ToldBefore r outcome) :
    r.watch.running = false ∧ r.watch.result = none ∧ k.outcomeOf r.taken = some outcome := by
  obtain ⟨⟨before, after, hreplies, -, -⟩, -, -⟩ := htold
  have hmem : Reply.ready outcome ∈ r.replies := by
    rw [hreplies]
    exact List.mem_append_right _ List.mem_cons_self
  -- before the worker left, and before its outcome was taken, there was no such answer
  have hearly : ¬ (r.watch.running = true ∨ r.watch.result ≠ none) := by
    intro hearly
    cases h.early hearly _ hmem
  rw [not_or, Bool.not_eq_true, ne_eq, not_not] at hearly
  obtain ⟨hgone, hslot⟩ := hearly
  refine ⟨hgone, hslot, ?_⟩
  -- it is neither one of the early answers nor one of the late ones
  obtain ⟨before', after', hreplies', hbefore', hafter'⟩ := h.late hgone hslot
  rw [hreplies', List.mem_append, List.mem_append, Option.mem_toList,
    Option.map_eq_some_iff] at hmem
  rcases hmem with (hearly | ⟨own, hown, heq⟩) | hlate
  · cases hbefore' _ hearly
  · cases heq
    exact hown
  · cases hafter' _ hlate
    exact absurd rfl hframe

/-- A slot that is empty when the worker has left stays so. -/
theorem result_follow (hgone : r.watch.running = false) (hslot : r.watch.result = none)
    (more : List (Act ε)) : (r.follow k more).watch.result = none := by
  have hask {r : Run ε ρ} {possible : Bool}
      {request : ResultWatch ε ρ → ResultWatch ε ρ × Reply (Except WatchError ρ)}
      (h : r.watch.running = false ∧ r.watch.result = none)
      (hrequest : Asked r.watch (request r.watch).1 (request r.watch).2) :
      (r.ask possible request).watch.running = false
      ∧ (r.ask possible request).watch.result = none := by
    unfold Run.ask
    split
    · generalize (request r.watch).1 = w at hrequest ⊢
      generalize (request r.watch).2 = reply at hrequest ⊢
      cases hrequest with
      | early hw => exact absurd (h.1.symm.trans hw) Bool.false_ne_true
      | told held hsome =>
          rw [h.2] at hsome
          cases hsome
      | late held => exact h
    · exact h
  refine (follow_induction (P := fun r => r.watch.running = false ∧ r.watch.result = none)
    (fun r a h => ?_) ⟨hgone, hslot⟩ more).2
  cases a with
  | push frames close => exact h
  | work =>
      rw [act_work_gone h.1]
      exact h
  | tryResult => exact hask h (asked_tryResult r.watch)
  | await => exact hask h (asked_await r.watch)
  | drop => exact h
  | cancel => exact h

/-- In every run of either kind the outcome is told once. `Told` has the answers in their order and
`Judged` what the worker left behind, so only the link between the two is argued here: a worker that
has left took an item that decides, and what that item decides is in the slot still or, the slot
being empty, was told by the first answer since. No outcome at all is left only by a crash, because
that is the one item that ends a worker without a verdict. -/
theorem toldOnce {Skips : Arrival ε → Prop}
    {Decides : Arrival ε → Option (Except WatchError ρ) → Prop} (h : k.Means Skips Decides)
    (feed : Feed ε) (acts : List (Act ε)) : ToldOnce k Decides ((start feed).follow k acts) := by
  have htold (acts : List (Act ε)) : Told k ((start feed).follow k acts) :=
    told_follow h.frank feed acts
  have hjudged : Judged k ((start feed).follow k acts) := judged_follow h.frank feed acts
  refine { waiting := ?_, left := ?_, once := ?_, spared := ?_ }
  · intro hw
    have hslot := (htold acts).slot hw
    have hpending := (htold acts).early (Or.inl hw)
    refine ⟨hpending, (htold acts).spent.mpr hpending, ?_, ?_⟩
    · exact Prod.ext_iff.mpr ((asked_tryResult _).early_eq hw hslot)
    · exact Prod.ext_iff.mpr ((asked_await _).early_eq hw hslot)
  · intro hgone
    obtain ⟨skipped, a, htaken, hskipped, ha⟩ := hjudged.last hgone
    obtain ⟨outcome, hverdict⟩ := Option.ne_none_iff_exists'.mp ha
    refine ⟨skipped, a, outcome, htaken, (h.decides a outcome).mp hverdict, ?_⟩
    have houtcome : k.outcomeOf ((start feed).follow k acts).taken = outcome := by
      rw [htaken, k.outcomeOf_decided hskipped hverdict]
    have hslot {other : Except WatchError ρ}
        (hsome : ((start feed).follow k acts).watch.result = some other) :
        outcome = some other := by
      rw [← houtcome, ← hjudged.outcome, outcome?, hsome, Option.some_or]
    cases outcome with
    | some outcome =>
        cases hresult : ((start feed).follow k acts).watch.result with
        | some other =>
            cases hslot hresult
            exact Or.inl ((htold acts).untold hresult)
        | none => exact Or.inr ((htold acts).toldBefore hgone hresult houtcome)
    | none =>
        have hcrash : a = .crash := by
          cases a with
          | crash => rfl
          | event e =>
              cases hjudge : k.judge e with
              | decides own =>
                  simp only [ResultKind.verdict, hjudge] at hverdict
                  cases hverdict
              | skips log =>
                  simp only [ResultKind.verdict, hjudge] at hverdict
                  cases hverdict
          | fault cause => cases hverdict
        have hempty : ((start feed).follow k acts).watch.result = none := by
          cases hresult : ((start feed).follow k acts).watch.result with
          | none => rfl
          | some other => cases hslot hresult
        exact ⟨hcrash, tryResult_late hgone hempty⟩
  · intro outcome hframe hbefore more
    obtain ⟨hgone, hslot, houtcome⟩ := (htold acts).of_toldBefore hframe hbefore
    obtain ⟨hgone', htaken', -⟩ := settled_follow (k := k) hjudged.unread hgone more
    have hslot' := result_follow (k := k) hgone hslot more
    have htold' := htold (acts ++ more)
    rw [follow_append] at htold'
    apply htold'.toldBefore hgone' hslot'
    rw [htaken', houtcome]
  · intro acts' acts'' hspared
    have hsame := hspared.same h.frank
    rw [follow_append, follow_append] at hsame
    exact hsame

/-- Every holder of a subscription is told its result by one request, however often it asks and in
whatever order the frames arrive, the worker runs and the requests are made. -/
theorem result_told_once :
    (∀ (feed : Feed ConfirmEvent) (acts : List (Act ConfirmEvent)),
      ToldOnce confirmKind ConfirmEvent.Decides ((start feed).follow confirmKind acts))
    ∧ ∀ (feed : Feed SpendEvent) (acts : List (Act SpendEvent)),
      ToldOnce spendKind SpendEvent.Decides ((start feed).follow spendKind acts) :=
  ⟨toldOnce ConfirmEvent.means, toldOnce SpendEvent.means⟩

end Run

end ResultWatch

end ChainWatch
