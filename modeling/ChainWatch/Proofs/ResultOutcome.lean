/-
What a single-result subscription comes to.

A worker that waits for a result takes the items of its stream up to the first that it does not
skip, and that item alone says how the subscription ends. When the frames arrive and when the
worker runs, what becomes of the handle and whether the call is cancelled make no difference
(`DecidedByFirst`). `ConfirmEvent.Decides` and `SpendEvent.Decides` say for the two kinds how each
item ends them: a confirmation is ended by everything but a reorganization, a spend by nothing but
its details and a failure of the stream.
-/
import Mathlib.Logic.ExistsUnique
import ChainWatch.Proofs.ResultRun

set_option autoImplicit false

namespace ChainWatch

variable {ε ρ : Type}

/-! ## 1. What the holder is told -/

/-- The outcome that an answer tells, if it tells one. That the worker is gone is none. -/
def Reply.outcome? : Reply (Except WatchError ρ) → Option (Except WatchError ρ)
  | .pending => none
  | .ready (.error .workerGone) => none
  | .ready outcome => some outcome

theorem Reply.outcome?_ready {outcome : Except WatchError ρ} (h : outcome ≠ .error .workerGone) :
    (Reply.ready outcome).outcome? = some outcome := by
  unfold Reply.outcome?
  split
  · rename_i heq
    cases heq
  · rename_i heq
    cases heq
    exact absurd rfl h
  · rename_i heq
    cases heq
    rfl

namespace ResultWatch

/-- A request for the result takes it out of the slot and tells it. -/
theorem tryResult_tells {w : ResultWatch ε ρ} (h : w.result ≠ some (.error .workerGone)) :
    w.tryResult.1.result = none ∧ w.tryResult.2.outcome? = w.result := by
  unfold tryResult
  split
  · rename_i outcome hresult
    rw [hresult] at h ⊢
    exact ⟨rfl, Reply.outcome?_ready fun heq => h (congrArg some heq)⟩
  · rename_i hresult
    split
    · exact ⟨hresult, hresult.symm⟩
    · exact ⟨hresult, hresult.symm⟩

theorem await_tells {w : ResultWatch ε ρ} (h : w.result ≠ some (.error .workerGone)) :
    w.await.1.result = none ∧ w.await.2.outcome? = w.result := by
  have htells := tryResult_tells h
  unfold await
  split
  · rename_i heq
    rw [heq] at htells
    exact htells
  · rename_i heq
    rw [heq] at htells
    exact htells

namespace Run

/-- The outcome of the subscription: the result in the slot, or what the first answer with an
outcome told. -/
def outcome? (r : Run ε ρ) : Option (Except WatchError ρ) :=
  r.watch.result.or (r.replies.findSome? Reply.outcome?)

/-- A result in the slot has not been told. -/
def Unread (r : Run ε ρ) : Prop :=
  ∀ outcome, r.watch.result = some outcome →
    outcome ≠ .error .workerGone ∧ r.replies.findSome? Reply.outcome? = none

variable {k : ResultKind ε ρ} {r : Run ε ρ}

theorem Unread.result_ne (h : Unread r) : r.watch.result ≠ some (.error .workerGone) :=
  fun hresult => (h _ hresult).1 rfl

/-- Asking for the result neither changes the outcome nor loses it. -/
theorem Unread.ask (h : Unread r) {possible : Bool}
    {request : ResultWatch ε ρ → ResultWatch ε ρ × Reply (Except WatchError ρ)}
    (hrequest : (request r.watch).1.result = none
      ∧ (request r.watch).2.outcome? = r.watch.result) :
    Unread (r.ask possible request) ∧ (r.ask possible request).outcome? = r.outcome? := by
  obtain ⟨hresult, htells⟩ := hrequest
  unfold Run.ask
  split
  · refine ⟨?_, ?_⟩
    · intro outcome hsome
      rw [hresult] at hsome
      cases hsome
    · -- what leaves the slot is what the answer tells
      simp only [outcome?, hresult, Option.none_or, List.findSome?_append,
        List.findSome?_singleton, htells]
      cases hslot : r.watch.result with
      | none => rw [Option.or_none, Option.none_or]
      | some outcome => rw [(h outcome hslot).2, Option.none_or, Option.some_or]
  · exact ⟨h, rfl⟩

/-- Nobody but the worker itself makes an outcome. -/
theorem Unread.act (h : Unread r) {a : Act ε} (ha : a ≠ .work) :
    Unread (r.act k a) ∧ (r.act k a).outcome? = r.outcome? := by
  cases a with
  | push frames close => exact ⟨h, rfl⟩
  | work => exact absurd rfl ha
  | tryResult => exact h.ask (tryResult_tells h.result_ne)
  | await => exact h.ask (await_tells h.result_ne)
  | drop => exact ⟨h, rfl⟩
  | cancel => exact ⟨h, rfl⟩

theorem taken_act (r : Run ε ρ) {a : Act ε} (ha : a ≠ .work) : (r.act k a).taken = r.taken := by
  cases a with
  | work => exact absurd rfl ha
  | tryResult =>
      simp only [act, ask]
      split <;> rfl
  | await =>
      simp only [act, ask]
      split <;> rfl
  | _ => rfl

/-- A worker that has left does nothing more. -/
theorem act_work_gone (h : r.watch.running = false) : r.act k .work = r := by
  have hrest : r.watch.step k r.cancelled = none := by
    rw [step, h, if_neg Bool.false_ne_true]
  simp only [act, hrest]

/-- Once the worker has left, what it took and the outcome are what they are. -/
theorem settled_follow (h : Unread r) (hgone : r.watch.running = false) (more : List (Act ε)) :
    (r.follow k more).watch.running = false ∧ (r.follow k more).taken = r.taken
      ∧ (r.follow k more).outcome? = r.outcome? := by
  induction more generalizing r with
  | nil => exact ⟨hgone, rfl, rfl⟩
  | cons a more ih =>
      by_cases ha : a = .work
      · rw [follow, List.foldl_cons, ha, act_work_gone hgone]
        exact ih h hgone
      · obtain ⟨hunread, houtcome⟩ := h.act (k := k) ha
        rw [← houtcome, ← taken_act r ha]
        exact ih hunread ((running_act r ha).trans hgone)

end Run

end ResultWatch

/-! ## 2. The first item that decides -/

namespace ResultKind

variable {k : ResultKind ε ρ}

/-- No item means that the worker is gone, which is for the handle to say. -/
def Frank (k : ResultKind ε ρ) : Prop := ∀ a, k.verdict a ≠ some (some (.error .workerGone))

/-- The items that are read of those that come. -/
def reads (k : ResultKind ε ρ) : List (Arrival ε) → List (Arrival ε)
  | [] => []
  | a :: rest => a :: if (k.verdict a).isSome then [] else k.reads rest

/-- How the first item that decides does so. -/
def outcomeOf (k : ResultKind ε ρ) (items : List (Arrival ε)) : Option (Except WatchError ρ) :=
  (items.findSome? k.verdict).join

theorem reads_skipped {items : List (Arrival ε)} (h : ∀ a ∈ items, k.verdict a = none)
    (more : List (Arrival ε)) : k.reads (items ++ more) = items ++ k.reads more := by
  induction items with
  | nil => rfl
  | cons a items ih =>
      rw [List.forall_mem_cons] at h
      rw [List.cons_append, reads, h.1, ih h.2]
      rfl

theorem reads_decided {skipped : List (Arrival ε)} {a : Arrival ε}
    {outcome : Option (Except WatchError ρ)} (hskipped : ∀ b ∈ skipped, k.verdict b = none)
    (ha : k.verdict a = some outcome) (rest : List (Arrival ε)) :
    k.reads (skipped ++ a :: rest) = skipped ++ [a] := by
  rw [reads_skipped hskipped, reads, ha]
  rfl

theorem outcomeOf_skipped {items : List (Arrival ε)} (h : ∀ a ∈ items, k.verdict a = none) :
    k.outcomeOf items = none := by
  rw [outcomeOf, List.findSome?_eq_none_iff.mpr h]
  rfl

theorem outcomeOf_decided {skipped : List (Arrival ε)} {a : Arrival ε}
    {outcome : Option (Except WatchError ρ)} (hskipped : ∀ b ∈ skipped, k.verdict b = none)
    (ha : k.verdict a = some outcome) : k.outcomeOf (skipped ++ [a]) = outcome := by
  rw [outcomeOf, List.findSome?_append, List.findSome?_eq_none_iff.mpr hskipped, Option.none_or,
    List.findSome?_singleton, ha, Option.join_some]

end ResultKind

namespace ResultWatch.Run

/-- The items that the stream has for a worker, as things stand, in the order in which it yields
them: those it took and those still to come. -/
def stream (r : Run ε ρ) : List (Arrival ε) := r.taken ++ r.watch.feed.items r.cancelled

/-- What was taken are frames in the order in which they arrived, and perhaps what closed the
stream. -/
def InOrder (r : Run ε ρ) : Prop :=
  ∃ closing, Feed.Drawn r.arrived r.watch.feed.queue closing r.taken
    ∧ ∀ cause, closing = some cause → r.watch.feed.Closes r.cancelled cause

structure Judged (k : ResultKind ε ρ) (r : Run ε ρ) : Prop where
  inOrder : InOrder r
  unread : Unread r
  /-- The outcome is what the first item that decides makes of the subscription. -/
  outcome : r.outcome? = k.outcomeOf r.taken
  /-- A worker that has left took that item last. -/
  last : r.watch.running = false →
    ∃ skipped a, r.taken = skipped ++ [a] ∧ (∀ b ∈ skipped, k.verdict b = none)
      ∧ k.verdict a ≠ none

variable {k : ResultKind ε ρ} {r : Run ε ρ}

theorem judged_start (k : ResultKind ε ρ) (feed : Feed ε) : Judged k (start feed) where
  inOrder := ⟨none, Feed.drawn_nil _, nofun⟩
  unread := nofun
  outcome := rfl
  last := nofun

theorem InOrder.ask (h : InOrder r) {possible : Bool}
    {request : ResultWatch ε ρ → ResultWatch ε ρ × Reply (Except WatchError ρ)}
    (hrequest : (request r.watch).1.feed = r.watch.feed) : InOrder (r.ask possible request) := by
  unfold Run.ask
  split
  · rw [InOrder]
    simp only [hrequest]
    exact h
  · exact h

theorem InOrder.act (h : InOrder r) {a : Act ε} (ha : a ≠ .work) : InOrder (r.act k a) := by
  cases a with
  | push frames close =>
      obtain ⟨closing, hd, hclosing⟩ := h
      refine ⟨closing, hd.push frames, ?_⟩
      intro cause hcause
      exact (hclosing cause hcause).push frames close
  | work => exact absurd rfl ha
  | tryResult => exact h.ask (tryResult_frame r.watch).1
  | await => exact h.ask (await_frame r.watch).1
  | drop => exact h
  | cancel =>
      obtain ⟨closing, hd, hclosing⟩ := h
      refine ⟨closing, hd, ?_⟩
      intro cause hcause
      exact (hclosing cause hcause).mono fun _ => rfl

/-- A worker that has skipped everything has not taken what closes the stream. -/
theorem InOrder.drawn_of_skipped (h : InOrder r) (hskipped : ∀ a ∈ r.taken, k.verdict a = none) :
    Feed.Drawn r.arrived r.watch.feed.queue none r.taken := by
  obtain ⟨closing, hd, -⟩ := h
  cases closing with
  | none => exact hd
  | some cause =>
      obtain ⟨frames, -, htaken⟩ := hd
      have hmem : Arrival.fault cause ∈ r.taken := by simp [htaken]
      cases hskipped _ hmem

theorem InOrder.pull (h : InOrder r) (hskipped : ∀ a ∈ r.taken, k.verdict a = none) {p : Pull ε}
    (hp : r.watch.feed.pull? r.cancelled = some p) :
    ∃ closing, Feed.Drawn r.arrived p.feed.queue closing (r.taken ++ [p.arrival])
      ∧ ∀ cause, closing = some cause → p.feed.Closes (r.cancelled || p.cancels) cause := by
  obtain ⟨closing, hdrawn, hcloses⟩ := (h.drawn_of_skipped hskipped).pull hp
  refine ⟨closing, hdrawn, ?_⟩
  intro cause hcause
  refine (hcloses cause hcause).2.mono fun hcancel => ?_
  rw [hcancel, Bool.true_or]

/-- A move of the worker keeps the account. Up to the item that it takes everything was skipped
(`Awaited`), so the slot was empty and nothing had been told. The outcome of all that was taken is
therefore that of this one item. -/
theorem Judged.work (h : Judged k r) (hawaited : Awaited k r) (hfrank : k.Frank) {a : Arrival ε}
    {m : Move (ResultWatch ε ρ)} (hstep : Stepped k r.cancelled r.watch a m) :
    Judged k { r with
      watch := m.watch
      cancelled := r.cancelled || m.cancels
      taken := r.taken ++ [a] } := by
  cases hstep with
  | @skipped p log hw hp hv =>
      have hskipped := hawaited.running.mp hw
      refine { inOrder := h.inOrder.pull hskipped hp, unread := h.unread, outcome := ?_,
               last := ?_ }
      · have hall : ∀ b ∈ r.taken ++ [p.arrival], k.verdict b = none := by
          rw [List.forall_mem_append, List.forall_mem_singleton]
          exact ⟨hskipped, hv⟩
        rw [k.outcomeOf_skipped hall, ← k.outcomeOf_skipped hskipped, ← h.outcome]
        rfl
      · intro hgone
        exact absurd (hgone.symm.trans hw) Bool.false_ne_true
  | @decided p outcome log hw hp hv =>
      have hskipped := hawaited.running.mp hw
      -- nothing decided until now, so the slot is empty and nothing was told
      have hbefore : r.outcome? = none := h.outcome.trans (k.outcomeOf_skipped hskipped)
      obtain ⟨hslot, htold⟩ := Option.or_eq_none_iff.mp hbefore
      refine { inOrder := h.inOrder.pull hskipped hp, unread := ?_, outcome := ?_, last := ?_ }
      · intro told hresult
        simp only [hslot, Option.or_none] at hresult
        refine ⟨?_, htold⟩
        rintro rfl
        rw [hresult] at hv
        exact hfrank _ hv
      · simp only [k.outcomeOf_decided hskipped hv, outcome?, hslot, htold, Option.or_none]
      · intro _
        refine ⟨r.taken, p.arrival, rfl, hskipped, ?_⟩
        rw [hv]
        exact Option.some_ne_none outcome

theorem Judged.act (h : Judged k r) (hawaited : Awaited k r) (hfrank : k.Frank) (a : Act ε) :
    Judged k (r.act k a) := by
  by_cases ha : a = .work
  · rw [ha]
    exact act_work h (h.work hawaited hfrank)
  · obtain ⟨hunread, houtcome⟩ := h.unread.act (k := k) ha
    have htaken := taken_act (k := k) r ha
    refine { inOrder := h.inOrder.act ha, unread := hunread, outcome := ?_, last := ?_ }
    · rw [houtcome, htaken, h.outcome]
    · rw [running_act r ha, htaken]
      exact h.last

theorem judged_follow (hfrank : k.Frank) (feed : Feed ε) (acts : List (Act ε)) :
    Judged k ((start feed).follow k acts) :=
  (follow_induction (P := fun r => Judged k r ∧ Awaited k r)
    (fun _ a h => ⟨h.1.act h.2 hfrank a, h.2.act a⟩)
    ⟨judged_start k feed, awaited_start k feed⟩ acts).1

end ResultWatch.Run

/-! ## 3. Streams and their outcomes -/

section Means

variable {k : ResultKind ε ρ} {Skips : Arrival ε → Prop}
  {Decides : Arrival ε → Option (Except WatchError ρ) → Prop}

/-- What items mean, said apart from the worker: which are skipped, and how each of the others
ends the subscription. -/
structure ResultKind.Means (k : ResultKind ε ρ) (Skips : Arrival ε → Prop)
    (Decides : Arrival ε → Option (Except WatchError ρ) → Prop) : Prop where
  skips : ∀ a, k.verdict a = none ↔ Skips a
  decides : ∀ a outcome, k.verdict a = some outcome ↔ Decides a outcome
  frank : k.Frank

theorem ResultKind.means_of_total (hskips : ∀ a, Skips a → k.verdict a = none)
    (hdecides : ∀ a outcome, Decides a outcome → k.verdict a = some outcome)
    (htotal : ∀ a, Skips a ∨ ∃ outcome, Decides a outcome)
    (hfrank : ∀ a, ¬ Decides a (some (.error .workerGone))) : k.Means Skips Decides := by
  have hdecided : ∀ a outcome, k.verdict a = some outcome ↔ Decides a outcome := by
    intro a outcome
    refine ⟨?_, hdecides a outcome⟩
    intro hv
    rcases htotal a with hskip | ⟨other, hother⟩
    · cases (hskips a hskip).symm.trans hv
    · cases (hdecides a other hother).symm.trans hv
      exact hother
  refine { skips := ?_, decides := hdecided, frank := ?_ }
  · intro a
    refine ⟨?_, hskips a⟩
    intro hv
    apply (htotal a).resolve_right
    rintro ⟨outcome, houtcome⟩
    cases (hdecides a outcome houtcome).symm.trans hv
  · intro a hv
    exact hfrank a ((hdecided a _).mp hv)

/-- Every item is either skipped or decides, and what decides does so in one way. -/
theorem ResultKind.Means.unique (h : k.Means Skips Decides) (a : Arrival ε) :
    (Skips a ∧ ∀ outcome, ¬ Decides a outcome) ∨ (¬ Skips a ∧ ∃! outcome, Decides a outcome) := by
  cases hv : k.verdict a with
  | none =>
      refine Or.inl ⟨(h.skips a).mp hv, ?_⟩
      intro outcome hdecides
      rw [← h.decides, hv] at hdecides
      cases hdecides
  | some outcome =>
      refine Or.inr ⟨?_, outcome, (h.decides a outcome).mp hv, ?_⟩
      · rw [← h.skips, hv]
        exact Option.some_ne_none outcome
      · intro other hother
        rw [← h.decides, hv] at hother
        exact (Option.some.inj hother).symm

namespace ResultWatch.Run

variable {r : Run ε ρ}

/-- What a worker makes of its stream, if `Skips` and `Decides` say what the items mean. -/
structure DecidedByFirst (k : ResultKind ε ρ) (Skips : Arrival ε → Prop)
    (Decides : Arrival ε → Option (Except WatchError ρ) → Prop) (r : Run ε ρ) : Prop where
  inOrder : InOrder r
  /-- As long as the worker is there, the stream yields the frames that arrive and then what closes
  it. -/
  yields : r.watch.running = true →
    r.stream = r.arrived.map Frame.arrival
      ++ ((r.watch.feed.ending r.cancelled).map Arrival.fault).toList
  /-- All that it has taken by then was skipped, and there is no outcome. -/
  waiting : r.watch.running = true → (∀ a ∈ r.taken, Skips a) ∧ r.outcome? = none
  /-- The item with which it left is the only one that it did not skip, and decided. -/
  left : r.watch.running = false →
    ∃ skipped a, r.taken = skipped ++ [a] ∧ (∀ b ∈ skipped, Skips b) ∧ Decides a r.outcome?
  /-- The first item of the stream that is not skipped is the one with which it leaves, and
  whatever stands before or behind it, the outcome is its own. -/
  first : ∀ skipped a rest outcome, r.stream = skipped ++ a :: rest → (∀ b ∈ skipped, Skips b) →
    Decides a outcome →
    (r.watch.running = true → r.taken <+: skipped)
    ∧ (r.watch.running = false → r.taken = skipped ++ [a] ∧ r.outcome? = outcome)
  /-- It only waits for as long as there is no such item. -/
  rest : r.watch.step k r.cancelled = none → (r.watch.running = true ↔ ∀ a ∈ r.stream, Skips a)
  /-- If no frame decides, it leaves with what closes the stream. -/
  closed : (∀ frame ∈ r.arrived, Skips frame.arrival) → r.watch.running = false →
    ∃ cause, r.watch.feed.Closes r.cancelled cause ∧ r.outcome? = some (.error (.stream cause))
  /-- Once it has left, nothing is taken and the outcome stays as it is. -/
  settled : r.watch.running = false → ∀ more, (r.follow k more).watch.running = false
    ∧ (r.follow k more).taken = r.taken ∧ (r.follow k more).outcome? = r.outcome?

/-- A worker that still runs has not got to the first item that decides. -/
theorem Awaited.taken_prefix (h : Awaited k r) (hw : r.watch.running = true)
    {skipped rest : List (Arrival ε)} {a : Arrival ε} (hstream : r.stream = skipped ++ a :: rest)
    (ha : k.verdict a ≠ none) : r.taken <+: skipped := by
  rcases List.append_eq_append_iff.mp hstream with ⟨more, hskipped, -⟩ | ⟨more, htaken, hrest⟩
  · exact ⟨more, hskipped.symm⟩
  · cases more with
    | nil => exact ⟨[], by rw [htaken, List.append_nil, List.append_nil]⟩
    | cons b more =>
        rw [List.cons_append, List.cons.injEq] at hrest
        have hmem : a ∈ r.taken := by simp [htaken, hrest.1]
        exact absurd (h.running.mp hw a hmem) ha

/-- A worker that has left took the items up to the first that decides. -/
theorem Judged.taken_eq (h : Judged k r) (hgone : r.watch.running = false)
    {skipped rest : List (Arrival ε)} {a : Arrival ε} {outcome : Option (Except WatchError ρ)}
    (hstream : r.stream = skipped ++ a :: rest) (hskipped : ∀ b ∈ skipped, k.verdict b = none)
    (ha : k.verdict a = some outcome) : r.taken = skipped ++ [a] ∧ r.outcome? = outcome := by
  obtain ⟨before, b, htaken, hbefore, hb⟩ := h.last hgone
  obtain ⟨own, hown⟩ := Option.ne_none_iff_exists'.mp hb
  -- what is read of a stream does not depend on how much of it is still to come
  have hreads : k.reads r.stream = r.taken := by
    rw [stream, htaken, List.append_assoc, List.singleton_append]
    exact k.reads_decided hbefore hown _
  rw [hstream, k.reads_decided hskipped ha] at hreads
  refine ⟨hreads.symm, ?_⟩
  rw [h.outcome, ← hreads]
  exact k.outcomeOf_decided hskipped ha

/-- Where no frame decides, the outcome is what closes the stream. -/
theorem Judged.closed (h : Judged k r)
    (hskipped : ∀ frame ∈ r.arrived, k.verdict frame.arrival = none)
    (hgone : r.watch.running = false) :
    ∃ cause, r.watch.feed.Closes r.cancelled cause
      ∧ r.outcome? = some (.error (.stream cause)) := by
  obtain ⟨closing, ⟨frames, harrived, htaken⟩, hcloses⟩ := h.inOrder
  have hframes : ∀ a ∈ frames.map Frame.arrival, k.verdict a = none := by
    rw [List.forall_mem_map]
    intro frame hframe
    apply hskipped
    rw [harrived]
    exact List.mem_append_left _ hframe
  cases closing with
  | none =>
      -- then the item with which it left is a frame
      obtain ⟨before, a, hlast, -, ha⟩ := h.last hgone
      apply absurd (hframes a _) ha
      have hall : r.taken = frames.map Frame.arrival := htaken.trans (List.append_nil _)
      rw [← hall, hlast]
      exact List.mem_append_right _ List.mem_cons_self
  | some cause =>
      refine ⟨cause, hcloses cause rfl, ?_⟩
      rw [h.outcome, htaken]
      exact k.outcomeOf_decided hframes rfl

/-- In every run the first item that decides is what the outcome comes from. `Judged` says what was
taken and `Awaited` that a worker which is still there has only skipped; `h` turns the worker's
verdicts into the two predicates of the statement, item by item. What is left is to find the first
deciding item of the whole stream in what was taken: a worker that left has taken up to it, one that
is there not yet. -/
theorem decidedByFirst (h : k.Means Skips Decides) (feed : Feed ε) (acts : List (Act ε)) :
    DecidedByFirst k Skips Decides ((start feed).follow k acts) := by
  have hj : Judged k ((start feed).follow k acts) := judged_follow h.frank feed acts
  have hw : Awaited k ((start feed).follow k acts) := awaited_follow k feed acts
  generalize (start feed).follow k acts = r at hj hw
  refine { inOrder := hj.inOrder, yields := ?_, waiting := ?_, left := ?_, first := ?_,
           rest := ?_, closed := ?_, settled := settled_follow hj.unread }
  · intro hrun
    obtain ⟨frames, harrived, htaken⟩ := hj.inOrder.drawn_of_skipped (hw.running.mp hrun)
    rw [stream, Feed.items, harrived, htaken, List.map_append, Option.map_none, Option.toList_none,
      List.append_nil, List.append_assoc]
  · intro hrun
    have hskipped := hw.running.mp hrun
    refine ⟨fun a ha => (h.skips a).mp (hskipped a ha), ?_⟩
    rw [hj.outcome, k.outcomeOf_skipped hskipped]
  · intro hgone
    obtain ⟨skipped, a, htaken, hskipped, ha⟩ := hj.last hgone
    obtain ⟨outcome, houtcome⟩ := Option.ne_none_iff_exists'.mp ha
    refine ⟨skipped, a, htaken, fun b hb => (h.skips b).mp (hskipped b hb), ?_⟩
    rw [← h.decides, hj.outcome, htaken, k.outcomeOf_decided hskipped houtcome]
    exact houtcome
  · intro skipped a rest outcome hstream hskips hdecides
    rw [← h.decides] at hdecides
    refine ⟨?_, ?_⟩
    · intro hrun
      apply hw.taken_prefix hrun hstream
      rw [hdecides]
      exact Option.some_ne_none outcome
    · intro hgone
      exact hj.taken_eq hgone hstream (fun b hb => (h.skips b).mpr (hskips b hb)) hdecides
  · intro hrest
    constructor
    · intro hrun
      have hpull : r.watch.feed.pull? r.cancelled = none := by
        apply (step_eq_none hrest).resolve_left
        rw [hrun]
        exact Bool.noConfusion
      rw [stream, Feed.items_eq_nil hpull, List.append_nil]
      exact fun a ha => (h.skips a).mp (hw.running.mp hrun a ha)
    · intro hskips
      rw [hw.running]
      exact fun a ha => (h.skips a).mpr (hskips a (List.mem_append_left _ ha))
  · intro hskips
    exact hj.closed fun frame hframe => (h.skips _).mpr (hskips frame hframe)

/-- Two runs on streams with the same first item that decides have the same outcome. -/
theorem same_outcome (h : k.Means Skips Decides) (feed feed' : Feed ε) (acts acts' : List (Act ε)) :
    let r := (start feed).follow k acts
    let r' := (start feed').follow k acts'
    ∀ skipped skipped' a rest rest',
      r.stream = skipped ++ a :: rest → r'.stream = skipped' ++ a :: rest' →
      (∀ b ∈ skipped, Skips b) → (∀ b ∈ skipped', Skips b) → ¬ Skips a →
      r.watch.running = false → r'.watch.running = false → r.outcome? = r'.outcome? := by
  intro r r' skipped skipped' a rest rest' hstream hstream' hskips hskips' ha hgone hgone'
  obtain ⟨outcome, hdecides, -⟩ := ((h.unique a).resolve_left fun hskip => ha hskip.1).2
  have hr : DecidedByFirst k Skips Decides r := decidedByFirst h feed acts
  have hr' : DecidedByFirst k Skips Decides r' := decidedByFirst h feed' acts'
  have houtcome := ((hr.first _ _ _ _ hstream hskips hdecides).2 hgone).2
  have houtcome' := ((hr'.first _ _ _ _ hstream' hskips' hdecides).2 hgone').2
  exact houtcome.trans houtcome'.symm

end ResultWatch.Run

end Means

/-! ## 4. Confirmations -/

namespace ConfirmEvent

/-- Only the mark of a reorganization is skipped. -/
inductive Skipped : Arrival ConfirmEvent → Prop where
  | reorg (mark : Reorg) : Skipped (.event ⟨some (.reorg mark)⟩)

inductive Decides : Arrival ConfirmEvent → Option (Except WatchError Confirmation) → Prop where
  | failed (cause : LinkError) : Decides (.fault cause) (some (.error (.stream cause)))
  | confirmed {d : ConfirmDetails} {c : Confirmation} (h : d.decode = .ok c) :
      Decides (.event ⟨some (.details d)⟩) (some (.ok c))
  | malformed {d : ConfirmDetails} {e : PayloadError} (h : d.decode = .error e) :
      Decides (.event ⟨some (.details d)⟩) (some (.error (.payload e)))
  | empty : Decides (.event ⟨none⟩) (some (.error (.payload (.emptyEvent "conf"))))
  | unknown (tag : String) :
      Decides (.event ⟨some (.unknown tag)⟩)
        (some (.error (.protocol ("conf event has unexpected type: " ++ tag))))
  | crash : Decides .crash none

theorem verdict_skipped {a : Arrival ConfirmEvent} (h : Skipped a) :
    confirmKind.verdict a = none := by
  cases h
  rfl

theorem verdict_decides {a : Arrival ConfirmEvent}
    {outcome : Option (Except WatchError Confirmation)} (h : Decides a outcome) :
    confirmKind.verdict a = some outcome := by
  cases h with
  | failed cause => rfl
  | confirmed h =>
      simp only [ResultKind.verdict, confirmKind, judge, h]
      rfl
  | malformed h =>
      simp only [ResultKind.verdict, confirmKind, judge, h]
      rfl
  | empty => rfl
  | unknown tag => rfl
  | crash => rfl

theorem skipped_or_decides (a : Arrival ConfirmEvent) :
    Skipped a ∨ ∃ outcome, Decides a outcome := by
  cases a with
  | event e =>
      obtain ⟨body⟩ := e
      cases body with
      | none => exact Or.inr ⟨_, .empty⟩
      | some body =>
          cases body with
          | details d =>
              cases h : d.decode with
              | ok c => exact Or.inr ⟨_, .confirmed h⟩
              | error e => exact Or.inr ⟨_, .malformed h⟩
          | reorg mark => exact Or.inl (.reorg mark)
          | unknown tag => exact Or.inr ⟨_, .unknown tag⟩
  | fault cause => exact Or.inr ⟨_, .failed cause⟩
  | crash => exact Or.inr ⟨_, .crash⟩

theorem means : confirmKind.Means Skipped Decides :=
  ResultKind.means_of_total (fun _ => verdict_skipped) (fun _ _ => verdict_decides)
    skipped_or_decides nofun

end ConfirmEvent

namespace ResultWatch.Run

/-- A confirmation is decided by the first item that is not a reorganization, and by that item
alone. However many reorganizations stand before it in another run, whatever comes behind it there
and whatever else is done, the outcome is the same. -/
theorem confirmation_decided_by_first (feed : Feed ConfirmEvent) (acts : List (Act ConfirmEvent)) :
    let r := (start feed).follow confirmKind acts
    DecidedByFirst confirmKind ConfirmEvent.Skipped ConfirmEvent.Decides r
    ∧ (∀ a, (ConfirmEvent.Skipped a ∧ ∀ outcome, ¬ ConfirmEvent.Decides a outcome)
      ∨ (¬ ConfirmEvent.Skipped a ∧ ∃! outcome, ConfirmEvent.Decides a outcome))
    ∧ ∀ feed' acts', let r' := (start feed').follow confirmKind acts'
      ∀ skipped skipped' a rest rest',
        r.stream = skipped ++ a :: rest → r'.stream = skipped' ++ a :: rest' →
        (∀ b ∈ skipped, ConfirmEvent.Skipped b) → (∀ b ∈ skipped', ConfirmEvent.Skipped b) →
        ¬ ConfirmEvent.Skipped a → r.watch.running = false → r'.watch.running = false →
        r.outcome? = r'.outcome? := by
  intro r
  refine ⟨decidedByFirst ConfirmEvent.means feed acts, ConfirmEvent.means.unique, ?_⟩
  intro feed' acts'
  exact same_outcome ConfirmEvent.means feed feed' acts acts'

/-- Two reorganizations, an event of an unknown kind and one that carries nothing, cut into two
arrivals; the call is cancelled and the handle dropped in between. -/
def reorganized : List (Act ConfirmEvent) :=
  [.push [.event .ofReorg false, .event .ofReorg false] false, .work, .tryResult, .cancel, .work,
    .push [.event ⟨some (.unknown "x")⟩ false, .event .empty false] true, .drop, .work, .work]

theorem confirmation_decided_by_first_reorganized :
    let r := (start ⟨[], false, false⟩).follow confirmKind reorganized
    r.watch.running = false
    ∧ r.stream = [.event .ofReorg, .event .ofReorg]
      ++ .event ⟨some (.unknown "x")⟩ :: [.event .empty, .fault .streamClosed]
    ∧ r.taken = [.event .ofReorg, .event .ofReorg, .event ⟨some (.unknown "x")⟩]
    ∧ r.outcome? = some (.error (.protocol "conf event has unexpected type: x")) := by
  intro r
  have hgone : r.watch.running = false := rfl
  have hstream : r.stream = [.event .ofReorg, .event .ofReorg]
      ++ .event ⟨some (.unknown "x")⟩ :: [.event .empty, .fault .streamClosed] := rfl
  have hskips : ∀ b ∈ [Arrival.event Event.ofReorg, .event .ofReorg], ConfirmEvent.Skipped b := by
    simp only [List.forall_mem_cons]
    exact ⟨.reorg ⟨⟩, .reorg ⟨⟩, nofun⟩
  obtain ⟨hr, -⟩ := confirmation_decided_by_first ⟨[], false, false⟩ reorganized
  obtain ⟨htaken, houtcome⟩ := (hr.first _ _ _ _ hstream hskips (.unknown "x")).2 hgone
  exact ⟨hgone, hstream, htaken, houtcome⟩

end ResultWatch.Run

/-! ## 5. Spends -/

namespace SpendEvent

/-- Every event without details is skipped. -/
inductive Skipped : Arrival SpendEvent → Prop where
  | empty : Skipped (.event ⟨none⟩)
  | reorg (mark : Reorg) : Skipped (.event ⟨some (.reorg mark)⟩)
  | unknown (tag : String) : Skipped (.event ⟨some (.unknown tag)⟩)

inductive Decides : Arrival SpendEvent → Option (Except WatchError Spend) → Prop where
  | failed (cause : LinkError) : Decides (.fault cause) (some (.error (.stream cause)))
  | spent {d : SpendDetails} {s : Spend} (h : d.decode = .ok s) :
      Decides (.event ⟨some (.details d)⟩) (some (.ok s))
  | malformed {d : SpendDetails} {e : PayloadError} (h : d.decode = .error e) :
      Decides (.event ⟨some (.details d)⟩) (some (.error (.payload e)))
  | crash : Decides .crash none

theorem verdict_skipped {a : Arrival SpendEvent} (h : Skipped a) : spendKind.verdict a = none := by
  cases h <;> rfl

theorem verdict_decides {a : Arrival SpendEvent} {outcome : Option (Except WatchError Spend)}
    (h : Decides a outcome) : spendKind.verdict a = some outcome := by
  cases h with
  | failed cause => rfl
  | spent h =>
      simp only [ResultKind.verdict, spendKind, judge, h]
      rfl
  | malformed h =>
      simp only [ResultKind.verdict, spendKind, judge, h]
      rfl
  | crash => rfl

theorem skipped_or_decides (a : Arrival SpendEvent) :
    Skipped a ∨ ∃ outcome, Decides a outcome := by
  cases a with
  | event e =>
      obtain ⟨body⟩ := e
      cases body with
      | none => exact Or.inl .empty
      | some body =>
          cases body with
          | details d =>
              cases h : d.decode with
              | ok s => exact Or.inr ⟨_, .spent h⟩
              | error e => exact Or.inr ⟨_, .malformed h⟩
          | reorg mark => exact Or.inl (.reorg mark)
          | unknown tag => exact Or.inl (.unknown tag)
  | fault cause => exact Or.inr ⟨_, .failed cause⟩
  | crash => exact Or.inr ⟨_, .crash⟩

theorem means : spendKind.Means Skipped Decides :=
  ResultKind.means_of_total (fun _ => verdict_skipped) (fun _ _ => verdict_decides)
    skipped_or_decides nofun

end SpendEvent

namespace ResultWatch.Run

/-- A spend is decided by the first details, right or wrong, or by the failure of the stream before
any. What else the stream yields is skipped, and no run of it has another outcome. -/
theorem spend_decided_by_first (feed : Feed SpendEvent) (acts : List (Act SpendEvent)) :
    let r := (start feed).follow spendKind acts
    DecidedByFirst spendKind SpendEvent.Skipped SpendEvent.Decides r
    ∧ (∀ a, (SpendEvent.Skipped a ∧ ∀ outcome, ¬ SpendEvent.Decides a outcome)
      ∨ (¬ SpendEvent.Skipped a ∧ ∃! outcome, SpendEvent.Decides a outcome))
    ∧ ∀ feed' acts', let r' := (start feed').follow spendKind acts'
      ∀ skipped skipped' a rest rest',
        r.stream = skipped ++ a :: rest → r'.stream = skipped' ++ a :: rest' →
        (∀ b ∈ skipped, SpendEvent.Skipped b) → (∀ b ∈ skipped', SpendEvent.Skipped b) →
        ¬ SpendEvent.Skipped a → r.watch.running = false → r'.watch.running = false →
        r.outcome? = r'.outcome? := by
  intro r
  refine ⟨decidedByFirst SpendEvent.means feed acts, SpendEvent.means.unique, ?_⟩
  intro feed' acts'
  exact same_outcome SpendEvent.means feed feed' acts acts'

/-- An empty event, a reorganization, one of an unknown kind, details without an output and then
further details; the call is cancelled and the result asked for in between. -/
def overlooked : List (Act SpendEvent) :=
  [.work, .push [.event ⟨some (.unknown "x")⟩ false, .event (.ofDetails .empty) false] false,
    .cancel, .work, .tryResult, .push [.event (.ofDetails ⟨some .empty, [], [], 0, 0⟩) false] false,
    .work, .work, .await, .work]

theorem spend_decided_by_first_overlooked :
    let r := (start ⟨[.event .empty false, .event .ofReorg false], false, false⟩).follow spendKind
      overlooked
    r.watch.running = false
    ∧ r.stream = [.event .empty, .event .ofReorg, .event ⟨some (.unknown "x")⟩]
      ++ .event (.ofDetails .empty) :: [.event (.ofDetails ⟨some .empty, [], [], 0, 0⟩)]
    ∧ r.taken = [.event .empty, .event .ofReorg, .event ⟨some (.unknown "x")⟩,
      .event (.ofDetails .empty)]
    ∧ r.outcome? = some (.error (.payload (.missingField "spending_outpoint"))) := by
  intro r
  have hgone : r.watch.running = false := rfl
  have hstream : r.stream = [.event .empty, .event .ofReorg, .event ⟨some (.unknown "x")⟩]
      ++ .event (.ofDetails .empty) :: [.event (.ofDetails ⟨some .empty, [], [], 0, 0⟩)] := rfl
  have hskips : ∀ b ∈ [Arrival.event Event.empty, .event .ofReorg, .event ⟨some (.unknown "x")⟩],
      SpendEvent.Skipped b := by
    simp only [List.forall_mem_cons]
    exact ⟨.empty, .reorg ⟨⟩, .unknown "x", nofun⟩
  have hdecode : SpendDetails.empty.decode = .error (.missingField "spending_outpoint") := rfl
  obtain ⟨hr, -⟩ := spend_decided_by_first _ overlooked
  obtain ⟨htaken, houtcome⟩ := (hr.first _ _ _ _ hstream hskips (.malformed hdecode)).2 hgone
  exact ⟨hgone, hstream, htaken, houtcome⟩

end ResultWatch.Run

end ChainWatch
