/-
A block subscription over time.

`EpochWatch` says what each party can do at one moment. Here those moments are strung
together: an `Act` is one thing that can happen, and a `Run` is a subscription with what has
come of it so far, that is what arrived on its stream, what its worker took, and what its
holder was handed and told. `follow` lets any acts happen, in any order.

A run records; it decides nothing. Every change of the subscription in `act` is made by the
functions of `EpochWatch` and `Feed`, so what holds after `follow` for all acts holds of a
subscription however its worker, its server, its holder and its canceller take turns.
-/
import ChainWatch.EpochWatch

set_option autoImplicit false

namespace ChainWatch

/-! ## 1. What an item means -/

namespace Arrival

/-- What an item of a block stream means: a height, or the end of the subscription. The end
is reported with an error unless the item destroyed the worker, which reports nothing. -/
def outcome : Arrival BlockEpoch → Except (Option WatchError) Int32
  | .event epoch =>
      if epoch.height < 0x80000000 then .ok epoch.height.toInt32
      else .error (some (.payload (.outOfRange "height" epoch.height)))
  | .fault cause => .error (some (.stream cause))
  | .crash => .error none

end Arrival

/-- The heights of a stream: those of the items before the first that fails. -/
def heights : List (Arrival BlockEpoch) → List Int32
  | [] => []
  | a :: rest =>
      match a.outcome with
      | .ok height => height :: heights rest
      | .error _ => []

/-- How a stream fails, if one of its items does: by what the first of them means. -/
def failure? : List (Arrival BlockEpoch) → Option (Option WatchError)
  | [] => none
  | a :: rest =>
      match a.outcome with
      | .ok _ => failure? rest
      | .error e => some e

/-- Behind items that all hold a height a stream goes on as if it began there; behind one
that fails nothing counts. -/
theorem heights_append (items more : List (Arrival BlockEpoch)) :
    heights (items ++ more)
      = heights items ++ if failure? items = none then heights more else [] := by
  induction items with
  | nil => simp only [List.nil_append, heights, failure?, if_true]
  | cons a rest ih =>
      cases ha : a.outcome with
      | ok height => simp only [List.cons_append, heights, failure?, ha, ih]
      | error e =>
          simp only [List.cons_append, heights, failure?, ha, reduceCtorEq, if_false,
            List.append_nil]

theorem failure?_append (items more : List (Arrival BlockEpoch)) :
    failure? (items ++ more) = (failure? items).or (failure? more) := by
  induction items with
  | nil => rfl
  | cons a rest ih =>
      simp only [List.cons_append, failure?]
      split
      · exact ih
      · rfl

theorem heights_prefix_append (items more : List (Arrival BlockEpoch)) :
    heights items <+: heights (items ++ more) := by
  rw [heights_append]
  exact List.prefix_append _ _

/-- The answer, if there is one already. -/
def Reply.answer? {α : Type} : Reply α → Option α
  | .pending => none
  | .ready value => some value

/-- The height that an answer hands out. -/
def heightIn : Option (Except WatchError Int32) → Option Int32
  | some (.ok height) => some height
  | some (.error _) | none => none

/-- The value that a look into a channel takes out of it. -/
def EpochWatch.Glance.value? {α : Type} : EpochWatch.Glance α → Option α
  | .value a => some a
  | .empty | .closed => none

namespace EpochWatch

/-! ## 2. What the worker can do -/

/-- The height the worker holds. -/
def held (w : EpochWatch) : Option Int32 :=
  match w.worker with
  | .holding height => some height
  | .waiting | .gone => none

/-- The item the worker takes with its next step, if it takes one. -/
def next? (cancelled : Bool) (w : EpochWatch) : Option (Arrival BlockEpoch) :=
  if cancelled = false ∧ w.worker = .waiting then (w.feed.pull? cancelled).map Pull.arrival
  else none

/-- The steps of a worker, by what happens in them, with the item that is taken. -/
inductive Stepped (cancelled : Bool) (w : EpochWatch) :
    Option (Arrival BlockEpoch) → Move EpochWatch → Prop where
  /-- It leaves because of the cancellation. -/
  | stopped (log : List Log.Event) (hc : cancelled = true) (hw : w.worker ≠ .gone) :
      Stepped cancelled w none (w.leave log)
  /-- It takes an item with a height. -/
  | took {p : Pull BlockEpoch} {height : Int32} (hc : cancelled = false)
      (hw : w.worker = .waiting) (hp : w.feed.pull? false = some p)
      (ho : p.arrival.outcome = .ok height) :
      Stepped cancelled w (some p.arrival)
        ⟨{ w with feed := p.feed, worker := .holding height }, p.cancels, []⟩
  /-- It takes an item that fails, and leaves. -/
  | failed {p : Pull BlockEpoch} {e : Option WatchError} (log : List Log.Event)
      (hc : cancelled = false) (hw : w.worker = .waiting) (hp : w.feed.pull? false = some p)
      (ho : p.arrival.outcome = .error e) :
      Stepped cancelled w (some p.arrival)
        ⟨{ w with feed := p.feed, worker := .gone, report := e.or w.report }, p.cancels, log⟩
  /-- It leaves because nobody takes heights any more. -/
  | unheard {height : Int32} (log : List Log.Event) (hc : cancelled = false)
      (hw : w.worker = .holding height) (hl : w.listening = false) :
      Stepped cancelled w none (w.leave log)
  /-- It puts the height it holds into the channel. -/
  | sent {height : Int32} (hc : cancelled = false) (hw : w.worker = .holding height)
      (hl : w.listening = true) (hs : w.slot = none) :
      Stepped cancelled w none ⟨{ w with worker := .waiting, slot := some height }, false, []⟩

/-- What the worker makes of an item is what the item means. -/
theorem stepped_receive {cancelled : Bool} {w : EpochWatch} {p : Pull BlockEpoch}
    (hc : cancelled = false) (hw : w.worker = .waiting) (hp : w.feed.pull? false = some p) :
    Stepped cancelled w (some p.arrival)
      ({ w with feed := p.feed }.receive p.cancels p.arrival) := by
  obtain ⟨arrival, cancels, feed⟩ := p
  cases arrival with
  | event epoch =>
      by_cases hh : epoch.height < 0x80000000
      · have ho : (Arrival.event epoch).outcome = .ok epoch.height.toInt32 := by
          simp only [Arrival.outcome, hh, if_true]
        simp only [receive, BlockEpoch.decode, decodeHeight, hh, if_true]
        exact .took hc hw hp ho
      · have ho : (Arrival.event epoch).outcome
            = .error (some (.payload (.outOfRange "height" epoch.height))) := by
          simp only [Arrival.outcome, hh, if_false]
        simp only [receive, BlockEpoch.decode, decodeHeight, hh, if_false]
        exact .failed _ hc hw hp ho
  | fault cause => exact .failed _ hc hw hp rfl
  | crash => exact .failed _ hc hw hp rfl

/-- Every step is one of these moves, with the item that `next?` foretells. -/
theorem stepped_of_step {cancelled : Bool} {w : EpochWatch} {m : Move EpochWatch}
    (h : w.step cancelled = some m) : Stepped cancelled w (w.next? cancelled) m := by
  unfold step at h
  split at h
  · cases h
  · rename_i hw
    split at h
    · rename_i hc
      cases h
      rw [next?, if_neg (by simp only [hc, Bool.true_eq_false, false_and, not_false_eq_true])]
      exact .stopped _ hc (by simp [hw])
    · rename_i hc
      rw [Bool.not_eq_true] at hc
      subst hc
      split at h
      · rename_i p hp
        cases h
        rw [next?, if_pos ⟨rfl, hw⟩, hp, Option.map_some]
        exact stepped_receive rfl hw hp
      · cases h
  · rename_i height hw
    -- a worker that holds a height takes nothing
    have hnext : w.next? cancelled = none := by
      rw [next?, if_neg (by simp only [hw, reduceCtorEq, and_false, not_false_eq_true])]
    rw [hnext]
    split at h
    · rename_i hc
      cases h
      exact .stopped _ hc (by simp [hw])
    · rename_i hc
      rw [Bool.not_eq_true] at hc
      split at h
      · rename_i hl
        cases h
        exact .unheard _ hc hw (by simpa using hl)
      · rename_i hl
        split at h
        · rename_i hs
          cases h
          exact .sent hc hw (by simpa using hl) hs
        · cases h

/-- A worker rests for one of three reasons: it is gone, its stream has nothing for it, or
the channel is full. -/
theorem step_eq_none {cancelled : Bool} {w : EpochWatch} (h : w.step cancelled = none) :
    w.worker = .gone ∨ cancelled = false ∧ w.worker = .waiting ∧ w.feed.pull? cancelled = none ∨
      cancelled = false ∧ w.held ≠ none ∧ w.listening = true ∧ w.slot ≠ none := by
  unfold step at h
  split at h
  · rename_i hw
    exact Or.inl hw
  · rename_i hw
    split at h
    · cases h
    · rename_i hc
      split at h
      · cases h
      · rename_i hp
        exact Or.inr (Or.inl ⟨by simpa using hc, hw, hp⟩)
  · rename_i height hw
    split at h
    · cases h
    · rename_i hc
      split at h
      · cases h
      · rename_i hl
        split at h
        · cases h
        · rename_i hs
          exact Or.inr (Or.inr ⟨by simpa using hc, by simp [held, hw], by simpa using hl, hs⟩)

/-! ## 3. What the holder can learn -/

/-- The subscription as a request for the next height finds it: once the call is cancelled
the channel is closed and emptied first. -/
def hush (cancelled : Bool) (w : EpochWatch) : EpochWatch :=
  if cancelled then { w with slot := none, listening := false } else w

section Hush

variable (cancelled : Bool) (w : EpochWatch)

@[simp] theorem hush_feed : (w.hush cancelled).feed = w.feed := by unfold hush; split <;> rfl

@[simp] theorem hush_worker : (w.hush cancelled).worker = w.worker := by unfold hush; split <;> rfl

@[simp] theorem hush_handle : (w.hush cancelled).handle = w.handle := by unfold hush; split <;> rfl

@[simp] theorem hush_report : (w.hush cancelled).report = w.report := by unfold hush; split <;> rfl

@[simp] theorem hush_reportRead : (w.hush cancelled).reportRead = w.reportRead := by
  unfold hush; split <;> rfl

theorem hush_listening : (w.hush cancelled).listening = (w.listening && !cancelled) := by
  cases cancelled <;> simp [hush]

variable {cancelled w}

theorem hush_slot (hover : cancelled = true ∨ w.slot = none ∧ w.worker = .gone) :
    (w.hush cancelled).slot = none := by
  unfold hush
  split
  · rfl
  · rename_i hc
    exact (hover.resolve_left hc).1

end Hush

/-- The answers to a request for the next height, by what leads to them. -/
inductive Asked (cancelled : Bool) (w : EpochWatch) :
    EpochWatch → Reply (Option (Except WatchError Int32)) → Prop where
  /-- There is a height in the channel. -/
  | height {height : Int32} (hc : cancelled = false) (hs : w.slot = some height) :
      Asked cancelled w { w with slot := none } (.ready (some (.ok height)))
  /-- There is none, and the worker may still bring one. -/
  | idle (hc : cancelled = false) (hs : w.slot = none) (hw : w.worker ≠ .gone) :
      Asked cancelled w w .pending
  /-- No height can come any more, and the worker has not left yet. -/
  | leaving (hc : cancelled = true) (hr : w.reportRead = false) (he : w.report = none)
      (hw : w.worker ≠ .gone) : Asked cancelled w (w.hush cancelled) .pending
  /-- No height can come any more, and an error was reported. -/
  | error {e : WatchError} (hover : cancelled = true ∨ w.slot = none ∧ w.worker = .gone)
      (hr : w.reportRead = false) (he : w.report = some e) :
      Asked cancelled w { w.hush cancelled with report := none, reportRead := true }
        (.ready (some (.error e)))
  /-- No height can come any more, and the worker left without a report. -/
  | silent (hover : cancelled = true ∨ w.slot = none ∧ w.worker = .gone)
      (hr : w.reportRead = false) (he : w.report = none) (hw : w.worker = .gone) :
      Asked cancelled w { w.hush cancelled with reportRead := true } (.ready none)
  /-- The holder has been told the end before. -/
  | again (hover : cancelled = true ∨ w.slot = none ∧ w.worker = .gone)
      (hr : w.reportRead = true) : Asked cancelled w (w.hush cancelled) (.ready none)

theorem asked_recvReport {cancelled : Bool} {w : EpochWatch}
    (hover : cancelled = true ∨ w.slot = none ∧ w.worker = .gone) :
    Asked cancelled w (w.hush cancelled).recvReport.1 (w.hush cancelled).recvReport.2 := by
  unfold recvReport
  split
  · rename_i hr
    rw [hush_reportRead] at hr
    exact .again hover hr
  · rename_i hr
    rw [hush_reportRead, Bool.not_eq_true] at hr
    split
    · rename_i e he
      rw [hush_report] at he
      exact .error hover hr he
    · rename_i he
      rw [hush_report] at he
      split
      · rename_i hw
        rw [isLive, hush_worker, decide_eq_true_eq] at hw
        have hc : cancelled = true := by
          rcases hover with hc | ⟨_, hgone⟩
          · exact hc
          · exact absurd hgone hw
        exact .leaving hc hr he hw
      · rename_i hw
        rw [isLive, hush_worker, decide_eq_true_eq, Decidable.not_not] at hw
        exact .silent hover hr he hw

theorem asked_recv (cancelled : Bool) (w : EpochWatch) :
    Asked cancelled w (w.recv cancelled).1 (w.recv cancelled).2 := by
  unfold recv
  split
  · rename_i hc
    subst hc
    exact asked_recvReport (Or.inl rfl)
  · rename_i hc
    rw [Bool.not_eq_true] at hc
    subst hc
    split
    · rename_i height hs
      exact .height rfl hs
    · rename_i hs
      split
      · rename_i hw
        exact .idle rfl hs (by simpa [isLive] using hw)
      · rename_i hw
        exact asked_recvReport (Or.inr ⟨hs, by simpa [isLive] using hw⟩)

/-- A request does not touch the worker. -/
theorem Asked.worker {cancelled : Bool} {w w' : EpochWatch}
    {reply : Reply (Option (Except WatchError Int32))} (h : Asked cancelled w w' reply) :
    w'.worker = w.worker := by
  cases h with
  | height => rfl
  | idle => rfl
  | leaving => exact hush_worker ..
  | error => exact hush_worker cancelled w
  | silent => exact hush_worker cancelled w
  | again => exact hush_worker ..

/-- Nor does it change the handle. -/
theorem Asked.handle {cancelled : Bool} {w w' : EpochWatch}
    {reply : Reply (Option (Except WatchError Int32))} (h : Asked cancelled w w' reply) :
    w'.handle = w.handle := by
  cases h with
  | height => rfl
  | idle => rfl
  | leaving => exact hush_handle ..
  | error => exact hush_handle cancelled w
  | silent => exact hush_handle cancelled w
  | again => exact hush_handle ..

/-- A look into the height channel empties it. -/
theorem tryHeight_fst (w : EpochWatch) : w.tryHeight.1 = { w with slot := none } := by
  unfold tryHeight
  split
  · rfl
  · rename_i hs
    rw [← hs]

theorem tryHeight_value? (w : EpochWatch) : w.tryHeight.2.value? = w.slot := by
  unfold tryHeight
  split
  · rename_i height hs
    exact hs.symm
  · rename_i hs
    rw [hs]
    dsimp only
    split <;> rfl

/-- A look into the error channel empties it, if it is still there. -/
theorem tryReport_fst (w : EpochWatch) :
    w.tryReport.1 = { w with report := if w.reportRead then w.report else none } := by
  unfold tryReport
  split
  · rfl
  · split
    · rfl
    · rename_i hs
      rw [← hs]

/-! ## 4. What can happen, and what comes of it -/

/-- One thing that can happen to a block subscription. -/
inductive Act where
  /-- Frames come from the server, and its close if it comes with them. -/
  | push (frames : List (Frame BlockEpoch)) (close : Bool)
  /-- The worker takes one step, if it can. -/
  | work
  /-- The holder asks once for the next height. A request that is given up while it waits is
  one that is not asked again: it leaves nothing behind. -/
  | recv
  /-- The holder splits the sequence into its channels. Any other handle is lost by it. -/
  | split
  /-- The holder looks into the height channel of a subscription that was split. -/
  | readHeight
  /-- The holder looks into the error channel of a subscription that was split. -/
  | readReport
  | drop
  /-- The token of the call is cancelled, under whatever context. -/
  | cancel

/-- Where the worker stood when the receiver of the heights was dropped. -/
structure Parting where
  /-- How many items it had taken. -/
  taken : Nat
  /-- The height it held. -/
  held : Option Int32
  deriving DecidableEq

/-- A block subscription with what has come of it so far. -/
structure Run where
  watch : EpochWatch
  cancelled : Bool
  /-- The frames that arrived on the stream. -/
  arrived : List (Frame BlockEpoch)
  /-- Whether some of them arrived behind the close of the server. -/
  late : Bool
  /-- The items that the worker took. -/
  taken : List (Arrival BlockEpoch)
  /-- The heights that the holder was handed, from the sequence or out of the channel. -/
  handed : List Int32
  /-- The answers to the requests for the next height, as far as there were any. -/
  answers : List (Option (Except WatchError Int32))
  parting : Option Parting

namespace Run

/-- A subscription whose stream has just been opened. -/
def start (feed : Feed BlockEpoch) : Run :=
  ⟨.start feed, false, feed.queue, false, [], [], [], none⟩

/-- The holder loses the handle. Only the first time counts as a parting. -/
def drop (r : Run) : Run :=
  { r with
    watch := r.watch.drop
    parting :=
      if r.watch.handle = .dropped then r.parting else some ⟨r.taken.length, r.watch.held⟩ }

def act (r : Run) : Act → Run
  | .push frames close =>
      { r with
        watch := { r.watch with feed := r.watch.feed.push frames close }
        arrived := r.arrived ++ frames
        late := r.late || (r.watch.feed.ended && !frames.isEmpty) }
  | .work =>
      match r.watch.step r.cancelled with
      | none => r
      | some m =>
          { r with
            watch := m.watch
            cancelled := r.cancelled || m.cancels
            taken := r.taken ++ (r.watch.next? r.cancelled).toList }
  | .recv =>
      if r.watch.handle = .stream then
        let (w, reply) := r.watch.recv r.cancelled
        { r with
          watch := w
          handed := r.handed ++ (reply.answer?.bind heightIn).toList
          answers := r.answers ++ reply.answer?.toList }
      else r
  | .split => if r.watch.handle = .stream then { r with watch := r.watch.split.1 } else r.drop
  | .readHeight =>
      if r.watch.handle = .channels then
        let (w, glance) := r.watch.tryHeight
        { r with watch := w, handed := r.handed ++ glance.value?.toList }
      else r
  | .readReport =>
      if r.watch.handle = .channels then { r with watch := r.watch.tryReport.1 } else r
  | .drop => r.drop
  | .cancel => { r with cancelled := true }

/-- The run after some more has happened. -/
def follow (r : Run) (acts : List Act) : Run := acts.foldl act r

@[simp] theorem follow_nil (r : Run) : r.follow [] = r := rfl

@[simp] theorem follow_cons (r : Run) (a : Act) (acts : List Act) :
    r.follow (a :: acts) = (r.act a).follow acts := rfl

theorem follow_append (r : Run) (acts acts' : List Act) :
    r.follow (acts ++ acts') = (r.follow acts).follow acts' := List.foldl_append

/-- What holds before the worker's turn and after each step it can take, holds after its turn. -/
theorem act_work {P : Run → Prop} {r : Run} (h : P r)
    (hstep : ∀ {item m}, Stepped r.cancelled r.watch item m →
      P { r with
        watch := m.watch
        cancelled := r.cancelled || m.cancels
        taken := r.taken ++ item.toList }) : P (r.act .work) := by
  simp only [act]
  split
  · exact h
  · rename_i m hm
    exact hstep (stepped_of_step hm)

/-- The same for a request, by what it leads to. -/
theorem act_recv {P : Run → Prop} {r : Run} (h : P r)
    (hstep : r.watch.handle = .stream → ∀ {w reply}, Asked r.cancelled r.watch w reply →
      P { r with
        watch := w
        handed := r.handed ++ (reply.answer?.bind heightIn).toList
        answers := r.answers ++ reply.answer?.toList }) : P (r.act .recv) := by
  simp only [act]
  split
  · rename_i hs
    exact hstep hs (asked_recv ..)
  · exact h

theorem act_split {P : Run → Prop} {r : Run} (hdrop : P r.drop)
    (hsplit : r.watch.handle = .stream →
      P { r with watch := { r.watch with handle := .channels } }) : P (r.act .split) := by
  simp only [act]
  split
  · rename_i hs
    exact hsplit hs
  · exact hdrop

theorem act_readHeight {P : Run → Prop} {r : Run} (h : P r)
    (hread : r.watch.handle = .channels →
      P { r with
        watch := { r.watch with slot := none }
        handed := r.handed ++ r.watch.slot.toList }) : P (r.act .readHeight) := by
  simp only [act]
  split
  · rename_i hs
    have hpair := hread hs
    rw [← tryHeight_fst, ← tryHeight_value?] at hpair
    exact hpair
  · exact h

theorem act_readReport {P : Run → Prop} {r : Run} (h : P r)
    (hread : r.watch.handle = .channels →
      P { r with
        watch := { r.watch with
          report := if r.watch.reportRead then r.watch.report else none } }) :
    P (r.act .readReport) := by
  simp only [act]
  split
  · rename_i hs
    rw [tryReport_fst]
    exact hread hs
  · exact h

/-- Nobody but the worker itself decides where it stands. -/
theorem worker_act (r : Run) {a : Act} (ha : a ≠ .work) :
    (r.act a).watch.worker = r.watch.worker := by
  cases a with
  | push frames close => rfl
  | work => exact absurd rfl ha
  | recv =>
      apply act_recv (P := fun r' => r'.watch.worker = r.watch.worker) rfl
      intro _ _ _ hask
      exact hask.worker
  | split =>
      apply act_split (P := fun r' => r'.watch.worker = r.watch.worker) rfl
      intro _
      rfl
  | readHeight =>
      apply act_readHeight (P := fun r' => r'.watch.worker = r.watch.worker) rfl
      intro _
      rfl
  | readReport =>
      apply act_readReport (P := fun r' => r'.watch.worker = r.watch.worker) rfl
      intro _
      rfl
  | drop => rfl
  | cancel => rfl

theorem worker_follow (r : Run) {acts : List Act} (h : ∀ a ∈ acts, a ≠ .work) :
    (r.follow acts).watch.worker = r.watch.worker := by
  induction acts generalizing r with
  | nil => rfl
  | cons a acts ih =>
      rw [List.forall_mem_cons] at h
      rw [follow_cons, ih (r.act a) h.2, worker_act r h.1]

/-- A worker that has left does not come back. -/
theorem gone_act {r : Run} (h : r.watch.worker = .gone) (a : Act) :
    (r.act a).watch.worker = .gone := by
  by_cases ha : a = .work
  · have hrest : r.watch.step r.cancelled = none := by
      unfold step
      rw [h]
    rw [ha]
    simp only [act, hrest]
    exact h
  · rw [worker_act r ha]
    exact h

/-- What every act keeps, all acts together keep. -/
theorem follow_induction {P : Run → Prop} (hact : ∀ r a, P r → P (r.act a)) {r : Run} (h : P r)
    (acts : List Act) : P (r.follow acts) := by
  induction acts generalizing r with
  | nil => exact h
  | cons a acts ih => exact ih (hact r a h)

/-- The items that the stream has for a worker, in the order in which it yields them: those
it took, those that wait in the queue, and the end once the server has closed it. -/
def stream (r : Run) : List (Arrival BlockEpoch) :=
  r.taken ++ r.watch.feed.queue.map Frame.arrival
    ++ if r.watch.feed.ended then [.fault .streamClosed] else []

end Run

end EpochWatch

end ChainWatch
