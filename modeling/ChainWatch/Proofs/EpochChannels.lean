/-
The two channels of a block subscription against its sequence.

A holder may go on asking for the next height, or split the sequence and read the channels
themselves, the heights until their channel is closed and then the error. A `Beat` is what can
happen while a holder of either kind keeps asking, so that one list of beats is a schedule for
both. As long as the call is not cancelled the two runs are `Level`: they differ in the handle
only, and in how the holder marks that an error was read. The cancellation parts them. The channel
of heights is emptied for the holder of the sequence and left as it is for the other one, and
`Behind` says that this is all.
-/
import ChainWatch.Proofs.EpochBarrier

set_option autoImplicit false

namespace ChainWatch

namespace EpochWatch

/-! ## 1. Reading the channels -/

/-- Reads the channels of a subscription that was split: the heights, and behind their close the
error. Both are at their end if the error channel is closed or was not handed out. -/
def readOn (w : EpochWatch) : EpochWatch × Reply (Option (Except WatchError Int32)) :=
  match w.tryHeight with
  | (w, .value height) => (w, .ready (some (.ok height)))
  | (w, .empty) => (w, .pending)
  | (w, .closed) =>
      match w.tryReport with
      | (w, some (.value e)) => (w, .ready (some (.error e)))
      | (w, some .empty) => (w, .pending)
      | (w, some .closed) => (w, .ready none)
      | (w, none) => (w, .ready none)

/-- What reading on comes to. -/
inductive Read (w : EpochWatch) :
    EpochWatch → Reply (Option (Except WatchError Int32)) → Prop where
  | height {height : Int32} (hs : w.slot = some height) :
      Read w { w with slot := none } (.ready (some (.ok height)))
  /-- The worker is there, and what is read may still come from it. -/
  | idle (hs : w.slot = none) (hw : w.worker ≠ .gone) : Read w w .pending
  | error {e : WatchError} (hs : w.slot = none) (he : w.owed = some e) :
      Read w { w with report := none } (.ready (some (.error e)))
  | ending (hs : w.slot = none) (hover : w.worker = .gone ∨ w.reportRead = true)
      (he : w.owed = none) : Read w w (.ready none)

theorem read_readOn (w : EpochWatch) : Read w w.readOn.1 w.readOn.2 := by
  unfold readOn tryHeight
  cases hs : w.slot with
  | some height => exact .height hs
  | none =>
      dsimp only
      cases hopen : w.isLive && w.listening with
      | true =>
          rw [Bool.and_eq_true, isLive, decide_eq_true_eq] at hopen
          exact .idle hs hopen.1
      | false =>
          -- the heights are closed, so the error channel decides
          simp only [Bool.false_eq_true, if_false]
          unfold tryReport
          by_cases hr : w.reportRead = true
          · rw [if_pos hr]
            exact .ending hs (Or.inr hr) (by rw [owed, if_pos hr])
          · rw [if_neg hr]
            have howed : w.owed = w.report := if_neg hr
            cases he : w.report with
            | some e => exact .error hs (howed.trans he)
            | none =>
                dsimp only
                by_cases hw : w.worker = .gone
                · rw [if_neg (by simp [isLive, hw])]
                  exact .ending hs (Or.inl hw) (howed.trans he)
                · rw [if_pos (by simp [isLive, hw])]
                  exact .idle hs hw

/-- What the holder of a subscription that is not cancelled is to be told next. -/
def due (w : EpochWatch) : Reply (Option (Except WatchError Int32)) :=
  match w.slot with
  | some height => .ready (some (.ok height))
  | none => if w.worker = .gone then .ready (w.owed.map .error) else .pending

/-- A subscription after its holder was told what was due. -/
structure Paid (w w' : EpochWatch) : Prop where
  handle : w'.handle = w.handle
  worker : w'.worker = w.worker
  slot : w'.slot = none
  owed : w'.owed = if w.slot = none ∧ w.worker = .gone then none else w.owed
  live : w.worker ≠ .gone → w' = { w with slot := none }

theorem paid_height {w : EpochWatch} {height : Int32} (hs : w.slot = some height) :
    Paid w { w with slot := none } where
  handle := rfl
  worker := rfl
  slot := rfl
  owed := by
    rw [if_neg (by simp [hs])]
    rfl
  live _ := rfl

theorem paid_idle {w : EpochWatch} (hs : w.slot = none) (hw : w.worker ≠ .gone) : Paid w w where
  handle := rfl
  worker := rfl
  slot := hs
  owed := by rw [if_neg (by simp [hw])]
  live _ := by rw [← hs]

/-- Behind the last height the holder is told of the error channel, and nothing is owed any more. -/
theorem paid_over {w w' : EpochWatch} (hhandle : w'.handle = w.handle)
    (hworker : w'.worker = w.worker) (hslot : w'.slot = none) (howed : w'.owed = none)
    (hs : w.slot = none) (hw : w.worker = .gone) : Paid w w' where
  handle := hhandle
  worker := hworker
  slot := hslot
  owed := by rw [if_pos ⟨hs, hw⟩, howed]
  live hlive := absurd hw hlive

/-- A request for the next height is answered with what is due. -/
theorem asked_due {w w' : EpochWatch} {reply : Reply (Option (Except WatchError Int32))}
    (h : Asked false w w' reply) : reply = w.due ∧ Paid w w' := by
  have hover (hover : false = true ∨ w.slot = none ∧ w.worker = .gone) :
      w.slot = none ∧ w.worker = .gone ∧ w.due = .ready (w.owed.map .error) := by
    obtain ⟨hs, hw⟩ := hover.resolve_left Bool.false_ne_true
    exact ⟨hs, hw, by simp only [due, hs, hw, if_true]⟩
  cases h with
  | height hc hs => exact ⟨by simp only [due, hs], paid_height hs⟩
  | idle hc hs hw => exact ⟨by simp only [due, hs, if_neg hw], paid_idle hs hw⟩
  | leaving hc => exact Bool.noConfusion hc
  | error h hr he =>
      obtain ⟨hs, hw, hdue⟩ := hover h
      refine ⟨?_, paid_over rfl rfl hs rfl hs hw⟩
      rw [hdue, owed, hr, he]
      rfl
  | silent h hr he hgone =>
      obtain ⟨hs, hw, hdue⟩ := hover h
      refine ⟨?_, paid_over rfl rfl hs rfl hs hw⟩
      rw [hdue, owed, hr, he]
      rfl
  | again h hr =>
      obtain ⟨hs, hw, hdue⟩ := hover h
      have howed : w.owed = none := if_pos hr
      refine ⟨?_, paid_over rfl rfl hs howed hs hw⟩
      rw [hdue, howed]
      rfl

/-- So is who reads on in the channels, if nothing was reported yet by a worker that is there. -/
theorem read_due {w w' : EpochWatch} {reply : Reply (Option (Except WatchError Int32))}
    (h : Read w w' reply) (hlive : w.worker ≠ .gone → w.reportRead = false ∧ w.report = none) :
    reply = w.due ∧ Paid w w' := by
  have hgone (howed : w.owed ≠ none ∨ w.reportRead = true) : w.worker = .gone := by
    by_cases hw : w.worker = .gone
    · exact hw
    · obtain ⟨hr, he⟩ := hlive hw
      rcases howed with howed | hread
      · exact absurd ((if_neg (by simp [hr])).trans he) howed
      · exact absurd (hr.symm.trans hread) Bool.false_ne_true
  cases h with
  | height hs => exact ⟨by simp only [due, hs], paid_height hs⟩
  | idle hs hw => exact ⟨by simp only [due, hs, if_neg hw], paid_idle hs hw⟩
  | error hs he =>
      have hw := hgone (Or.inl (by simp [he]))
      refine ⟨by simp only [due, hs, hw, if_true, he, Option.map_some], ?_⟩
      exact paid_over rfl rfl hs (ite_self _) hs hw
  | ending hs hover he =>
      have hw : w.worker = .gone := by
        rcases hover with hw | hread
        · exact hw
        · exact hgone (Or.inr hread)
      refine ⟨by simp only [due, hs, hw, if_true, he, Option.map_none], ?_⟩
      exact paid_over rfl rfl hs he hs hw

section Read

variable {w w' : EpochWatch} {reply : Reply (Option (Except WatchError Int32))}

theorem Read.worker (h : Read w w' reply) : w'.worker = w.worker := by
  cases h <;> rfl

theorem Read.handle (h : Read w w' reply) : w'.handle = w.handle := by
  cases h <;> rfl

theorem Read.reportRead (h : Read w w' reply) : w'.reportRead = w.reportRead := by
  cases h <;> rfl

/-- Whatever is in the channel of heights is handed out, cancelled or not. -/
theorem Read.hands (h : Read w w' reply) :
    w'.slot = none ∧ reply.answer?.bind heightIn = w.slot := by
  cases h with
  | height hs => exact ⟨rfl, hs.symm⟩
  | idle hs => exact ⟨hs, hs.symm⟩
  | error hs => exact ⟨hs, hs.symm⟩
  | ending hs => exact ⟨hs, hs.symm⟩

/-- An error that is owed is told, or is owed still. -/
theorem Read.owed_iff (h : Read w w' reply) (e : WatchError) :
    w.owed = some e ↔ reply.answer? = some (some (.error e)) ∨ w'.owed = some e := by
  cases h with
  | height hs => simp [Reply.answer?, owed]
  | idle hs => simp [Reply.answer?]
  | error hs he =>
      have hnone : { w with report := none }.owed = none := ite_self _
      rw [he, hnone]
      simp [Reply.answer?, eq_comm]
  | ending hs hover he => simp [Reply.answer?, he]

theorem Asked.owed_iff {cancelled : Bool} (h : Asked cancelled w w' reply) (e : WatchError) :
    w.owed = some e ↔ reply.answer? = some (some (.error e)) ∨ w'.owed = some e := by
  cases h with
  | height => simp [Reply.answer?, owed]
  | idle => simp [Reply.answer?]
  | leaving => simp [Reply.answer?, owed]
  | error hover hr he => simp [Reply.answer?, owed, hr, he]
  | silent hover hr he => simp [Reply.answer?, owed, hr, he]
  | again => simp [Reply.answer?, owed]

/-- Once the call is cancelled a request tells the error that is owed. -/
theorem Asked.error_iff (h : Asked true w w' reply) (e : WatchError) :
    reply = .ready (some (.error e)) ↔ w.owed = some e := by
  cases h with
  | height hc => cases hc
  | idle hc => cases hc
  | leaving hc hr he => simp [owed, he]
  | error hover hr he => simp [owed, hr, he]
  | silent hover hr he => simp [owed, he]
  | again hover hr => simp [owed, hr]

theorem tryReport_value_iff (e : WatchError) :
    w.tryReport.2 = some (.value e) ↔ w.owed = some e := by
  unfold tryReport owed
  by_cases hr : w.reportRead = true
  · simp [hr]
  · rw [if_neg hr, if_neg hr]
    cases w.report with
    | some e => simp
    | none =>
        dsimp only
        split <;> simp

/-- Without an error in it the error channel shows whether the worker is there. -/
theorem tryReport_empty (w : EpochWatch) (h : ∀ e, w.owed ≠ some e) :
    w.tryReport.2
      = if w.reportRead = false then some (if w.worker = .gone then .closed else .empty)
        else none := by
  unfold tryReport
  cases hr : w.reportRead with
  | true => rfl
  | false =>
      have howed : w.owed = w.report := if_neg (by simp [hr])
      simp only [Bool.false_eq_true, if_false, if_true]
      cases he : w.report with
      | some e => exact absurd (howed.trans he) (h e)
      | none =>
          dsimp only
          by_cases hw : w.worker = .gone
          · simp [isLive, hw]
          · simp [isLive, hw]

end Read

/-- A worker does not know in what form the caller has the subscription. -/
theorem step_handle (cancelled : Bool) (w : EpochWatch) (handle : EpochHandle) :
    { w with handle }.step cancelled = (w.step cancelled).map fun m =>
      { m with watch := { m.watch with handle } } := by
  obtain ⟨feed, worker, slot, listening, report, reportRead, old⟩ := w
  cases worker with
  | gone => rfl
  | waiting =>
      cases cancelled with
      | true => rfl
      | false =>
          simp only [step, Bool.false_eq_true, if_false]
          cases feed.pull? false with
          | none => rfl
          | some p =>
              obtain ⟨arrival, cancels, rest⟩ := p
              cases arrival with
              | event epoch =>
                  simp only [receive]
                  split <;> rfl
              | fault cause => rfl
              | crash => rfl
  | holding height =>
      cases cancelled with
      | true => rfl
      | false =>
          simp only [step, Bool.false_eq_true, if_false]
          split
          · rfl
          · split <;> rfl

namespace Run

/-! ## 2. Schedules -/

/-- What can happen while the holder keeps asking. -/
inductive Beat where
  | push (frames : List (Frame BlockEpoch)) (close : Bool)
  | work
  | ask
  | cancel

/-- What happens to the holder of a sequence. -/
def Beat.act : Beat → Act
  | push frames close => .push frames close
  | work => .work
  | ask => .recv
  | cancel => .cancel

/-- The run after the holder was told something. -/
def learn (r : Run) (told : EpochWatch × Reply (Option (Except WatchError Int32))) : Run :=
  { r with
    watch := told.1
    handed := r.handed ++ (told.2.answer?.bind heightIn).toList
    answers := r.answers ++ told.2.answer?.toList }

theorem act_recv_eq {r : Run} (hs : r.watch.handle = .stream) :
    r.act .recv = r.learn (r.watch.recv r.cancelled) := if_pos hs

/-- What a beat does to either holder. -/
def beat (r : Run) : Beat → Run
  | .ask => if r.watch.handle = .channels then r.learn r.watch.readOn else r.act .recv
  | b => r.act b.act

/-- The run after a schedule. -/
def hear (r : Run) (beats : List Beat) : Run := beats.foldl beat r

theorem hear_append (r : Run) (beats beats' : List Beat) :
    r.hear (beats ++ beats') = (r.hear beats).hear beats' := List.foldl_append

/-- What was in the channel when the call was cancelled, if a schedule comes to that. -/
def leftover (r : Run) : List Beat → Option Int32
  | [] => if r.cancelled then r.watch.slot else none
  | b :: beats => if r.cancelled then r.watch.slot else (r.beat b).leftover beats

theorem leftover_cancelled {r : Run} (hc : r.cancelled = true) (beats : List Beat) :
    r.leftover beats = r.watch.slot := by
  cases beats with
  | nil => exact if_pos hc
  | cons b beats => exact if_pos hc

/-- A holder of the sequence that keeps asking keeps the sequence. -/
theorem beat_stream {r : Run} (hs : r.watch.handle = .stream) (b : Beat) :
    r.beat b = r.act b.act ∧ (r.beat b).watch.handle = .stream := by
  cases b with
  | push frames close => exact ⟨rfl, hs⟩
  | work =>
      refine ⟨rfl, act_work (P := fun r => r.watch.handle = .stream) hs ?_⟩
      intro _ _ hstep
      cases hstep <;> exact hs
  | ask =>
      have hask : r.beat .ask = r.act .recv := if_neg (by simp [hs])
      rw [hask]
      refine ⟨rfl, act_recv (P := fun r => r.watch.handle = .stream) hs ?_⟩
      intro _ _ _ hasked
      exact hasked.handle.trans hs
  | cancel => exact ⟨rfl, hs⟩

/-- So what it goes through are acts. -/
theorem hear_stream {r : Run} (hs : r.watch.handle = .stream) (beats : List Beat) :
    r.hear beats = r.follow (beats.map Beat.act) ∧ (r.hear beats).watch.handle = .stream := by
  induction beats generalizing r with
  | nil => exact ⟨rfl, hs⟩
  | cons b beats ih =>
      obtain ⟨hact, hstream⟩ := beat_stream hs b
      obtain ⟨hrest, hlast⟩ := ih hstream
      refine ⟨?_, hlast⟩
      show (r.beat b).hear beats = (r.act b.act).follow (beats.map Beat.act)
      rw [hrest, hact]

/-- The channel of a cancelled sequence is at most emptied, so what a later part of a schedule finds
there was there at the cancellation. -/
theorem leftover_append {r : Run} (hs : r.watch.handle = .stream) (beats beats' : List Beat) :
    (r.hear beats).leftover beats' = r.leftover (beats ++ beats')
      ∨ (r.hear beats).leftover beats' = none := by
  induction beats generalizing r with
  | nil => exact Or.inl rfl
  | cons b beats ih =>
      by_cases hc : r.cancelled = true
      · have hbarrier := barrier_follow hc ((b :: beats).map Beat.act)
        rw [← (hear_stream hs (b :: beats)).1] at hbarrier
        rw [leftover_cancelled hc, leftover_cancelled hbarrier.cancelled]
        exact hbarrier.slot
      · have hrest : r.leftover (b :: beats ++ beats') = (r.beat b).leftover (beats ++ beats') :=
          if_neg hc
        rw [hrest]
        exact ih (beat_stream hs b).2

/-! ## 3. Before the cancellation -/

/-- The two runs are the same but for the handle, as long as the worker is there. Once it has left,
the holders may have marked in different ways that its report was read. -/
structure Level (kept split : Run) : Prop where
  stream : kept.watch.handle = .stream
  channels : split.watch.handle = .channels
  live : kept.watch.worker ≠ .gone → split.watch = { kept.watch with handle := .channels }
  worker : split.watch.worker = kept.watch.worker
  slot : split.watch.slot = kept.watch.slot
  owed : split.watch.owed = kept.watch.owed
  cancelled : split.cancelled = kept.cancelled
  taken : split.taken = kept.taken
  handed : split.handed = kept.handed
  answers : split.answers = kept.answers

theorem act_split_eq {r : Run} (hs : r.watch.handle = .stream) :
    r.act .split = { r with watch := { r.watch with handle := .channels } } := if_pos hs

theorem level_split {r : Run} (hs : r.watch.handle = .stream) : Level r (r.act .split) := by
  rw [act_split_eq hs]
  exact ⟨hs, rfl, fun _ => rfl, rfl, rfl, rfl, rfl, rfl, rfl, rfl⟩

variable {kept split : Run}

/-- A worker that is there has not reported anything. -/
theorem Told.unreported (h : Told kept) (hlive : kept.watch.worker ≠ .gone) :
    kept.watch.reportRead = false ∧ kept.watch.report = none := by
  refine ⟨?_, ?_⟩
  · rw [← Bool.not_eq_true]
    exact fun hread => hlive (h.settled hread).1
  · by_cases hnone : kept.watch.report = none
    · exact hnone
    · exact absurd (h.reported hnone) hlive

/-- One move of the worker, made in both runs, leaves them level. A worker that has left moves in
neither. One that is there sees two subscriptions that differ in the handle alone, and since a move
never reads the handle (`step_handle`), both make the same move and take the same item. -/
theorem Level.work (h : Level kept split) : Level (kept.act .work) (split.act .work) := by
  by_cases hgone : kept.watch.worker = .gone
  · have hkept : kept.watch.step kept.cancelled = none := by rw [step, hgone]
    have hsplit : split.watch.step split.cancelled = none := by rw [step, h.worker, hgone]
    simp only [act, hkept, hsplit]
    exact h
  · have hwatch := h.live hgone
    have hstep := step_handle kept.cancelled kept.watch .channels
    rw [← hwatch] at hstep
    have hnext : split.watch.next? kept.cancelled = kept.watch.next? kept.cancelled := by
      rw [hwatch]
      rfl
    simp only [act, h.cancelled, hstep, hnext]
    cases hm : kept.watch.step kept.cancelled with
    | none => exact h
    | some m =>
        have hstream : m.watch.handle = .stream := by
          have hstepped := stepped_of_step hm
          generalize kept.watch.next? kept.cancelled = item at hstepped
          cases hstepped <;> exact h.stream
        refine ⟨hstream, rfl, fun _ => rfl, rfl, rfl, rfl, rfl, ?_, h.handed, h.answers⟩
        exact congrArg (· ++ _) h.taken

/-- The channels hold for their reader what is due to the holder of the sequence. -/
theorem Level.readOn (h : Level kept split) (htold : Told kept) :
    split.watch.readOn.2 = kept.watch.due ∧ Paid split.watch split.watch.readOn.1 := by
  have hlive (hw : split.watch.worker ≠ .gone) :
      split.watch.reportRead = false ∧ split.watch.report = none := by
    rw [h.worker] at hw
    rw [h.live hw]
    exact htold.unreported hw
  obtain ⟨hreply, hpaid⟩ := read_due (read_readOn split.watch) hlive
  refine ⟨?_, hpaid⟩
  rw [hreply, due, due, h.slot, h.worker, h.owed]

/-- Both holders are told the same. -/
theorem Level.ask (h : Level kept split) (htold : Told kept) (hc : kept.cancelled = false) :
    Level (kept.beat .ask) (split.beat .ask) := by
  have hkept : kept.beat .ask = kept.learn (kept.watch.recv false) := by
    rw [(beat_stream h.stream .ask).1, Beat.act, act_recv_eq h.stream, hc]
  have hsplit : split.beat .ask = split.learn split.watch.readOn := if_pos h.channels
  obtain ⟨hreply, hpaid⟩ := asked_due (asked_recv false kept.watch)
  obtain ⟨hreply', hpaid'⟩ := h.readOn htold
  rw [hkept, hsplit]
  refine { stream := hpaid.handle.trans h.stream, channels := hpaid'.handle.trans h.channels,
           live := ?_, worker := ?_, slot := hpaid'.slot.trans hpaid.slot.symm, owed := ?_,
           cancelled := h.cancelled, taken := h.taken, handed := ?_, answers := ?_ }
  · intro hw
    have hw' : kept.watch.worker ≠ .gone := by
      rw [← hpaid.worker]
      exact hw
    have hw'' : split.watch.worker ≠ .gone := by
      rw [h.worker]
      exact hw'
    show split.watch.readOn.1 = { (kept.watch.recv false).1 with handle := .channels }
    rw [hpaid.live hw', hpaid'.live hw'', h.live hw']
  · exact hpaid'.worker.trans (h.worker.trans hpaid.worker.symm)
  · show split.watch.readOn.1.owed = (kept.watch.recv false).1.owed
    rw [hpaid.owed, hpaid'.owed, h.slot, h.worker, h.owed]
  · simp only [learn, hreply, hreply', h.handed]
  · simp only [learn, hreply, hreply', h.answers]

theorem Level.beat (h : Level kept split) (htold : Told kept) (hc : kept.cancelled = false)
    (b : Beat) : Level (kept.beat b) (split.beat b) := by
  cases b with
  | push frames close =>
      exact { h with
        live := by
          intro hw
          show { split.watch with feed := split.watch.feed.push frames close }
            = { kept.watch with
                feed := kept.watch.feed.push frames close
                handle := .channels }
          rw [h.live hw] }
  | work => exact h.work
  | ask => exact h.ask htold hc
  | cancel => exact { h with cancelled := rfl }

/-! ## 4. After the cancellation -/

/-- An error that the holder was told or is still owed. -/
def Reported (r : Run) (e : WatchError) : Prop :=
  some (.error e) ∈ r.answers ∨ r.watch.owed = some e

theorem reported_learn {r : Run} {told : EpochWatch × Reply (Option (Except WatchError Int32))}
    {e : WatchError} (h : r.watch.owed = some e ↔
      told.2.answer? = some (some (.error e)) ∨ told.1.owed = some e) :
    (r.learn told).Reported e ↔ r.Reported e := by
  simp only [Reported, learn, List.mem_append, Option.mem_toList, h, or_assoc]

/-- A worker whose call is cancelled can only leave. -/
theorem act_work_cancelled {r : Run} (hc : r.cancelled = true) :
    r.act .work = { r with watch := { r.watch with worker := .gone } } := by
  obtain ⟨⟨feed, worker, slot, listening, report, reportRead, handle⟩, cancelled, arrived, late,
    taken, handed, answers, parting⟩ := r
  obtain rfl : cancelled = true := hc
  cases worker <;> simp [act, step, next?, leave]

/-- The two runs once the call is cancelled. The holder of the sequence gets no more heights, and
the other one gets the height that was spared in the channel, if there is one. -/
structure Behind (spare : Option Int32) (kept split : Run) : Prop where
  stream : kept.watch.handle = .stream
  channels : split.watch.handle = .channels
  cancelled : kept.cancelled = true ∧ split.cancelled = true
  worker : split.watch.worker = kept.watch.worker
  taken : split.taken = kept.taken
  rest : split.watch.slot = spare ∧ split.handed = kept.handed
    ∨ split.watch.slot = none ∧ split.handed = kept.handed ++ spare.toList
  inOrder : kept.handed ++ spare.toList <+: heights kept.taken
  reported : ∀ e, split.Reported e ↔ kept.Reported e

variable {spare : Option Int32}

theorem Level.behind (h : Level kept split) (hflow : Flow kept) (hc : kept.cancelled = true) :
    Behind kept.watch.slot kept split where
  stream := h.stream
  channels := h.channels
  cancelled := ⟨hc, h.cancelled.trans hc⟩
  worker := h.worker
  taken := h.taken
  rest := Or.inl ⟨h.slot, h.handed⟩
  inOrder := hflow.inOrder
  reported e := by simp only [Reported, h.answers, h.owed]

/-- Both holders ask after the cancellation. The one of the sequence is given no height any more;
the other one finds the height that was spared, once. An error that was owed has been told then or
is owed still, in both runs. -/
theorem Behind.ask (h : Behind spare kept split) :
    Behind spare (kept.beat .ask) (split.beat .ask) := by
  have hkept : kept.beat .ask = kept.learn (kept.watch.recv true) := by
    rw [(beat_stream h.stream .ask).1, Beat.act, act_recv_eq h.stream, h.cancelled.1]
  have hsplit : split.beat .ask = split.learn split.watch.readOn := if_pos h.channels
  have hasked := asked_recv true kept.watch
  have hread := read_readOn split.watch
  obtain ⟨-, hnothing, -⟩ := asked_cancelled hasked
  obtain ⟨hempty, hhands⟩ := hread.hands
  rw [hkept, hsplit]
  refine { stream := hasked.handle.trans h.stream, channels := hread.handle.trans h.channels,
           cancelled := h.cancelled, worker := ?_, taken := h.taken, rest := Or.inr ⟨hempty, ?_⟩,
           inOrder := ?_, reported := ?_ }
  · exact hread.worker.trans (h.worker.trans hasked.worker.symm)
  · simp only [learn, hnothing, hhands, Option.toList_none, List.append_nil]
    rcases h.rest with ⟨hslot, hhanded⟩ | ⟨hslot, hhanded⟩
    · rw [hslot, hhanded]
    · rw [hslot, hhanded, Option.toList_none, List.append_nil]
  · simp only [learn, hnothing, Option.toList_none, List.append_nil]
    exact h.inOrder
  · intro e
    rw [reported_learn (hasked.owed_iff e), reported_learn (hread.owed_iff e)]
    exact h.reported e

theorem Behind.beat (h : Behind spare kept split) (b : Beat) :
    Behind spare (kept.beat b) (split.beat b) := by
  cases b with
  | push frames close => exact { h with }
  | work =>
      show Behind spare (kept.act .work) (split.act .work)
      rw [act_work_cancelled h.cancelled.1, act_work_cancelled h.cancelled.2]
      exact { h with worker := rfl }
  | ask => exact h.ask
  | cancel => exact { h with cancelled := ⟨rfl, rfl⟩ }

theorem Behind.hear (h : Behind spare kept split) (beats : List Beat) :
    Behind spare (kept.hear beats) (split.hear beats) := by
  induction beats generalizing kept split with
  | nil => exact h
  | cons b beats ih => exact ih (h.beat b)

/-- The two runs go the same way until the call is cancelled, and from then on as far apart as the
channel was full. -/
theorem Level.hear (h : Level kept split) (hflow : Flow kept) (htold : Told kept)
    (beats : List Beat) :
    ((kept.hear beats).cancelled = false → Level (kept.hear beats) (split.hear beats))
    ∧ ((kept.hear beats).cancelled = true →
      Behind (kept.leftover beats) (kept.hear beats) (split.hear beats)) := by
  induction beats generalizing kept split with
  | nil =>
      refine ⟨fun _ => h, fun hc => ?_⟩
      have hleft : kept.leftover [] = kept.watch.slot := if_pos hc
      rw [hleft]
      exact h.behind hflow hc
  | cons b beats ih =>
      by_cases hc : kept.cancelled = true
      · -- the cancellation was before this beat, so it is from here that the two are apart
        have hbehind := (h.behind hflow hc).hear (b :: beats)
        rw [leftover_cancelled hc]
        refine ⟨fun hopen => ?_, fun _ => hbehind⟩
        exact absurd (hopen.symm.trans hbehind.cancelled.1) Bool.false_ne_true
      · rw [Bool.not_eq_true] at hc
        have hleft : kept.leftover (b :: beats) = (kept.beat b).leftover beats := by
          rw [leftover, if_neg (by simp [hc])]
        rw [hleft]
        have hact := (beat_stream h.stream b).1
        exact ih (h.beat htold hc b) (hact ▸ hflow.act b.act) (hact ▸ htold.act hflow b.act)

/-! ## 5. The two readings of one subscription -/

/-- The holder is done with the error channel once it was told anything but a height. -/
structure Marked (r : Run) : Prop where
  read : r.watch.reportRead = true → ∃ answer ∈ r.answers, heightIn answer = none

theorem Marked.recv {r : Run} (h : Marked r) {w : EpochWatch}
    {reply : Reply (Option (Except WatchError Int32))} (hask : Asked r.cancelled r.watch w reply) :
    Marked { r with
      watch := w
      handed := r.handed ++ (reply.answer?.bind heightIn).toList
      answers := r.answers ++ reply.answer?.toList } where
  read := by
    have hbefore (hr : r.watch.reportRead = true) :
        ∃ answer ∈ r.answers ++ reply.answer?.toList, heightIn answer = none := by
      obtain ⟨answer, hmem, hnone⟩ := h.read hr
      exact ⟨answer, List.mem_append_left _ hmem, hnone⟩
    cases hask with
    | height => exact hbefore
    | idle => exact hbefore
    | leaving =>
        rw [hush_reportRead]
        exact hbefore
    | error => exact fun _ => ⟨_, List.mem_append_right _ List.mem_cons_self, rfl⟩
    | silent => exact fun _ => ⟨_, List.mem_append_right _ List.mem_cons_self, rfl⟩
    | again => exact fun _ => ⟨_, List.mem_append_right _ List.mem_cons_self, rfl⟩

theorem marked_follow (feed : Feed BlockEpoch) (acts : List Act) :
    Marked ((start feed).follow acts) := by
  refine follow_induction (P := Marked) ?_ ⟨by simp [start, EpochWatch.start]⟩ acts
  intro r a h
  cases a with
  | push frames close => exact ⟨h.read⟩
  | work =>
      refine act_work h ?_
      intro _ _ hstep
      cases hstep <;> exact ⟨h.read⟩
  | recv => exact act_recv h fun _ _ _ hask => h.recv hask
  | split => exact act_split ⟨h.read⟩ fun _ => ⟨h.read⟩
  | readHeight => exact act_readHeight h fun _ => ⟨h.read⟩
  | readReport => exact act_readReport h fun _ => ⟨h.read⟩
  | drop => exact ⟨h.read⟩
  | cancel => exact ⟨h.read⟩

theorem Told.reportRead_iff {r : Run} (h : Told r) (hmarked : Marked r) :
    r.watch.reportRead = true ↔ ∃ answer ∈ r.answers, heightIn answer = none := by
  refine ⟨hmarked.read, ?_⟩
  rintro ⟨answer, hmem, hnone⟩
  rw [← Bool.not_eq_false]
  intro hr
  -- until then the answers are heights
  obtain ⟨given, error, ends, hanswers, hopen⟩ := h.shape
  obtain ⟨rfl, rfl⟩ := hopen hr
  rw [hanswers] at hmem
  simp only [tale, Option.map_none, Option.toList_none, List.append_nil, List.replicate_zero,
    List.mem_map] at hmem
  obtain ⟨height, -, rfl⟩ := hmem
  cases hnone

/-- Reading on does not mark the error channel as read: it was handed out once and for all. -/
theorem reportRead_hear {r : Run} (hs : r.watch.handle = .channels) (beats : List Beat) :
    (r.hear beats).watch.reportRead = r.watch.reportRead := by
  suffices h : (r.hear beats).watch.handle = .channels
      ∧ (r.hear beats).watch.reportRead = r.watch.reportRead from h.2
  induction beats generalizing r with
  | nil => exact ⟨hs, rfl⟩
  | cons b beats ih =>
      have hbeat : (r.beat b).watch.handle = .channels
          ∧ (r.beat b).watch.reportRead = r.watch.reportRead := by
        cases b with
        | push frames close => exact ⟨hs, rfl⟩
        | work =>
            refine act_work (P := fun r' => r'.watch.handle = .channels
              ∧ r'.watch.reportRead = r.watch.reportRead) ⟨hs, rfl⟩ ?_
            intro _ _ hstep
            cases hstep <;> exact ⟨hs, rfl⟩
        | ask =>
            have hask : r.beat .ask = r.learn r.watch.readOn := if_pos hs
            have hread := read_readOn r.watch
            rw [hask]
            exact ⟨hread.handle.trans hs, hread.reportRead⟩
        | cancel => exact ⟨hs, rfl⟩
      obtain ⟨hhandle, hread⟩ := ih hbeat.1
      exact ⟨hhandle, hread.trans hbeat.2⟩

theorem sound_hear (feed : Feed BlockEpoch) (beats : List Beat) :
    Flow ((start feed).hear beats) ∧ Told ((start feed).hear beats)
      ∧ Marked ((start feed).hear beats) := by
  rw [(hear_stream rfl beats).1]
  exact ⟨flow_follow feed _, told_follow feed _, marked_follow feed _⟩

/-- Reading the two channels comes to the same as asking for the sequence, whenever the sequence is
split and whatever happens then. The error channel is handed out unless the sequence has been told
to its end. As long as the call is not cancelled every request is answered alike. After the
cancellation the channels hold at most one height more, the one that was in the channel then and
the next of the stream; an error is found in the error channel if and only if the sequence tells
it, and otherwise the channel is closed once the worker has left. -/
theorem channels_match_sequence (feed : Feed BlockEpoch) (before after : List Beat) :
    let r := (start feed).hear before
    let kept := r.hear after
    let split := (r.act .split).hear after
    (r.watch.split.2 = false ↔ ∃ answer ∈ r.answers, heightIn answer = none)
    ∧ (split.cancelled = kept.cancelled ∧ split.taken = kept.taken
      ∧ split.watch.worker = kept.watch.worker)
    ∧ (kept.cancelled = false →
      split.handed = kept.handed ∧ split.answers = kept.answers
      ∧ split.watch.readOn.2 = (kept.watch.recv false).2)
    ∧ (kept.cancelled = true →
      (∃ extra : Option Int32,
        (extra = none ∨ extra = (start feed).leftover (before ++ after))
        ∧ split.handed = kept.handed ++ extra.toList
        ∧ kept.handed ++ extra.toList <+: heights kept.taken)
      ∧ (∀ e, (some (.error e) ∈ split.answers ∨ split.watch.tryReport.2 = some (.value e))
        ↔ (some (.error e) ∈ kept.answers
          ∨ (kept.watch.recv true).2 = .ready (some (.error e))))
      ∧ ((∀ e, split.watch.tryReport.2 ≠ some (.value e)) →
        split.watch.tryReport.2
          = if r.watch.split.2 then some (if split.watch.worker = .gone then .closed else .empty)
            else none)
      ∧ (split.watch.worker = .gone → split.watch.readOn.2 ≠ .pending)) := by
  intro r kept split
  have hstream : r.watch.handle = .stream := (hear_stream (r := start feed) rfl before).2
  obtain ⟨hflow, htold, hmarked⟩ := sound_hear feed before
  obtain ⟨hlevel, hbehind⟩ := (level_split hstream).hear hflow htold after
  refine ⟨?_, ?_, ?_, ?_⟩
  · rw [← htold.reportRead_iff hmarked]
    simp [EpochWatch.split, r]
  · cases hc : kept.cancelled with
    | false =>
        have h := hlevel hc
        exact ⟨h.cancelled.trans hc, h.taken, h.worker⟩
    | true =>
        have h := hbehind hc
        exact ⟨h.cancelled.2, h.taken, h.worker⟩
  · intro hc
    have h := hlevel hc
    refine ⟨h.handed, h.answers, ?_⟩
    have hsound := sound_hear feed (before ++ after)
    rw [hear_append] at hsound
    rw [(h.readOn hsound.2.1).1, (asked_due (asked_recv false kept.watch)).1]
  · intro hc
    have h := hbehind hc
    refine ⟨?_, ?_, ?_, ?_⟩
    · -- the height that was spared is there still, or was handed out
      rcases h.rest with ⟨-, hhanded⟩ | ⟨-, hhanded⟩
      · refine ⟨none, Or.inl rfl, ?_, ?_⟩
        · rw [hhanded, Option.toList_none, List.append_nil]
        · rw [Option.toList_none, List.append_nil]
          exact (List.prefix_append _ _).trans h.inOrder
      · refine ⟨r.leftover after, ?_, hhanded, h.inOrder⟩
        exact (leftover_append (r := start feed) rfl before after).symm
    · intro e
      rw [tryReport_value_iff, (asked_recv true kept.watch).error_iff]
      exact h.reported e
    · intro hnone
      have howed (e : WatchError) : split.watch.owed ≠ some e :=
        fun h => hnone e ((tryReport_value_iff e).mpr h)
      have hread : split.watch.reportRead = r.watch.reportRead := by
        rw [reportRead_hear (level_split hstream).channels after, act_split_eq hstream]
      rw [split.watch.tryReport_empty howed, hread]
      simp only [EpochWatch.split, Bool.not_eq_true']
    · intro hgone hpending
      have hread := read_readOn split.watch
      rw [hpending] at hread
      generalize split.watch.readOn.1 = w at hread
      cases hread with
      | idle _ hw => exact hw hgone

end Run

end EpochWatch

end ChainWatch
