/-
What the holder of a block subscription is told.

Heights and the error that ends them travel on two channels, and the error may be reported
while a height is still on its way. The holder sees one sequence. `Told` relates what was
answered so far to both channels, to the worker and to the items it took: the answers are the
heights that were handed out, then perhaps one error, then the end, and as long as the call is
not cancelled the items of the stream alone decide which answers these are.
-/
import ChainWatch.Proofs.EpochDelivery

set_option autoImplicit false

namespace ChainWatch

/-! ## 1. Sequences of answers -/

/-- Heights, then perhaps an error, then the end, so many times. -/
def tale (given : List Int32) (error : Option WatchError) (ends : Nat) :
    List (Option (Except WatchError Int32)) :=
  given.map (fun height => some (.ok height)) ++ (error.map fun e => some (.error e)).toList
    ++ List.replicate ends none

theorem tale_height (given : List Int32) (height : Int32) :
    tale given none 0 ++ [some (.ok height)] = tale (given ++ [height]) none 0 := by
  simp [tale]

theorem tale_error (given : List Int32) (e : WatchError) :
    tale given none 0 ++ [some (.error e)] = tale given (some e) 0 := by
  simp [tale]

theorem tale_end (given : List Int32) (error : Option WatchError) (ends : Nat) :
    tale given error ends ++ [none] = tale given error (ends + 1) := by
  simp only [tale, List.append_assoc, List.replicate_succ']

theorem tale_mono {given more : List Int32} (h : given <+: more) (error : Option WatchError) :
    tale given none 0 <+: tale more error 0 := by
  obtain ⟨rest, rfl⟩ := h
  simp [tale]

/-- The answers that items lead to: the heights before the first that fails, then the error
it fails with, if it has one, and only then the end. -/
def Follows (answers : List (Option (Except WatchError Int32)))
    (items : List (Arrival BlockEpoch)) : Prop :=
  answers <+: tale (heights items) (failure? items).join 0
    ∨ failure? items ≠ none ∧ ∃ ends, answers = tale (heights items) (failure? items).join ends

/-- More items do not change what was told of the first ones. -/
theorem Follows.append {answers : List (Option (Except WatchError Int32))}
    {items : List (Arrival BlockEpoch)} (h : Follows answers items)
    (more : List (Arrival BlockEpoch)) : Follows answers (items ++ more) := by
  by_cases hfail : failure? items = none
  · rcases h with h | ⟨hne, -⟩
    · rw [hfail] at h
      exact Or.inl (h.trans (tale_mono (heights_prefix_append items more) _))
    · exact absurd hfail hne
  · have hheights : heights (items ++ more) = heights items := by
      rw [heights_append, if_neg hfail, List.append_nil]
    have hsame : failure? (items ++ more) = failure? items := by
      rw [failure?_append]
      exact Option.or_of_isSome (Option.isSome_iff_ne_none.mpr hfail)
    rw [Follows, hheights, hsame]
    exact h

/-- Only an item that destroys the worker fails without an error. -/
theorem failure?_ne_silent {items : List (Arrival BlockEpoch)} (h : .crash ∉ items) :
    failure? items ≠ some none := by
  induction items with
  | nil => simp [failure?]
  | cons a rest ih =>
      rw [List.mem_cons, not_or] at h
      simp only [failure?]
      split
      · exact ih h.2
      · rename_i e ho
        intro hnone
        rw [Option.some.inj hnone] at ho
        cases a with
        | event epoch =>
            simp only [Arrival.outcome] at ho
            split at ho <;> cases ho
        | fault cause => cases ho
        | crash => exact h.1 rfl

/-- Hence if no item destroyed the worker, an end is told behind an error only. -/
theorem Follows.error_of_end {answers : List (Option (Except WatchError Int32))}
    {items : List (Arrival BlockEpoch)} (h : Follows answers items) (hcrash : .crash ∉ items)
    (hend : none ∈ answers) :
    ∃ e, failure? items = some (some e) ∧ some (.error e) ∈ answers := by
  rcases h with hprefix | ⟨hfail, ends, rfl⟩
  · have hnone := hprefix.subset hend
    simp [tale] at hnone
  · obtain ⟨failure, hfailure⟩ := Option.ne_none_iff_exists'.mp hfail
    cases failure with
    | none => exact absurd hfailure (failure?_ne_silent hcrash)
    | some e => exact ⟨e, hfailure, by simp [tale, hfailure]⟩

theorem follows_of_prefix {given : List Int32} {items : List (Arrival BlockEpoch)}
    (h : given <+: heights items) : Follows (tale given none 0) items :=
  Or.inl (tale_mono h _)

namespace EpochWatch

namespace Run

/-! ## 2. The answers and the two channels -/

structure Told (r : Run) : Prop where
  shape : ∃ given error ends, r.answers = tale given error ends
    ∧ (r.watch.reportRead = false → error = none ∧ ends = 0)
  /-- The holder has read the error channel only when no height could come any more. -/
  settled : r.watch.reportRead = true → r.watch.worker = .gone ∧ r.watch.slot = none
  /-- Reporting an error is the last thing that the worker does. -/
  reported : r.watch.report ≠ none → r.watch.worker = .gone
  /-- Until then the answers are the heights handed out, and what the worker reports is what
  it left with. -/
  running : r.cancelled = false → r.watch.handle = .stream → r.watch.reportRead = false →
    r.answers = tale r.handed none 0
    ∧ (r.watch.worker = .gone → r.watch.report = (failure? r.taken).join)
  /-- Afterwards the items taken have been told to the end. -/
  ended : r.cancelled = false → r.watch.handle = .stream → r.watch.reportRead = true →
    ∃ ends, r.answers = tale (heights r.taken) (failure? r.taken).join ends
  follows : r.cancelled = false → Follows r.answers r.taken

theorem told_start (feed : Feed BlockEpoch) : Told (start feed) where
  shape := ⟨[], none, 0, rfl, fun _ => ⟨rfl, rfl⟩⟩
  settled h := by simp [start, EpochWatch.start] at h
  reported h := absurd rfl h
  running _ _ _ := ⟨rfl, fun h => by simp [start, EpochWatch.start] at h⟩
  ended _ _ h := by simp [start, EpochWatch.start] at h
  follows _ := Or.inl List.nil_prefix

/-- The worker of a sequence that is neither cancelled nor dropped is gone only with an item
that failed, and then nothing is left in its hand. -/
theorem Flow.failure_of_gone {r : Run} (h : Flow r) (hc : r.cancelled = false)
    (hs : r.watch.handle = .stream) (hgone : r.watch.worker = .gone) :
    failure? r.taken ≠ none ∧ heights r.taken = r.handed ++ r.watch.slot.toList := by
  have hl : r.watch.listening = true := h.listening hc (by simp [hs])
  refine ⟨?_, ?_⟩
  · rcases h.exit hgone with hcancelled | hfail | hdeaf
    · exact absurd (hc.symm.trans hcancelled) Bool.false_ne_true
    · exact hfail
    · exact absurd (hdeaf.symm.trans hl) Bool.false_ne_true
  · have hheld : r.watch.held = none := by simp only [held, hgone]
    rw [h.exact hc hl, hheld, Option.toList_none, List.append_nil]

/-- An answer behind which only the end can follow. -/
theorem told_closing {r : Run} (w : EpochWatch) {answer : Option (Except WatchError Int32)}
    (hread : w.reportRead = true) (hgone : w.worker = .gone) (hslot : w.slot = none)
    (hshape : ∃ given error ends, r.answers ++ [answer] = tale given error ends)
    (htold : r.cancelled = false → failure? r.taken ≠ none
      ∧ ∃ ends, r.answers ++ [answer] = tale (heights r.taken) (failure? r.taken).join ends)
    (handed : List Int32) :
    Told { r with watch := w, handed, answers := r.answers ++ [answer] } where
  shape := by
    obtain ⟨given, error, ends, h⟩ := hshape
    refine ⟨given, error, ends, h, fun hr => ?_⟩
    rw [hread] at hr
    exact Bool.noConfusion hr
  settled _ := ⟨hgone, hslot⟩
  reported _ := hgone
  running _ _ hr := by
    rw [hread] at hr
    exact Bool.noConfusion hr
  ended hc _ _ := (htold hc).2
  follows hc := Or.inr (htold hc)

/-- The answer to a request is the next one of the sequence. -/
theorem Told.recv {r : Run} (h : Told r) (hflow : Flow r) (hs : r.watch.handle = .stream)
    {w : EpochWatch} {reply : Reply (Option (Except WatchError Int32))}
    (hask : Asked r.cancelled r.watch w reply) :
    Told { r with
      watch := w
      handed := r.handed ++ (reply.answer?.bind heightIn).toList
      answers := r.answers ++ reply.answer?.toList } := by
  obtain ⟨given, error, ends, hanswers, hopen⟩ := h.shape
  cases hask with
  | @height height hc hslot =>
      -- a height is still to be had, so the holder has not looked for an error yet
      have hr : r.watch.reportRead = false := by
        rw [← Bool.not_eq_true]
        intro hread
        rw [(h.settled hread).2] at hslot
        cases hslot
      obtain ⟨hgiven, hreport⟩ := h.running hc hs hr
      have hnext : r.answers ++ [some (.ok height)] = tale (r.handed ++ [height]) none 0 := by
        rw [hgiven, tale_height]
      refine { shape := ⟨_, _, _, hnext, fun _ => ⟨rfl, rfl⟩⟩, settled := ?_,
               reported := h.reported, running := fun _ _ _ => ⟨hnext, hreport⟩, ended := ?_,
               follows := ?_ }
      · intro hread
        exact absurd (hr.symm.trans hread) Bool.false_ne_true
      · intro _ _ hread
        exact absurd (hr.symm.trans hread) Bool.false_ne_true
      · intro _
        have horder := hflow.inOrder
        rw [hslot] at horder
        show Follows (r.answers ++ [some (.ok height)]) r.taken
        rw [hnext]
        exact follows_of_prefix horder
  | idle hc hslot hw =>
      simpa [Reply.answer?] using h
  | leaving hc hr he hw =>
      refine { shape := ?_, settled := ?_, reported := ?_, running := ?_, ended := ?_,
               follows := ?_ }
      · refine ⟨given, error, ends, ?_, fun _ => hopen hr⟩
        simpa [Reply.answer?] using hanswers
      · intro hread
        rw [hush_reportRead, hr] at hread
        exact absurd hread Bool.false_ne_true
      · intro hne
        rw [hush_report, he] at hne
        exact absurd rfl hne
      · intro hc'
        exact absurd (hc'.symm.trans hc) Bool.false_ne_true
      · intro hc'
        exact absurd (hc'.symm.trans hc) Bool.false_ne_true
      · intro hc'
        exact absurd (hc'.symm.trans hc) Bool.false_ne_true
  | @error e hover hr he =>
      obtain ⟨rfl, rfl⟩ := hopen hr
      -- the report was the last thing the worker did, so no height comes behind it
      have hgone : r.watch.worker = .gone := h.reported (by simp [he])
      refine told_closing { r.watch.hush r.cancelled with report := none, reportRead := true }
        rfl (by rw [hush_worker]; exact hgone) (hush_slot hover)
        ⟨given, some e, 0, by rw [hanswers, tale_error]⟩ ?_ _
      intro hc
      have hslot := (hover.resolve_left (by rw [hc]; exact Bool.false_ne_true)).1
      obtain ⟨hfail, hheights⟩ := hflow.failure_of_gone hc hs hgone
      obtain ⟨hgiven, hreport⟩ := h.running hc hs hr
      refine ⟨hfail, 0, ?_⟩
      rw [hgiven, tale_error, hheights, hslot, ← hreport hgone, he, Option.toList_none,
        List.append_nil]
  | silent hover hr he hw =>
      obtain ⟨rfl, rfl⟩ := hopen hr
      refine told_closing { r.watch.hush r.cancelled with reportRead := true } rfl
        (by rw [hush_worker]; exact hw) (hush_slot hover)
        ⟨given, none, 1, by rw [hanswers, tale_end]⟩ ?_ _
      intro hc
      have hslot := (hover.resolve_left (by rw [hc]; exact Bool.false_ne_true)).1
      obtain ⟨hfail, hheights⟩ := hflow.failure_of_gone hc hs hw
      obtain ⟨hgiven, hreport⟩ := h.running hc hs hr
      refine ⟨hfail, 1, ?_⟩
      rw [hgiven, tale_end, hheights, hslot, ← hreport hw, he, Option.toList_none,
        List.append_nil]
  | again hover hr =>
      obtain ⟨hgone, -⟩ := h.settled hr
      refine told_closing _ (by rw [hush_reportRead]; exact hr)
        (by rw [hush_worker]; exact hgone) (hush_slot hover)
        ⟨given, error, ends + 1, by rw [hanswers, tale_end]⟩ ?_ _
      intro hc
      obtain ⟨n, hn⟩ := h.ended hc hs hr
      exact ⟨(hflow.failure_of_gone hc hs hgone).1, n + 1, by rw [hn, tale_end]⟩

/-- The worker's step tells nobody anything yet. -/
theorem Told.work {r : Run} (h : Told r) (hflow : Flow r) {item : Option (Arrival BlockEpoch)}
    {m : Move EpochWatch} (hstep : Stepped r.cancelled r.watch item m) :
    Told { r with
      watch := m.watch
      cancelled := r.cancelled || m.cancels
      taken := r.taken ++ item.toList } := by
  cases hstep with
  | stopped log hc hw =>
      simp only [EpochWatch.leave, Bool.or_false, Option.toList_none, List.append_nil]
      refine { shape := h.shape, settled := fun hread => ⟨rfl, (h.settled hread).2⟩,
               reported := fun _ => rfl, running := ?_, ended := ?_, follows := h.follows }
      · intro hc'
        exact absurd (hc'.symm.trans hc) Bool.false_ne_true
      · intro hc'
        exact absurd (hc'.symm.trans hc) Bool.false_ne_true
  | @took p height hc hw hp ho =>
      have hlive : r.watch.worker ≠ .gone := by simp [hw]
      have hread : r.watch.reportRead = false := by
        rw [← Bool.not_eq_true]
        exact fun hread => hlive (h.settled hread).1
      refine { shape := h.shape, settled := ?_, reported := ?_, running := ?_, ended := ?_,
               follows := fun _ => (h.follows hc).append _ }
      · intro hr
        exact absurd (h.settled hr).1 hlive
      · intro hne
        exact absurd (h.reported hne) hlive
      · intro _ hs _
        exact ⟨(h.running hc hs hread).1, by simp⟩
      · intro _ _ hr
        exact absurd (h.settled hr).1 hlive
  | @failed p e log hc hw hp ho =>
      have hlive : r.watch.worker ≠ .gone := by simp [hw]
      have hread : r.watch.reportRead = false := by
        rw [← Bool.not_eq_true]
        exact fun hread => hlive (h.settled hread).1
      -- the worker reports once, so what is reported now is how this item fails
      have hreport : r.watch.report = none := by
        by_cases hne : r.watch.report = none
        · exact hne
        · exact absurd (h.reported hne) hlive
      refine { shape := h.shape, settled := ?_, reported := fun _ => rfl, running := ?_,
               ended := ?_, follows := fun _ => (h.follows hc).append _ }
      · intro hr
        exact absurd (h.settled hr).1 hlive
      · intro _ hs _
        refine ⟨(h.running hc hs hread).1, fun _ => ?_⟩
        show e.or r.watch.report = (failure? (r.taken ++ [p.arrival])).join
        rw [hreport, Option.or_none, failure?_append, hflow.unfailed hlive, Option.none_or]
        simp only [failure?, ho, Option.join_some]
      · intro _ _ hr
        exact absurd (h.settled hr).1 hlive
  | unheard log hc hw hl =>
      have hlive : r.watch.worker ≠ .gone := by simp [hw]
      simp only [EpochWatch.leave, Bool.or_false, Option.toList_none, List.append_nil]
      refine { shape := h.shape, settled := ?_, reported := fun _ => rfl, running := ?_,
               ended := ?_, follows := h.follows }
      · intro hr
        exact absurd (h.settled hr).1 hlive
      · intro hc' hs hr
        refine ⟨(h.running hc' hs hr).1, fun _ => ?_⟩
        -- nobody listens although the call is not cancelled, so the handle is no sequence
        have hlisten := hflow.listening hc fun hd => by cases hs.symm.trans hd
        exact absurd (hl.symm.trans hlisten) Bool.false_ne_true
      · intro _ _ hr
        exact absurd (h.settled hr).1 hlive
  | sent hc hw hl hslot =>
      have hlive : r.watch.worker ≠ .gone := by simp [hw]
      simp only [Bool.or_false, Option.toList_none, List.append_nil]
      refine { shape := h.shape, settled := ?_, reported := ?_, running := ?_, ended := ?_,
               follows := h.follows }
      · intro hr
        exact absurd (h.settled hr).1 hlive
      · intro hne
        exact absurd (h.reported hne) hlive
      · intro _ hs hr
        exact ⟨(h.running hc hs hr).1, by simp⟩
      · intro _ _ hr
        exact absurd (h.settled hr).1 hlive

/-- Whatever happens, the answers stay the ones that the items decide. -/
theorem Told.act {r : Run} (h : Told r) (hflow : Flow r) (a : Act) : Told (r.act a) := by
  have hdrop : Told r.drop :=
    { shape := h.shape
      settled := fun hread => ⟨(h.settled hread).1, rfl⟩
      reported := h.reported
      running := fun _ hs => by cases hs
      ended := fun _ hs => by cases hs
      follows := h.follows }
  cases a with
  | push frames close => exact { h with }
  | work => exact act_work h (h.work hflow)
  | recv => exact act_recv h fun hs _ _ hask => h.recv hflow hs hask
  | split =>
      apply act_split hdrop
      intro _
      exact { h with
        running := fun _ hs => by cases hs
        ended := fun _ hs => by cases hs }
  | readHeight =>
      apply act_readHeight h
      intro hs
      refine { h with settled := fun hread => ⟨(h.settled hread).1, rfl⟩, running := ?_ }
      intro _ hstream
      cases hs.symm.trans hstream
  | readReport =>
      apply act_readReport h
      intro hs
      refine { h with reported := ?_, running := ?_ }
      · intro hne
        refine h.reported ?_
        intro hnone
        rw [hnone] at hne
        exact hne (ite_self _)
      · intro _ hstream
        cases hs.symm.trans hstream
  | drop => exact hdrop
  | cancel =>
      refine { h with running := ?_, ended := ?_, follows := ?_ }
      · intro hc
        exact Bool.noConfusion hc
      · intro hc
        exact Bool.noConfusion hc
      · intro hc
        exact Bool.noConfusion hc

theorem told_follow (feed : Feed BlockEpoch) (acts : List Act) : Told ((start feed).follow acts) :=
  (follow_induction (P := fun r => Flow r ∧ Told r)
    (fun _ a h => ⟨h.1.act a, h.2.act h.1 a⟩) ⟨flow_start feed, told_start feed⟩ acts).2

/-! ## 3. What decides the answers -/

/-- As long as nothing comes behind the close of the server, what was taken is a beginning of
what arrived and the end. -/
theorem Flow.taken_append {r : Run} (h : Flow r) (hlate : r.late = false) :
    ∃ more, r.arrived.map Frame.arrival
        ++ (if r.watch.feed.ended then [.fault .streamClosed] else []) = r.taken ++ more := by
  obtain ⟨closing, ⟨frames, harrived, htaken⟩, hclosing⟩ := h.drawn
  rcases hclosing with rfl | ⟨rfl, -, hended, hbehind⟩
  · refine ⟨r.watch.feed.queue.map Frame.arrival
      ++ if r.watch.feed.ended then [.fault .streamClosed] else [], ?_⟩
    rw [harrived, htaken, List.map_append]
    simp
  · refine ⟨[], ?_⟩
    rw [harrived, htaken, hbehind hlate, hended]
    simp

/-- A sequence that has nothing to say when nobody can move has said everything. -/
theorem Told.pending {r : Run} (h : Told r) (hflow : Flow r) (hc : r.cancelled = false)
    (hs : r.watch.handle = .stream) (hrest : r.watch.step r.cancelled = none)
    (hpending : (r.watch.recv r.cancelled).2 = .pending) :
    failure? r.stream = none ∧ r.answers = tale (heights r.stream) none 0 := by
  -- the request waits for the worker, and the worker for its stream
  obtain ⟨hslot, hlive⟩ : r.watch.slot = none ∧ r.watch.worker ≠ .gone := by
    have hask := asked_recv r.cancelled r.watch
    rw [hpending] at hask
    generalize (r.watch.recv r.cancelled).1 = w at hask
    cases hask with
    | idle _ hslot hw => exact ⟨hslot, hw⟩
    | leaving hcancelled => exact absurd (hc.symm.trans hcancelled) Bool.false_ne_true
  obtain ⟨hw, hqueue, hended⟩ : r.watch.worker = .waiting ∧ r.watch.feed.queue = []
      ∧ r.watch.feed.ended = false := by
    rcases step_eq_none hrest with hgone | ⟨_, hw, hpull⟩ | ⟨_, _, _, hfull⟩
    · exact absurd hgone hlive
    · exact ⟨hw, Feed.pull?_eq_none hpull⟩
    · exact absurd hslot hfull
  have hstream : r.stream = r.taken := by simp [stream, hqueue, hended]
  have hl : r.watch.listening = true := hflow.listening hc (by simp [hs])
  have hread : r.watch.reportRead = false := by
    rw [← Bool.not_eq_true]
    exact fun hread => hlive (h.settled hread).1
  have hheld : r.watch.held = none := by simp only [held, hw]
  rw [hstream]
  refine ⟨hflow.unfailed hlive, ?_⟩
  rw [(h.running hc hs hread).1, hflow.exact hc hl, hslot, hheld]
  simp

/-- The answers to the requests for the next height make one sequence, in every run: heights,
then at most one error, then the end for good. As long as the call is not cancelled, the items
of the stream alone decide it, whatever the order in which frames come, the worker moves and the
holder asks: the heights of the items before the first that fails, then the error it fails
with, and the end only behind it; without an error the sequence ends only if an item destroyed
the worker. What counts are the items in the order in which the stream
yields them, which is the order of their arrival if nothing comes behind the close of the
server. Nothing is withheld: if nobody can move and a request has to wait, everything that
arrived was a height and has been handed out. -/
theorem answers_determined (feed : Feed BlockEpoch) (acts : List Act) :
    let r := (start feed).follow acts
    (∃ given error ends, r.answers = tale given error ends)
    ∧ (r.cancelled = false → Follows r.answers r.stream)
    ∧ (r.cancelled = false → .crash ∉ r.taken → none ∈ r.answers →
      ∃ e, failure? r.taken = some (some e) ∧ some (.error e) ∈ r.answers)
    ∧ (r.cancelled = false → r.late = false →
      Follows r.answers (r.arrived.map Frame.arrival
        ++ if r.watch.feed.ended then [.fault .streamClosed] else []))
    ∧ (r.cancelled = false → r.watch.handle = .stream → r.watch.step r.cancelled = none →
      (r.watch.recv r.cancelled).2 = .pending →
      failure? r.stream = none ∧ r.answers = tale (heights r.stream) none 0) := by
  intro r
  have hflow : Flow r := flow_follow feed acts
  have h : Told r := told_follow feed acts
  refine ⟨?_, ?_, ?_, ?_, h.pending hflow⟩
  · obtain ⟨given, error, ends, hanswers, -⟩ := h.shape
    exact ⟨given, error, ends, hanswers⟩
  · intro hc
    rw [stream, List.append_assoc]
    exact (h.follows hc).append _
  · intro hc
    exact (h.follows hc).error_of_end
  · intro hc hlate
    obtain ⟨more, hmore⟩ := hflow.taken_append hlate
    rw [hmore]
    exact (h.follows hc).append more

end Run

end EpochWatch

end ChainWatch
