/-
A block subscription after the cancellation of its call.

The cancellation may come while the worker waits, while it holds a height, or when it has
left with or without a report, and with or without a height in the channel. `Barrier` relates
the run at that moment to the same run at any later one: no item is taken, nothing is put into
either channel, and the holder is told no more than the error that was still to be told, and
the end.
-/
import ChainWatch.Proofs.EpochAnswers

set_option autoImplicit false

namespace ChainWatch

namespace EpochWatch

/-! ## 1. One request -/

/-- The error that was reported and is still to be told. -/
def owed (w : EpochWatch) : Option WatchError := if w.reportRead then none else w.report

/-- Once the call is cancelled a request empties the channel and hands nothing out of it. It
has to wait only for the worker to leave. -/
theorem asked_cancelled {w w' : EpochWatch} {reply : Reply (Option (Except WatchError Int32))}
    (h : Asked true w w' reply) :
    w'.slot = none ∧ reply.answer?.bind heightIn = none
      ∧ (w.worker = .gone → reply ≠ .pending) := by
  have hslot : (w.hush true).slot = none := hush_slot (Or.inl rfl)
  cases h with
  | height hc => exact Bool.noConfusion hc
  | idle hc => exact Bool.noConfusion hc
  | leaving _ _ _ hw => exact ⟨hslot, rfl, fun hgone => absurd hgone hw⟩
  | error => exact ⟨hslot, rfl, by simp⟩
  | silent => exact ⟨hslot, rfl, by simp⟩
  | again => exact ⟨hslot, rfl, by simp⟩

/-- A worker that rests although its call is cancelled is gone. -/
theorem gone_of_rest {w : EpochWatch} (h : w.step true = none) : w.worker = .gone := by
  rcases step_eq_none h with hgone | ⟨hc, -⟩ | ⟨hc, -⟩
  · exact hgone
  · exact Bool.noConfusion hc
  · exact Bool.noConfusion hc

namespace Run

/-! ## 2. All that comes later -/

/-- What was told since a moment of a cancelled call: nothing yet, or what was still to be told
and then the end. -/
def Concluded (r r' : Run) : Prop :=
  (r'.watch.reportRead = r.watch.reportRead ∧ r'.answers = r.answers
    ∧ (r'.watch.handle = .stream → r'.watch.report = r.watch.report))
  ∨ r'.watch.reportRead = true ∧ ∃ ends, r'.answers = r.answers ++ tale [] r.watch.owed ends

structure Barrier (r r' : Run) : Prop where
  cancelled : r'.cancelled = true
  taken : r'.taken = r.taken
  slot : r'.watch.slot = r.watch.slot ∨ r'.watch.slot = none
  report : r'.watch.report = r.watch.report ∨ r'.watch.report = none
  told : Concluded r r'

theorem barrier_refl {r : Run} (hc : r.cancelled = true) : Barrier r r where
  cancelled := hc
  taken := rfl
  slot := Or.inl rfl
  report := Or.inl rfl
  told := Or.inl ⟨rfl, rfl, fun _ => rfl⟩

/-- A request is answered with what is still to be told, or with the end. -/
theorem Barrier.recv {r r' : Run} (h : Barrier r r') (hs : r'.watch.handle = .stream)
    {w : EpochWatch} {reply : Reply (Option (Except WatchError Int32))}
    (hask : Asked r'.cancelled r'.watch w reply) :
    Barrier r { r' with
      watch := w
      handed := r'.handed ++ (reply.answer?.bind heightIn).toList
      answers := r'.answers ++ reply.answer?.toList } := by
  rw [h.cancelled] at hask
  have hslot : w.slot = r.watch.slot ∨ w.slot = none := Or.inr (asked_cancelled hask).1
  -- the error channel has been read before, or it still is as it was at the cancellation
  have hopen (hr : r'.watch.reportRead = false) :
      r'.answers = r.answers ∧ r'.watch.report = r.watch.owed := by
    rcases h.told with ⟨hread, hanswers, hreport⟩ | ⟨hread, -⟩
    · refine ⟨hanswers, ?_⟩
      rw [hreport hs, owed, ← hread, hr]
      rfl
    · exact absurd (hr.symm.trans hread) Bool.false_ne_true
  cases hask with
  | height hc => exact Bool.noConfusion hc
  | idle hc => exact Bool.noConfusion hc
  | leaving hc hr he hw =>
      refine { cancelled := h.cancelled, taken := h.taken, slot := hslot,
               report := ?_, told := ?_ }
      · rw [hush_report]
        exact h.report
      · simpa [Concluded, Reply.answer?] using h.told
  | @error e hover hr he =>
      obtain ⟨hanswers, howed⟩ := hopen hr
      refine { cancelled := h.cancelled, taken := h.taken, slot := hslot,
               report := Or.inr rfl, told := Or.inr ⟨rfl, 0, ?_⟩ }
      · show r'.answers ++ [some (.error e)] = _
        rw [hanswers, ← howed, he]
        rfl
  | silent hover hr he hw =>
      obtain ⟨hanswers, howed⟩ := hopen hr
      refine { cancelled := h.cancelled, taken := h.taken, slot := hslot,
               report := ?_, told := Or.inr ⟨rfl, 1, ?_⟩ }
      · show (r'.watch.hush true).report = _ ∨ (r'.watch.hush true).report = none
        rw [hush_report]
        exact h.report
      · show r'.answers ++ [none] = _
        rw [hanswers, ← howed, he]
        rfl
  | again hover hr =>
      refine { cancelled := h.cancelled, taken := h.taken, slot := hslot,
               report := ?_, told := Or.inr ⟨?_, ?_⟩ }
      · rw [hush_report]
        exact h.report
      · rw [hush_reportRead]
        exact hr
      · -- the holder knew the end by the cancellation, or was told it since
        show ∃ ends, r'.answers ++ [none] = r.answers ++ tale [] r.watch.owed ends
        rcases h.told with ⟨hread, hanswers, -⟩ | ⟨-, ends, hanswers⟩
        · refine ⟨1, ?_⟩
          rw [hanswers, owed, ← hread, hr]
          rfl
        · exact ⟨ends + 1, by rw [hanswers, List.append_assoc, tale_end]⟩

/-- All that the worker can still do is to leave. -/
theorem Barrier.work {r r' : Run} (h : Barrier r r') {item : Option (Arrival BlockEpoch)}
    {m : Move EpochWatch} (hstep : Stepped r'.cancelled r'.watch item m) :
    Barrier r { r' with
      watch := m.watch
      cancelled := r'.cancelled || m.cancels
      taken := r'.taken ++ item.toList } := by
  rw [h.cancelled] at hstep
  cases hstep with
  | stopped log hc hw =>
      exact { cancelled := by rw [h.cancelled, Bool.true_or]
              taken := by rw [Option.toList_none, List.append_nil, h.taken]
              slot := h.slot
              report := h.report
              told := h.told }
  | took hc => exact Bool.noConfusion hc
  | failed _ hc => exact Bool.noConfusion hc
  | unheard _ hc => exact Bool.noConfusion hc
  | sent hc => exact Bool.noConfusion hc

theorem Barrier.drop {r r' : Run} (h : Barrier r r') : Barrier r r'.drop where
  cancelled := h.cancelled
  taken := h.taken
  slot := Or.inr rfl
  report := h.report
  told := by
    rcases h.told with ⟨hread, hanswers, -⟩ | htold
    · exact Or.inl ⟨hread, hanswers, fun hs => by cases hs⟩
    · exact Or.inr htold

/-- Nothing that can happen gets past the cancellation. -/
theorem Barrier.act {r r' : Run} (h : Barrier r r') (a : Act) : Barrier r (r'.act a) := by
  cases a with
  | push frames close => exact { h with }
  | work => exact act_work h h.work
  | recv => exact act_recv h fun hs _ _ hask => h.recv hs hask
  | split =>
      apply act_split h.drop
      intro _
      refine { h with told := ?_ }
      rcases h.told with ⟨hread, hanswers, -⟩ | htold
      · exact Or.inl ⟨hread, hanswers, fun hs => by cases hs⟩
      · exact Or.inr htold
  | readHeight => exact act_readHeight h fun _ => { h with slot := Or.inr rfl }
  | readReport =>
      apply act_readReport h
      intro hs
      refine { h with report := ?_, told := ?_ }
      · show (if r'.watch.reportRead then r'.watch.report else none) = _
          ∨ (if r'.watch.reportRead then r'.watch.report else none) = none
        split
        · exact h.report
        · exact Or.inr rfl
      · rcases h.told with ⟨hread, hanswers, -⟩ | htold
        · refine Or.inl ⟨hread, hanswers, ?_⟩
          intro hstream
          cases hs.symm.trans hstream
        · exact Or.inr htold
  | drop => exact h.drop
  | cancel => exact { h with cancelled := rfl }

theorem barrier_follow {r : Run} (hc : r.cancelled = true) (acts : List Act) :
    Barrier r (r.follow acts) :=
  follow_induction (P := Barrier r) (fun _ a h => h.act a) (barrier_refl hc) acts

end Run

end EpochWatch

end ChainWatch
