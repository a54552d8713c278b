/-
The delivery of heights.

Between the stream and the holder a height passes through three hands: the worker that took
it, the channel, and the holder. `Flow` says where the heights of a run are. As long as the
call is not cancelled and somebody listens they are all there, in the order of the stream;
afterwards some may be dropped, and what was handed out is a beginning of what was taken.
Every act keeps this (`flow_act`), so every run has it (`flow_follow`).
-/
import ChainWatch.Proofs.EpochRun
import ChainWatch.Proofs.Feed

set_option autoImplicit false

namespace ChainWatch

namespace EpochWatch

namespace Run

/-! ## 1. Where the heights are -/

/-- The worker has taken the end of its stream and left. Frames that still come are late. -/
def TookEnd (r : Run) : Prop :=
  r.watch.worker = .gone ∧ r.watch.feed.ended = true ∧ (r.late = false → r.watch.feed.queue = [])

structure Flow (r : Run) : Prop where
  /-- The worker takes the frames in the order in which they arrived, and then the end. -/
  drawn : ∃ closing, Feed.Drawn r.arrived r.watch.feed.queue closing r.taken
    ∧ (closing = none ∨ closing = some .streamClosed ∧ TookEnd r)
  /-- As long as it is there, no item has failed. -/
  unfailed : r.watch.worker ≠ .gone → failure? r.taken = none
  /-- It leaves for a reason. -/
  exit : r.watch.worker = .gone →
    r.cancelled = true ∨ failure? r.taken ≠ none ∨ r.watch.listening = false
  /-- It takes nothing behind the first item that fails. -/
  last : r.taken.map Arrival.outcome
    = (heights r.taken).map .ok ++ (failure? r.taken).toList.map .error
  /-- What left the worker left it in order. -/
  inOrder : r.handed ++ r.watch.slot.toList <+: heights r.taken
  exact : r.cancelled = false → r.watch.listening = true →
    heights r.taken = r.handed ++ r.watch.slot.toList ++ r.watch.held.toList
  /-- A channel that takes no heights holds none. -/
  closed : r.watch.listening = false →
    r.watch.slot = none ∧ (r.cancelled = true ∨ r.parting ≠ none)
  parted : r.watch.handle = .dropped ↔ r.parting ≠ none
  ahead : (heights r.taken).length
    ≤ r.handed.length + if r.watch.worker = .waiting then 1 else 2

theorem flow_start (feed : Feed BlockEpoch) : Flow (start feed) where
  drawn := ⟨none, Feed.drawn_nil _, Or.inl rfl⟩
  unfailed _ := rfl
  exit h := by simp [start, EpochWatch.start] at h
  last := rfl
  inOrder := List.prefix_rfl
  exact _ _ := rfl
  closed h := by simp [start, EpochWatch.start] at h
  parted := by simp [start, EpochWatch.start]
  ahead := Nat.zero_le _

/-- What the holder is handed comes out of the channel, and nothing else that the holder does
moves a height. -/
theorem Flow.hand {r : Run} (h : Flow r) (w : EpochWatch) (given : List Int32)
    (answers : List (Option (Except WatchError Int32)))
    (hfeed : w.feed = r.watch.feed) (hworker : w.worker = r.watch.worker)
    (hhandle : w.handle = .dropped ↔ r.watch.handle = .dropped)
    (hslot : given ++ w.slot.toList <+: r.watch.slot.toList)
    (hexact : r.cancelled = false → w.listening = true →
      given ++ w.slot.toList = r.watch.slot.toList ∧ r.watch.listening = true)
    (hclosed : w.listening = false →
      w.slot = none ∧ (r.cancelled = true ∨ r.watch.listening = false)) :
    Flow { r with watch := w, handed := r.handed ++ given, answers } where
  drawn := by
    obtain ⟨closing, hd, hclosing⟩ := h.drawn
    refine ⟨closing, by rw [hfeed]; exact hd, hclosing.imp_right ?_⟩
    rintro ⟨hend, hgone, hended, hbehind⟩
    exact ⟨hend, hworker ▸ hgone, hfeed ▸ hended, hfeed ▸ hbehind⟩
  unfailed := by
    simp only [hworker]
    exact h.unfailed
  exit := by
    intro hgone
    rw [hworker] at hgone
    cases hc : r.cancelled with
    | true => exact Or.inl rfl
    | false =>
        rcases h.exit hgone with hcancelled | hfail | hdeaf
        · exact absurd (hc.symm.trans hcancelled) Bool.false_ne_true
        · exact Or.inr (Or.inl hfail)
        · refine Or.inr (Or.inr ?_)
          rw [← Bool.not_eq_true]
          intro hl
          exact absurd (hdeaf.symm.trans (hexact hc hl).2) Bool.false_ne_true
  last := h.last
  inOrder := by
    rw [List.append_assoc]
    exact (List.prefix_append_right_inj r.handed).mpr hslot |>.trans h.inOrder
  exact := by
    intro hc hl
    obtain ⟨hgiven, hlisten⟩ := hexact hc hl
    have hheld : w.held = r.watch.held := by simp only [held, hworker]
    simp only [hheld]
    rw [h.exact hc hlisten, ← hgiven, List.append_assoc r.handed given]
  closed := by
    intro hl
    obtain ⟨hs, hwhy⟩ := hclosed hl
    refine ⟨hs, ?_⟩
    rcases hwhy with hc | hlisten
    · exact Or.inl hc
    · exact (h.closed hlisten).2
  parted := by
    rw [hhandle]
    exact h.parted
  ahead := by
    have hahead := h.ahead
    simp only [hworker, List.length_append]
    omega

/-- The holder learns something from a request for the next height. -/
theorem Flow.recv {r : Run} (h : Flow r) {w : EpochWatch}
    {reply : Reply (Option (Except WatchError Int32))} (hask : Asked r.cancelled r.watch w reply) :
    Flow { r with
      watch := w
      handed := r.handed ++ (reply.answer?.bind heightIn).toList
      answers := r.answers ++ reply.answer?.toList } := by
  -- without a height in the answer the channel is empty, and closed if the call is cancelled
  have hquiet (w' : EpochWatch) (hfeed : w'.feed = r.watch.feed)
      (hworker : w'.worker = r.watch.worker) (hhandle : w'.handle = r.watch.handle)
      (hslot : w'.slot = none) (hlisten : w'.listening = (r.watch.listening && !r.cancelled))
      (hover : r.cancelled = true ∨ r.watch.slot = none ∧ r.watch.worker = .gone)
      (answers : List (Option (Except WatchError Int32))) :
      Flow { r with watch := w', handed := r.handed ++ [], answers } := by
    refine h.hand w' [] answers hfeed hworker (by rw [hhandle]) ?_ ?_ ?_
    · rw [hslot]
      exact List.nil_prefix
    · intro hc hl
      rw [hlisten, hc, Bool.not_false, Bool.and_true] at hl
      have hempty := (hover.resolve_left (by rw [hc]; exact Bool.false_ne_true)).1
      exact ⟨by rw [hslot, hempty, List.nil_append], hl⟩
    · intro hl
      refine ⟨hslot, ?_⟩
      rw [hlisten, Bool.and_eq_false_iff, Bool.not_eq_false'] at hl
      exact hl.symm
  cases hask with
  | height hc hs =>
      refine h.hand _ [_] _ rfl rfl Iff.rfl ?_ ?_ ?_
      · rw [hs]
        exact List.prefix_rfl
      · intro _ hl
        exact ⟨by rw [hs]; rfl, hl⟩
      · intro hl
        exact ⟨rfl, Or.inr hl⟩
  | idle hc hs hw =>
      refine h.hand _ [] _ rfl rfl Iff.rfl List.prefix_rfl ?_ ?_
      · intro _ hl
        exact ⟨rfl, hl⟩
      · intro hl
        exact ⟨hs, Or.inr hl⟩
  | leaving hc hr he hw =>
      exact hquiet _ (hush_feed ..) (hush_worker ..) (hush_handle ..) (hush_slot (Or.inl hc))
        (hush_listening ..) (Or.inl hc) _
  | error hover hr he =>
      exact hquiet { r.watch.hush r.cancelled with report := none, reportRead := true }
        (hush_feed ..) (hush_worker ..) (hush_handle ..) (hush_slot hover) (hush_listening ..)
        hover _
  | silent hover hr he hw =>
      exact hquiet { r.watch.hush r.cancelled with reportRead := true }
        (hush_feed ..) (hush_worker ..) (hush_handle ..) (hush_slot hover) (hush_listening ..)
        hover _
  | again hover hr =>
      exact hquiet _ (hush_feed ..) (hush_worker ..) (hush_handle ..) (hush_slot hover)
        (hush_listening ..) hover _

/-- A worker that leaves without taking an item drops what it holds. It does so only if the
call is cancelled or nobody listens. -/
theorem Flow.leave {r : Run} (h : Flow r) (hwhy : r.cancelled = true ∨ r.watch.listening = false)
    (log : List Log.Event) : Flow { r with watch := (r.watch.leave log).watch } where
  drawn := by
    obtain ⟨closing, hd, hclosing⟩ := h.drawn
    refine ⟨closing, hd, hclosing.imp_right ?_⟩
    rintro ⟨hend, -, hended, hbehind⟩
    exact ⟨hend, rfl, hended, hbehind⟩
  unfailed hlive := absurd rfl hlive
  exit _ := hwhy.imp_right Or.inr
  last := h.last
  inOrder := h.inOrder
  exact := by
    intro hc hl
    rcases hwhy with hcancelled | hdeaf
    · exact absurd (hc.symm.trans hcancelled) Bool.false_ne_true
    · exact absurd (hdeaf.symm.trans hl) Bool.false_ne_true
  closed := h.closed
  parted := h.parted
  ahead := by
    have hahead := h.ahead
    simp only [EpochWatch.leave, reduceCtorEq, if_false]
    split at hahead
    · omega
    · exact hahead

/-- An item with a height goes from the stream into the worker's hand. -/
theorem Flow.took {r : Run} (h : Flow r) {p : Pull BlockEpoch} {height : Int32}
    (hc : r.cancelled = false) (hw : r.watch.worker = .waiting)
    (hp : r.watch.feed.pull? false = some p) (ho : p.arrival.outcome = .ok height) :
    Flow { r with
      watch := { r.watch with feed := p.feed, worker := .holding height }
      cancelled := p.cancels
      taken := r.taken ++ [p.arrival] } := by
  have hlive : r.watch.worker ≠ .gone := by simp [hw]
  have hgood := h.unfailed hlive
  have hheights : heights (r.taken ++ [p.arrival]) = heights r.taken ++ [height] := by
    rw [heights_append, if_pos hgood]
    simp only [heights, ho]
  have hfailure : failure? (r.taken ++ [p.arrival]) = none := by
    rw [failure?_append, hgood]
    simp only [failure?, ho, Option.or_none]
  -- the stream was not at its end before, as a worker that takes the end leaves
  refine { drawn := ?_, unfailed := fun _ => hfailure, exit := by simp, last := ?_, inOrder := ?_,
           exact := ?_, closed := ?_, parted := h.parted, ahead := ?_ }
  · obtain ⟨closing, hd, hclosing⟩ := h.drawn
    rcases hclosing with rfl | ⟨-, hgone, -, -⟩
    · cases Feed.pulled_of_pull? hp with
      | frame hq =>
          rw [hq] at hd
          exact ⟨none, hd.frame, Or.inl rfl⟩
      | ended hq he => simp only [Arrival.outcome, reduceCtorEq] at ho
      | cancelled hq he hwatch hcancel => simp only [reduceCtorEq] at hcancel
    · exact absurd hgone hlive
  · rw [List.map_append, hfailure, hheights, h.last, hgood]
    simp [ho]
  · rw [hheights]
    exact h.inOrder.trans (List.prefix_append _ _)
  · intro _ hl
    have hnothing : r.watch.held = none := by simp only [held, hw]
    rw [hheights, h.exact hc hl, hnothing]
    simp [held]
  · intro hl
    obtain ⟨hs, hwhy⟩ := h.closed hl
    exact ⟨hs, Or.inr (hwhy.resolve_left (by rw [hc]; exact Bool.false_ne_true))⟩
  · have hahead := h.ahead
    rw [if_pos hw] at hahead
    rw [hheights, List.length_append, List.length_singleton, if_neg (by simp)]
    show _ ≤ r.handed.length + 2
    omega

/-- An item that fails is the last that the worker takes. -/
theorem Flow.failed {r : Run} (h : Flow r) {p : Pull BlockEpoch} {e report : Option WatchError}
    (hc : r.cancelled = false) (hw : r.watch.worker = .waiting)
    (hp : r.watch.feed.pull? false = some p) (ho : p.arrival.outcome = .error e) :
    Flow { r with
      watch := { r.watch with feed := p.feed, worker := .gone, report }
      cancelled := p.cancels
      taken := r.taken ++ [p.arrival] } := by
  have hlive : r.watch.worker ≠ .gone := by simp [hw]
  have hgood := h.unfailed hlive
  have hheights : heights (r.taken ++ [p.arrival]) = heights r.taken := by
    rw [heights_append, if_pos hgood]
    simp only [heights, ho, List.append_nil]
  have hfailure : failure? (r.taken ++ [p.arrival]) = some e := by
    rw [failure?_append, hgood]
    simp only [failure?, ho, Option.none_or]
  refine { drawn := ?_, unfailed := fun hgone => absurd rfl hgone, exit := ?_, last := ?_,
           inOrder := ?_, exact := ?_, closed := ?_, parted := h.parted, ahead := ?_ }
  · obtain ⟨closing, hd, hclosing⟩ := h.drawn
    rcases hclosing with rfl | ⟨-, hgone, -, -⟩
    · cases Feed.pulled_of_pull? hp with
      | frame hq =>
          rw [hq] at hd
          exact ⟨none, hd.frame, Or.inl rfl⟩
      -- the end stands behind the last frame, so none is left
      | ended hq he => exact ⟨_, hd.close _, Or.inr ⟨rfl, rfl, he, fun _ => hq⟩⟩
      | cancelled hq he hwatch hcancel => simp only [reduceCtorEq] at hcancel
    · exact absurd hgone hlive
  · intro _
    exact Or.inr (Or.inl (by simp [hfailure]))
  · rw [List.map_append, hfailure, hheights, h.last, hgood]
    simp [ho]
  · rw [hheights]
    exact h.inOrder
  · intro _ hl
    have hnothing : r.watch.held = none := by simp only [held, hw]
    rw [hheights, h.exact hc hl, hnothing]
    rfl
  · intro hl
    obtain ⟨hs, hwhy⟩ := h.closed hl
    exact ⟨hs, Or.inr (hwhy.resolve_left (by rw [hc]; exact Bool.false_ne_true))⟩
  · have hahead := h.ahead
    rw [if_pos hw] at hahead
    rw [hheights, if_neg (by simp)]
    show _ ≤ r.handed.length + 2
    omega

/-- The height in the worker's hand goes into the channel. -/
theorem Flow.sent {r : Run} (h : Flow r) {height : Int32} (hc : r.cancelled = false)
    (hw : r.watch.worker = .holding height) (hl : r.watch.listening = true)
    (hs : r.watch.slot = none) :
    Flow { r with watch := { r.watch with worker := .waiting, slot := some height } } := by
  have hlive : r.watch.worker ≠ .gone := by simp [hw]
  have hheld : r.watch.held = some height := by simp only [held, hw]
  -- the channel is empty, so the holder has all the heights but this one
  have hheights : heights r.taken = r.handed ++ [height] := by
    rw [h.exact hc hl, hs, hheld]
    simp
  refine { drawn := ?_, unfailed := fun _ => h.unfailed hlive, exit := by simp, last := h.last,
           inOrder := ?_, exact := ?_, closed := ?_, parted := h.parted, ahead := ?_ }
  · obtain ⟨closing, hd, hclosing⟩ := h.drawn
    rcases hclosing with rfl | ⟨-, hgone, -, -⟩
    · exact ⟨none, hd, Or.inl rfl⟩
    · exact absurd hgone hlive
  · rw [hheights]
    exact List.prefix_rfl
  · intro _ _
    rw [hheights]
    simp [held]
  · intro hdeaf
    exact absurd (hdeaf.symm.trans hl) Bool.false_ne_true
  · rw [hheights, List.length_append, if_pos rfl]
    exact Nat.le_refl _

/-- The worker's step moves a height at most one hand further. -/
theorem Flow.work {r : Run} (h : Flow r) {item : Option (Arrival BlockEpoch)}
    {m : Move EpochWatch} (hstep : Stepped r.cancelled r.watch item m) :
    Flow { r with
      watch := m.watch
      cancelled := r.cancelled || m.cancels
      taken := r.taken ++ item.toList } := by
  cases hstep with
  | stopped log hc hw => simpa [EpochWatch.leave] using h.leave (Or.inl hc) log
  | took hc hw hp ho => simpa [hc] using h.took hc hw hp ho
  | failed log hc hw hp ho => simpa [hc] using h.failed hc hw hp ho
  | unheard log hc hw hl => simpa [EpochWatch.leave] using h.leave (Or.inr hl) log
  | sent hc hw hl hs => simpa using h.sent hc hw hl hs

/-- What the holder loses is what is in the channel. -/
theorem Flow.drop {r : Run} (h : Flow r) : Flow r.drop where
  drawn := h.drawn
  unfailed := h.unfailed
  exit _ := Or.inr (Or.inr rfl)
  last := h.last
  inOrder := by
    show r.handed ++ [] <+: _
    rw [List.append_nil]
    exact (List.prefix_append _ _).trans h.inOrder
  exact _ hl := absurd hl Bool.false_ne_true
  closed _ := by
    refine ⟨rfl, Or.inr ?_⟩
    simp only [Run.drop]
    split
    · rename_i hd
      exact h.parted.mp hd
    · simp
  parted := by
    simp only [Run.drop, EpochWatch.drop, true_iff]
    split
    · rename_i hd
      exact h.parted.mp hd
    · simp
  ahead := h.ahead

/-- Whatever happens, no height is lost, doubled or put before another. -/
theorem Flow.act {r : Run} (h : Flow r) (a : Act) : Flow (r.act a) := by
  cases a with
  | push frames close =>
      refine { h with drawn := ?_ }
      obtain ⟨closing, hd, hclosing⟩ := h.drawn
      refine ⟨closing, hd.push frames, hclosing.imp_right ?_⟩
      rintro ⟨hend, hgone, hended, hbehind⟩
      -- the worker has taken the end, so a frame that comes now is late
      refine ⟨hend, hgone, by simp only [Run.act, Feed.push, hended, Bool.true_or], ?_⟩
      intro hlate
      simp only [Run.act, hended, Bool.true_and, Bool.or_eq_false_iff, Bool.not_eq_false',
        List.isEmpty_iff] at hlate
      simp only [Run.act, Feed.push, hbehind hlate.1, hlate.2, List.append_nil]
  | work => exact act_work h h.work
  | recv => exact act_recv h fun _ _ _ hask => h.recv hask
  | split =>
      apply act_split h.drop
      intro hs
      refine { h with parted := ?_ }
      rw [← h.parted, hs]
      simp
  | readHeight =>
      apply act_readHeight h
      intro _
      refine h.hand _ _ _ rfl rfl Iff.rfl ?_ ?_ ?_
      · show r.watch.slot.toList ++ [] <+: r.watch.slot.toList
        simp only [List.append_nil, List.prefix_rfl]
      · intro _ hl
        exact ⟨List.append_nil _, hl⟩
      · intro hl
        exact ⟨rfl, Or.inr hl⟩
  | readReport => exact act_readReport h fun _ => { h with }
  | drop => exact h.drop
  | cancel =>
      refine { h with exit := fun _ => Or.inl rfl, exact := ?_, closed := ?_ }
      · intro hc
        exact Bool.noConfusion hc
      · intro hl
        exact ⟨(h.closed hl).1, Or.inl rfl⟩

theorem flow_follow (feed : Feed BlockEpoch) (acts : List Act) :
    Flow ((start feed).follow acts) :=
  follow_induction (fun _ a h => h.act a) (flow_start feed) acts

/-- Somebody listens until the call is cancelled or the receiver dropped. -/
theorem Flow.listening {r : Run} (h : Flow r) (hc : r.cancelled = false)
    (hd : r.watch.handle ≠ .dropped) : r.watch.listening = true := by
  rw [← Bool.not_eq_false]
  intro hdeaf
  rcases (h.closed hdeaf).2 with hcancelled | hparted
  · exact absurd (hc.symm.trans hcancelled) Bool.false_ne_true
  · exact hd (h.parted.mpr hparted)

/-- What was taken holds the heights of a beginning of what arrived. -/
theorem Flow.taken_arrived {r : Run} (h : Flow r) :
    heights r.taken <+: heights (r.arrived.map Frame.arrival) := by
  obtain ⟨closing, ⟨frames, harrived, htaken⟩, -⟩ := h.drawn
  have hclosing : heights r.taken = heights (frames.map Frame.arrival) := by
    rw [htaken, heights_append]
    cases closing with
    | none => simp [heights]
    | some cause => simp [heights, Arrival.outcome]
  rw [hclosing, harrived, List.map_append]
  exact heights_prefix_append _ _

/-- The heights of a block subscription are conserved, whatever happens in whatever order. The
worker takes the items of its stream in order. As long as the call is not cancelled and the
receiver not dropped, the heights handed to the holder, the one in the channel and the one
in the worker's hand are what the items taken so far mean, in order, each of them once; the
only other item taken is the failing one that made the worker leave. In every run the worker
is at most two heights ahead of the holder, and the holder was handed a beginning of the
heights of the stream. -/
theorem heights_conserved (feed : Feed BlockEpoch) (acts : List Act) :
    let r := (start feed).follow acts
    (∃ closing, Feed.Drawn r.arrived r.watch.feed.queue closing r.taken
      ∧ (closing = none ∨ closing = some .streamClosed ∧ r.watch.worker = .gone))
    ∧ (r.cancelled = false → r.parting = none →
      ∃ failing : Option (Option WatchError),
        r.taken.map Arrival.outcome
          = (r.handed ++ r.watch.slot.toList ++ r.watch.held.toList).map .ok
            ++ failing.toList.map .error
        ∧ (failing ≠ none ↔ r.watch.worker = .gone))
    ∧ (heights r.taken).length ≤ r.handed.length + 2
    ∧ r.handed <+: heights (r.arrived.map Frame.arrival) := by
  intro r
  have h : Flow r := flow_follow feed acts
  refine ⟨?_, ?_, ?_, ?_⟩
  · obtain ⟨closing, hd, hclosing⟩ := h.drawn
    exact ⟨closing, hd, hclosing.imp_right fun hend => ⟨hend.1, hend.2.1⟩⟩
  · intro hc hp
    have hl : r.watch.listening = true := h.listening hc fun hd => h.parted.mp hd hp
    -- the failing item is there exactly if the worker is gone
    refine ⟨failure? r.taken, ?_, ?_, ?_⟩
    · rw [← h.exact hc hl]
      exact h.last
    · intro hfail
      by_cases hlive : r.watch.worker = .gone
      · exact hlive
      · exact absurd (h.unfailed hlive) hfail
    · intro hgone
      rcases h.exit hgone with hcancelled | hfail | hdeaf
      · exact absurd (hc.symm.trans hcancelled) Bool.false_ne_true
      · exact hfail
      · exact absurd (hdeaf.symm.trans hl) Bool.false_ne_true
  · have hahead := h.ahead
    split at hahead <;> omega
  · exact ((List.prefix_append _ _).trans h.inOrder).trans h.taken_arrived

end Run

end EpochWatch

end ChainWatch
