/-
Which errors a caller can be told.

A caller decides by the error whether to subscribe again, so it matters that every error is of the
kind that its cause is of. `Refusal` lists for each kind of subscription the errors with which an
event of it can fail, `Feed.Failure` the causes with which its stream can, and `Fails` puts the two
together; that a worker is gone is told only of a single result that was told before. What a run
answers is always one of these, and so is whatever a client answers that follows any number of
subscriptions (`errors_by_origin`).
-/
import ChainWatch.Proofs.Digest
import ChainWatch.Proofs.EpochAnswers
import ChainWatch.Proofs.ResultDelivery
import ChainWatch.Proofs.OwnSteps

set_option autoImplicit false

namespace ChainWatch

/-! ## 1. The stream -/

namespace Feed

variable {ε : Type}

/-- The causes with which a stream can fail on which these frames have arrived. -/
inductive Failure (arrived : List (Frame ε)) (cancelled : Bool) (f : Feed ε) :
    LinkError → Prop where
  /-- One of the frames is the failure. -/
  | frame {cause : LinkError} {cancels : Bool} (h : .fault cause cancels ∈ arrived) :
      Failure arrived cancelled f cause
  | ended (he : f.ended = true) : Failure arrived cancelled f .streamClosed
  /-- The stream watches the cancellation of its call, and that has come. -/
  | cancelled (hw : f.watches = true) (hc : cancelled = true) :
      Failure arrived cancelled f .cancelled

/-- A failure that was taken is one of the stream. -/
theorem Drawn.failure {arrived queue : List (Frame ε)} {closing : Option LinkError}
    {taken : List (Arrival ε)} {cancelled : Bool} {f : Feed ε} {cause : LinkError}
    (h : Drawn arrived queue closing taken)
    (hcloses : ∀ cause, closing = some cause → f.Closes cancelled cause)
    (hmem : .fault cause ∈ taken) : Failure arrived cancelled f cause := by
  obtain ⟨frames, harrived, htaken⟩ := h
  rw [htaken, List.mem_append, List.mem_map, Option.mem_toList, Option.map_eq_some_iff] at hmem
  rcases hmem with ⟨frame, hframe, hfault⟩ | ⟨closed, hclosed, hfault⟩
  · cases frame with
    | fault own cancels =>
        cases hfault
        have harrived : .fault cause cancels ∈ arrived := by
          rw [harrived]
          exact List.mem_append_left _ hframe
        exact .frame harrived
    | _ => cases hfault
  · cases hfault
    obtain ⟨hended, rfl | ⟨rfl, hwatches, hcancelled⟩⟩ := hcloses _ hclosed
    · exact .ended hended
    · exact .cancelled hwatches hcancelled

end Feed

/-! ## 2. The events -/

/-- A computation fails where one of its two parts does. -/
theorem error_of_bind {ε α β : Type} {x : Except ε α} {f : α → Except ε β} {e : ε}
    (h : (x >>= f) = .error e) : x = .error e ∨ ∃ a, x = .ok a ∧ f a = .error e := by
  cases x with
  | ok a => exact Or.inr ⟨a, rfl, h⟩
  | error own =>
      cases h
      exact Or.inl rfl

theorem error_of_decodeTransaction {raw : Bytes} {e : PayloadError}
    (h : decodeTransaction raw = .error e) : ∃ reason, e = .transaction reason := by
  unfold decodeTransaction at h
  split at h
  · cases h
  · cases h
    exact ⟨_, rfl⟩

theorem error_of_decodeHeight {field : String} {value : UInt32} {e : PayloadError}
    (h : decodeHeight field value = .error e) :
    e = .outOfRange field value ∧ 0x80000000 ≤ value := by
  unfold decodeHeight at h
  split at h
  · cases h
  · rename_i hvalue
    cases h
    exact ⟨rfl, UInt32.not_lt.mp hvalue⟩

/-- The errors with which a block epoch can end a subscription. -/
inductive BlockEpoch.Refusal : WatchError → Prop where
  | height {value : UInt32} (h : 0x80000000 ≤ value) :
      Refusal (.payload (.outOfRange "height" value))

theorem BlockEpoch.refusal_of_decode {m : BlockEpoch} {e : PayloadError}
    (h : m.decode = .error e) : Refusal (.payload e) := by
  obtain ⟨rfl, hvalue⟩ := error_of_decodeHeight h
  exact .height hvalue

/-- The errors with which an event can end the wait for a confirmation. -/
inductive ConfirmEvent.Refusal : WatchError → Prop where
  | transaction (reason : String) : Refusal (.payload (.transaction reason))
  | hash {length : Nat} (h : length ≠ 32) : Refusal (.payload (.hashLength length))
  | empty : Refusal (.payload (.emptyEvent "conf"))
  | unknown (tag : String) : Refusal (.protocol ("conf event has unexpected type: " ++ tag))

theorem ConfirmDetails.refusal_of_decode {d : ConfirmDetails} {e : PayloadError}
    (h : d.decode = .error e) : ConfirmEvent.Refusal (.payload e) := by
  rcases error_of_bind h with htx | ⟨tx, -, h⟩
  · obtain ⟨reason, rfl⟩ := error_of_decodeTransaction htx
    exact .transaction reason
  · rcases error_of_bind h with hhash | ⟨hash, -, h⟩
    · obtain ⟨rfl, hlength⟩ := Digest.error_of_ofBytes? hhash
      exact .hash hlength
    · cases h

theorem ConfirmEvent.refusal_of_decides {event : ConfirmEvent} {e : WatchError}
    (h : Decides (.event event) (some (.error e))) : Refusal e := by
  cases h with
  | malformed h => exact ConfirmDetails.refusal_of_decode h
  | empty => exact .empty
  | unknown tag => exact .unknown tag

/-- The errors with which an event can end the wait for a spend. -/
inductive SpendEvent.Refusal : WatchError → Prop where
  | output : Refusal (.payload (.missingField "spending_outpoint"))
  | hash {length : Nat} (h : length ≠ 32) : Refusal (.payload (.hashLength length))
  | transaction (reason : String) : Refusal (.payload (.transaction reason))
  | height {value : UInt32} (h : 0x80000000 ≤ value) :
      Refusal (.payload (.outOfRange "spending_height" value))

theorem SpendDetails.refusal_of_decode {d : SpendDetails} {e : PayloadError}
    (h : d.decode = .error e) : SpendEvent.Refusal (.payload e) := by
  -- the parts are checked in this order, and the first that fails is the error
  unfold decode at h
  split at h
  · rcases error_of_bind h with hsome | ⟨ref, -, h⟩
    · cases hsome
    rcases error_of_bind h with houtput | ⟨output, -, h⟩
    · rcases error_of_bind houtput with hhash | ⟨hash, -, hdone⟩
      · obtain ⟨rfl, hlength⟩ := Digest.error_of_ofBytes? hhash
        exact .hash hlength
      · cases hdone
    rcases error_of_bind h with hhash | ⟨hash, -, h⟩
    · obtain ⟨rfl, hlength⟩ := Digest.error_of_ofBytes? hhash
      exact .hash hlength
    rcases error_of_bind h with htx | ⟨tx, -, h⟩
    · obtain ⟨reason, rfl⟩ := error_of_decodeTransaction htx
      exact .transaction reason
    rcases error_of_bind h with hheight | ⟨height, -, hdone⟩
    · obtain ⟨rfl, hvalue⟩ := error_of_decodeHeight hheight
      exact .height hvalue
    · cases hdone
  · cases h
    exact .output

theorem SpendEvent.refusal_of_decides {event : SpendEvent} {e : WatchError}
    (h : Decides (.event event) (some (.error e))) : Refusal e := by
  cases h with
  | malformed h => exact SpendDetails.refusal_of_decode h

/-! ## 3. Block subscriptions -/

/-- A failure is that of an item. -/
theorem mem_of_failure? {items : List (Arrival BlockEpoch)} {e : Option WatchError}
    (h : failure? items = some e) : ∃ a ∈ items, a.outcome = .error e := by
  induction items with
  | nil => cases h
  | cons a rest ih =>
      rw [failure?] at h
      split at h
      · obtain ⟨b, hb, hfail⟩ := ih h
        exact ⟨b, List.mem_cons_of_mem _ hb, hfail⟩
      · rename_i own hfail
        rw [Option.some.inj h] at hfail
        exact ⟨a, List.mem_cons_self, hfail⟩

namespace EpochWatch.Run

/-- The errors that the holder of a block subscription can be told. -/
inductive Fails (r : Run) : WatchError → Prop where
  /-- The worker took a failure, and it is one of the stream. -/
  | stream {cause : LinkError} (htaken : .fault cause ∈ r.taken)
      (h : r.watch.feed.Failure r.arrived r.cancelled cause) : Fails r (.stream cause)
  | event {e : WatchError} (h : BlockEpoch.Refusal e) : Fails r e

/-- Whatever error was reported or told is the failure of what the worker took. -/
structure Blamed (r : Run) : Prop where
  reported : ∀ e, r.watch.report = some e → failure? r.taken = some (some e)
  told : ∀ e, some (.error e) ∈ r.answers → failure? r.taken = some (some e)

theorem blamed_start (feed : Feed BlockEpoch) : Blamed (start feed) where
  reported := nofun
  told := nofun

variable {r : Run}

/-- A request reports nothing itself, and an error that it tells was reported before. -/
theorem Blamed.recv (h : Blamed r) {w : EpochWatch}
    {reply : Reply (Option (Except WatchError Int32))} (hask : Asked r.cancelled r.watch w reply) :
    Blamed { r with
      watch := w
      handed := r.handed ++ (reply.answer?.bind heightIn).toList
      answers := r.answers ++ reply.answer?.toList } := by
  -- no request puts an error into the channel, and the one it tells was there
  have hreport : ∀ e, w.report = some e → r.watch.report = some e := by
    intro e he
    cases hask with
    | height | idle => exact he
    | leaving | again => rwa [hush_report] at he
    | silent =>
        rw [← hush_report r.cancelled r.watch]
        exact he
    | error => cases he
  refine { reported := fun e he => h.reported e (hreport e he), told := ?_ }
  intro e he
  rw [List.mem_append, Option.mem_toList] at he
  rcases he with hbefore | hnow
  · exact h.told e hbefore
  · cases hask with
    | error _ _ hreported =>
        cases hnow
        exact h.reported e hreported
    | _ => cases hnow

/-- A worker reports the failure of the item that it has just taken. It is the first failure, since
a worker that is there has taken none before (`Flow.unfailed`). -/
theorem Blamed.work (h : Blamed r) (hflow : Flow r) {item : Option (Arrival BlockEpoch)}
    {m : Move EpochWatch} (hstep : Stepped r.cancelled r.watch item m) :
    Blamed { r with
      watch := m.watch
      cancelled := r.cancelled || m.cancels
      taken := r.taken ++ item.toList } := by
  have hkept : ∀ e, failure? r.taken = some (some e) →
      failure? (r.taken ++ item.toList) = some (some e) := by
    intro e he
    rw [failure?_append, he, Option.some_or]
  refine { reported := ?_, told := fun e he => hkept e (h.told e he) }
  intro e he
  cases hstep with
  | stopped | unheard | sent => exact hkept e (h.reported e he)
  | took => exact hkept e (h.reported e he)
  | @failed p own log hc hw hp ho =>
      cases own with
      | none => exact hkept e (h.reported e he)
      | some own =>
          cases he
          show failure? (r.taken ++ [p.arrival]) = _
          rw [failure?_append, hflow.unfailed (by simp [hw]), Option.none_or]
          simp only [failure?, ho]

theorem Blamed.act (h : Blamed r) (hflow : Flow r) (a : Act) : Blamed (r.act a) := by
  cases a with
  | work => exact act_work h (h.work hflow)
  | recv => exact act_recv h fun _ _ _ hask => h.recv hask
  | split =>
      apply act_split
      · exact { h with }
      · exact fun _ => { h with }
  | readHeight => exact act_readHeight h fun _ => { h with }
  | readReport =>
      apply act_readReport h
      refine fun _ => { h with reported := ?_ }
      intro e he
      dsimp only at he
      split at he
      · exact h.reported e he
      · cases he
  | push | drop | cancel => exact { h with }

theorem blamed_follow (feed : Feed BlockEpoch) (acts : List Act) :
    Blamed ((start feed).follow acts) :=
  (follow_induction (P := fun r => Flow r ∧ Blamed r)
    (fun _ a h => ⟨h.1.act a, h.2.act h.1 a⟩) ⟨flow_start feed, blamed_start feed⟩ acts).2

/-- The failure of what the worker took is of the stream or of an event. -/
theorem Flow.fails (h : Flow r) {e : WatchError} (he : failure? r.taken = some (some e)) :
    r.Fails e := by
  obtain ⟨a, ha, hfail⟩ := mem_of_failure? he
  cases a with
  | event epoch =>
      rw [Arrival.outcome] at hfail
      split at hfail
      · cases hfail
      · rename_i hheight
        cases hfail
        exact .event (.height (UInt32.not_lt.mp hheight))
  | fault cause =>
      cases hfail
      obtain ⟨closing, hdrawn, hclosing⟩ := h.drawn
      refine .stream ha (hdrawn.failure ?_ ha)
      rintro own rfl
      obtain ⟨hend, -, hended, -⟩ := hclosing.resolve_left (Option.some_ne_none own)
      exact ⟨hended, Or.inl (Option.some.inj hend)⟩
  | crash => cases hfail

theorem fails_of_recv (hflow : Flow r) (hblamed : Blamed r) {e : WatchError}
    (h : (r.watch.recv r.cancelled).2 = .ready (some (.error e))) : r.Fails e := by
  have hask := asked_recv r.cancelled r.watch
  rw [h] at hask
  generalize (r.watch.recv r.cancelled).1 = w at hask
  cases hask with
  | error _ _ hreported => exact hflow.fails (hblamed.reported e hreported)

theorem fails_of_tryReport (hflow : Flow r) (hblamed : Blamed r) {e : WatchError}
    (h : r.watch.tryReport.2 = some (.value e)) : r.Fails e := by
  unfold tryReport at h
  split at h
  · cases h
  · split at h
    · rename_i own hreported
      cases h
      exact hflow.fails (hblamed.reported e hreported)
    · dsimp only at h
      split at h <;> cases h

end EpochWatch.Run

/-! ## 4. Single results -/

variable {ε ρ : Type}

/-- The error in an answer of a single-result subscription. -/
def Reply.error? : Reply (Except WatchError ρ) → Option WatchError
  | .ready (.error e) => some e
  | .ready (.ok _) | .pending => none

/-- An outcome is that of an item. -/
theorem ResultKind.mem_of_outcomeOf {k : ResultKind ε ρ} {items : List (Arrival ε)}
    {outcome : Except WatchError ρ} (h : k.outcomeOf items = some outcome) :
    ∃ a ∈ items, k.verdict a = some (some outcome) :=
  List.exists_of_findSome?_eq_some (Option.join_eq_some_iff.mp h)

namespace ResultWatch.Run

/-- The errors that the holder of a single-result subscription can be told, if `Refusal` says with
which errors an event can end it. -/
inductive Fails (Refusal : WatchError → Prop) (r : Run ε ρ) : WatchError → Prop where
  /-- The worker took a failure, and it is one of the stream. -/
  | stream {cause : LinkError} (htaken : .fault cause ∈ r.taken)
      (h : r.watch.feed.Failure r.arrived r.cancelled cause) : Fails Refusal r (.stream cause)
  | event {e : WatchError} (h : Refusal e) : Fails Refusal r e
  /-- The outcome was told before. A worker that an item destroyed leaves none to tell. -/
  | gone (h : (∃ outcome, outcome ≠ .error .workerGone ∧ ToldBefore r outcome) ∨ .crash ∈ r.taken) :
      Fails Refusal r .workerGone

variable {k : ResultKind ε ρ} {r : Run ε ρ} {Refusal : WatchError → Prop}

theorem Judged.fails (h : Judged k r)
    (hevent : ∀ event e, k.verdict (.event event) = some (some (.error e)) → Refusal e)
    {e : WatchError} (he : k.outcomeOf r.taken = some (.error e)) : r.Fails Refusal e := by
  obtain ⟨a, ha, hverdict⟩ := k.mem_of_outcomeOf he
  cases a with
  | event event => exact .event (hevent event e hverdict)
  | fault cause =>
      cases hverdict
      obtain ⟨closing, hdrawn, hcloses⟩ := h.inOrder
      exact .stream ha (hdrawn.failure hcloses ha)
  | crash => cases hverdict

/-- A worker that has left and leaves nothing to tell was destroyed, or its outcome was told. -/
theorem Judged.told_or_crashed (h : Judged k r) (htold : Told k r) (hfrank : k.Frank)
    (hgone : r.watch.running = false) (hslot : r.watch.result = none) :
    (∃ outcome, outcome ≠ .error .workerGone ∧ ToldBefore r outcome) ∨ .crash ∈ r.taken := by
  cases houtcome : k.outcomeOf r.taken with
  | some outcome =>
      refine Or.inl ⟨outcome, ?_, htold.toldBefore hgone hslot houtcome⟩
      rintro rfl
      obtain ⟨a, -, hverdict⟩ := k.mem_of_outcomeOf houtcome
      exact hfrank a hverdict
  | none =>
      obtain ⟨skipped, a, htaken, hskipped, ha⟩ := h.last hgone
      obtain ⟨own, hown⟩ := Option.ne_none_iff_exists'.mp ha
      rw [htaken, k.outcomeOf_decided hskipped hown] at houtcome
      subst houtcome
      right
      rw [htaken]
      apply List.mem_append_right
      rw [List.mem_singleton]
      -- an event that decides has an outcome, and so has a failure of the stream
      cases a with
      | crash => rfl
      | fault cause => cases hown
      | event event =>
          simp only [ResultKind.verdict] at hown
          split at hown <;> cases hown

/-- Every error that a request tells is of the stream, of an event, or that there is no more. -/
theorem fails_of_asked {Skips : Arrival ε → Prop}
    {Decides : Arrival ε → Option (Except WatchError ρ) → Prop} (hmeans : k.Means Skips Decides)
    (hrefusal : ∀ event e, Decides (.event event) (some (.error e)) → Refusal e) (feed : Feed ε)
    (acts : List (Act ε)) {w : ResultWatch ε ρ} {reply : Reply (Except WatchError ρ)}
    (hask : Asked ((start feed).follow k acts).watch w reply) {e : WatchError}
    (he : reply.error? = some e) : ((start feed).follow k acts).Fails Refusal e := by
  have hjudged : Judged k ((start feed).follow k acts) := judged_follow hmeans.frank feed acts
  have htold : Told k ((start feed).follow k acts) := told_follow hmeans.frank feed acts
  generalize (start feed).follow k acts = r at hjudged htold hask ⊢
  cases hask with
  | early => cases he
  | @told outcome held hslot =>
      have houtcome : k.outcomeOf r.taken = some outcome := by
        rw [← hjudged.outcome, outcome?, hslot, Option.some_or]
      cases outcome with
      | ok result => cases he
      | error own =>
          cases he
          apply hjudged.fails ?_ houtcome
          intro event e hverdict
          exact hrefusal event e ((hmeans.decides _ _).mp hverdict)
  | late held hgone hslot =>
      cases he
      exact .gone (hjudged.told_or_crashed htold hmeans.frank hgone hslot)

end ResultWatch.Run

/-! ## 5. Any subscription -/

/-- The error in an answer to a request for the next height. -/
def Received.error? : Received → Option WatchError
  | .ready (some (.error e)) => some e
  | .ready (some (.ok _)) | .ready none | .pending => none

/-- The errors in an answer of a client. -/
def Answer.errors : Answer → List WatchError
  | .registered (.refused _ cause) => [cause]
  | .received answers => answers.filterMap Received.error?
  | .glanced _ report => (report.bind EpochWatch.Glance.value?).toList
  | .confirm result => result.error?.toList
  | .spend result => result.error?.toList
  | .registered (.started _) | .done | .missing | .flag _ | .view _ | .split _ => []

namespace Story

/-- The errors that the holder of a subscription can be told, as its story stands. -/
def Fails : Story → WatchError → Prop
  | epochs r => r.Fails
  | confirm r => r.Fails ConfirmEvent.Refusal
  | spend r => r.Fails SpendEvent.Refusal

/-- Every error is one that says whether to subscribe again, and none is of a registration. -/
theorem Fails.kind {story : Story} {e : WatchError} (h : story.Fails e) :
    e.isSetup = false
    ∧ (e.isRetryable = true ↔ (∃ reason, e = .stream (.connection reason))
      ∨ e = .stream .streamClosed ∨ ∃ ms, e = .stream (.timeout ms)) := by
  have hstream (cause : LinkError) : (WatchError.stream cause).isSetup = false
      ∧ ((WatchError.stream cause).isRetryable = true
        ↔ (∃ reason, WatchError.stream cause = .stream (.connection reason))
        ∨ WatchError.stream cause = .stream .streamClosed
        ∨ ∃ ms, WatchError.stream cause = .stream (.timeout ms)) := by
    cases cause <;> simp [WatchError.isSetup, WatchError.isRetryable, LinkError.isRetryable]
  cases story with
  | epochs r =>
      cases h with
      | stream => exact hstream _
      | event h =>
          cases h
          simp [WatchError.isSetup, WatchError.isRetryable]
  | confirm r =>
      cases h with
      | stream => exact hstream _
      | event h => cases h <;> simp [WatchError.isSetup, WatchError.isRetryable]
      | gone => simp [WatchError.isSetup, WatchError.isRetryable]
  | spend r =>
      cases h with
      | stream => exact hstream _
      | event h => cases h <;> simp [WatchError.isSetup, WatchError.isRetryable]
      | gone => simp [WatchError.isSetup, WatchError.isRetryable]

/-- Every error that is told of a block subscription can be told of it. -/
theorem Lived.fails_of_recv {story : Story} (h : story.Lived) {w : Watch} {reply : Received}
    (hrecv : story.watch.recv? story.cancelled = some (w, reply)) {e : WatchError}
    (he : reply.error? = some e) : story.Fails e := by
  cases story with
  | epochs r =>
      obtain ⟨feed, acts, rfl⟩ := h
      have hflow := EpochWatch.Run.flow_follow feed acts
      have hblamed := EpochWatch.Run.blamed_follow feed acts
      generalize (EpochWatch.Run.start feed).follow acts = r at hflow hblamed hrecv ⊢
      simp only [watch, cancelled, Watch.recv?] at hrecv
      split at hrecv
      · cases hrecv
        apply EpochWatch.Run.fails_of_recv hflow hblamed
        revert he
        generalize (r.watch.recv r.cancelled).2 = reply
        intro he
        unfold Received.error? at he
        split at he <;> cases he
        rfl
      · cases hrecv
  | confirm r => cases hrecv
  | spend r => cases hrecv

theorem Lived.fails_of_glance {story : Story} (h : story.Lived) {w : Watch} {answer : Answer}
    (hglance : story.watch.glance? = some (w, answer)) {e : WatchError}
    (he : e ∈ answer.errors) : story.Fails e := by
  cases story with
  | epochs r =>
      obtain ⟨feed, acts, rfl⟩ := h
      have hflow := EpochWatch.Run.flow_follow feed acts
      have hblamed := EpochWatch.Run.blamed_follow feed acts
      generalize (EpochWatch.Run.start feed).follow acts = r at hflow hblamed hglance ⊢
      simp only [watch, Watch.glance?] at hglance
      split at hglance
      · cases hglance
        -- the look into the height channel leaves the error channel alone
        have hreport : r.watch.tryHeight.1.tryReport.2 = r.watch.tryReport.2 := by
          rw [EpochWatch.tryHeight_fst]
          unfold EpochWatch.tryReport
          dsimp only
          split
          · rfl
          · split <;> rfl
        simp only [Answer.errors, hreport, Option.mem_toList, Option.bind_eq_some_iff] at he
        obtain ⟨glance, hglance, hvalue⟩ := he
        apply EpochWatch.Run.fails_of_tryReport hflow hblamed
        rw [hglance]
        cases glance <;> cases hvalue
        rfl
      · cases hglance
  | confirm r => cases hglance
  | spend r => cases hglance

theorem Lived.fails_of_confirm {r : ResultWatch.Run ConfirmEvent Confirmation}
    (h : (confirm r).Lived) {w : ResultWatch ConfirmEvent Confirmation}
    {reply : Reply (Except WatchError Confirmation)} (hask : ResultWatch.Asked r.watch w reply)
    {e : WatchError} (he : reply.error? = some e) : (confirm r).Fails e := by
  obtain ⟨feed, acts, rfl⟩ := h
  exact ResultWatch.Run.fails_of_asked ConfirmEvent.means
    (fun _ _ => ConfirmEvent.refusal_of_decides) feed acts hask he

theorem Lived.fails_of_spend {r : ResultWatch.Run SpendEvent Spend} (h : (spend r).Lived)
    {w : ResultWatch SpendEvent Spend} {reply : Reply (Except WatchError Spend)}
    (hask : ResultWatch.Asked r.watch w reply) {e : WatchError} (he : reply.error? = some e) :
    (spend r).Fails e := by
  obtain ⟨feed, acts, rfl⟩ := h
  exact ResultWatch.Run.fails_of_asked SpendEvent.means
    (fun _ _ => SpendEvent.refusal_of_decides) feed acts hask he

theorem Lived.fails_of_tryResult {story : Story} (h : story.Lived) {w : Watch} {answer : Answer}
    (htry : story.watch.tryResult? = some (w, answer)) {e : WatchError}
    (he : e ∈ answer.errors) : story.Fails e := by
  cases story with
  | epochs r => cases htry
  | confirm r =>
      simp only [watch, Watch.tryResult?] at htry
      split at htry
      · cases htry
        exact h.fails_of_confirm (ResultWatch.asked_tryResult _) (Option.mem_toList.mp he)
      · cases htry
  | spend r =>
      simp only [watch, Watch.tryResult?] at htry
      split at htry
      · cases htry
        exact h.fails_of_spend (ResultWatch.asked_tryResult _) (Option.mem_toList.mp he)
      · cases htry

theorem Lived.fails_of_await {story : Story} (h : story.Lived) {w : Watch} {answer : Answer}
    (hawait : story.watch.await? = some (w, answer)) {e : WatchError}
    (he : e ∈ answer.errors) : story.Fails e := by
  cases story with
  | epochs r => cases hawait
  | confirm r =>
      simp only [watch, Watch.await?] at hawait
      split at hawait
      · cases hawait
        exact h.fails_of_confirm (ResultWatch.asked_await _) (Option.mem_toList.mp he)
      · cases hawait
  | spend r =>
      simp only [watch, Watch.await?] at hawait
      split at hawait
      · cases hawait
        exact h.fails_of_spend (ResultWatch.asked_await _) (Option.mem_toList.mp he)
      · cases hawait

end Story

/-! ## 6. A client -/

/-- The subscription that a step asks for what it has. -/
def Step.asks? : Step → Option String
  | .recv name _ | .glance name | .tryResult name | .await name => some name
  | .call .. | .viewCall _ | .cancel _ | .register .. | .feed .. | .split _ | .drop _ | .dropClient
  | .wait | .startWait _ | .waitDone _ | .abandonWait _ | .settle => none

namespace Session

/-- A registration fails with an error of its own. -/
theorem setup_of_register {s : Session} {client : Client} {name : String} {call : Call}
    {order : Order} {cancelAfter : Option Nat} {incoming : Option Incoming} {e : WatchError}
    (h : (s.register client name call order cancelAfter).2 = .refused incoming e) :
    ∃ cause, e = .setup cause := by
  have hrefuse {s : Session} {incoming' : Option Incoming} {cause : LinkError}
      (h : (s.refuse order.kind incoming' cause).2 = .refused incoming e) :
      ∃ cause, e = .setup cause := by
    cases h
    exact ⟨cause, rfl⟩
  have hr := s.register_cases client name call order cancelAfter
  generalize s.register client name call order cancelAfter = r at h hr
  cases hr with
  | answered =>
      unfold answered at h
      split at h
      · cases h
      · exact hrefuse h
  | _ => exact hrefuse h

end Session

namespace Chronicle

variable {c : Chronicle}

/-- What is answered under a name is answered of the subscription that has it. -/
theorem Faithful.answered (h : Faithful c) {α : Type} {name : String}
    {f : Subscription → Option (Watch × α)} {r : Session × α}
    (hon : c.session.onWatch name f = some r) :
    ∃ i sub story w, c.session.subNames.lookup name = some i ∧ c.stories[i]? = some story
      ∧ Agrees c.session sub story ∧ f sub = some (w, r.2) := by
  unfold Session.onWatch at hon
  split at hon
  · rename_i i hname
    split at hon
    · rename_i sub hsub
      obtain ⟨⟨w, answer⟩, hf, rfl⟩ := Option.map_eq_some_iff.mp hon
      obtain ⟨story, hstory, hagrees⟩ := h.agrees hsub
      exact ⟨i, sub, story, w, hname, hstory, hagrees, hf⟩
    · cases hon
  · cases hon

/-- An error can be told of the subscription that has a name, as its story stands before a step, or
in the course of it if the step is more than a single act. -/
def Tells (c : Chronicle) (step : Step) (name : String) (e : WatchError) : Prop :=
  ∃ i more story, c.session.subNames.lookup name = some i
    ∧ (step.isAct = true → more = []) ∧ (∀ a ∈ more, Session.Makes step a)
    ∧ (c.follow more).stories[i]? = some story ∧ story.Fails e

/-- What can be told before a single act can be told in the course of any step. -/
theorem tells_now {step : Step} {name : String} {e : WatchError} {i : Nat} {story : Story}
    (hname : c.session.subNames.lookup name = some i) (hstory : c.stories[i]? = some story)
    (hfails : story.Fails e) : c.Tells step name e :=
  ⟨i, [], story, hname, fun _ => rfl, nofun, hstory, hfails⟩

/-- What can be told later in the course of a step can be told in the course of it. -/
theorem Tells.later {step : Step} {name : String} {e : WatchError} {acts : List Session.Act}
    (hstep : step.isAct = false) (hacts : ∀ a ∈ acts, Session.Makes step a)
    (hnames : (c.follow acts).session.subNames = c.session.subNames)
    (h : (c.follow acts).Tells step name e) : c.Tells step name e := by
  obtain ⟨i, more, story, hname, -, hmore, hstory, hfails⟩ := h
  rw [hnames] at hname
  refine ⟨i, acts ++ more, story, hname, ?_, ?_, ?_, hfails⟩
  · rw [hstep]
    exact Bool.noConfusion
  · rw [List.forall_mem_append]
    exact ⟨hacts, hmore⟩
  · rw [follow, List.foldl_append]
    exact hstory

/-- The tasks are run by acts of any step. -/
theorem exists_settle (s : Session) (step : Step) :
    ∃ acts, (∀ a ∈ acts, Session.Makes step a) ∧ s.follow acts = s.settle := by
  have hkeeps (s' : Session) (a : Session.Act) (ha : Session.Makes step a)
      (h : ∃ acts, (∀ a ∈ acts, Session.Makes step a) ∧ s.follow acts = s') :
      ∃ acts, (∀ a ∈ acts, Session.Makes step a) ∧ s.follow acts = s'.act a := by
    obtain ⟨acts, hacts, rfl⟩ := h
    refine ⟨acts ++ [a], ?_, List.foldl_append⟩
    rw [List.forall_mem_append, List.forall_mem_singleton]
    exact ⟨hacts, ha⟩
  exact Session.settle_keeps_of_makes hkeeps ⟨[], nofun, rfl⟩

theorem names_recv {name : String} {count : Nat} (s : Session) {acts : List Session.Act}
    (hacts : ∀ a ∈ acts, Session.Makes (.recv name count) a) :
    (s.follow acts).subNames = s.subNames := by
  induction acts generalizing s with
  | nil => rfl
  | cons a acts ih =>
      rw [List.forall_mem_cons] at hacts
      refine (ih (s.act a) hacts.2).trans ?_
      rcases s.names_act a with hsame | ⟨name', callName, order, rfl, -⟩
      · exact hsame
      · cases hacts.1 with
        | answer hstep => cases hstep

/-- Every error among the answers to several requests can be told of the subscription. -/
theorem Faithful.tells_recvMany (h : Faithful c) {name : String} {count : Nat} (n : Nat)
    {reply : Received} (hreply : reply ∈ (c.session.recvMany name n).2) {e : WatchError}
    (he : reply.error? = some e) : c.Tells (.recv name count) name e := by
  induction n generalizing c with
  | zero => cases hreply
  | succ n ih =>
      rw [Session.recvMany] at hreply
      split at hreply
      · rename_i s' answer hrecv
        obtain ⟨i, sub, story, w, hname, hstory, hagrees, hf⟩ := h.answered hrecv
        rw [← hagrees.watch, ← hagrees.cancelled] at hf
        have hfirst (hanswer : reply = answer) : c.Tells (.recv name count) name e := by
          subst hanswer
          exact tells_now hname hstory (hagrees.lived.fails_of_recv hf he)
        split at hreply
        · exact hfirst (List.mem_singleton.mp hreply)
        rcases List.mem_cons.mp hreply with hnow | hlater
        · exact hfirst hnow
        -- the requests that follow are made of the session after this one, once its tasks have run
        have honce : (c.act (.recv name)).session = s' := by
          show c.session.act (.recv name) = s'
          rw [Session.act, Session.recvOnce, Session.afterWatch, hrecv, Option.elim_some]
        obtain ⟨tasks, htasks, hsettle⟩ := exists_settle s' (.recv name count)
        have hmakes : ∀ a ∈ Session.Act.recv name :: tasks, Session.Makes (.recv name count) a := by
          rw [List.forall_mem_cons]
          exact ⟨.recv rfl, htasks⟩
        have hsession : (c.follow (.recv name :: tasks)).session = s'.settle := by
          rw [← hsettle, ← honce]
          exact session_follow (c.act (.recv name)) tasks
        apply Tells.later rfl hmakes
        · rw [session_follow]
          exact names_recv c.session hmakes
        · apply ih (h.follow _)
          rw [hsession]
          exact hlater
      · cases hreply

/-- What a request answers under a name, it tells of the subscription that has it. -/
theorem Faithful.tells_onWatch (h : Faithful c) {step : Step} {name : String}
    {f : Watch → Option (Watch × Answer)}
    (hfails : ∀ story : Story, story.Lived → ∀ w answer, f story.watch = some (w, answer) →
      ∀ e ∈ answer.errors, story.Fails e) {e : WatchError}
    (he : e ∈ (c.session.orMissing (c.session.onWatch name fun sub => f sub.watch)).2.errors) :
    c.Tells step name e := by
  cases hon : c.session.onWatch name fun sub => f sub.watch with
  | none =>
      rw [hon] at he
      cases he
  | some r =>
      rw [hon] at he
      obtain ⟨i, sub, story, w, hname, hstory, hagrees, hf⟩ := h.answered hon
      rw [← hagrees.watch] at hf
      exact tells_now hname hstory (hfails story hagrees.lived w _ hf e he)

/-- Splitting a handle tells nothing. -/
theorem errors_split (w : Watch) : w.split.2.errors = [] := by
  cases w with
  | epochs w =>
      simp only [Watch.split]
      split <;> rfl
  | confirm w => rfl
  | spend w => rfl

/-- Every error in what a client answers is that of a registration that failed, and then it says so,
or that of a subscription that was asked, and then it is one that can be told of it. -/
theorem Faithful.errors_perform (h : Faithful c) (step : Step) {e : WatchError}
    (he : e ∈ (c.session.perform step).2.errors) :
    (∃ name callName order cancelAfter cause,
      step = .register name callName order cancelAfter ∧ e = .setup cause)
    ∨ ∃ name, step.asks? = some name ∧ c.Tells step name e := by
  cases step with
  | register name callName order cancelAfter =>
      left
      simp only [Session.perform] at he
      split at he
      · rename_i client call _ _
        generalize hr : (c.session.register client name call order _).2 = r at he
        cases r with
        | started incoming => cases he
        | refused incoming own =>
            obtain ⟨cause, rfl⟩ := Session.setup_of_register hr
            rw [List.mem_singleton.mp he]
            exact ⟨name, callName, order, cancelAfter, cause, rfl, rfl⟩
      · cases he
  | recv name count =>
      refine Or.inr ⟨name, rfl, ?_⟩
      simp only [Session.perform] at he
      split at he
      · obtain ⟨reply, hreply, he⟩ := List.mem_filterMap.mp he
        exact h.tells_recvMany count hreply he
      · cases he
  | glance name =>
      exact Or.inr ⟨name, rfl, h.tells_onWatch (fun _ hlived _ _ hf _ he =>
        hlived.fails_of_glance hf he) he⟩
  | tryResult name =>
      exact Or.inr ⟨name, rfl, h.tells_onWatch (fun _ hlived _ _ hf _ he =>
        hlived.fails_of_tryResult hf he) he⟩
  | await name =>
      exact Or.inr ⟨name, rfl, h.tells_onWatch (fun _ hlived _ _ hf _ he =>
        hlived.fails_of_await hf he) he⟩
  | split name =>
      simp only [Session.perform] at he
      cases hon : c.session.onWatch name fun sub => some sub.watch.split with
      | none =>
          rw [hon] at he
          cases he
      | some r =>
          rw [hon] at he
          obtain ⟨i, sub, story, w, -, -, -, hf⟩ := h.answered hon
          have hanswer : r.2 = sub.watch.split.2 := by
            rw [Option.some.inj hf]
          simp only [Session.orMissing, hanswer, errors_split] at he
          cases he
  | feed name frames close =>
      simp only [Session.perform] at he
      split at he
      · rename_i s' answer hon
        obtain ⟨i, sub, story, w, -, -, -, hf⟩ := h.answered hon
        obtain ⟨w', -, hw'⟩ := Option.map_eq_some_iff.mp hf
        cases hw'
        cases he
      · cases he
  | call => cases he
  | settle => cases he
  | _ =>
      simp only [Session.perform] at he
      split at he <;> cases he

/-- Whatever a client is asked to do, with any number of subscriptions and whatever their streams
hold: an error in its answer is of a registration that failed, and then it says so, or can be told
of the subscription that was asked. In that case it is no failure of a registration, and says to
subscribe again only if the connection broke, ended, or was not there in time. -/
theorem errors_by_origin (client : Client) (acts : List Session.Act) (step : Step) :
    let c := (start client).follow acts
    ∀ e ∈ (c.session.perform step).2.errors,
      (∃ name callName order cancelAfter cause,
        step = .register name callName order cancelAfter ∧ e = .setup cause)
      ∨ ∃ name, step.asks? = some name ∧ c.Tells step name e ∧ e.isSetup = false
        ∧ (e.isRetryable = true ↔ (∃ reason, e = .stream (.connection reason))
          ∨ e = .stream .streamClosed ∨ ∃ ms, e = .stream (.timeout ms)) := by
  intro c e he
  have h : Faithful c := faithful_follow client acts
  refine (h.errors_perform step he).imp_right ?_
  rintro ⟨name, hasks, htells⟩
  have ⟨_, _, _, _, _, _, _, hfails⟩ := htells
  exact ⟨name, hasks, htells, hfails.kind⟩

/-- The connection breaks behind a spend subscription, and its worker has noticed. -/
def severed : List Session.Act :=
  [.outer (.call "c" none []),
    .answer "s" "c" (.spend none [] 0
      ⟨.after 0, .ok ⟨[.fault (.connection "reset") false], false, false⟩⟩),
    .turn (.worker 0)]

theorem errors_by_origin_severed :
    let c := (start ⟨⟨""⟩, ⟨1, 0, by decide⟩⟩).follow severed
    let e := WatchError.stream (.connection "reset")
    e ∈ (c.session.perform (.tryResult "s")).2.errors
    ∧ c.Tells (.tryResult "s") "s" e ∧ e.isRetryable = true := by
  intro c e
  have he : e ∈ (c.session.perform (.tryResult "s")).2.errors := List.mem_singleton_self e
  rcases errors_by_origin ⟨⟨""⟩, ⟨1, 0, by decide⟩⟩ severed (.tryResult "s") e he with
    ⟨_, _, _, _, _, hstep, -⟩ | ⟨name, hname, htells, -, hretry⟩
  · cases hstep
  · cases hname
    exact ⟨he, htells, hretry.mpr (Or.inl ⟨"reset", rfl⟩)⟩

end Chronicle

end ChainWatch
