/-
Who decides a registration, and what is left of it.

The answer of the service, the cancellation of the context and the timeout each have a moment. The
first two are noticed when they come. The timeout is noticed at the next tick of a clock that ticks
every millisecond, so something that comes between its end and that tick comes before it, and of
those that are noticed at one moment the answer is first and the cancellation last (`Earliest`).
It is a matter of time alone if nothing comes in between (`earliest_iff_soonest`), and nothing does
if the timeout is over at a tick (`Distinct.apart`). A registration is decided by the earliest of
the three and by nothing else: it is refused and leaves nothing but a line in the log (`Traceless`),
or it adds one subscription with one running worker and leaves the others alone (`Joined`).
-/
import Mathlib
import ChainWatch.Proofs.SessionEffect

set_option autoImplicit false

namespace ChainWatch

/-! ## 1. Moments -/

namespace Decider

/-- The order of those that are noticed at the same time. -/
def rank : Decider → Nat
  | answer => 0
  | timeout => 1
  | cancellation => 2

/-- When it is noticed that one of them has come: the end of a timeout at the first tick that is not
before it, and the others as they come. -/
def noticed : Decider → Nat → Nat
  | timeout, t => (t + 999999) / 1000000 * 1000000
  | answer, t | cancellation, t => t

theorem le_noticed (d : Decider) (t : Nat) : t ≤ d.noticed t := by
  cases d with
  | answer => exact Nat.le_refl t
  | timeout =>
      rw [noticed]
      omega
  | cancellation => exact Nat.le_refl t

end Decider

namespace Registration

/-- When each of the three happens, in nanoseconds from the start of the call, if it does. However
long a timeout is, it is counted exactly (see `first`). -/
def moment (timeout : Span) (cancelAt : Option Nat) (pace : Pace) : Decider → Option Nat
  | .answer => answerAt pace
  | .timeout => some timeout.totalNanos
  | .cancellation => cancelAt

/-- It is noticed before all others, or together with some that come after it in rank. -/
def Earliest (moments : Decider → Option Nat) (d : Decider) : Prop :=
  ∃ t, moments d = some t ∧ ∀ other t', other ≠ d → moments other = some t' →
    d.noticed t < other.noticed t' ∨ d.noticed t = other.noticed t' ∧ d.rank < other.rank

/-- It happens before all others. -/
def Soonest (moments : Decider → Option Nat) (d : Decider) : Prop :=
  ∃ t, moments d = some t ∧ ∀ other t', other ≠ d → moments other = some t' → t < t'

/-- No two happen at the same moment. -/
def Distinct (moments : Decider → Option Nat) : Prop :=
  ∀ d other t t', other ≠ d → moments d = some t → moments other = some t' → t ≠ t'

/-- No two happen at the same moment, and nothing happens between the end of the timeout and the
tick at which it is noticed. -/
structure Apart (moments : Decider → Option Nat) : Prop where
  distinct : Distinct moments
  clear : ∀ other t t', moments .timeout = some t → moments other = some t' →
    t' ≤ t ∨ Decider.timeout.noticed t < t'

variable {moments : Decider → Option Nat} {d d' : Decider}

/-- There is only one. -/
theorem Earliest.unique (h : Earliest moments d) (h' : Earliest moments d') : d' = d := by
  obtain ⟨t, ht, hfirst⟩ := h
  obtain ⟨t', ht', hfirst'⟩ := h'
  by_cases hne : d' = d
  · exact hne
  · have hle := hfirst d' t' hne ht'
    have hle' := hfirst' d t (Ne.symm hne) ht
    omega

/-- What happens sooner is noticed sooner. Only a timeout is noticed later than it happens, and then
nothing is there to come before it. -/
theorem Apart.noticed_lt (h : Apart moments) {t t' : Nat} (ht : moments d = some t)
    (ht' : moments d' = some t') (hlt : t < t') : d.noticed t < d'.noticed t' := by
  have hle := d'.le_noticed t'
  cases d with
  | answer => exact Nat.lt_of_lt_of_le hlt hle
  | timeout => exact Nat.lt_of_lt_of_le ((h.clear d' t t' ht ht').resolve_left (by omega)) hle
  | cancellation => exact Nat.lt_of_lt_of_le hlt hle

/-- What is noticed first is what happens first. -/
theorem earliest_iff_soonest (h : Apart moments) : Earliest moments d ↔ Soonest moments d := by
  constructor
  · rintro ⟨t, ht, hfirst⟩
    refine ⟨t, ht, ?_⟩
    intro other t' hne ht'
    rcases Nat.lt_trichotomy t t' with hlt | hsame | hlt
    · exact hlt
    · exact absurd hsame (h.distinct d other t t' hne ht ht')
    · have hnoticed := h.noticed_lt ht' ht hlt
      have hle := hfirst other t' hne ht'
      omega
  · rintro ⟨t, ht, hfirst⟩
    refine ⟨t, ht, ?_⟩
    intro other t' hne ht'
    exact Or.inl (h.noticed_lt ht ht' (hfirst other t' hne ht'))

/-- A timeout of whole milliseconds is over at a tick, and so there is no time for anything between
the two. -/
theorem Distinct.apart {timeout : Span} {cancelAt : Option Nat} {pace : Pace}
    (h : Distinct (moment timeout cancelAt pace)) (hmillis : 1000000 ∣ timeout.totalNanos) :
    Apart (moment timeout cancelAt pace) := by
  refine ⟨h, ?_⟩
  intro other t t' ht ht'
  have htick : Decider.timeout.noticed t = t := by
    cases ht
    rw [Decider.noticed]
    omega
  rw [htick]
  by_cases hother : other = .timeout
  · subst hother
    rw [ht] at ht'
    cases ht'
    exact Or.inl (Nat.le_refl t)
  · have hne := h .timeout other t t' hother ht ht'
    omega

/-- When each of the three is noticed, if it happens. -/
def due (limit : Nat) (cancelAt : Option Nat) (pace : Pace) : Decider → Option Nat
  | .answer => answerAt pace
  | .timeout => some limit
  | .cancellation => cancelAt

theorem noticed_moment (timeout : Span) (cancelAt : Option Nat) (pace : Pace) (d : Decider) :
    (moment timeout cancelAt pace d).map d.noticed = due timeout.passedAt cancelAt pace d := by
  cases d with
  | answer => exact Option.map_id'
  | timeout => rfl
  | cancellation => exact Option.map_id'

/-- Of two that are due the one that is due first, and by rank if they are due together. -/
def Beats (a b : Nat × Decider) : Prop := a.1 < b.1 ∨ a.1 = b.1 ∧ a.2.rank < b.2.rank

theorem Beats.trans {a b c : Nat × Decider} (h : Beats a b) (h' : Beats b c) : Beats a c := by
  unfold Beats at h h' ⊢
  omega

theorem sooner_beats {a b : Nat × Decider} (h : a.2.rank < b.2.rank) :
    sooner a b = a ∧ Beats a b ∨ sooner a b = b ∧ Beats b a := by
  unfold sooner Beats
  split
  · rename_i hlt
    exact Or.inr ⟨rfl, Or.inl hlt⟩
  · refine Or.inl ⟨rfl, ?_⟩
    omega

/-- What the call itself comes to if it is not cancelled. -/
def awaited (limit : Nat) (pace : Pace) : Nat × Decider :=
  match pace with
  | .delayed nanos => sooner (nanos, .answer) (limit, .timeout)
  | .never => (limit, .timeout)

/-- The call itself is not cancelled, is due, and beats what else is due but the cancellation. -/
theorem awaited_beats (limit : Nat) (cancelAt : Option Nat) (pace : Pace) :
    (awaited limit pace).2.rank < Decider.cancellation.rank
    ∧ due limit cancelAt pace (awaited limit pace).2 = some (awaited limit pace).1
    ∧ ∀ other n, other ≠ (awaited limit pace).2 → other ≠ .cancellation →
      due limit cancelAt pace other = some n → Beats (awaited limit pace) (n, other) := by
  cases pace with
  | never =>
      refine ⟨Nat.lt_succ_self 1, rfl, ?_⟩
      rintro (_ | _ | _) n hne hne' hn
      · cases hn
      · exact absurd rfl hne'
      · exact absurd rfl hne
  | delayed nanos =>
      rcases sooner_beats (a := (nanos, .answer)) (b := (limit, .timeout)) (Nat.lt_succ_self 0)
        with ⟨heq, hbeats⟩ | ⟨heq, hbeats⟩
      · rw [awaited, heq]
        refine ⟨Nat.succ_pos 1, rfl, ?_⟩
        rintro (_ | _ | _) n hne hne' hn
        · exact absurd rfl hne
        · exact absurd rfl hne'
        · cases hn
          exact hbeats
      · rw [awaited, heq]
        refine ⟨Nat.lt_succ_self 1, rfl, ?_⟩
        rintro (_ | _ | _) n hne hne' hn
        · cases hn
          exact hbeats
        · exact absurd rfl hne'
        · exact absurd rfl hne

theorem earliest_of_due {timeout : Span} {cancelAt : Option Nat} {pace : Pace} {d : Decider}
    {n : Nat} (hd : due timeout.passedAt cancelAt pace d = some n)
    (hothers : ∀ other n', other ≠ d → due timeout.passedAt cancelAt pace other = some n' →
      Beats (n, d) (n', other)) : Earliest (moment timeout cancelAt pace) d := by
  rw [← noticed_moment, Option.map_eq_some_iff] at hd
  obtain ⟨t, ht, rfl⟩ := hd
  refine ⟨t, ht, ?_⟩
  intro other t' hne ht'
  apply hothers other (other.noticed t') hne
  rw [← noticed_moment, ht', Option.map_some]

/-- The call itself against its cancellation. -/
theorem first_eq (timeout : Span) (cancelAt : Option Nat) (pace : Pace) :
    first timeout cancelAt pace
      = (cancelAt.elim (awaited timeout.passedAt pace) fun nanos =>
          sooner (awaited timeout.passedAt pace) (nanos, .cancellation)).2 := by
  -- the limit itself would be computed, so another name is given to it
  obtain ⟨limit, hlimit⟩ : ∃ limit, limit = timeout.passedAt := ⟨_, rfl⟩
  rw [first.eq_def, ← hlimit]
  cases pace <;> cases cancelAt <;> rfl

/-- `first` finds the earliest, and there always is one. -/
theorem earliest_first (timeout : Span) (cancelAt : Option Nat) (pace : Pace) :
    Earliest (moment timeout cancelAt pace) (first timeout cancelAt pace) := by
  obtain ⟨hrank, hdue, hothers⟩ := awaited_beats timeout.passedAt cancelAt pace
  rw [first_eq]
  generalize awaited timeout.passedAt pace = call at hrank hdue hothers ⊢
  cases cancelAt with
  | none =>
      refine earliest_of_due hdue ?_
      intro other n hne hn
      refine hothers other n hne ?_ hn
      rintro rfl
      cases hn
  | some nanos =>
      rw [Option.elim_some]
      rcases sooner_beats (a := call) (b := (nanos, .cancellation)) hrank
        with ⟨heq, hbeats⟩ | ⟨heq, hbeats⟩
      · rw [heq]
        refine earliest_of_due hdue ?_
        intro other n hne hn
        by_cases hcancel : other = .cancellation
        · subst hcancel
          cases hn
          exact hbeats
        · exact hothers other n hne hcancel hn
      · rw [heq]
        refine earliest_of_due rfl ?_
        intro other n hne hn
        by_cases hother : other = call.2
        · subst hother
          rw [hdue] at hn
          cases hn
          exact hbeats
        · exact hbeats.trans (hothers other n hother hne hn)

theorem awaited_pos {limit : Nat} {pace : Pace} (hlimit : 0 < limit)
    (hpace : answerAt pace ≠ some 0) : 0 < (awaited limit pace).1 := by
  cases pace with
  | never => exact hlimit
  | delayed nanos =>
      have hnanos : 0 < nanos := by
        rw [Nat.pos_iff_ne_zero]
        rintro rfl
        exact hpace rfl
      rw [awaited, sooner]
      split
      · exact hlimit
      · exact hnanos

/-- What happens while the tasks run happens before anything else, if there is time for it. -/
theorem first_zero {timeout : Span} {pace : Pace} (h : isImmediate timeout pace = false) :
    first timeout (some 0) pace = .cancellation := by
  rw [isImmediate, Bool.or_eq_false_iff, decide_eq_false_iff_not, decide_eq_false_iff_not] at h
  have hlimit : 0 < timeout.passedAt := by
    have hpos := Nat.pos_of_ne_zero h.2
    unfold Span.passedAt Span.fullMillis
    omega
  rw [first_eq, Option.elim_some, sooner, if_pos (awaited_pos hlimit h.1)]

end Registration

namespace Session

/-! ## 2. What is left of a call -/

/-- Nothing is left of a call but a line in the log. -/
def Traceless (s s' : Session) : Prop := ∃ line, s' = { s with log := s.log ++ [line] }

/-- A subscription has joined under a name, with a worker that runs. The others are left alone,
except that an older one of the name has lost its handle. -/
structure Joined (s s' : Session) (name : String) (sub : Subscription) : Prop where
  running : sub.watch.isLive = true
  /-- The name stands for it. -/
  named : ∃ i, s'.subNames.lookup name = some i ∧ s'.subs[i]? = some sub
  subs : s'.subs = (s.dropNamed name).subs ++ [sub]
  others : ∀ i old, s.subs[i]? = some old → s'.subs[i]? = some
    (if s.subNames.lookup name = some i then { old with watch := old.watch.drop } else old)
  /-- One worker more is counted, and no wait is affected. -/
  roster : s'.active = s.active + 1 ∧ s'.roster.closed = s.roster.closed
    ∧ s'.roster.waits = s.roster.waits
  book : s'.book = s.book
  client : s'.client = s.client

/-- A subscription that is spawned has joined the others. It is put behind them, so their indices
stay, and the name that it is given is taken from an older one, whose handle is dropped. -/
theorem joined_spawn (s : Session) (name : String) (token : Token) (kind : WatchKind)
    {watch : Watch} (hlive : watch.isLive = true) (line : Log.Event) :
    let s' := s.spawn name token kind watch
    Joined s { s' with log := s'.log ++ [line] } name ⟨token, watch⟩ := by
  have hframe := s.dropNamed_frame name
  have hlength := s.length_dropNamed name
  refine { running := hlive, named := ?_, subs := rfl, others := ?_, roster := ?_, book := ?_,
           client := ?_ }
  · refine ⟨(s.dropNamed name).subs.length, List.lookup_cons_self, ?_⟩
    show ((s.dropNamed name).subs ++ [_])[_]? = _
    rw [List.getElem?_append_right (Nat.le_refl _), Nat.sub_self, List.getElem?_cons_zero]
  · intro i old hi
    show ((s.dropNamed name).subs ++ [_])[i]? = _
    have hlt : i < (s.dropNamed name).subs.length := by
      rw [hlength]
      exact (List.getElem?_eq_some_iff.mp hi).1
    rw [List.getElem?_append_left hlt, dropNamed_eq, getElem?_afterWatch, hi, Option.map_some]
    rfl
  · refine ⟨?_, ?_, ?_⟩
    · show (s.dropNamed name).roster.running + 1 = _
      rw [hframe]
      rfl
    · show (s.dropNamed name).roster.closed = _
      rw [hframe]
    · show (s.dropNamed name).roster.waits = _
      rw [hframe]
  · show (s.dropNamed name).book = _
    rw [hframe]
  · show (s.dropNamed name).client = _
    rw [hframe]

theorem traceless_refuse (s : Session) (kind : WatchKind) (incoming : Option Incoming)
    (cause : LinkError) : Traceless s (s.refuse kind incoming cause).1 := ⟨_, rfl⟩

/-! ## 3. A call and who decides it -/

/-- When the context of a call is cancelled: while the tasks run, or by the caller. -/
def cancelAt (s : Session) (call : Call) (cancelAfter : Option Nat) : Option Nat :=
  if s.isCancelled call.token then some 0 else cancelAfter

/-- The session after the context was cancelled and the tasks have learnt of it. -/
def calledOff (s : Session) (call : Call) : Session :=
  if s.isCancelled call.token then s else { s with book := s.book.cancel call }.settle

/-- What a call comes to in the session of the moment, by who decides it. -/
inductive Decided (s : Session) (client : Client) (name : String) (call : Call) (order : Order)
    (incoming : Incoming) : Decider → Session × Registered Incoming → Prop where
  | started {watch : Watch} {s' : Session} (hanswer : order.answer = .ok watch)
      (hjoined : Joined s s' name ⟨call.token, watch⟩) :
      Decided s client name call order incoming .answer (s', .started incoming)
  | failed {cause : LinkError} {s' : Session} (hanswer : order.answer = .error cause)
      (htrace : Traceless s s') :
      Decided s client name call order incoming .answer
        (s', .refused (some incoming) (.setup cause))
  | cancelled {s' : Session} (htrace : Traceless (s.calledOff call) s') :
      Decided s client name call order incoming .cancellation
        (s', .refused (some incoming) (.setup .cancelled))
  | timedOut {ms : UInt64} {s' : Session}
      (hms : ms.toNat = min (client.timeout.totalNanos / 1000000) (UInt64.size - 1))
      (htrace : Traceless s s') :
      Decided s client name call order incoming .timeout
        (s', .refused (some incoming) (.setup (.timeout ms)))

theorem decided_answered (s : Session) (client : Client) (name : String) {call : Call}
    (order : Order) {incoming : Incoming} (htoken : incoming.call.token = call.token) :
    Decided s client name call order incoming .answer (s.answered name order incoming) := by
  unfold answered
  rw [htoken]
  cases hanswer : order.answer with
  | ok watch =>
      have hlive : watch.isLive = true := by
        rw [← Story.watch_start hanswer]
        exact Story.live_start watch
      exact .started hanswer (s.joined_spawn name call.token order.kind hlive order.registered)
  | error cause => exact .failed hanswer (s.traceless_refuse order.kind (some incoming) cause)

/-- The timeout of an error is in whole milliseconds, as many as there are in 64 bits. -/
theorem toNat_wholeMillis (d : Span) :
    d.wholeMillis.toNat = min (d.totalNanos / 1000000) (UInt64.size - 1) := by
  have hmillis : d.totalNanos / 1000000 = d.secs.toNat * 1000 + d.nanos.toNat / 1000000 := by
    unfold Span.totalNanos
    omega
  rw [Span.wholeMillis, hmillis, UInt64.toNat_ofNat']
  apply Nat.mod_eq_of_lt
  exact Nat.lt_of_le_of_lt (Nat.min_le_right _ _) (by decide)

/-- A registration is decided by what is noticed first: the answer of the service, the end of the
timeout, or the cancellation of its context. That is what happens first, unless something happens
between the end of the timeout and the tick at which it is noticed; with a timeout of whole
milliseconds nothing can. Under a context that is cancelled already the service is not called. -/
theorem register_decided_by_earliest (s : Session) (client : Client) (name : String) (call : Call)
    (order : Order) (cancelAfter : Option Nat) :
    let r := s.register client name call order cancelAfter
    let incoming := s.incoming (call.withAuth client.macaroon) order
    let m := s.meanwhile client order
    let moments := Registration.moment client.timeout (m.cancelAt call cancelAfter) order.pace
    (s.isCancelled call.token = true →
      r.2 = .refused none (.setup .cancelled) ∧ Traceless s r.1)
    ∧ (s.isCancelled call.token = false → ∃ d, Registration.Earliest moments d
      ∧ Decided m client name call order incoming d r)
    ∧ (∀ d d', Registration.Earliest moments d → Registration.Earliest moments d' → d' = d)
    ∧ (Registration.Apart moments →
      ∀ d, Registration.Earliest moments d ↔ Registration.Soonest moments d)
    ∧ (1000000 ∣ client.timeout.totalNanos →
      Registration.Distinct moments → Registration.Apart moments) := by
  intro r incoming m moments
  refine ⟨?_, ?_, fun d d' => Registration.Earliest.unique, fun hapart d =>
    Registration.earliest_iff_soonest hapart, fun hmillis hdistinct => hdistinct.apart hmillis⟩
  · intro hcancelled
    have hr : r = s.refuse order.kind none .cancelled := if_pos hcancelled
    rw [hr]
    exact ⟨rfl, s.traceless_refuse order.kind none .cancelled⟩
  · intro hopen
    refine ⟨_, Registration.earliest_first _ _ _, ?_⟩
    show Decided m client name call order incoming _ (s.register client name call order cancelAfter)
    unfold register
    rw [if_neg (Bool.eq_false_iff.mp hopen)]
    dsimp only
    generalize hm :
      (if Registration.isImmediate client.timeout order.pace then s else s.settle) = m'
    obtain rfl : m = m' := hm
    by_cases hmeanwhile : m.isCancelled call.token = true
    · -- a worker took a frame that cancels the context, so there was time for it
      have htime : Registration.isImmediate client.timeout order.pace = false := by
        rw [Bool.eq_false_iff]
        intro himmediate
        have hm : m = s := if_pos himmediate
        rw [hm, hopen] at hmeanwhile
        cases hmeanwhile
      rw [if_pos hmeanwhile, cancelAt, if_pos hmeanwhile, Registration.first_zero htime]
      apply Decided.cancelled
      rw [calledOff, if_pos hmeanwhile]
      exact m.traceless_refuse order.kind (some incoming) .cancelled
    · rw [if_neg hmeanwhile, cancelAt, if_neg hmeanwhile]
      cases Registration.first client.timeout cancelAfter order.pace with
      | answer => exact m.decided_answered client name order rfl
      | cancellation =>
          apply Decided.cancelled
          rw [calledOff, if_neg hmeanwhile]
          exact traceless_refuse _ order.kind (some incoming) .cancelled
      | timeout =>
          exact .timedOut (toNat_wholeMillis client.timeout)
            (m.traceless_refuse order.kind (some incoming) _)

/-- A client whose timeout ends shortly after a tick. -/
def hasty : Client := ⟨.ofBytes [0x02, 0x01], ⟨0, 2000001, by decide⟩⟩

/-- A call that is answered later than that, but not after the next tick. -/
def unhurried : Order := .epochs ⟨.after 3, .ok ⟨[], false, false⟩⟩

/-- The timeout ends before the answer comes, and yet the answer decides. -/
theorem answer_overtakes_timeout :
    let call : Call := .onToken ⟨0⟩
    let s := ((start hasty).perform (.call "c" none [])).1
    let r := s.register hasty "e" call unhurried none
    let incoming := s.incoming (call.withAuth hasty.macaroon) unhurried
    let m := s.meanwhile hasty unhurried
    let moments := Registration.moment hasty.timeout (m.cancelAt call none) unhurried.pace
    s.book.find? "c" = some call ∧ s.isCancelled call.token = false
    ∧ Registration.Distinct moments ∧ Registration.Soonest moments .timeout
    ∧ r.2 = .started incoming ∧ ¬ Decided m hasty "e" call unhurried incoming .timeout r := by
  intro call s r incoming m moments
  have hfound : s.book.find? "c" = some call := by
    simp only [s, call]
    cbv
  have hopen : s.isCancelled call.token = false := by
    simp only [s, call]
    cbv
  have hstarted : r.2 = .started incoming := by
    simp only [r, incoming, s, call]
    cbv
  have hmoments : moments = Registration.moment hasty.timeout none unhurried.pace := by
    have hnever : m.cancelAt call none = none := by
      simp only [m, s, call]
      cbv
    rw [← hnever]
  rw [hmoments]
  refine ⟨hfound, hopen, ?_, ?_, hstarted, ?_⟩
  · -- the answer and the timeout are not at the same moment, and the cancellation has none
    rintro (_ | _ | _) (_ | _ | _) t t' hne ht ht'
    all_goals cases ht
    all_goals cases ht'
    · exact absurd rfl hne
    · decide
    · decide
    · exact absurd rfl hne
  · refine ⟨2000001, rfl, ?_⟩
    rintro (_ | _ | _) t hne ht
    · cases ht
      decide
    · cases ht
    · exact absurd rfl hne
  · intro hdecided
    generalize r = outcome at hstarted hdecided
    cases hdecided
    cases hstarted

end Session

end ChainWatch
