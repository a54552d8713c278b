/-
The timeout of the settings.

Settings keep a timeout in whole milliseconds of 64 bits. `Floor` says what becomes of a span that
is put there: the longest span of so many milliseconds that is no longer than it. Nothing is lost if
that is put there again. A client may have been given the span itself and not the settings, and its
calls may last longer then, but what it says about a call that it gave up is the same (`Reports`).
-/
import ChainWatch.Proofs.RegistrationRace
import Mathlib.Order.Bounds.Basic

set_option autoImplicit false

namespace ChainWatch

namespace Span

/-! ## 1. Milliseconds -/

theorem totalNanos_ofMillis (ms : UInt64) : (ofMillis ms).totalNanos = ms.toNat * 1000000 := by
  have hms := ms.toNat_lt
  have hsecs : (UInt64.ofNat (ms.toNat / 1000)).toNat = ms.toNat / 1000 := by
    rw [UInt64.toNat_ofNat']
    exact Nat.mod_eq_of_lt (by omega)
  have hnanos : (UInt32.ofNat (ms.toNat % 1000 * 1000000)).toNat = ms.toNat % 1000 * 1000000 := by
    rw [UInt32.toNat_ofNat']
    exact Nat.mod_eq_of_lt (by omega)
  rw [totalNanos, ofMillis, hsecs, hnanos]
  omega

/-- A number of milliseconds is read off its span. -/
theorem wholeMillis_ofMillis (ms : UInt64) : (ofMillis ms).wholeMillis = ms := by
  have hms := ms.toNat_lt
  apply UInt64.toNat_inj.mp
  rw [Session.toNat_wholeMillis, totalNanos_ofMillis, Nat.mul_div_cancel _ (by decide)]
  exact Nat.min_eq_left (Nat.le_pred_of_lt hms)

/-- The span in whole milliseconds, as many as there are in 64 bits. -/
structure Floor (d t : Span) : Prop where
  greatest : IsGreatest {n | n ≤ d.totalNanos ∧ ∃ ms < UInt64.size, n = ms * 1000000} t.totalNanos
  le : t.totalNanos ≤ d.totalNanos
  close : d.totalNanos < t.totalNanos + 1000000 ∨ t.totalNanos = (UInt64.size - 1) * 1000000

theorem totalNanos_floor (d : Span) : (ofMillis d.wholeMillis).totalNanos
    = min (d.totalNanos / 1000000) (UInt64.size - 1) * 1000000 := by
  rw [totalNanos_ofMillis, Session.toNat_wholeMillis]

theorem floor_wholeMillis (d : Span) : Floor d (ofMillis d.wholeMillis) where
  greatest := by
    have hsize : 0 < UInt64.size := by decide
    rw [totalNanos_floor]
    refine ⟨⟨by omega, _, by omega, rfl⟩, ?_⟩
    -- a number of milliseconds that is no longer than the span stays so when that is rounded down
    rintro n ⟨hle, ms, hms, rfl⟩
    omega
  le := by
    rw [totalNanos_floor]
    omega
  close := by
    rw [totalNanos_floor]
    omega

end Span

namespace Session

/-! ## 2. Calls that are given up -/

/-- The timeout of a call comes first, and nothing cancels its context before that. -/
structure TimesOut (s : Session) (client : Client) (call : Call) (order : Order)
    (cancelAfter : Option Nat) : Prop where
  open_ : s.isCancelled call.token = false
  meanwhile : (s.meanwhile client order).isCancelled call.token = false
  earliest : Registration.Earliest
    (Registration.moment client.timeout cancelAfter order.pace) .timeout

theorem TimesOut.refused {s : Session} {client : Client} {call : Call} {order : Order}
    {cancelAfter : Option Nat} (h : s.TimesOut client call order cancelAfter) (name : String) :
    ∃ incoming, (s.register client name call order cancelAfter).2
      = .refused (some incoming) (.setup (.timeout client.timeout.wholeMillis)) := by
  have htimeout : Registration.first client.timeout cancelAfter order.pace = .timeout :=
    h.earliest.unique (Registration.earliest_first client.timeout cancelAfter order.pace)
  have hr := s.register_cases client name call order cancelAfter
  generalize s.register client name call order cancelAfter = r at hr ⊢
  cases hr with
  | uncalled hcancelled => cases h.open_.symm.trans hcancelled
  | interrupted _ hmeanwhile => cases h.meanwhile.symm.trans hmeanwhile
  | answered _ _ hfirst => cases htimeout.symm.trans hfirst
  | cancelled _ _ hfirst => cases htimeout.symm.trans hfirst
  | timedOut => exact ⟨_, rfl⟩

/-- Nothing comes before the timeout if the service never answers and nobody cancels. -/
theorem timesOut_of_never {s : Session} {client : Client} {call : Call} {order : Order}
    (hopen : s.isCancelled call.token = false)
    (hmeanwhile : (s.meanwhile client order).isCancelled call.token = false)
    (hnever : order.pace = .never) : s.TimesOut client call order none where
  open_ := hopen
  meanwhile := hmeanwhile
  earliest := by
    refine ⟨client.timeout.totalNanos, rfl, ?_⟩
    rw [hnever]
    intro other t hother hmoment
    cases other with
    | answer => cases hmoment
    | timeout => exact absurd rfl hother
    | cancellation => cases hmoment

/-- A timeout that is reported is that of the service, or of the client. -/
theorem timeout_of_register {s : Session} {client : Client} {name : String} {call : Call}
    {order : Order} {cancelAfter : Option Nat} {incoming : Option Incoming} {ms : UInt64}
    (h : (s.register client name call order cancelAfter).2
      = .refused incoming (.setup (.timeout ms))) :
    order.answer = .error (.timeout ms) ∨ ms = client.timeout.wholeMillis := by
  have hr := s.register_cases client name call order cancelAfter
  generalize s.register client name call order cancelAfter = r at h hr
  cases hr with
  | answered =>
      left
      unfold answered at h
      cases hanswer : order.answer with
      | ok watch =>
          rw [hanswer] at h
          cases h
      | error cause =>
          rw [hanswer] at h
          cases h
          rfl
  | timedOut =>
      right
      cases h
      rfl
  | uncalled | interrupted | cancelled => cases h

/-- A client gives calls up with a report of so many milliseconds, those among them that are never
answered, and reports no other timeout of its own. -/
structure Reports (client : Client) (ms : UInt64) : Prop where
  refused : ∀ (s : Session) name call order cancelAfter,
    s.TimesOut client call order cancelAfter → ∃ incoming,
      (s.register client name call order cancelAfter).2
        = .refused (some incoming) (.setup (.timeout ms))
  never : ∀ (s : Session) call order, s.isCancelled call.token = false →
    (s.meanwhile client order).isCancelled call.token = false → order.pace = .never →
    s.TimesOut client call order none
  only : ∀ (s : Session) name call order cancelAfter incoming ms',
    (s.register client name call order cancelAfter).2 = .refused incoming (.setup (.timeout ms')) →
    order.answer ≠ .error (.timeout ms') → ms' = ms

theorem reports_wholeMillis (client : Client) : Reports client client.timeout.wholeMillis where
  refused _ name _ _ _ h := h.refused name
  never _ _ _ := timesOut_of_never
  only _ _ _ _ _ _ _ h hanswer := (timeout_of_register h).resolve_left hanswer

end Session

namespace Settings

/-! ## 3. Settings and clients -/

/-- Settings take a span in whole milliseconds, rounded down and at most as long as 64 bits can say,
and keep everything else. What they have taken they take again as it is. A client that was made from
them reports the same timeout as one that was given the span. -/
theorem timeout_exact (s : Settings) (d : Span) :
    let s' := s.withRpcTimeout d
    Span.Floor d s'.rpcTimeout
    ∧ (∀ other : Settings, (other.withRpcTimeout s'.rpcTimeout).rpcTimeout = s'.rpcTimeout)
    ∧ (∀ d₂ : Span, d.totalNanos ≤ d₂.totalNanos →
      s'.rpcTimeout.totalNanos ≤ (s.withRpcTimeout d₂).rpcTimeout.totalNanos)
    ∧ s.rpcTimeout.wholeMillis = s.rpcTimeoutMs
    ∧ s.withRpcTimeout s.rpcTimeout = s
    ∧ s' = { s with rpcTimeoutMs := s'.rpcTimeoutMs }
    ∧ ∀ macaroon, Session.Reports (.ofSettings macaroon s') s'.rpcTimeoutMs
      ∧ Session.Reports ⟨macaroon, d⟩ s'.rpcTimeoutMs := by
  intro s'
  have hagain : s'.rpcTimeout.wholeMillis = s'.rpcTimeoutMs := Span.wholeMillis_ofMillis _
  refine ⟨d.floor_wholeMillis, ?_, ?_, Span.wholeMillis_ofMillis _, ?_, rfl, ?_⟩
  · intro other
    exact congrArg Span.ofMillis hagain
  · intro d₂ hle
    show (Span.ofMillis d.wholeMillis).totalNanos ≤ (Span.ofMillis d₂.wholeMillis).totalNanos
    rw [Span.totalNanos_floor, Span.totalNanos_floor]
    omega
  · rw [withRpcTimeout, rpcTimeout, Span.wholeMillis_ofMillis]
  · intro macaroon
    have hreports := Session.reports_wholeMillis (.ofSettings macaroon s')
    refine ⟨?_, Session.reports_wholeMillis ⟨macaroon, d⟩⟩
    rw [← hagain]
    exact hreports

/-- A call under this timeout is given up at the third tick, and two milliseconds are reported. -/
example :
    let d : Span := ⟨0, 2000001, by decide⟩
    d.fullMillis = 3 ∧ (default.withRpcTimeout d).rpcTimeoutMs = 2 := by decide

end Settings

end ChainWatch
