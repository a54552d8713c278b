/-
Workers that have to wait for something to be done with their own subscription.

A worker at rest has taken all that its stream has for it, or cannot pass on what it holds. Whatever
happens around it, all that such a worker can do by itself is leave: it takes no frame and so
cancels nothing (`Idle.step`). That the handle is dropped only gives it a reason to leave
(`Idle.drop`).
-/
import ChainWatch.Proofs.Turn

set_option autoImplicit false

namespace ChainWatch

/-- What is taken from a stream without frames closes it and cancels nothing. -/
theorem Feed.pull?_empty {ε : Type} {f : Feed ε} {c : Bool} {p : Pull ε} (hq : f.queue = [])
    (h : f.pull? c = some p) : p.cancels = false ∧ ∃ cause, p.arrival = .fault cause := by
  cases pulled_of_pull? h with
  | frame hframe =>
      rw [hq] at hframe
      cases hframe
  | ended => exact ⟨rfl, _, rfl⟩
  | cancelled => exact ⟨rfl, _, rfl⟩

namespace EpochWatch

variable {w : EpochWatch} {c : Bool} {m : Move EpochWatch}

/-- The worker is gone, or there is nothing for it to take, or it cannot pass on what it holds. -/
def Idle (w : EpochWatch) : Prop :=
  match w.worker with
  | .gone => True
  | .waiting => w.feed.queue = []
  | .holding _ => w.listening = false ∨ w.slot ≠ none

theorem idle_gone (h : w.worker = .gone) : w.Idle := by
  unfold Idle
  rw [h]
  trivial

theorem idle_of_rest (h : w.step c = none) : w.Idle := by
  rcases step_eq_none h with hw | ⟨-, hw, hp⟩ | ⟨-, hheld, -, hslot⟩
  · exact idle_gone hw
  · unfold Idle
    rw [hw]
    exact (Feed.pull?_eq_none hp).1
  · unfold Idle
    cases hw : w.worker with
    | gone => trivial
    | waiting =>
        rw [held, hw] at hheld
        exact absurd rfl hheld
    | holding height => exact Or.inr hslot

/-- All that an idle worker can do is leave, and that cancels nothing. Its queue is empty, so the
one item left to take is what closes the stream, and a height that it holds has nowhere to go. -/
theorem Idle.step (h : w.Idle) (hstep : w.step c = some m) :
    m.cancels = false ∧ m.watch.Idle := by
  unfold Idle at h
  have hstepped := stepped_of_step hstep
  generalize w.next? c = item at hstepped
  cases hstepped with
  | stopped log hc hw => exact ⟨rfl, idle_gone rfl⟩
  | took hc hw hp ho =>
      rw [hw] at h
      obtain ⟨-, cause, harrival⟩ := Feed.pull?_empty h hp
      rw [harrival] at ho
      cases ho
  | failed log hc hw hp ho =>
      rw [hw] at h
      exact ⟨(Feed.pull?_empty h hp).1, idle_gone rfl⟩
  | unheard log hc hw hl => exact ⟨rfl, idle_gone rfl⟩
  | sent hc hw hl hs =>
      rw [hw] at h
      rcases h with hdeaf | hfull
      · exact absurd (hdeaf.symm.trans hl) Bool.false_ne_true
      · exact absurd hs hfull

theorem Idle.drop (h : w.Idle) : w.drop.Idle := by
  unfold Idle at h ⊢
  unfold EpochWatch.drop
  dsimp only
  cases hw : w.worker with
  | gone => trivial
  | waiting =>
      rw [hw] at h
      exact h
  | holding height => exact Or.inl rfl

end EpochWatch

namespace ResultWatch

variable {ε ρ : Type} {k : ResultKind ε ρ} {w : ResultWatch ε ρ} {c : Bool}
  {m : Move (ResultWatch ε ρ)}

/-- The worker is gone, or there is nothing for it to take. -/
def Idle (w : ResultWatch ε ρ) : Prop := w.running = true → w.feed.queue = []

theorem idle_of_rest (h : w.step k c = none) : w.Idle := by
  intro hrun
  rcases step_eq_none h with hgone | hp
  · exact absurd (hgone.symm.trans hrun) Bool.false_ne_true
  · exact (Feed.pull?_eq_none hp).1

theorem Idle.step (h : w.Idle) (hstep : w.step k c = some m) :
    m.cancels = false ∧ m.watch.Idle := by
  obtain ⟨a, -, hstepped⟩ := stepped_of_step hstep
  cases hstepped with
  | skipped log hw hp hv =>
      obtain ⟨-, cause, harrival⟩ := Feed.pull?_empty (h hw) hp
      rw [harrival] at hv
      cases hv
  | decided log hw hp hv => exact ⟨(Feed.pull?_empty (h hw) hp).1, nofun⟩

end ResultWatch

namespace Watch

variable {w : Watch} {c : Bool} {m : Move Watch}

/-- The worker can do nothing by itself but leave. -/
def Idle : Watch → Prop
  | epochs w => w.Idle
  | confirm w => w.Idle
  | spend w => w.Idle

theorem idle_of_rest (h : w.step c = none) : w.Idle := by
  cases w with
  | epochs w => exact EpochWatch.idle_of_rest (Option.map_eq_none_iff.mp h)
  | confirm w => exact ResultWatch.idle_of_rest (Option.map_eq_none_iff.mp h)
  | spend w => exact ResultWatch.idle_of_rest (Option.map_eq_none_iff.mp h)

theorem Idle.step (h : w.Idle) (hstep : w.step c = some m) :
    m.cancels = false ∧ m.watch.Idle := by
  cases w with
  | epochs w =>
      obtain ⟨m', hm', rfl⟩ := Option.map_eq_some_iff.mp hstep
      exact EpochWatch.Idle.step h hm'
  | confirm w =>
      obtain ⟨m', hm', rfl⟩ := Option.map_eq_some_iff.mp hstep
      exact ResultWatch.Idle.step h hm'
  | spend w =>
      obtain ⟨m', hm', rfl⟩ := Option.map_eq_some_iff.mp hstep
      exact ResultWatch.Idle.step h hm'

theorem Idle.drop (h : w.Idle) : w.drop.Idle := by
  cases w with
  | epochs w => exact EpochWatch.Idle.drop h
  | confirm w => exact h
  | spend w => exact h

end Watch

end ChainWatch
