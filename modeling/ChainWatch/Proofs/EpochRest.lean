/-
A block subscription at rest.

When its worker cannot move, either the worker is gone or it waits: for an item of its stream,
or for room in the channel. `Waits` says when it does, in terms of what arrived, what was taken
and what the holder did, and `live_iff_waits` that it is there in these cases only.

The delicate part is a receiver that was dropped. The worker learns of it only when it has a
height to pass on. One that held a height at the parting leaves with its next step; one that
held none may wait for one more item, and that item is its last. `Parted` keeps account of it.
-/
import ChainWatch.Proofs.EpochDelivery

set_option autoImplicit false

namespace ChainWatch

namespace EpochWatch

namespace Run

/-! ## 1. After the parting -/

/-- What the worker held when the receiver was dropped and what it took since are one item at
most: the one it holds now, or the one it left with. -/
structure Parted (r : Run) : Prop where
  deaf : r.watch.handle = .dropped → r.watch.listening = false
  since : ∀ p ∈ r.parting, p.taken ≤ r.taken.length
  live : r.watch.worker ≠ .gone → ∀ p ∈ r.parting,
    p.held.toList.length + r.taken.length = p.taken + r.watch.held.toList.length
  gone : r.watch.worker = .gone → ∀ p ∈ r.parting,
    p.held.toList.length + r.taken.length ≤ p.taken + 1
    ∧ (r.cancelled = true ∨ failure? r.taken ≠ none
      ∨ p.held.toList.length + r.taken.length = p.taken + 1)

theorem length_held_le (w : EpochWatch) : w.held.toList.length ≤ 1 := by
  unfold held
  split <;> simp

theorem parted_start (feed : Feed BlockEpoch) : Parted (start feed) where
  deaf h := by simp [start, EpochWatch.start] at h
  since p hp := by simp [start] at hp
  live _ p hp := by simp [start] at hp
  gone _ p hp := by simp [start] at hp

/-- Before its worker was gone nothing more was in its hand than one item. -/
theorem Parted.atMost {r : Run} (h : Parted r) {p : Parting} (hp : p ∈ r.parting) :
    p.held.toList.length + r.taken.length ≤ p.taken + 1 := by
  by_cases hgone : r.watch.worker = .gone
  · exact (h.gone hgone p hp).1
  · have hlive := h.live hgone p hp
    have hone := length_held_le r.watch
    omega

/-- A worker that leaves takes nothing more with it, and is cancelled or holds one item. -/
theorem Parted.leave {r : Run} (h : Parted r) (hw : r.watch.worker ≠ .gone)
    (hwhy : r.cancelled = true ∨ r.watch.held ≠ none) (log : List Log.Event) :
    Parted { r with watch := (r.watch.leave log).watch } where
  deaf := h.deaf
  since := h.since
  live hlive := absurd rfl hlive
  gone := by
    intro _ p hp
    refine ⟨h.atMost hp, ?_⟩
    rcases hwhy with hc | hheld
    · exact Or.inl hc
    · have hlive := h.live hw p hp
      obtain ⟨height, hsome⟩ := Option.ne_none_iff_exists'.mp hheld
      rw [hsome] at hlive
      exact Or.inr (Or.inr hlive)

/-- A move of the worker keeps the account of what it took since the parting, one case for each
thing a move can do. An item that is taken was not in its hand before, so what it holds and what it
took grow together; a worker that fails has taken that one item more; one that finds nobody
listening was holding a height. A height that is passed on needs a listener, and then there has
been no parting. -/
theorem Parted.work {r : Run} (h : Parted r) (hflow : Flow r) {item : Option (Arrival BlockEpoch)}
    {m : Move EpochWatch} (hstep : Stepped r.cancelled r.watch item m) :
    Parted { r with
      watch := m.watch
      cancelled := r.cancelled || m.cancels
      taken := r.taken ++ item.toList } := by
  cases hstep with
  | stopped log hc hw =>
      simpa [EpochWatch.leave] using h.leave hw (Or.inl hc) log
  | @took p height hc hw hp ho =>
      have hlive : r.watch.worker ≠ .gone := by simp [hw]
      have hheld : r.watch.held = none := by simp only [held, hw]
      refine { deaf := h.deaf, since := ?_, live := ?_, gone := by simp }
      · intro q hq
        have hsince := h.since q hq
        simp only [List.length_append]
        omega
      · intro _ q hq
        have hbefore := h.live hlive q hq
        rw [hheld] at hbefore
        simp only [held, List.length_append, Option.toList_some, Option.toList_none,
          List.length_singleton, List.length_nil] at hbefore ⊢
        omega
  | @failed p e log hc hw hp ho =>
      have hlive : r.watch.worker ≠ .gone := by simp [hw]
      have hheld : r.watch.held = none := by simp only [held, hw]
      refine { deaf := h.deaf, since := ?_, live := fun hgone => absurd rfl hgone, gone := ?_ }
      · intro q hq
        have hsince := h.since q hq
        simp only [List.length_append]
        omega
      · intro _ q hq
        have hbefore := h.live hlive q hq
        rw [hheld] at hbefore
        simp only [List.length_append, Option.toList_some, Option.toList_none,
          List.length_singleton, List.length_nil] at hbefore ⊢
        refine ⟨by omega, Or.inr (Or.inl ?_)⟩
        rw [failure?_append, hflow.unfailed hlive]
        simp only [failure?, ho, Option.none_or]
        simp
  | unheard log hc hw hl =>
      have hlive : r.watch.worker ≠ .gone := by simp [hw]
      have hheld : r.watch.held ≠ none := by
        simp only [held, hw]
        simp
      simpa [EpochWatch.leave] using h.leave hlive (Or.inr hheld) log
  | sent hc hw hl hs =>
      have hparting : r.parting = none := by
        by_cases hnone : r.parting = none
        · exact hnone
        · have hdeaf := h.deaf (hflow.parted.mpr hnone)
          exact absurd (hdeaf.symm.trans hl) Bool.false_ne_true
      refine { deaf := h.deaf, since := ?_, live := ?_, gone := by simp }
      · intro q hq
        rw [hparting] at hq
        cases hq
      · intro _ q hq
        rw [hparting] at hq
        cases hq

theorem Parted.drop {r : Run} (h : Parted r) (hflow : Flow r) : Parted r.drop := by
  by_cases hd : r.watch.handle = .dropped
  · simp only [Run.drop, if_pos hd]
    exact { h with deaf := fun _ => rfl }
  · simp only [Run.drop, if_neg hd]
    refine { deaf := fun _ => rfl, since := ?_, live := ?_, gone := ?_ }
    · rintro p ⟨⟩
      exact Nat.le_refl _
    · rintro hlive p ⟨⟩
      exact Nat.add_comm ..
    · rintro hgone p ⟨⟩
      have hheld : r.watch.held = none := by
        simp only [held]
        rw [show r.watch.worker = .gone from hgone]
      rw [hheld]
      refine ⟨by simp, ?_⟩
      -- before the parting only a cancellation closes the channel
      rcases hflow.exit hgone with hc | hfail | hdeaf
      · exact Or.inl hc
      · exact Or.inr (Or.inl hfail)
      · rcases (hflow.closed hdeaf).2 with hc | hparted
        · exact Or.inl hc
        · exact absurd (hflow.parted.mpr hparted) hd

theorem Parted.act {r : Run} (h : Parted r) (hflow : Flow r) (a : Act) : Parted (r.act a) := by
  cases a with
  | push frames close => exact { h with }
  | work => exact act_work h (h.work hflow)
  | recv =>
      apply act_recv h
      intro hs w _ hask
      have hheld : w.held = r.watch.held := by simp only [held, hask.worker]
      refine { deaf := ?_, since := h.since, live := ?_, gone := ?_ }
      · intro hd
        cases hs.symm.trans (hask.handle.symm.trans hd)
      · simp only [hask.worker, hheld]
        exact h.live
      · simp only [hask.worker]
        exact h.gone
  | split => exact act_split (h.drop hflow) fun _ => { h with deaf := fun hd => by cases hd }
  | readHeight => exact act_readHeight h fun _ => { h with }
  | readReport => exact act_readReport h fun _ => { h with }
  | drop => exact h.drop hflow
  | cancel =>
      refine { h with gone := ?_ }
      intro hgone p hp
      exact ⟨(h.gone hgone p hp).1, Or.inl rfl⟩

theorem parted_follow (feed : Feed BlockEpoch) (acts : List Act) :
    Parted ((start feed).follow acts) :=
  (follow_induction (P := fun r => Flow r ∧ Parted r)
    (fun _ a h => ⟨h.1.act a, h.2.act h.1 a⟩) ⟨flow_start feed, parted_start feed⟩ acts).2

/-! ## 2. Waiting -/

/-- The worker is where it should be at rest. Its call is not cancelled and no item that it took
failed; and either it has taken every item of a stream that is still open, or it holds a height
while the channel is full and somebody reads it. In the first case, if the receiver was dropped,
the worker held nothing then and has taken nothing since. -/
def Waits (r : Run) : Prop :=
  r.cancelled = false ∧ failure? r.taken = none
    ∧ (r.taken = r.arrived.map Frame.arrival ∧ r.watch.feed.ended = false
        ∧ (∀ p ∈ r.parting, p = ⟨r.taken.length, none⟩)
      ∨ r.watch.held ≠ none ∧ r.watch.slot ≠ none ∧ r.watch.handle ≠ .dropped)

instance (r : Run) : Decidable r.Waits := inferInstanceAs (Decidable (_ ∧ _ ∧ (_ ∨ _)))

/-- A worker that cannot move is there exactly when it has a reason to wait. -/
theorem live_iff_waits {r : Run} (hflow : Flow r) (h : Parted r)
    (hrest : r.watch.step r.cancelled = none) : r.watch.worker ≠ .gone ↔ r.Waits := by
  constructor
  · intro hlive
    rcases step_eq_none hrest with hgone | ⟨hc, hw, hpull⟩ | ⟨hc, hheld, hl, hfull⟩
    · exact absurd hgone hlive
    · obtain ⟨hqueue, hended⟩ := Feed.pull?_eq_none hpull
      have hnothing : r.watch.held = none := by simp only [held, hw]
      obtain ⟨closing, hd, hclosing⟩ := hflow.drawn
      have hnone : closing = none := hclosing.resolve_right fun hend => hlive hend.2.1
      rw [hqueue, hnone] at hd
      refine ⟨hc, hflow.unfailed hlive, Or.inl ⟨hd.all, hended, ?_⟩⟩
      rintro ⟨taken, height⟩ hp
      have hcount := h.live hlive _ hp
      have hsince := h.since _ hp
      rw [hnothing] at hcount
      cases height with
      | none =>
          simp only [Option.toList_none, List.length_nil] at hcount
          rw [show taken = r.taken.length by omega]
      | some height =>
          simp only [Option.toList_none, Option.toList_some, List.length_nil,
            List.length_singleton] at hcount hsince
          omega
    · refine ⟨hc, hflow.unfailed hlive, Or.inr ⟨hheld, hfull, ?_⟩⟩
      intro hd
      exact absurd ((h.deaf hd).symm.trans hl) Bool.false_ne_true
  · -- a worker that is gone had a reason to leave, and none of them is there
    rintro ⟨hc, hgood, hwhere⟩ hgone
    rcases hwhere with ⟨-, -, hparting⟩ | ⟨hheld, -⟩
    · rcases hflow.exit hgone with hcancelled | hfail | hdeaf
      · exact absurd (hc.symm.trans hcancelled) Bool.false_ne_true
      · exact hfail hgood
      · -- nobody listens, so the receiver was dropped, and nothing has happened since
        have hparted := (hflow.closed hdeaf).2.resolve_left
          (by rw [hc]; exact Bool.false_ne_true)
        obtain ⟨p, hp⟩ := Option.ne_none_iff_exists'.mp hparted
        obtain ⟨-, hcancelled | hfail | hcount⟩ := h.gone hgone p hp
        · exact absurd (hc.symm.trans hcancelled) Bool.false_ne_true
        · exact hfail hgood
        · rw [hparting p hp] at hcount
          simp only [Option.toList_none, List.length_nil] at hcount
          omega
    · apply hheld
      simp only [held, hgone]

end Run

end EpochWatch

end ChainWatch
