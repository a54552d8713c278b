/-
One turn of a worker.

A task that has its turn runs until it waits or is over. For a worker that is a matter of its own
subscription and of nothing else but whether its call is cancelled: `Watch.turn` adds up its steps,
and `turn_worker` says that a turn in a session is this one move. A worker that does not mind the
cancellation makes the same move with it and without it (`turn_unminded`).
-/
import ChainWatch.Proofs.Chronicle

set_option autoImplicit false

namespace ChainWatch

/-! ## 1. The steps of a turn added up -/

/-- A task that cannot move has no turn. -/
theorem System.turn_rest {σ τ : Type} {S : System σ τ} {s : σ} {t : τ} (h : S.step s t = none) :
    S.turn t s = s := by
  rw [turn]
  split
  · rfl
  · rename_i heq
    rw [h] at heq
    cases heq

theorem System.turn_step {σ τ : Type} {S : System σ τ} {s s' : σ} {t : τ}
    (h : S.step s t = some s') : S.turn t s = S.turn t s' := by
  rw [turn]
  split
  · rename_i heq
    rw [h] at heq
    cases heq
  · rename_i heq
    rw [h] at heq
    cases heq
    rfl

/-- One move after another. -/
def Move.andThen {ω : Type} (m m' : Move ω) : Move ω :=
  ⟨m'.watch, m.cancels || m'.cancels, m.log ++ m'.log⟩

namespace Watch

/-- What a worker does until it waits or is gone. What cancels its call on the way it notices. -/
def turn (cancelled : Bool) (w : Watch) : Move Watch :=
  match _h : w.step cancelled with
  | none => ⟨w, false, []⟩
  | some m => m.andThen (m.watch.turn (cancelled || m.cancels))
termination_by w.work
decreasing_by exact work_step _h

variable {c : Bool} {w : Watch} {m : Move Watch}

theorem turn_rest (h : w.step c = none) : w.turn c = ⟨w, false, []⟩ := by
  rw [turn]
  split
  · rfl
  · rename_i heq
    rw [h] at heq
    cases heq

theorem turn_step (h : w.step c = some m) :
    w.turn c = m.andThen (m.watch.turn (c || m.cancels)) := by
  rw [turn]
  split
  · rename_i heq
    rw [h] at heq
    cases heq
  · rename_i m' heq
    rw [h] at heq
    cases heq
    rfl

/-- After its turn a worker waits or is gone. -/
theorem step_turn (c : Bool) (w : Watch) :
    (w.turn c).watch.step (c || (w.turn c).cancels) = none := by
  fun_induction turn c w with
  | case1 c w h =>
      rw [Bool.or_false]
      exact h
  | case2 c w m h ih =>
      rw [Bool.or_assoc] at ih
      exact ih

end Watch

/-! ## 2. Workers that do not mind the cancellation -/

namespace Feed

variable {ε : Type} {f : Feed ε} {c : Bool} {p : Pull ε}

theorem watches_pull? (h : f.pull? c = some p) : p.feed.watches = f.watches := by
  cases pulled_of_pull? h <;> rfl

/-- A stream that does not watch the cancellation yields the same with it and without it. -/
theorem pull?_unwatched (h : f.watches = false) (c c' : Bool) : f.pull? c = f.pull? c' := by
  simp only [pull?, h, Bool.false_and]

end Feed

namespace ResultWatch

variable {ε ρ : Type} {k : ResultKind ε ρ} {w : ResultWatch ε ρ} {m : Move (ResultWatch ε ρ)}

/-- Whether the worker would notice that its call is cancelled, which its stream tells it. -/
def minds (w : ResultWatch ε ρ) : Bool := w.running && w.feed.watches

theorem step_unminded (h : w.minds = false) (c c' : Bool) : w.step k c = w.step k c' := by
  rw [minds, Bool.and_eq_false_iff] at h
  unfold step
  rcases h with hgone | hblind
  · rw [hgone]
    rfl
  · rw [Feed.pull?_unwatched hblind c c']

theorem minds_step {c : Bool} (h : w.step k c = some m) (hm : m.watch.minds = true) :
    w.minds = true := by
  obtain ⟨a, -, hstep⟩ := stepped_of_step h
  cases hstep with
  | skipped log hw hp hv =>
      rw [minds, Feed.watches_pull? hp] at hm
      exact hm
  | decided log hw hp hv => cases hm

end ResultWatch

namespace Watch

/-- Whether the worker would notice that its call is cancelled. -/
def minds : Watch → Bool
  | epochs w => w.isLive
  | confirm w => w.minds
  | spend w => w.minds

variable {c : Bool} {w : Watch} {m : Move Watch}

theorem step_unminded (h : w.minds = false) (c c' : Bool) : w.step c = w.step c' := by
  cases w with
  | epochs w =>
      have hgone : w.worker = .gone := by simpa [minds, EpochWatch.isLive] using h
      simp only [step, EpochWatch.step, hgone]
  | confirm w => rw [step, step, ResultWatch.step_unminded h c c']
  | spend w => rw [step, step, ResultWatch.step_unminded h c c']

/-- A worker does not come to mind the cancellation. -/
theorem minds_step (h : w.step c = some m) (hm : m.watch.minds = true) : w.minds = true := by
  cases w with
  | epochs w => exact Chronicle.live_of_step h
  | confirm w =>
      rw [step, Option.map_eq_some_iff] at h
      obtain ⟨m', hm', rfl⟩ := h
      exact ResultWatch.minds_step hm' hm
  | spend w =>
      rw [step, Option.map_eq_some_iff] at h
      obtain ⟨m', hm', rfl⟩ := h
      exact ResultWatch.minds_step hm' hm

theorem minds_turn {c : Bool} {w : Watch} (h : (w.turn c).watch.minds = true) :
    w.minds = true := by
  fun_induction turn c w with
  | case1 => exact h
  | case2 c w m hstep ih => exact minds_step hstep (ih h)

theorem turn_unminded {w : Watch} (h : w.minds = false) (c c' : Bool) : w.turn c = w.turn c' := by
  fun_induction turn c w generalizing c' with
  | case1 c w hrest =>
      rw [step_unminded h c c'] at hrest
      exact (turn_rest hrest).symm
  | case2 c w m hstep ih =>
      have hm : m.watch.minds = false := by
        rw [Bool.eq_false_iff]
        intro hm
        rw [minds_step hstep hm] at h
        cases h
      rw [ih hm (c' || m.cancels), turn_step ((step_unminded h c' c).trans hstep)]

end Watch

/-! ## 3. Tokens after a move -/

namespace Tokens

variable {t : Tokens} {token other : Token}

theorem cancel_cancel : (t.cancel token).cancel token = t.cancel token := by
  simp only [cancel, List.set_set]

theorem cancel_comm : (t.cancel token).cancel other = (t.cancel other).cancel token := by
  by_cases hsame : token.index = other.index
  · simp only [cancel, hsame]
  · simp only [cancel, List.set_comm _ _ hsame]

end Tokens

namespace CallBook

variable {b : CallBook} {token other : Token}

/-- The book after a move that may have cancelled a token. -/
def noting (b : CallBook) (cancels : Bool) (token : Token) : CallBook :=
  if cancels then { b with tokens := b.tokens.cancel token } else b

theorem noting_noting (c c' : Bool) :
    (b.noting c token).noting c' token = b.noting (c || c') token := by
  cases c with
  | false => rfl
  | true =>
      cases c' with
      | false => rfl
      | true =>
          simp only [noting, Bool.or_true, if_true, Tokens.cancel_cancel]

theorem noting_comm (c c' : Bool) :
    (b.noting c token).noting c' other = (b.noting c' other).noting c token := by
  cases c with
  | false => rfl
  | true =>
      cases c' with
      | false => rfl
      | true => simp only [noting, if_true, Tokens.cancel_comm]

/-- A token that was made is cancelled after the move if it was, or if the move cancels it. -/
theorem isCancelled_noting (htoken : token.index < b.tokens.fired.length) (c : Bool) :
    (b.noting c token).tokens.isCancelled other
      = (b.tokens.isCancelled other || (c && decide (token = other))) := by
  cases c with
  | false => rw [Bool.false_and, Bool.or_false]; rfl
  | true =>
      rw [noting, if_pos rfl, Bool.true_and]
      by_cases hsame : token = other
      · subst hsame
        rw [Tokens.isCancelled_cancel_self htoken, decide_eq_true rfl, Bool.or_true]
      · rw [Tokens.isCancelled_cancel_ne hsame, decide_eq_false hsame, Bool.or_false]

end CallBook

/-! ## 4. Turns in a session -/

namespace Session

variable {s : Session} {i : Nat} {sub : Subscription}

/-- A move after another is one move: nobody has left in between. -/
theorem applyMove_andThen {m m' : Move Watch} (hlive : m.watch.isLive = true) :
    (s.applyMove i sub m).applyMove i { sub with watch := m.watch } m'
      = s.applyMove i sub (m.andThen m') := by
  have hbook : (s.book.noting m.cancels sub.token).noting m'.cancels sub.token
      = s.book.noting (m.cancels || m'.cancels) sub.token := CallBook.noting_noting ..
  simp only [CallBook.noting] at hbook
  simp only [applyMove, Move.andThen, hlive, if_true, List.set_set, List.append_assoc, hbook]
  rfl

/-- A move that does nothing leaves a session as it is. -/
theorem applyMove_rest (m : Move Watch) :
    s.applyMove i sub (m.andThen ⟨m.watch, false, []⟩) = s.applyMove i sub m := by
  simp only [applyMove, Move.andThen, Bool.or_false, List.append_nil]

theorem isCancelled_applyMove (htoken : sub.token.index < s.book.tokens.fired.length)
    (m : Move Watch) (token : Token) :
    (s.applyMove i sub m).isCancelled token
      = (s.isCancelled token || (m.cancels && decide (sub.token = token))) :=
  CallBook.isCancelled_noting htoken m.cancels

theorem made_follow (client : Client) (acts : List Act) : ((start client).follow acts).Made := by
  have hmade := (Chronicle.faithful_follow client acts).made
  rw [Chronicle.session_follow] at hmade
  exact hmade

theorem made_step (hmade : s.Made) {t : Task} {s' : Session} (h : s.step t = some s') :
    s'.Made := by
  rw [← act_turn h]
  exact (effect_act s (.turn t)).made hmade

theorem step_worker (hi : s.subs[i]? = some sub) :
    s.step (.worker i) = (sub.watch.step (s.isCancelled sub.token)).map (s.applyMove i sub) :=
  stepWorker_eq hi

/-- The turn of a worker in a session is its turn, if it has one. -/
theorem turn_worker (hmade : s.Made) (hi : s.subs[i]? = some sub)
    (hmove : sub.watch.step (s.isCancelled sub.token) ≠ none) :
    system.turn (.worker i) s = s.applyMove i sub (sub.watch.turn (s.isCancelled sub.token)) := by
  fun_induction system.turn (.worker i) s generalizing sub with
  | case1 s hrest =>
      have hnone : s.step (.worker i) = none := hrest
      rw [step_worker hi, Option.map_eq_none_iff] at hnone
      exact absurd hnone hmove
  | case2 s s' hstep ih =>
      have hsome : s.step (.worker i) = some s' := hstep
      have hmade' : s'.Made := made_step hmade hsome
      rw [step_worker hi, Option.map_eq_some_iff] at hsome
      obtain ⟨m, hm, rfl⟩ := hsome
      have hlt : i < s.subs.length := (List.getElem?_eq_some_iff.mp hi).1
      have htoken := hmade.2 sub (List.mem_of_getElem? hi)
      -- the next step finds the same subscription, and sees what this one cancelled
      have hi' : (s.applyMove i sub m).subs[i]? = some { sub with watch := m.watch } :=
        List.getElem?_set_self hlt
      have hcancelled : (s.applyMove i sub m).isCancelled sub.token
          = (s.isCancelled sub.token || m.cancels) := by
        rw [isCancelled_applyMove htoken, decide_eq_true rfl, Bool.and_true]
      rw [Watch.turn_step hm]
      by_cases hmore : m.watch.step (s.isCancelled sub.token || m.cancels) = none
      · have hrest : system.step (s.applyMove i sub m) (.worker i) = none := by
          show (s.applyMove i sub m).step (.worker i) = none
          rw [step_worker hi', hcancelled, hmore, Option.map_none]
        rw [Watch.turn_rest hmore, applyMove_rest, System.turn_rest hrest]
      · have hturn := ih hmade' hi' (by rw [hcancelled]; exact hmore)
        have hlive : m.watch.isLive = true := by
          obtain ⟨m', hm'⟩ := Option.ne_none_iff_exists'.mp hmore
          exact Chronicle.live_of_step hm'
        rw [hturn, hcancelled, applyMove_andThen hlive]

end Session

end ChainWatch
