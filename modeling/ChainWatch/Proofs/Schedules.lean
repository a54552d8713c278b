/-
Workers that are run in any order.

A poll runs one worker until it waits or is gone (`poll`), and a schedule is a sequence of polls
that each did something (`Polls`). However they are chosen, polls come to an end. Where they end may
depend on their order in one way only: a worker that takes an item which cancels the token of its
call may do so before or after another worker on that token, which minds it, has had its turn. In a
session where this cannot happen (`Calm`) two polls may be exchanged (`poll_comm`), so all schedules
end in the same session, but for the order of the lines in its log.
-/
import Mathlib.Logic.Relation
import ChainWatch.Proofs.ActiveWorkers
import ChainWatch.Proofs.Turn

set_option autoImplicit false

namespace ChainWatch

namespace Session

/-! ## 1. Polls -/

/-- Runs one worker until it waits or is gone. -/
def poll (s : Session) (i : Nat) : Session := system.turn (.worker i) s

/-- Polls that each did something. -/
inductive Polls : Session → List Nat → Session → Prop where
  | done (s : Session) : Polls s [] s
  | poll {s s' : Session} {i : Nat} {order : List Nat} (hmove : s.step (.worker i) ≠ none)
      (h : Polls (s.poll i) order s') : Polls s (i :: order) s'

variable {s s' : Session} {i j : Nat} {sub : Subscription}

theorem work_poll (hmove : s.step (.worker i) ≠ none) : (s.poll i).work < s.work := by
  obtain ⟨s', hs'⟩ := Option.ne_none_iff_exists'.mp hmove
  have hturn : s.poll i = system.turn (.worker i) s' := System.turn_step hs'
  rw [hturn]
  exact Nat.lt_of_le_of_lt (system.work_turn_le (.worker i) s') (work_step hs')

/-- Every poll leaves less work, so there are not more of them than there is work. -/
theorem Polls.length_le {order : List Nat} (h : Polls s order s') :
    order.length + s'.work ≤ s.work := by
  induction h with
  | done s => exact Nat.le_of_eq (Nat.zero_add _)
  | poll hmove h ih =>
      have hwork := work_poll hmove
      rw [List.length_cons]
      omega

theorem Polls.append {s'' : Session} {order more : List Nat} (h : Polls s order s')
    (h' : Polls s' more s'') : Polls s (order ++ more) s'' := by
  induction h with
  | done s => exact h'
  | poll hmove h ih => exact .poll hmove (ih h')

/-- As long as a worker can move it may be polled, until none can. -/
theorem exists_polls_atRest (s : Session) : ∃ order r, Polls s order r ∧ r.AtRest := by
  induction hwork : s.work using Nat.strongRecOn generalizing s with
  | _ n ih =>
      by_cases hrest : s.AtRest
      · exact ⟨[], s, .done s, hrest⟩
      · obtain ⟨i, hmove⟩ := Classical.not_forall.mp hrest
        obtain ⟨order, r, hpolls, hr⟩ := ih _ (hwork ▸ work_poll hmove) (s.poll i) rfl
        exact ⟨i :: order, r, .poll hmove hpolls, hr⟩

/-- A turn of at most so many steps. There is a bound that is large enough, and a turn of a given
session is computed with it. -/
def walk (i : Nat) : Nat → Session → Session
  | 0, s => s
  | n + 1, s => (s.step (.worker i)).elim s (walk i n)

theorem poll_eq_walk {n : Nat} (h : s.work ≤ n) : s.poll i = s.walk i n := by
  induction n generalizing s with
  | zero =>
      cases hstep : s.step (.worker i) with
      | none => exact System.turn_rest hstep
      | some s' =>
          have hwork := work_step hstep
          omega
  | succ n ih =>
      cases hstep : s.step (.worker i) with
      | none =>
          rw [walk, hstep, Option.elim_none]
          exact System.turn_rest hstep
      | some s' =>
          have hwork := work_step hstep
          have hpoll : s.poll i = s'.poll i := System.turn_step hstep
          rw [walk, hstep, Option.elim_some, hpoll]
          exact ih (by omega)

theorem atRest_of_lt (h : ∀ i < s.subs.length, s.step (.worker i) = none) : s.AtRest := by
  intro i
  by_cases hi : i < s.subs.length
  · exact h i hi
  · simp only [step, stepWorker, List.getElem?_eq_none (Nat.not_lt.mp hi)]

/-! ## 2. Exchanging polls -/

/-- A session without its log. -/
def silent (s : Session) : Session := { s with log := [] }

/-- No worker takes, when it is run, an item that cancels a token which is not cancelled yet and
which another worker on it minds. -/
def Calm (s : Session) : Prop :=
  ∀ (i j : Nat) (sub other : Subscription), i ≠ j → s.subs[i]? = some sub →
    s.subs[j]? = some other → other.token = sub.token → s.isCancelled sub.token = false →
    other.watch.minds = true → (sub.watch.turn false).cancels = false

theorem exists_sub (hmove : s.step (.worker i) ≠ none) :
    ∃ sub, s.subs[i]? = some sub ∧ sub.watch.step (s.isCancelled sub.token) ≠ none := by
  obtain ⟨s', hs'⟩ := Option.ne_none_iff_exists'.mp hmove
  obtain ⟨sub, m, hi, hm, -⟩ := stepWorker_some hs'
  exact ⟨sub, hi, by rw [hm]; exact Option.some_ne_none m⟩

theorem made_poll (hmade : s.Made) (i : Nat) : (s.poll i).Made :=
  system.turn_keeps (fun _ _ _ hstep h => made_step h hstep) (.worker i) hmade

/-- Two moves of different workers may be exchanged. -/
theorem applyMove_comm (hij : i ≠ j) (sub other : Subscription) (m m' : Move Watch) :
    ((s.applyMove i sub m).applyMove j other m').silent
      = ((s.applyMove j other m').applyMove i sub m).silent := by
  have hbook : (s.book.noting m.cancels sub.token).noting m'.cancels other.token
      = (s.book.noting m'.cancels other.token).noting m.cancels sub.token := CallBook.noting_comm ..
  have hroster : (if m'.watch.isLive then if m.watch.isLive then s.roster else s.roster.leave
        else (if m.watch.isLive then s.roster else s.roster.leave).leave)
      = if m.watch.isLive then if m'.watch.isLive then s.roster else s.roster.leave
        else (if m'.watch.isLive then s.roster else s.roster.leave).leave := by
    cases m.watch.isLive <;> cases m'.watch.isLive <;> rfl
  simp only [CallBook.noting] at hbook
  simp only [silent, applyMove, hbook, hroster, List.set_comm _ _ hij]

/-- A poll of one worker changes nothing for another that can move. -/
theorem poll_poll (hmade : s.Made) (hcalm : s.Calm) (hij : i ≠ j) {other : Subscription}
    (hi : s.subs[i]? = some sub) (hj : s.subs[j]? = some other)
    (hmove : sub.watch.step (s.isCancelled sub.token) ≠ none)
    (hmove' : other.watch.step (s.isCancelled other.token) ≠ none) :
    (s.poll i).step (.worker j) ≠ none
    ∧ (s.poll i).poll j
      = (s.applyMove i sub (sub.watch.turn (s.isCancelled sub.token))).applyMove j other
          (other.watch.turn (s.isCancelled other.token)) := by
  have hmade' := made_poll hmade i
  have hpoll : s.poll i = s.applyMove i sub (sub.watch.turn (s.isCancelled sub.token)) :=
    turn_worker hmade hi hmove
  rw [hpoll] at hmade' ⊢
  have hj' : (s.applyMove i sub (sub.watch.turn (s.isCancelled sub.token))).subs[j]? = some other :=
    (List.getElem?_set_ne hij).trans hj
  -- it sees another state of its token only if it does not mind
  have hsees : ∀ c, c = (s.applyMove i sub (sub.watch.turn (s.isCancelled sub.token))).isCancelled
      other.token → other.watch.step c = other.watch.step (s.isCancelled other.token)
        ∧ other.watch.turn c = other.watch.turn (s.isCancelled other.token) := by
    rintro c rfl
    rw [isCancelled_applyMove (hmade.2 sub (List.mem_of_getElem? hi))]
    cases hcancelled : s.isCancelled other.token with
    | true => rw [Bool.true_or]; exact ⟨rfl, rfl⟩
    | false =>
        by_cases hminds : other.watch.minds = true
        · by_cases htoken : sub.token = other.token
          · rw [htoken, hcancelled, hcalm i j sub other hij hi hj htoken.symm
              (htoken ▸ hcancelled) hminds, Bool.false_and, Bool.or_false]
            exact ⟨rfl, rfl⟩
          · rw [decide_eq_false htoken, Bool.and_false, Bool.or_false]
            exact ⟨rfl, rfl⟩
        · rw [Bool.not_eq_true] at hminds
          exact ⟨Watch.step_unminded hminds _ _, Watch.turn_unminded hminds _ _⟩
  obtain ⟨hstep, hturn⟩ := hsees _ rfl
  rw [← hstep] at hmove'
  refine ⟨?_, ?_⟩
  · rw [step_worker hj', ne_eq, Option.map_eq_none_iff]
    exact hmove'
  · rw [← hturn]
    exact turn_worker hmade' hj' hmove'

theorem poll_comm (hmade : s.Made) (hcalm : s.Calm) (hij : i ≠ j)
    (hmove : s.step (.worker i) ≠ none) (hmove' : s.step (.worker j) ≠ none) :
    (s.poll i).step (.worker j) ≠ none
    ∧ ((s.poll i).poll j).silent = ((s.poll j).poll i).silent := by
  obtain ⟨sub, hi, hsub⟩ := exists_sub hmove
  obtain ⟨other, hj, hother⟩ := exists_sub hmove'
  obtain ⟨hstill, hpoll⟩ := poll_poll hmade hcalm hij hi hj hsub hother
  obtain ⟨-, hpoll'⟩ := poll_poll hmade hcalm hij.symm hj hi hother hsub
  refine ⟨hstill, ?_⟩
  rw [hpoll, hpoll', applyMove_comm hij]

/-- Polls do not disturb the calm: a worker that was polled takes nothing more. -/
theorem Calm.poll (hcalm : s.Calm) (hmade : s.Made) (hmove : s.step (.worker i) ≠ none) :
    (s.poll i).Calm := by
  obtain ⟨polled, hi, hpolled⟩ := exists_sub hmove
  have hpoll : s.poll i = s.applyMove i polled (polled.watch.turn (s.isCancelled polled.token)) :=
    turn_worker hmade hi hpolled
  have hlt : i < s.subs.length := (List.getElem?_eq_some_iff.mp hi).1
  have hfind : ∀ j, (s.poll i).subs[j]? = if i = j then
      some { polled with watch := (polled.watch.turn (s.isCancelled polled.token)).watch }
      else s.subs[j]? := by
    intro j
    rw [hpoll]
    exact (List.getElem?_set).trans (by rw [if_pos hlt])
  intro j k sub other hjk hj hk htoken hopen hminds
  rw [hpoll, isCancelled_applyMove (hmade.2 polled (List.mem_of_getElem? hi)),
    Bool.or_eq_false_iff] at hopen
  obtain ⟨hopen, hquiet⟩ := hopen
  rw [hfind] at hj hk
  -- whoever minds now minded before
  obtain ⟨before, hk', htoken', hminds'⟩ : ∃ before, s.subs[k]? = some before
      ∧ before.token = sub.token ∧ before.watch.minds = true := by
    by_cases hik : i = k
    · rw [if_pos hik] at hk
      cases hk
      exact ⟨polled, hik ▸ hi, htoken, Watch.minds_turn hminds⟩
    · rw [if_neg hik] at hk
      exact ⟨other, hk, htoken, hminds⟩
  by_cases hij : i = j
  · rw [if_pos hij] at hj
    cases hj
    dsimp only at hopen hquiet ⊢
    rw [decide_eq_true rfl, Bool.and_true, hopen] at hquiet
    have hrest := Watch.step_turn false polled.watch
    rw [hquiet, Bool.or_false] at hrest
    rw [hopen, Watch.turn_rest hrest]
  · rw [if_neg hij] at hj
    exact hcalm j k sub before hjk hj hk' htoken' hopen hminds'

/-! ## 3. Where schedules end -/

/-- A poll that did something, apart from the log, in a calm session. -/
def Next (s s' : Session) : Prop :=
  s.Made ∧ s.Calm ∧ ∃ i, s.step (.worker i) ≠ none ∧ s' = (s.poll i).silent

/-- The log decides nothing. -/
theorem poll_silent (hmade : s.Made) (hmove : s.step (.worker i) ≠ none) :
    s.silent.step (.worker i) ≠ none ∧ (s.silent.poll i).silent = (s.poll i).silent := by
  obtain ⟨sub, hi, hsub⟩ := exists_sub hmove
  have hi' : s.silent.subs[i]? = some sub := hi
  refine ⟨?_, ?_⟩
  · rw [step_worker hi', ne_eq, Option.map_eq_none_iff]
    exact hsub
  · rw [poll, poll, turn_worker hmade hi hsub, turn_worker (s := s.silent) hmade hi' hsub]
    rfl

theorem next_poll (hmade : s.Made) (hcalm : s.Calm) (hmove : s.step (.worker i) ≠ none) :
    Next s.silent (s.poll i).silent := by
  obtain ⟨hmove', hpoll⟩ := poll_silent hmade hmove
  exact ⟨hmade, hcalm, i, hmove', hpoll.symm⟩

theorem next_diamond {s t u : Session} (ht : Next s t) (hu : Next s u) :
    ∃ v, Relation.ReflGen Next t v ∧ Relation.ReflTransGen Next u v := by
  obtain ⟨hmade, hcalm, i, hi, rfl⟩ := ht
  obtain ⟨-, -, j, hj, rfl⟩ := hu
  by_cases hij : i = j
  · subst hij
    exact ⟨_, .refl, .refl⟩
  · obtain ⟨hj', hcomm⟩ := poll_comm hmade hcalm hij hi hj
    obtain ⟨hi', -⟩ := poll_comm hmade hcalm (Ne.symm hij) hj hi
    refine ⟨((s.poll i).poll j).silent, .single ?_, .single ?_⟩
    · exact next_poll (made_poll hmade i) (hcalm.poll hmade hi) hj'
    · rw [hcomm]
      exact next_poll (made_poll hmade j) (hcalm.poll hmade hj) hi'

theorem Polls.next {order : List Nat} (h : Polls s order s') (hmade : s.Made) (hcalm : s.Calm) :
    Relation.ReflTransGen Next s.silent s'.silent := by
  induction h with
  | done s => exact .refl
  | poll hmove h ih =>
      exact .head (next_poll hmade hcalm hmove) (ih (made_poll hmade _) (hcalm.poll hmade hmove))

/-- At rest there is no next. -/
theorem eq_of_next {r t : Session} (hrest : r.AtRest) (h : Relation.ReflTransGen Next r.silent t) :
    t = r.silent := by
  rcases h.cases_head with heq | ⟨u, ⟨-, -, i, hmove, -⟩, -⟩
  · exact heq.symm
  · obtain ⟨sub, hi, hsub⟩ := exists_sub hmove
    exact absurd (hrest.watch hi) hsub

/-- However the workers of a session are polled, there are no more polls that do something than
there is work, and they lead to a session in which no worker can move. In a calm session it is the
same one for every order, but for the order of the lines in the log. -/
theorem final_state_unique (client : Client) (acts : List Act) :
    let s := (start client).follow acts
    (∀ order s', Polls s order s' → order.length ≤ s.work)
    ∧ (∀ order s', Polls s order s' → ∃ more r, Polls s (order ++ more) r ∧ r.AtRest)
    ∧ (s.Calm → ∀ order order' r r', Polls s order r → Polls s order' r' → r.AtRest → r'.AtRest →
      r.silent = r'.silent) := by
  intro s
  refine ⟨?_, ?_, ?_⟩
  · intro order s' h
    exact Nat.le_trans (Nat.le_add_right _ _) h.length_le
  · intro order s' h
    obtain ⟨more, r, hmore, hr⟩ := exists_polls_atRest s'
    exact ⟨more, r, h.append hmore, hr⟩
  · intro hcalm order order' r r' h h' hr hr'
    have hmade : s.Made := made_follow client acts
    obtain ⟨t, ht, ht'⟩ := Relation.church_rosser (fun _ _ _ => next_diamond)
      (h.next hmade hcalm) (h'.next hmade hcalm)
    exact (eq_of_next hr ht).symm.trans (eq_of_next hr' ht')

/-- Two block subscriptions under one context with a height each, and a third under another whose
height comes with the cancellation of its call. -/
def crowded : List Act :=
  [.outer (.call "c" none []), .outer (.call "d" none []),
    .answer "a" "c" (.epochs ⟨.after 0, .ok ⟨[.event ⟨[], 1⟩ false], false, false⟩⟩),
    .answer "b" "c" (.epochs ⟨.after 0, .ok ⟨[.event ⟨[], 2⟩ false], false, false⟩⟩),
    .answer "e" "d" (.epochs ⟨.after 0, .ok ⟨[.event ⟨[], 3⟩ true], false, false⟩⟩)]

theorem final_state_unique_crowded :
    let s := (start ⟨⟨""⟩, ⟨1, 0, by decide⟩⟩).follow crowded
    s.Calm
    ∧ (∀ i < 3, s.step (.worker i) ≠ none)
    ∧ ∀ order order' r r', Polls s order r → Polls s order' r' → r.AtRest → r'.AtRest →
      r.silent = r'.silent := by
  intro s
  have hcalm : s.Calm := by
    intro i j sub other hij hi hj htoken hopen hminds
    have hsubs : s.subs = [⟨⟨0⟩, .epochs (.start ⟨[.event ⟨[], 1⟩ false], false, false⟩)⟩,
        ⟨⟨0⟩, .epochs (.start ⟨[.event ⟨[], 2⟩ false], false, false⟩)⟩,
        ⟨⟨1⟩, .epochs (.start ⟨[.event ⟨[], 3⟩ true], false, false⟩)⟩] := rfl
    rw [hsubs] at hi hj
    match i, j with
    | 0, _ =>
        cases hi
        rw [Watch.turn_step rfl, Watch.turn_step rfl, Watch.turn_rest rfl]
        rfl
    | 1, _ =>
        cases hi
        rw [Watch.turn_step rfl, Watch.turn_step rfl, Watch.turn_rest rfl]
        rfl
    | 2, 0 =>
        cases hi
        cases hj
        cases htoken
    | 2, 1 =>
        cases hi
        cases hj
        cases htoken
    | 2, 2 => exact absurd rfl hij
    | 2, _ + 3 => cases hj
    | _ + 3, _ => cases hi
  refine ⟨hcalm, ?_, (final_state_unique ⟨⟨""⟩, ⟨1, 0, by decide⟩⟩ crowded).2.2 hcalm⟩
  decide

/-- Two block subscriptions under one context, of which the first one's height comes with the
cancellation of the call. -/
def entangled : List Act :=
  [.outer (.call "c" none []),
    .answer "a" "c" (.epochs ⟨.after 0, .ok ⟨[.event ⟨[], 1⟩ true], false, false⟩⟩),
    .answer "b" "c" (.epochs ⟨.after 0, .ok ⟨[.event ⟨[], 2⟩ false], false, false⟩⟩)]

/-- The height in the channel of a block subscription. -/
def slot? : Watch → Option Int32
  | .epochs w => w.slot
  | _ => none

/-- If one worker on a token takes an item that cancels it, whether another has put a height into
its channel by then depends on their order. -/
theorem order_decides_entangled :
    let s := (start ⟨⟨""⟩, ⟨1, 0, by decide⟩⟩).follow entangled
    ∃ r r', Polls s [0, 1] r ∧ Polls s [1, 0, 1] r' ∧ r.AtRest ∧ r'.AtRest
      ∧ r.silent ≠ r'.silent := by
  intro s
  have hab : Polls s [0, 1] (walk 1 6 (walk 0 6 s)) := by
    have ha : s.poll 0 = walk 0 6 s := poll_eq_walk (by decide)
    have hb : (walk 0 6 s).poll 1 = walk 1 6 (walk 0 6 s) := poll_eq_walk (by decide)
    refine .poll (by decide) ?_
    rw [ha]
    refine .poll (by decide) ?_
    rw [hb]
    exact .done _
  have hba : Polls s [1, 0, 1] (walk 1 6 (walk 0 6 (walk 1 6 s))) := by
    have hb : s.poll 1 = walk 1 6 s := poll_eq_walk (by decide)
    have ha : (walk 1 6 s).poll 0 = walk 0 6 (walk 1 6 s) := poll_eq_walk (by decide)
    have hb' : (walk 0 6 (walk 1 6 s)).poll 1 = walk 1 6 (walk 0 6 (walk 1 6 s)) :=
      poll_eq_walk (by decide)
    refine .poll (by decide) ?_
    rw [hb]
    refine .poll (by decide) ?_
    rw [ha]
    refine .poll (by decide) ?_
    rw [hb']
    exact .done _
  refine ⟨_, _, hab, hba, atRest_of_lt (by decide), atRest_of_lt (by decide), ?_⟩
  intro hsame
  -- the second subscription has a height to read in one of them only
  have hslots := congrArg (fun r : Session => r.subs.map fun sub => slot? sub.watch) hsame
  exact absurd hslots (by decide)

end Session

end ChainWatch
