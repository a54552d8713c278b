/-
A session in which one subscription is awake.

When all workers have had their turns and something is done under one name, only the worker of that
name has work to do: every other one can at most leave (`Quiet`). To settle such a session is to
give that worker its turn (`settle_quiet`). Nothing else is cancelled by it and no other
subscription has a part in it.
-/
import ChainWatch.Proofs.Bystander
import ChainWatch.Proofs.Idle

set_option autoImplicit false

namespace ChainWatch

namespace Session

variable {s s' : Session} {n : String} {sub : Subscription}

/-! ## 1. Workers that are idle -/

/-- Every worker but the one of a name is idle. -/
structure Quiet (n : String) (s : Session) : Prop where
  sound : s.Sound
  idle : ∀ i sub, s.subNames.lookup n ≠ some i → s.subs[i]? = some sub → sub.watch.Idle

theorem Sound.congr (h : s.Sound) (hbook : s'.book = s.book) (hsubs : s'.subs = s.subs)
    (hnames : s'.subNames = s.subNames) : s'.Sound where
  made := by
    rw [Made, hbook, hsubs]
    exact h.made
  named := by
    rw [hnames, hsubs]
    exact h.named
  distinct := by
    rw [hnames]
    exact h.distinct

theorem Quiet.congr (h : s.Quiet n) (hbook : s'.book = s.book) (hsubs : s'.subs = s.subs)
    (hnames : s'.subNames = s.subNames) : s'.Quiet n where
  sound := h.sound.congr hbook hsubs hnames
  idle := by
    rw [hnames, hsubs]
    exact h.idle

theorem idle_of_atRest (hrest : s.AtRest) {i : Nat} (hi : s.subs[i]? = some sub) :
    sub.watch.Idle :=
  Watch.idle_of_rest (hrest.watch hi)

theorem quiet_of_atRest (hsound : s.Sound) (hrest : s.AtRest) : s.Quiet n where
  sound := hsound
  idle _ _ _ hi := idle_of_atRest hrest hi

/-! ## 2. One worker has its turn -/

/-- The subscription of a name once its worker will have had its turn. -/
def ahead? (s : Session) (n : String) : Option Subscription :=
  (s.sub? n).map fun sub =>
    { sub with watch := (sub.watch.turn (s.isCancelled sub.token)).watch }

/-- Whether a token will be cancelled once the worker of a name will have had its turn. -/
def firesAhead (s : Session) (n : String) (token : Token) : Bool :=
  s.isCancelled token || (s.sub? n).any fun sub =>
    (sub.watch.turn (s.isCancelled sub.token)).cancels && sub.token = token

theorem Sound.step (h : s.Sound) {t : Task} (hstep : s.step t = some s') : s'.Sound := by
  rw [← act_turn hstep]
  exact h.act (.turn t)

/-- The worker itself takes a step of its turn. -/
theorem ahead_own (hsound : s.Sound) {i : Nat} (hname : s.subNames.lookup n = some i)
    (hi : s.subs[i]? = some sub) {m : Move Watch}
    (hm : sub.watch.step (s.isCancelled sub.token) = some m) :
    (s.applyMove i sub m).ahead? n = s.ahead? n
    ∧ ∀ token, (s.applyMove i sub m).firesAhead n token = s.firesAhead n token := by
  have htoken := hsound.made.2 sub (List.mem_of_getElem? hi)
  have hlt : i < s.subs.length := hsound.named n i hname
  have hsub : s.sub? n = some sub := (sub?_eq hname).trans hi
  have hsub' : (s.applyMove i sub m).sub? n = some { sub with watch := m.watch } :=
    (sub?_eq (s := s.applyMove i sub m) hname).trans (List.getElem?_set_self hlt)
  have hcancelled := isCancelled_applyMove (i := i) htoken m
  have hown : (s.applyMove i sub m).isCancelled sub.token
      = (s.isCancelled sub.token || m.cancels) := by
    rw [hcancelled, decide_eq_true rfl, Bool.and_true]
  refine ⟨?_, ?_⟩
  · simp only [ahead?, hsub, hsub', Option.map_some, hown, Watch.turn_step hm, Move.andThen]
  · intro token
    simp only [firesAhead, hsub, hsub', Option.any_some, hcancelled token, hown,
      Watch.turn_step hm, Move.andThen, Bool.and_or_distrib_right, Bool.or_assoc]

/-- Another worker takes a step: it leaves, and that is all. -/
theorem ahead_other (hq : s.Quiet n) {i : Nat} (hname : s.subNames.lookup n ≠ some i)
    (hi : s.subs[i]? = some sub) {m : Move Watch}
    (hm : sub.watch.step (s.isCancelled sub.token) = some m) :
    (s.applyMove i sub m).sub? n = s.sub? n
    ∧ ∀ token, (s.applyMove i sub m).isCancelled token = s.isCancelled token := by
  have htoken := hq.sound.made.2 sub (List.mem_of_getElem? hi)
  obtain ⟨hcancels, -⟩ := (hq.idle i sub hname hi).step hm
  refine ⟨?_, ?_⟩
  · cases hj : s.subNames.lookup n with
    | none =>
        rw [(sub?_eq_none hq.sound).mpr hj]
        show (s.subNames.lookup n).bind _ = none
        rw [hj, Option.bind_none]
    | some j =>
        have hne : i ≠ j := by
          rintro rfl
          exact hname hj
        rw [sub?_eq hj, sub?_eq (s := s.applyMove i sub m) hj]
        exact List.getElem?_set_ne hne
  · intro token
    rw [isCancelled_applyMove htoken, hcancels, Bool.false_and, Bool.or_false]

theorem Quiet.applyMove (hq : s.Quiet n) {i : Nat} (hi : s.subs[i]? = some sub) {m : Move Watch}
    (hm : sub.watch.step (s.isCancelled sub.token) = some m) : (s.applyMove i sub m).Quiet n where
  sound := by
    apply hq.sound.step (t := .worker i)
    rw [step_worker hi, hm, Option.map_some]
  idle j other hname hj := by
    by_cases hij : i = j
    · subst hij
      have hlt : i < s.subs.length := (List.getElem?_eq_some_iff.mp hi).1
      have hset : (s.applyMove i sub m).subs[i]? = some { sub with watch := m.watch } :=
        List.getElem?_set_self hlt
      rw [hset] at hj
      cases hj
      exact ((hq.idle i sub hname hi).step hm).2
    · have hset : (s.applyMove i sub m).subs[j]? = s.subs[j]? := List.getElem?_set_ne hij
      rw [hset] at hj
      exact hq.idle j other hname hj

/-- Whatever task moves, the one worker is on its way to the same end. -/
theorem ahead_step (hq : s.Quiet n) {t : Task} (hstep : s.step t = some s') :
    s'.Quiet n ∧ s'.ahead? n = s.ahead? n
    ∧ ∀ token, s'.firesAhead n token = s.firesAhead n token := by
  cases t with
  | worker i =>
      obtain ⟨sub, m, hi, hm, rfl⟩ := stepWorker_some hstep
      refine ⟨hq.applyMove hi hm, ?_⟩
      by_cases hname : s.subNames.lookup n = some i
      · exact ahead_own hq.sound hname hi hm
      · obtain ⟨hsub, hcancelled⟩ := ahead_other hq hname hi hm
        refine ⟨?_, ?_⟩
        · simp only [ahead?, hsub, hcancelled]
        · intro token
          simp only [firesAhead, hsub, hcancelled]
  | wait i =>
      rw [Session.step, Option.map_eq_some_iff] at hstep
      obtain ⟨roster, -, rfl⟩ := hstep
      exact ⟨hq.congr rfl rfl rfl, rfl, fun _ => rfl⟩

theorem atRest_settle (s : Session) : s.settle.AtRest := fun i => step_settle s (.worker i)

theorem atRest_advance (s : Session) (step : Step) : (s.advance step true).1.AtRest :=
  atRest_settle _

/-- To settle a quiet session is to give the one worker its turn. -/
theorem settle_quiet (hq : s.Quiet n) :
    s.settle.Quiet n ∧ s.settle.sub? n = s.ahead? n
    ∧ ∀ token, s.settle.isCancelled token = s.firesAhead n token := by
  obtain ⟨hquiet, hahead, hfires⟩ : s.settle.Quiet n ∧ s.settle.ahead? n = s.ahead? n
      ∧ ∀ token, s.settle.firesAhead n token = s.firesAhead n token := by
    -- where the worker will be is the same before and after every step of settling
    apply settle_keeps (P := fun s' => s'.Quiet n ∧ s'.ahead? n = s.ahead? n
      ∧ ∀ token, s'.firesAhead n token = s.firesAhead n token)
    · rintro s₁ t s₂ hstep ⟨hq₁, hahead, hfires⟩
      obtain ⟨hq₂, hahead', hfires'⟩ := ahead_step hq₁ hstep
      exact ⟨hq₂, hahead'.trans hahead, fun token => (hfires' token).trans (hfires token)⟩
    · rintro s₁ ready line ⟨hq₁, hahead, hfires⟩
      exact ⟨hq₁.congr rfl rfl rfl, hahead, hfires⟩
    · exact ⟨hq, rfl, fun _ => rfl⟩
  refine ⟨hquiet, ?_, ?_⟩
  -- a worker at rest has no turn ahead of it
  · rw [← hahead, ahead?]
    cases hsub : s.settle.sub? n with
    | none => rfl
    | some sub =>
        rw [Option.map_some, Watch.turn_rest (sub?_rest (atRest_settle s) hsub)]
  · intro token
    rw [← hfires, firesAhead]
    cases hsub : s.settle.sub? n with
    | none => rw [Option.any_none, Bool.or_false]
    | some sub =>
        rw [Option.any_some, Watch.turn_rest (sub?_rest (atRest_settle s) hsub),
          Bool.false_and, Bool.or_false]

end Session

end ChainWatch
