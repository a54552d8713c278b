/-
Waiting for the workers of a session.

A wait returns only if at some moment since it began no worker was there
(`returns_only_after_idle`), so whatever had been started by then has left. The moment need not be
the one at which the wait returns: it may have been woken and find new workers by the time it has
its turn. Apart from that a wait is not there at all: a session without the waits does the same
(`follow_apart`).
-/
import ChainWatch.Proofs.ActiveWorkers

set_option autoImplicit false

namespace ChainWatch

/-- A roster becomes another by one act, or stays as it is. -/
def Roster.Moves (r r' : Roster) : Prop := r' = r ∨ ∃ a, r' = r.act a

theorem Roster.Moves.passes {r r' : Roster} (h : r.Moves r') : r.Passes r' := by
  rcases h with rfl | ⟨a, rfl⟩
  · exact passes_of_waits rfl
  · exact passes_act r a

namespace Session

/-! ## 1. The roster of a session -/

theorem moves_outer (s : Session) (step : Step) : s.roster.Moves (s.act (.outer step)).roster := by
  have htouches := s.touches_outer step
  generalize s.act (.outer step) = s' at htouches ⊢
  cases htouches with
  | waitStarted => exact Or.inr ⟨.addWait, rfl⟩
  | waitAbandoned i => exact Or.inr ⟨.abandon i, rfl⟩
  | watches hframe =>
      left
      rw [hframe]
  | nothing | contexts | tokens | client => exact Or.inl rfl

end Session

namespace Chronicle

variable {c : Chronicle}

/-- Whatever a session does, its roster makes at most one act of it. -/
theorem Faithful.moves (h : Faithful c) (a : Session.Act) :
    c.session.roster.Moves (c.session.act a).roster := by
  cases a with
  | turn t =>
      cases t with
      | worker j =>
          rw [Session.act, Session.step]
          cases hstep : c.session.stepWorker j with
          | none => exact Or.inl rfl
          | some s' =>
              obtain ⟨sub, m, hj, hm, rfl⟩ := Session.stepWorker_some hstep
              rw [Option.getD_some]
              unfold Session.applyMove
              dsimp only
              split
              · exact Or.inl rfl
              · -- the worker that leaves was there, so the roster is not empty
                have hpos := h.running_pos hj (live_of_step hm)
                refine Or.inr ⟨.leave, ?_⟩
                rw [Roster.act, if_neg (Nat.pos_iff_ne_zero.mp hpos)]
      | wait j =>
          rw [Session.act, Session.step]
          cases hstep : c.session.roster.stepWait j with
          | none => exact Or.inl rfl
          | some roster =>
              refine Or.inr ⟨.stepWait j, ?_⟩
              rw [Roster.act, hstep]
              rfl
  | arrange ready line => exact Or.inl rfl
  | outer step => exact c.session.moves_outer step
  | recv name =>
      left
      rw [Session.act, Session.recvOnce, Session.afterWatch_frame]
  | answer name callName order =>
      simp only [Session.act]
      split
      · rename_i call _
        unfold Session.answered
        split
        · refine Or.inr ⟨.enter, ?_⟩
          show (c.session.dropNamed name).roster.enter = c.session.roster.enter
          rw [Session.dropNamed_eq, Session.afterWatch_frame]
        · exact Or.inl rfl
      · exact Or.inl rfl
  | refuse kind cause => exact Or.inl rfl
  | waitNow => exact Or.inr ⟨.waitNow, rfl⟩

end Chronicle

namespace Session

/-! ## 2. A session without its waits -/

/-- Whether an act is one of a wait. -/
def Act.isWait : Act → Bool
  | .turn (.wait _) => true
  | .waitNow => true
  | .outer (.startWait _) => true
  | .outer (.waitDone _) => true
  | .outer (.abandonWait _) => true
  | _ => false

/-- A session without its waits, and without the order of its tasks. The client, the contexts,
every subscription with its worker, channels and handle, the number of workers and the log are
left. -/
def apart (s : Session) : Session :=
  { s with roster := ⟨s.roster.running, false, []⟩, waitNames := [], ready := [], line := [] }

/-- An act of a wait changes nothing else. -/
theorem apart_wait (s : Session) {a : Act} (ha : a.isWait = true) : (s.act a).apart = s.apart := by
  cases a with
  | turn t =>
      cases t with
      | worker j => cases ha
      | wait j =>
          simp only [act, step]
          cases hstep : s.roster.stepWait j with
          | none => rfl
          | some roster =>
              have hrun := Roster.running_stepWait hstep
              simp only [Option.map_some, Option.getD_some, apart, hrun]
  | arrange ready line => cases ha
  | outer step =>
      cases step with
      | startWait name =>
          simp only [act, Step.isAct, perform, if_true]
          split <;> rfl
      | waitDone name =>
          simp only [act, Step.isAct, perform, if_true]
          split <;> rfl
      | abandonWait name =>
          simp only [act, Step.isAct, perform, if_true]
          split
          · simp only [apart, Roster.running_abandon]
          · rfl
      | _ => cases ha
  | recv name => cases ha
  | answer name callName order => cases ha
  | refuse kind cause => cases ha
  | waitNow => simp only [act, apart, Roster.running_waitNow]

theorem onWatch_apart {α : Type} (s : Session) (name : String)
    (f : Subscription → Option (Watch × α)) :
    s.apart.onWatch name f = (s.onWatch name f).map fun r => (r.1.apart, r.2) := by
  have hnames : s.apart.subNames = s.subNames := rfl
  have hsubs : s.apart.subs = s.subs := rfl
  unfold onWatch
  rw [hnames, hsubs]
  split
  · split
    · rw [Option.map_map]
      rfl
    · rfl
  · rfl

theorem afterWatch_apart {α : Type} (s : Session) (name : String)
    (f : Subscription → Option (Watch × α)) :
    s.apart.afterWatch name f = (s.afterWatch name f).apart := by
  rw [afterWatch, afterWatch, onWatch_apart]
  cases s.onWatch name f <;> rfl

theorem orMissing_apart (s : Session) (name : String)
    (f : Subscription → Option (Watch × Answer)) :
    (s.apart.orMissing (s.apart.onWatch name f)).1.apart
      = (s.orMissing (s.onWatch name f)).1.apart := by
  rw [onWatch_apart]
  cases s.onWatch name f <;> rfl

theorem stepWorker_apart (s : Session) (j : Nat) :
    ((s.apart.stepWorker j).getD s.apart).apart = ((s.stepWorker j).getD s).apart := by
  have hsubs : s.apart.subs = s.subs := rfl
  unfold stepWorker
  rw [hsubs]
  split
  · rename_i sub _
    have hcancelled : s.apart.isCancelled sub.token = s.isCancelled sub.token := rfl
    rw [hcancelled]
    cases sub.watch.step (s.isCancelled sub.token) with
    | none => rfl
    | some m =>
        simp only [Option.map_some, Option.getD_some, applyMove, apart]
        by_cases hlive : m.watch.isLive = true
        · simp only [hlive, if_true]
        · simp only [hlive, Bool.false_eq_true, if_false, Roster.running_leave]
  · rfl

theorem answered_apart (s : Session) (name : String) (order : Order) (incoming : Incoming) :
    (s.apart.answered name order incoming).1.apart = (s.answered name order incoming).1.apart := by
  unfold answered
  split
  · unfold spawn
    rw [dropNamed_eq, dropNamed_eq, afterWatch_apart]
    rfl
  · rfl

theorem rouse_apart (s : Session) (name : String) : (s.rouse name).apart = s.apart := by
  unfold rouse
  split
  · split <;> rfl
  · rfl

theorem outer_apart (s : Session) {step : Step} (ha : (Act.outer step).isWait = false) :
    (s.apart.act (.outer step)).apart = (s.act (.outer step)).apart := by
  have hbook : s.apart.book = s.book := rfl
  have hclient : s.apart.client = s.client := rfl
  cases step with
  | call name source metadata => rfl
  | viewCall name =>
      simp only [act, Step.isAct, perform, if_true, hbook]
      split <;> rfl
  | cancel name =>
      simp only [act, Step.isAct, perform, if_true, hbook]
      split <;> rfl
  | register name callName order cancelAfter => rfl
  | feed name frames close =>
      simp only [act, Step.isAct, perform, if_true, onWatch_apart]
      cases s.onWatch name fun sub => (sub.watch.feed frames close).map (·, Answer.done) with
      | none => rfl
      | some r => exact (rouse_apart r.1.apart name).trans (rouse_apart r.1 name).symm
  | recv name count => rfl
  | split name => exact s.orMissing_apart ..
  | glance name => exact s.orMissing_apart ..
  | tryResult name => exact s.orMissing_apart ..
  | await name => exact s.orMissing_apart ..
  | drop name =>
      simp only [act, Step.isAct, perform, if_true, onWatch_apart]
      cases s.onWatch name fun sub =>
          if sub.watch.isHeld then some (sub.watch.drop, ()) else none with
      | none => rfl
      | some r => rfl
  | dropClient =>
      simp only [act, Step.isAct, perform, if_true, hclient]
      split <;> rfl
  | wait => rfl
  | startWait name => cases ha
  | waitDone name => cases ha
  | abandonWait name => cases ha
  | settle => rfl

/-- Every other act does the same without the waits. -/
theorem apart_act (s : Session) {a : Act} (ha : a.isWait = false) :
    (s.apart.act a).apart = (s.act a).apart := by
  cases a with
  | turn t =>
      cases t with
      | worker j => exact s.stepWorker_apart j
      | wait j => cases ha
  | arrange ready line => rfl
  | outer step => exact s.outer_apart ha
  | recv name =>
      have hrecv : s.apart.recvOnce name = (s.recvOnce name).apart :=
        s.afterWatch_apart name fun sub => sub.watch.recv? (s.isCancelled sub.token)
      rw [act, hrecv]
      rfl
  | answer name callName order =>
      have hbook : s.apart.book = s.book := rfl
      simp only [act, hbook]
      split
      · exact s.answered_apart ..
      · rfl
  | refuse kind cause => rfl
  | waitNow => cases ha

/-- What a session does apart from its waits it does without them. -/
theorem follow_apart (s : Session) (acts : List Act) :
    (s.follow acts).apart = (s.follow (acts.filter fun a => !a.isWait)).apart := by
  -- two sessions go along that differ in their waits, as every act of a wait makes them
  suffices h : ∀ s s' : Session, s.apart = s'.apart →
      (s.follow acts).apart = (s'.follow (acts.filter fun a => !a.isWait)).apart from h s s rfl
  induction acts with
  | nil => exact fun s s' h => h
  | cons a acts ih =>
      intro s s' h
      cases ha : a.isWait with
      | true =>
          rw [List.filter_cons_of_neg (by simp [ha])]
          exact ih (s.act a) s' ((s.apart_wait ha).trans h)
      | false =>
          rw [List.filter_cons_of_pos (by simp [ha])]
          refine ih (s.act a) (s'.act a) ?_
          rw [← s.apart_act ha, h, s'.apart_act ha]

/-! ## 3. From a call to its return -/

/-- The session after the first `n` acts. -/
def moment (client : Client) (acts : List Act) (n : Nat) : Session :=
  (start client).follow (acts.take n)

theorem moment_succ (client : Client) (acts : List Act) (n : Nat) :
    moment client acts (n + 1)
      = acts[n]?.elim (moment client acts n) (moment client acts n).act :=
  foldl_take_succ act (start client) acts n

/-- Every moment of a session has a chronicle, which leads to the later ones. -/
theorem exists_faithful (client : Client) (acts : List Act) (n : Nat) :
    ∃ c : Chronicle, c.Faithful ∧ c.session = moment client acts n
      ∧ ∀ m, n ≤ m → ∃ more, (c.follow more).session = moment client acts m := by
  have hstart := Chronicle.faithful_follow client (acts.take n)
  have hsession : ((Chronicle.start client).follow (acts.take n)).session = moment client acts n :=
    Chronicle.session_follow ..
  refine ⟨_, hstart, hsession, ?_⟩
  intro m hm
  refine ⟨(acts.drop n).take (m - n), ?_⟩
  have htake : acts.take m = acts.take n ++ (acts.drop n).take (m - n) := by
    rw [← List.take_add, Nat.add_sub_cancel' hm]
  rw [Chronicle.session_follow, hsession, moment, moment, htake]
  exact List.foldl_append.symm

theorem passes_moment (client : Client) (acts : List Act) (n : Nat) :
    (moment client acts n).roster.Passes (moment client acts (n + 1)).roster := by
  obtain ⟨c, h, hc, -⟩ := exists_faithful client acts n
  rw [moment_succ, ← hc]
  cases acts[n]? with
  | none => exact Roster.passes_of_waits rfl
  | some a => exact (h.moves a).passes

/-- A wait that is woken has seen a moment without workers since it was called. -/
theorem idle_of_woken (client : Client) (acts : List Act) (i n : Nat)
    (h : (moment client acts n).roster.phase? i = some .woken) :
    ∃ j, j ≤ n ∧ (moment client acts j).roster.isCalled i = true
      ∧ (moment client acts j).active = 0 := by
  induction n with
  | zero => cases h
  | succ n ih =>
      -- either the last act woke it, where nobody runs, or it was woken before
      rcases (passes_moment client acts n).woken h with hidle | hwoken
      · refine ⟨n + 1, Nat.le_refl _, ?_, hidle⟩
        rw [Roster.isCalled, h]
      · obtain ⟨j, hj, hcalled, hidle⟩ := ih hwoken
        exact ⟨j, by omega, hcalled, hidle⟩

/-- A wait that has been called was called at some moment. -/
theorem exists_call (client : Client) (acts : List Act) (i n : Nat)
    (h : (moment client acts n).roster.isCalled i = true) :
    ∃ k, k < n ∧ (moment client acts k).roster.isCalled i = false
      ∧ (moment client acts (k + 1)).roster.isCalled i = true := by
  induction n with
  | zero => cases h
  | succ n ih =>
      cases hn : (moment client acts n).roster.isCalled i with
      | false => exact ⟨n, Nat.lt_succ_self n, hn, h⟩
      | true =>
          obtain ⟨k, hk, hbefore, hafter⟩ := ih hn
          exact ⟨k, by omega, hbefore, hafter⟩

/-- Between the call of a wait and its return there is a moment without workers. -/
theorem idle_of_returned (client : Client) (acts : List Act) (i m : Nat)
    (hbefore : (moment client acts m).roster.isOver i = false)
    (hafter : (moment client acts (m + 1)).roster.waits[i]? = some ⟨.over, false⟩) :
    ∃ k j, k ≤ j ∧ j ≤ m
      ∧ (moment client acts k).roster.isCalled i = false
      ∧ (moment client acts (k + 1)).roster.isCalled i = true
      ∧ (moment client acts j).active = 0 := by
  rcases (passes_moment client acts m).returned hafter with hidle | hwoken | hover
  · -- nobody runs at the moment of its last turn, which may be its first as well
    have hcalled : (moment client acts (m + 1)).roster.isCalled i = true := by
      rw [Roster.isCalled, Roster.phase?_eq hafter]
    obtain ⟨k, hk, hcall⟩ := exists_call client acts i (m + 1) hcalled
    exact ⟨k, m, by omega, Nat.le_refl _, hcall.1, hcall.2, hidle⟩
  · obtain ⟨j, hj, hcalled, hidle⟩ := idle_of_woken client acts i m hwoken
    obtain ⟨k, hk, hcall⟩ := exists_call client acts i j hcalled
    exact ⟨k, j, by omega, hj, hcall.1, hcall.2, hidle⟩
  · rw [← Bool.not_eq_true, Roster.isOver_iff, Roster.phase?_eq hover] at hbefore
    exact absurd rfl hbefore

end Session

/-! ## 4. Workers that have left -/

namespace Chronicle

variable {c : Chronicle}

/-- Where nobody runs, all that were started have left, and they stay away. -/
theorem Faithful.left_of_idle (h : Faithful c) (hidle : c.session.active = 0)
    (more : List Session.Act) {x : Nat} (hx : x < c.session.subs.length) :
    ∃ sub, (c.follow more).session.subs[x]? = some sub ∧ sub.watch.isLive = false := by
  obtain ⟨story, hstory, hagrees⟩ := h.agrees (List.getElem?_eq_getElem hx)
  have hgone : story.watch.isLive = false := by
    rw [Session.active, h.running, List.countP_eq_zero] at hidle
    rw [hagrees.watch, ← Bool.not_eq_true]
    exact hidle _ (List.getElem_mem hx)
  obtain ⟨story', hstory', hgone'⟩ := h.gone_follow more hstory hgone
  obtain ⟨sub, hsub, hagrees'⟩ := (h.follow more).sub_of_story hstory'
  exact ⟨sub, hsub, by rw [← hagrees'.watch, hgone']⟩

/-- A subscription that was started is never forgotten. -/
theorem Faithful.lt_length (h : Faithful c) (more : List Session.Act) {x : Nat}
    (hx : x < c.session.subs.length) : x < (c.follow more).session.subs.length := by
  obtain ⟨story, hstory, -⟩ := h.agrees (List.getElem?_eq_getElem hx)
  obtain ⟨-, sub, hsub, -⟩ := h.goes_on more (List.getElem?_eq_getElem hx) hstory
  exact (List.getElem?_eq_some_iff.mp hsub).1

end Chronicle

namespace Session

/-- Workers that were started before a moment without workers have left for good. -/
theorem left_of_idle (client : Client) (acts : List Act) {n j m : Nat} (hn : n ≤ j) (hm : j ≤ m)
    (hidle : (moment client acts j).active = 0) {x : Nat}
    (hx : x < (moment client acts n).subs.length) :
    ∃ sub, (moment client acts m).subs[x]? = some sub ∧ sub.watch.isLive = false := by
  obtain ⟨c, h, hc, hlater⟩ := exists_faithful client acts n
  obtain ⟨between, hbetween⟩ := hlater j hn
  obtain ⟨c', h', hc', hlater'⟩ := exists_faithful client acts j
  obtain ⟨since, hsince⟩ := hlater' m hm
  -- whoever was started by `n` is still known at `j`, where nobody runs
  have hlt : x < c'.session.subs.length := by
    rw [hc', ← hbetween]
    apply h.lt_length
    rw [hc]
    exact hx
  rw [← hsince]
  apply h'.left_of_idle _ since hlt
  rw [hc']
  exact hidle

/-! ## 5. Registrations -/

/-- A call that the service answers with a stream starts a worker. -/
theorem live_of_answered {s : Session} {name : String} {order : Order}
    {incoming incoming' : Incoming} (h : (s.answered name order incoming).2 = .started incoming') :
    ∃ sub, (s.answered name order incoming).1.subs[s.subs.length]? = some sub
      ∧ sub.watch.isLive = true := by
  unfold answered at h ⊢
  cases hanswer : order.answer with
  | error cause =>
      rw [hanswer] at h
      cases h
  | ok watch =>
      refine ⟨⟨incoming.call.token, watch⟩, ?_, ?_⟩
      · show ((s.dropNamed name).subs ++ [⟨incoming.call.token, watch⟩])[s.subs.length]? = _
        rw [← length_dropNamed s name]
        exact List.getElem?_concat_length
      · rw [← Story.watch_start hanswer]
        exact Story.live_start watch

/-- A registration that succeeds leaves its worker running. -/
theorem live_of_started {s : Session} {client : Client} {name : String} {call : Call}
    {order : Order} {cancelAfter : Option Nat} {incoming : Incoming}
    (h : (s.register client name call order cancelAfter).2 = .started incoming) :
    ∃ sub, (s.register client name call order cancelAfter).1.subs[s.subs.length]? = some sub
      ∧ sub.watch.isLive = true := by
  have hr := s.register_cases client name call order cancelAfter
  generalize s.register client name call order cancelAfter = r at h hr ⊢
  cases hr with
  | answered =>
      rw [← s.length_meanwhile client order]
      exact live_of_answered h
  | _ => cases h

/-- A wait in the foreground that says it is over finds nobody running. -/
theorem active_of_wait {s : Session} (h : (s.perform .wait).2 = .flag true) :
    (s.perform .wait).1.active = 0 := by
  simp only [perform] at h ⊢
  cases hclient : s.client with
  | none =>
      simp only [hclient] at h
      cases h
  | some client =>
      simp only [hclient, Roster.waitNow_eq, Answer.flag.injEq, decide_eq_true_eq] at h
      exact (Roster.running_waitNow _).trans h

/-- A wait returns only if at some moment since it was called nobody ran, so every worker that had
been started by then, of whatever kind, has left when it returns. A wait in the foreground that
says it is over finds nobody running. Waits change nothing else: a session without them, which is
otherwise the same sequence of acts, has the same subscriptions with their workers, channels and
handles, the same contexts, log and number of workers. And at any time, whoever waits or has
waited, a registration is counted exactly if it succeeds. -/
theorem returns_only_after_idle (client : Client) (acts : List Act) :
    let s := (start client).follow acts
    (∀ i m, (moment client acts m).roster.isOver i = false →
      (moment client acts (m + 1)).roster.waits[i]? = some ⟨.over, false⟩ →
      ∃ k j, k ≤ j ∧ j ≤ m
        ∧ (moment client acts k).roster.isCalled i = false
        ∧ (moment client acts (k + 1)).roster.isCalled i = true
        ∧ (moment client acts j).active = 0
        ∧ ∀ n x, n ≤ j → x < (moment client acts n).subs.length →
          ∃ sub, (moment client acts (m + 1)).subs[x]? = some sub ∧ sub.watch.isLive = false)
    ∧ ((s.perform .wait).2 = .flag true →
      ∀ sub ∈ (s.perform .wait).1.subs, sub.watch.isLive = false)
    ∧ s.apart = ((start client).follow (acts.filter fun a => !a.isWait)).apart
    ∧ s.active = s.subs.countP (fun sub => sub.watch.isLive)
    ∧ ∀ (client' : Client) (name callName : String) (call : Call) (order : Order)
        (cancelAfter : Option Nat), s.book.find? callName = some call →
      let outcome := s.register client' name call order cancelAfter
      outcome.1.active = outcome.1.subs.countP (fun sub => sub.watch.isLive)
      ∧ outcome.1.subs.length = s.subs.length + outcome.2.count
      ∧ ∀ seen, outcome.2 = .started seen →
        ∃ sub, outcome.1.subs[s.subs.length]? = some sub ∧ sub.watch.isLive = true := by
  intro s
  obtain ⟨c, h, hc, -⟩ := exists_faithful client acts acts.length
  have hs : c.session = s := by rw [hc, moment, List.take_length]
  refine ⟨?_, ?_, follow_apart .., ?_, ?_⟩
  · intro i m hbefore hafter
    obtain ⟨k, j, hk, hj, hcall, hcalled, hidle⟩ := idle_of_returned client acts i m hbefore hafter
    refine ⟨k, j, hk, hj, hcall, hcalled, hidle, ?_⟩
    intro n x hn hx
    exact left_of_idle client acts hn (by omega) hidle hx
  · intro hflag
    obtain ⟨tasks, htasks⟩ := reaches_perform s .wait
    have h' := h.follow tasks
    have hsession : (c.follow tasks).session = (s.perform .wait).1 := by
      rw [Chronicle.session_follow, hs, htasks]
    have hidle := active_of_wait hflag
    rw [← hsession] at hidle ⊢
    rw [active, h'.running, List.countP_eq_zero] at hidle
    intro sub hsub
    rw [← Bool.not_eq_true]
    exact hidle sub hsub
  · rw [← hs]
    exact h.running
  · intro client' name callName call order cancelAfter hcall outcome
    obtain ⟨more, hmore⟩ := reaches_register s client' name callName hcall order cancelAfter
    have hsession : (c.follow more).session = outcome.1 := by
      rw [Chronicle.session_follow, hs, hmore]
    refine ⟨?_, length_register .., fun seen => live_of_started⟩
    rw [← hsession]
    exact (h.follow more).running

/-- A confirmation worker leaves while a wait is there, and before the wait has its turn a spend
worker is there. -/
def overtaken : List Act :=
  [.outer (.call "c" none []),
   .answer "a" "c" (.confirm none [] 1 0 ⟨.after 0, .ok ⟨[], true, false⟩⟩),
   .outer (.startWait "w"), .turn (.wait 0), .turn (.worker 0),
   .answer "b" "c" (.spend none [] 0 ⟨.after 0, .ok ⟨[], false, false⟩⟩), .turn (.wait 0)]

theorem returns_only_after_idle_overtaken :
    let s := moment ⟨⟨""⟩, ⟨1, 0, by decide⟩⟩ overtaken
    (s 6).active = 1
    ∧ (s 6).roster.isOver 0 = false
    ∧ (s 7).roster.waits[0]? = some ⟨.over, false⟩
    ∧ ∃ j, j ≤ 6 ∧ (s j).active = 0
      ∧ ∃ sub, (s 7).subs[0]? = some sub ∧ sub.watch.isLive = false := by
  intro s
  have hbefore : (s 6).roster.isOver 0 = false := rfl
  have hafter : (s 7).roster.waits[0]? = some ⟨.over, false⟩ := rfl
  obtain ⟨k, j, hk, hj, _, hcalled, hidle, hleft⟩ :=
    (returns_only_after_idle ⟨⟨""⟩, ⟨1, 0, by decide⟩⟩ overtaken).1 0 6 hbefore hafter
  refine ⟨rfl, hbefore, hafter, j, hj, hidle, ?_⟩
  apply hleft 2 0 _ (by decide)
  -- nobody had started either, but that was before the call
  by_contra hearly
  obtain rfl | rfl : k = 0 ∨ k = 1 := by omega
  · exact absurd hcalled (by decide)
  · exact absurd hcalled (by decide)

end Session

end ChainWatch
