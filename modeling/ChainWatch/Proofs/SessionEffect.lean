/-
What one act of a session does to its subscriptions.

There are many acts and few effects. An act leaves the subscriptions alone, does something with
the one that has a name, lets one worker move, cancels a token, or starts a subscription; `Effect`
lists these, and `effect_act` finds the one for each act. What holds of every act is then a
matter of five cases. Which part of a session a step from outside has to do with, subscriptions or
not, is said by `Touches`.
-/
import ChainWatch.Proofs.CallBook
import ChainWatch.Proofs.RosterRun
import ChainWatch.Proofs.SessionRun
import ChainWatch.Proofs.Story

set_option autoImplicit false

namespace ChainWatch

namespace Session

/-! ## 1. Doing something under a name -/

section AfterWatch

variable {α : Type} (s : Session) (name : String) (f : Subscription → Option (Watch × α))

/-- Nothing but the subscriptions is affected. -/
theorem afterWatch_frame : s.afterWatch name f = { s with subs := (s.afterWatch name f).subs } := by
  unfold afterWatch onWatch
  cases s.subNames.lookup name with
  | none => rfl
  | some i =>
      dsimp only
      cases s.subs[i]? with
      | none => rfl
      | some sub =>
          dsimp only
          cases f sub <;> rfl

/-- Only the subscription that has the name is affected. -/
theorem getElem?_afterWatch (i : Nat) :
    (s.afterWatch name f).subs[i]? = s.subs[i]?.map fun sub =>
      if s.subNames.lookup name = some i then
        { sub with watch := (f sub).elim sub.watch Prod.fst }
      else sub := by
  unfold afterWatch onWatch
  cases s.subNames.lookup name with
  | none => simp
  | some j =>
      dsimp only
      by_cases hij : j = i
      · subst hij
        cases hj : s.subs[j]? with
        | none => simp [hj]
        | some sub =>
            have hlt : j < s.subs.length := (List.getElem?_eq_some_iff.mp hj).1
            dsimp only
            cases hf : f sub with
            | none => simp [hj, hf]
            | some r => simp [hf, List.getElem?_set_self hlt]
      · cases hj : s.subs[j]? with
        | none => simp [hij]
        | some sub =>
            dsimp only
            cases hf : f sub with
            | none => simp [hij]
            | some r => simp [hij, List.getElem?_set_ne hij]

end AfterWatch

theorem onWatch_frame {α : Type} {s : Session} {name : String}
    {f : Subscription → Option (Watch × α)} {r : Session × α} (h : s.onWatch name f = some r) :
    r.1 = { s with subs := r.1.subs } := by
  have hframe := s.afterWatch_frame name f
  rw [afterWatch, h, Option.elim_some] at hframe
  exact hframe

/-- Dropping the handle of a name is something done under it. -/
theorem dropNamed_eq (s : Session) (name : String) :
    s.dropNamed name = s.afterWatch name fun sub => some (sub.watch.drop, ()) := by
  unfold dropNamed afterWatch onWatch
  cases s.subNames.lookup name with
  | none => rfl
  | some i =>
      dsimp only
      cases s.subs[i]? <;> rfl

theorem dropNamed_frame (s : Session) (name : String) :
    s.dropNamed name = { s with subs := (s.dropNamed name).subs } := by
  rw [dropNamed_eq]
  exact s.afterWatch_frame name _

theorem length_dropNamed (s : Session) (name : String) :
    (s.dropNamed name).subs.length = s.subs.length := by
  unfold dropNamed
  split
  · split
    · exact List.length_set
    · rfl
  · rfl

theorem length_onWatch {α : Type} {s : Session} {name : String}
    {f : Subscription → Option (Watch × α)} {r : Session × α} (h : s.onWatch name f = some r) :
    r.1.subs.length = s.subs.length := by
  unfold onWatch at h
  split at h
  · split at h
    · obtain ⟨w, -, rfl⟩ := Option.map_eq_some_iff.mp h
      exact List.length_set
    · cases h
  · cases h

theorem rouse_frame (s : Session) (name : String) :
    s.rouse name = { s with ready := (s.rouse name).ready } := by
  unfold rouse
  split
  · split
    · rfl
    · rfl
  · rfl

/-! ## 2. Steps from outside -/

/-- What a step from outside touches of a session. A request has to do with watches and the order
of the tasks. The other parts have steps of their own, one or two each. -/
inductive Touches (s : Session) : Step → Session → Prop where
  | nothing (step : Step) : Touches s step s
  | watches {step : Step} {s' : Session}
      (hframe : s' = { s with subs := s'.subs, ready := s'.ready })
      (hlength : s'.subs.length = s.subs.length) : Touches s step s'
  | contexts {name : String} {source : Option String} {metadata : List TextEntry}
      (book : CallBook) : Touches s (.call name source metadata) { s with book }
  | tokens {name : String} {call : Call} (hcall : s.book.find? name = some call) :
      Touches s (.cancel name) { s with book := s.book.cancel call }
  | client : Touches s .dropClient { s with client := none }
  | waitStarted {name : String} (waitNames : List (String × Nat)) (ready : List Task) :
      Touches s (.startWait name) { s with roster := s.roster.addWait, waitNames, ready }
  | waitAbandoned {name : String} (i : Nat) :
      Touches s (.abandonWait name) { s with roster := s.roster.abandon i }

theorem touches_onWatch {α : Type} {s : Session} {name : String}
    {f : Subscription → Option (Watch × α)} {r : Session × α} (h : s.onWatch name f = some r)
    (step : Step) : Touches s step r.1 := by
  refine .watches ?_ (length_onWatch h)
  rw [onWatch_frame h]

theorem touches_orMissing (s : Session) (name : String)
    (f : Subscription → Option (Watch × Answer)) (step : Step) :
    Touches s step (s.orMissing (s.onWatch name f)).1 := by
  cases hon : s.onWatch name f with
  | none => exact .nothing step
  | some r => exact touches_onWatch hon step

theorem touches_outer (s : Session) (step : Step) : Touches s step (s.act (.outer step)) := by
  cases step with
  | call name source metadata => exact .contexts _
  | register | recv | wait | settle => exact .nothing _
  | viewCall | waitDone =>
      simp only [act, Step.isAct, perform, if_true]
      split <;> exact .nothing _
  | cancel name =>
      simp only [act, Step.isAct, perform, if_true]
      split
      · rename_i call hcall
        exact .tokens hcall
      · exact .nothing _
  | feed name frames close =>
      simp only [act, Step.isAct, perform, if_true]
      split
      · rename_i s' answer hon
        have hframe : s' = { s with subs := s'.subs } := onWatch_frame hon
        have hlength : s'.subs.length = s.subs.length := length_onWatch hon
        dsimp only
        refine .watches ?_ ?_
        · rw [rouse_frame, hframe]
        · rw [rouse_frame]
          exact hlength
      · exact .nothing _
  | split name => exact s.touches_orMissing name _ _
  | glance name => exact s.touches_orMissing name _ _
  | tryResult name => exact s.touches_orMissing name _ _
  | await name => exact s.touches_orMissing name _ _
  | drop name =>
      simp only [act, Step.isAct, perform, if_true]
      split
      · rename_i s' hon
        exact touches_onWatch hon _
      · exact .nothing _
  | dropClient =>
      simp only [act, Step.isAct, perform, if_true]
      split
      · exact .client
      · exact .nothing _
  | startWait name =>
      simp only [act, Step.isAct, perform, if_true]
      split
      · exact .waitStarted _ _
      · exact .nothing _
  | abandonWait name =>
      simp only [act, Step.isAct, perform, if_true]
      split
      · exact .waitAbandoned _
      · exact .nothing _

/-! ## 3. The effects -/

/-- What falls to a subscription if something is done under a name. -/
def falls (s : Session) (name : String) (a : Watch.Act) (i : Nat) : List Watch.Act :=
  if s.subNames.lookup name = some i then [a] else []

/-- What falls to each subscription, by its index, when a session acts. -/
def share (s : Session) : Act → Nat → List Watch.Act
  | .turn (.worker j) => fun i => if i = j then [.work] else []
  | .recv name => s.falls name .recv
  | .outer (.feed name frames close) => s.falls name (.push frames close)
  | .outer (.split name) => s.falls name .split
  | .outer (.glance name) => s.falls name .glance
  | .outer (.tryResult name) => s.falls name .tryResult
  | .outer (.await name) => s.falls name .await
  | .outer (.drop name) => s.falls name .drop
  -- a handle that had the name before is dropped if a new subscription takes its place
  | .answer name callName order =>
      match s.book.find? callName, order.answer with
      | some _, .ok _ => s.falls name .drop
      | _, _ => fun _ => []
  | _ => fun _ => []

inductive Effect (s : Session) : (Nat → List Watch.Act) → Session → Prop where
  /-- The subscriptions are left alone. -/
  | aside {s' : Session} (hsubs : s'.subs = s.subs)
      (hrunning : s'.roster.running = s.roster.running) (hbook : s.book.Grows s'.book) :
      Effect s (fun _ => []) s'
  /-- Something is done under a name. -/
  | handled {α : Type} {s' : Session} {name : String}
      {f : Subscription → Option (Watch × α)} {a : Watch.Act} (hwork : a ≠ .work)
      (hf : ∀ sub : Subscription, Story.Mirrors (s.isCancelled sub.token) sub.watch [a]
        ((f sub).elim sub.watch Prod.fst) (s.isCancelled sub.token))
      (hsubs : s'.subs = (s.afterWatch name f).subs) (hroster : s'.roster = s.roster)
      (hbook : s'.book = s.book) : Effect s (s.falls name a) s'
  /-- A worker moves, if it can. -/
  | worked (j : Nat) :
      Effect s (fun i => if i = j then [.work] else []) ((s.stepWorker j).getD s)
  | cancelled {s' : Session} (token : Token) (hsubs : s'.subs = s.subs)
      (hroster : s'.roster = s.roster)
      (hbook : s'.book = { s.book with tokens := s.book.tokens.cancel token }) :
      Effect s (fun _ => []) s'
  /-- A subscription starts, and an older one of its name loses its handle. -/
  | opened {s' : Session} {name : String} {sub : Subscription}
      (hstart : (Story.start sub.watch).watch = sub.watch)
      (htoken : ∃ entry ∈ s.book.calls, entry.2.token = sub.token)
      (hsubs : s'.subs = (s.dropNamed name).subs ++ [sub])
      (hrunning : s'.roster.running = s.roster.running + 1) (hbook : s'.book = s.book) :
      Effect s (s.falls name .drop) s'

/-- A step that finds nothing to do it with has no effect. -/
theorem effect_none (s : Session) : Effect s (fun _ => []) s :=
  .aside rfl rfl (CallBook.grows_refl _)

/-- Something that is done under a name, and what is done beside it. -/
theorem effect_handled {α : Type} {s s' : Session} {name : String}
    {f : Subscription → Option (Watch × α)} {a : Watch.Act} (hwork : a ≠ .work)
    (hf : ∀ sub : Subscription, Story.Mirrors (s.isCancelled sub.token) sub.watch [a]
      ((f sub).elim sub.watch Prod.fst) (s.isCancelled sub.token))
    (hsome : ∀ r, s.onWatch name f = some r →
      s'.subs = r.1.subs ∧ s'.roster = r.1.roster ∧ s'.book = r.1.book)
    (hnone : s.onWatch name f = none → s' = s) : Effect s (s.falls name a) s' := by
  have hframe := s.afterWatch_frame name f
  cases hon : s.onWatch name f with
  | none =>
      have hafter : s.afterWatch name f = s := by rw [afterWatch, hon, Option.elim_none]
      rw [hnone hon]
      exact .handled hwork hf (by rw [hafter]) rfl rfl
  | some r =>
      have hafter : s.afterWatch name f = r.1 := by rw [afterWatch, hon, Option.elim_some]
      obtain ⟨hsubs, hroster, hbook⟩ := hsome r hon
      rw [← hafter] at hsubs hroster hbook
      refine .handled hwork hf hsubs ?_ ?_
      · rw [hroster, hframe]
      · rw [hbook, hframe]

theorem effect_orMissing {s : Session} {name : String}
    {f : Subscription → Option (Watch × Answer)} {a : Watch.Act} (hwork : a ≠ .work)
    (hf : ∀ sub : Subscription, Story.Mirrors (s.isCancelled sub.token) sub.watch [a]
      ((f sub).elim sub.watch Prod.fst) (s.isCancelled sub.token)) :
    Effect s (s.falls name a) (s.orMissing (s.onWatch name f)).1 := by
  apply effect_handled hwork hf
  · intro r hr
    rw [hr]
    exact ⟨rfl, rfl, rfl⟩
  · intro hnone
    rw [hnone]
    rfl

theorem effect_answered (s : Session) (name : String) {callName : String} {call : Call}
    (hcall : s.book.find? callName = some call) (order : Order) :
    Effect s
      (match order.answer with
        | .ok _ => s.falls name .drop
        | .error _ => fun _ => [])
      (s.answered name order (s.incoming call order)).1 := by
  unfold answered
  cases hanswer : order.answer with
  | ok watch =>
      have hframe := s.afterWatch_frame name fun sub => some (sub.watch.drop, ())
      refine .opened (Story.watch_start hanswer) (CallBook.mem_of_find? hcall) rfl ?_ ?_
      · show (s.dropNamed name).roster.running + 1 = _
        rw [dropNamed_eq, hframe]
      · show (s.dropNamed name).book = _
        rw [dropNamed_eq, hframe]
  | error cause => exact .aside rfl rfl (CallBook.grows_refl _)

/-- Frames come for the stream of a name. -/
theorem effect_feed (s : Session) (name : String) (frames : Frames) (close : Bool) :
    Effect s (s.falls name (.push frames close)) (s.act (.outer (.feed name frames close))) := by
  rw [act]
  apply effect_handled (a := .push frames close) (f := fun sub =>
    (sub.watch.feed frames close).map (·, Answer.done)) (by simp)
  · intro sub
    have hmirrors := Story.mirrors_push (c := s.isCancelled sub.token) (w := sub.watch)
      frames close
    cases hfeed : sub.watch.feed frames close with
    | none =>
        rw [hfeed] at hmirrors
        exact hmirrors
    | some w =>
        rw [hfeed] at hmirrors
        exact hmirrors
  · intro r hr
    simp only [Step.isAct, if_true, perform, hr, rouse]
    split
    · split
      · exact ⟨rfl, rfl, rfl⟩
      · exact ⟨rfl, rfl, rfl⟩
    · exact ⟨rfl, rfl, rfl⟩
  · intro hnone
    simp only [Step.isAct, if_true, perform, hnone]

/-- The handle of a name is dropped, unless that has been done before. -/
theorem effect_drop (s : Session) (name : String) :
    Effect s (s.falls name .drop) (s.act (.outer (.drop name))) := by
  rw [act]
  apply effect_handled (a := .drop) (f := fun sub =>
    if sub.watch.isHeld then some (sub.watch.drop, ()) else none) (by simp)
  · intro sub
    by_cases hheld : sub.watch.isHeld
    · rw [if_pos hheld]
      exact Story.mirrors_drop
    · rw [if_neg hheld]
      rw [Bool.not_eq_true] at hheld
      exact Story.mirrors_drop_again hheld
  · intro r hr
    simp only [Step.isAct, if_true, perform, hr, and_self]
  · intro hnone
    simp only [Step.isAct, if_true, perform, hnone]

/-- Each step from outside has the effect that its share promises. Most steps do one thing under a
name (`effect_handled`) or have nothing to do with subscriptions, and a step that makes a context
only adds to the book. -/
theorem effect_outer (s : Session) (step : Step) :
    Effect s (s.share (.outer step)) (s.act (.outer step)) := by
  cases step with
  | call name source metadata =>
      -- a context is made or shared first, and then its metadata is filled in
      refine .aside rfl rfl (CallBook.Grows.trans ?_ (CallBook.grows_derive _ _ _ ?_))
      · cases source with
        | none => exact CallBook.grows_create ..
        | some source => exact CallBook.grows_derive _ _ _ fun _ => rfl
      · intro call
        induction metadata generalizing call with
        | nil => rfl
        | cons entry metadata ih => exact ih _
  | viewCall name =>
      simp only [act, Step.isAct, perform, if_true]
      split <;> exact effect_none s
  | cancel name =>
      simp only [act, Step.isAct, perform, if_true]
      split
      · exact .cancelled _ rfl rfl rfl
      · exact effect_none s
  | register name callName order cancelAfter => exact effect_none s
  | feed name frames close => exact effect_feed s name frames close
  | recv name count => exact effect_none s
  | split name => exact effect_orMissing (by simp) fun _ => Story.mirrors_split
  | glance name => exact effect_orMissing (by simp) fun _ => Story.mirrors_glance
  | tryResult name => exact effect_orMissing (by simp) fun _ => Story.mirrors_tryResult
  | await name => exact effect_orMissing (by simp) fun _ => Story.mirrors_await
  | drop name => exact effect_drop s name
  | dropClient =>
      simp only [act, Step.isAct, perform, if_true]
      split
      · exact .aside rfl rfl (CallBook.grows_refl _)
      · exact effect_none s
  | wait => exact effect_none s
  | startWait name =>
      simp only [act, Step.isAct, perform, if_true]
      split
      · exact .aside rfl rfl (CallBook.grows_refl _)
      · exact effect_none s
  | waitDone name =>
      simp only [act, Step.isAct, perform, if_true]
      split <;> exact effect_none s
  | abandonWait name =>
      simp only [act, Step.isAct, perform, if_true]
      split
      · exact .aside rfl (Roster.running_abandon ..) (CallBook.grows_refl _)
      · exact effect_none s
  | settle => exact effect_none s

/-- Every act has one of the effects. -/
theorem effect_act (s : Session) (a : Act) : Effect s (s.share a) (s.act a) := by
  cases a with
  | turn t =>
      cases t with
      | worker j => exact .worked j
      | wait j =>
          simp only [act, step]
          cases hr : s.roster.stepWait j with
          | none => exact effect_none s
          | some roster =>
              exact .aside rfl (Roster.running_stepWait hr) (CallBook.grows_refl _)
  | arrange ready line => exact .aside rfl rfl (CallBook.grows_refl _)
  | recv name =>
      apply effect_handled (a := .recv) (by simp) fun _ => Story.mirrors_recv
      · intro r hr
        have hafter : s.recvOnce name = r.1 := by
          rw [recvOnce, afterWatch, hr, Option.elim_some]
        rw [act, hafter]
        exact ⟨rfl, rfl, rfl⟩
      · intro hnone
        rw [act, recvOnce, afterWatch, hnone, Option.elim_none]
  | answer name callName order =>
      simp only [act, share]
      cases hcall : s.book.find? callName with
      | none => exact effect_none s
      | some call =>
          have h := effect_answered s name hcall order
          cases hanswer : order.answer with
          | ok watch =>
              rw [hanswer] at h
              exact h
          | error cause =>
              rw [hanswer] at h
              exact h
  | refuse kind cause => exact .aside rfl rfl (CallBook.grows_refl _)
  | waitNow => exact .aside rfl (Roster.running_waitNow _) (CallBook.grows_refl _)
  | outer step => exact effect_outer s step

/-! ## 4. What every effect keeps -/

/-- Every context and every subscription is on a token that was made. -/
def Made (s : Session) : Prop :=
  s.book.Made ∧ ∀ sub ∈ s.subs, sub.token.index < s.book.tokens.fired.length

variable {s s' : Session} {share : Nat → List Watch.Act}

theorem stepWorker_eq {i : Nat} {sub : Subscription} (hi : s.subs[i]? = some sub) :
    s.stepWorker i = (sub.watch.step (s.isCancelled sub.token)).map (s.applyMove i sub) := by
  rw [stepWorker, hi]

/-- A worker that moves changes its own subscription, and perhaps cancels its token. -/
theorem stepWorker_some {j : Nat} (h : s.stepWorker j = some s') :
    ∃ sub m, s.subs[j]? = some sub ∧ sub.watch.step (s.isCancelled sub.token) = some m
      ∧ s' = s.applyMove j sub m := by
  unfold stepWorker at h
  split at h
  · rename_i sub hj
    rw [Option.map_eq_some_iff] at h
    obtain ⟨m, hm, rfl⟩ := h
    exact ⟨sub, m, hj, hm, rfl⟩
  · cases h

theorem applyMove_grows (s : Session) (j : Nat) (sub : Subscription) (m : Move Watch) :
    s.book.Grows (s.applyMove j sub m).book := by
  unfold applyMove
  dsimp only
  split
  · exact CallBook.grows_cancel ..
  · exact CallBook.grows_refl _

theorem Effect.grows (h : Effect s share s') : s.book.Grows s'.book := by
  cases h with
  | aside _ _ hbook => exact hbook
  | handled _ _ _ _ hbook =>
      rw [hbook]
      exact CallBook.grows_refl _
  | worked j =>
      cases hstep : s.stepWorker j with
      | none => exact CallBook.grows_refl _
      | some s' =>
          obtain ⟨sub, m, -, -, rfl⟩ := stepWorker_some hstep
          exact applyMove_grows ..
  | cancelled token _ _ hbook =>
      rw [hbook]
      exact CallBook.grows_cancel ..
  | opened _ _ _ _ hbook =>
      rw [hbook]
      exact CallBook.grows_refl _

/-- A token that is cancelled stays so. -/
theorem Effect.kept (h : Effect s share s') (token : Token) :
    s.isCancelled token = true → s'.isCancelled token = true := h.grows.fired token

/-- What is done under a name falls to the subscription that has it. -/
theorem carries_afterWatch {α : Type} {name : String} {f : Subscription → Option (Watch × α)}
    {a : Watch.Act} {i : Nat} {sub : Subscription} {c c' : Bool} (hkept : c = true → c' = true)
    (hf : Story.Mirrors c sub.watch [a] ((f sub).elim sub.watch Prod.fst) c)
    (hi : s.subs[i]? = some sub) :
    ∃ sub', (s.afterWatch name f).subs[i]? = some sub' ∧ sub'.token = sub.token
      ∧ Story.Mirrors c sub.watch (s.falls name a i) sub'.watch c' := by
  rw [getElem?_afterWatch, hi, Option.map_some, falls]
  by_cases hname : s.subNames.lookup name = some i
  · rw [if_pos hname, if_pos hname]
    refine ⟨_, rfl, rfl, ?_⟩
    intro story hlived hwatch hc
    obtain ⟨hafter, hcancel⟩ := hf story hlived hwatch hc
    exact ⟨hafter, fun h => hkept (hcancel h)⟩
  · rw [if_neg hname, if_neg hname]
    exact ⟨sub, rfl, rfl, Story.mirrors_nil hkept⟩

/-- A worker that has its turn moves as the one of its story, or waits as that one does. -/
theorem carries_turn (hmade : s.Made) {i : Nat} {sub : Subscription} (hi : s.subs[i]? = some sub) :
    ∃ sub', ((s.stepWorker i).getD s).subs[i]? = some sub' ∧ sub'.token = sub.token
      ∧ Story.Mirrors (s.isCancelled sub.token) sub.watch [.work] sub'.watch
          (((s.stepWorker i).getD s).isCancelled sub.token) := by
  have hkept := (Effect.worked (s := s) i).kept sub.token
  rw [stepWorker_eq hi] at hkept ⊢
  cases hm : sub.watch.step (s.isCancelled sub.token) with
  | none =>
      rw [Option.map_none, Option.getD_none]
      have hrest (m : Move Watch) (h : sub.watch.step (s.isCancelled sub.token) = some m) :
          m.cancels = true → s.isCancelled sub.token = true := by
        rw [hm] at h
        cases h
      have hmirrors := Story.mirrors_work id hrest
      rw [hm] at hmirrors
      exact ⟨sub, hi, rfl, hmirrors⟩
  | some m =>
      rw [hm, Option.map_some, Option.getD_some] at hkept
      rw [Option.map_some, Option.getD_some]
      have hlt : i < s.subs.length := (List.getElem?_eq_some_iff.mp hi).1
      refine ⟨{ sub with watch := m.watch }, List.getElem?_set_self hlt, rfl, ?_⟩
      have hcancels : m.cancels = true → (s.applyMove i sub m).isCancelled sub.token = true := by
        intro hcancels
        simp only [applyMove, hcancels, if_true, isCancelled]
        apply Tokens.isCancelled_cancel_self
        exact hmade.2 sub (List.mem_of_getElem? hi)
      have hmirrors := Story.mirrors_work (w := sub.watch) hkept (by
        rintro m' hm' hc'
        rw [hm] at hm'
        cases hm'
        exact hcancels hc')
      rw [hm] at hmirrors
      exact hmirrors

/-- A subscription stays where it is, on its token, and moves as its story says. -/
theorem Effect.carries (h : Effect s share s') (hmade : s.Made) {i : Nat} {sub : Subscription}
    (hi : s.subs[i]? = some sub) :
    ∃ sub', s'.subs[i]? = some sub' ∧ sub'.token = sub.token
      ∧ Story.Mirrors (s.isCancelled sub.token) sub.watch (share i) sub'.watch
          (s'.isCancelled sub.token) := by
  have hkept := h.kept sub.token
  cases h with
  | aside hsubs _ _ =>
      rw [hsubs]
      exact ⟨sub, hi, rfl, Story.mirrors_nil hkept⟩
  | handled _ hf hsubs _ _ =>
      rw [hsubs]
      exact carries_afterWatch hkept (hf sub) hi
  | worked j =>
      by_cases hij : i = j
      · subst hij
        dsimp only
        rw [if_pos rfl]
        exact carries_turn hmade hi
      · dsimp only
        rw [if_neg hij]
        refine ⟨sub, ?_, rfl, Story.mirrors_nil hkept⟩
        cases hstep : s.stepWorker j with
        | none => exact hi
        | some s' =>
            obtain ⟨sub', m, -, -, rfl⟩ := stepWorker_some hstep
            exact (List.getElem?_set_ne (Ne.symm hij)).trans hi
  | cancelled token hsubs _ _ =>
      rw [hsubs]
      exact ⟨sub, hi, rfl, Story.mirrors_nil hkept⟩
  | opened _ _ hsubs _ _ =>
      obtain ⟨sub', hsub', htoken, hmirrors⟩ := carries_afterWatch
        (f := fun sub => some (sub.watch.drop, ())) hkept Story.mirrors_drop hi
      refine ⟨sub', ?_, htoken, hmirrors⟩
      rw [← dropNamed_eq] at hsub'
      have hlt := (List.getElem?_eq_some_iff.mp hsub').1
      rw [hsubs, List.getElem?_append_left hlt, hsub']

/-- A subscription that was not there before has just been started, on the token of a context. -/
theorem Effect.fresh (h : Effect s share s') {i : Nat} {sub : Subscription}
    (hi : s.subs[i]? = none) (hi' : s'.subs[i]? = some sub) :
    (Story.start sub.watch).watch = sub.watch
      ∧ ∃ entry ∈ s.book.calls, entry.2.token = sub.token := by
  have hnamed {α : Type} {name : String} {f : Subscription → Option (Watch × α)} :
      (s.afterWatch name f).subs[i]? = none := by
    rw [getElem?_afterWatch, hi, Option.map_none]
  cases h with
  | aside hsubs _ _ =>
      rw [hsubs, hi] at hi'
      cases hi'
  | handled _ _ hsubs _ _ =>
      rw [hsubs, hnamed] at hi'
      cases hi'
  | worked j =>
      cases hstep : s.stepWorker j with
      | none =>
          rw [hstep, Option.getD_none, hi] at hi'
          cases hi'
      | some s' =>
          obtain ⟨sub', m, -, -, rfl⟩ := stepWorker_some hstep
          have hlt := (List.getElem?_eq_some_iff.mp hi').1
          simp only [hstep, Option.getD_some, applyMove, List.length_set] at hlt
          rw [List.getElem?_eq_getElem hlt] at hi
          cases hi
  | cancelled token hsubs _ _ =>
      rw [hsubs, hi] at hi'
      cases hi'
  | opened hstart htoken hsubs _ _ =>
      rw [hsubs, dropNamed_eq, List.getElem?_append, hnamed] at hi'
      split at hi'
      · cases hi'
      · rw [List.getElem?_singleton] at hi'
        split at hi'
        · cases hi'
          exact ⟨hstart, htoken⟩
        · cases hi'

theorem Effect.made (h : Effect s share s') (hmade : s.Made) : s'.Made := by
  have hgrows := h.grows
  refine ⟨hgrows.made hmade.1, ?_⟩
  intro sub' hmem
  obtain ⟨i, hi'⟩ := List.getElem?_of_mem hmem
  cases hi : s.subs[i]? with
  | none =>
      obtain ⟨-, entry, hentry, htoken⟩ := h.fresh hi hi'
      have hlt := hmade.1 entry hentry
      rw [← htoken]
      exact Nat.lt_of_lt_of_le hlt hgrows.length
  | some sub =>
      obtain ⟨sub'', hi'', htoken, -⟩ := h.carries hmade hi
      rw [hi'] at hi''
      cases hi''
      rw [htoken]
      exact Nat.lt_of_lt_of_le (hmade.2 sub (List.mem_of_getElem? hi)) hgrows.length

end Session

end ChainWatch
