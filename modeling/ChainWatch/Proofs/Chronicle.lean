/-
A session and the stories of its subscriptions.

A `Chronicle` follows a session and writes down the story of each of its subscriptions. It adds
nothing to what happens: the session acts by itself, and each story is told what fell to its
subscription and that its token was cancelled, whoever cancelled it. `Faithful` says that the
stories are those of the subscriptions. Hence whatever holds of every run of a single subscription
holds of every subscription of every session, whatever else that session does.
-/
import ChainWatch.Proofs.SessionEffect

set_option autoImplicit false

namespace ChainWatch

structure Chronicle where
  session : Session
  /-- The stories of the subscriptions, in the same order. -/
  stories : List Story

namespace Chronicle

def start (client : Client) : Chronicle := ⟨.start client, []⟩

/-- The story of a subscription after an act of the session. One that was not there before has
just begun. -/
def tell (c : Chronicle) (a : Session.Act) (i : Nat) (sub : Subscription) : Story :=
  let story := match c.stories[i]? with
    | some story => story.follow (c.session.share a i)
    | none => .start sub.watch
  if (c.session.act a).isCancelled sub.token then story.act .cancel else story

def act (c : Chronicle) (a : Session.Act) : Chronicle :=
  ⟨c.session.act a, (c.session.act a).subs.mapIdx (c.tell a)⟩

def follow (c : Chronicle) (acts : List Session.Act) : Chronicle := acts.foldl act c

/-- The session does what it would do unobserved. -/
theorem session_follow (c : Chronicle) (acts : List Session.Act) :
    (c.follow acts).session = c.session.follow acts := by
  induction acts generalizing c with
  | nil => rfl
  | cons a acts ih => exact ih (c.act a)

/-! ## 1. Stories and subscriptions -/

/-- A story is that of a subscription. -/
structure Agrees (s : Session) (sub : Subscription) (story : Story) : Prop where
  lived : story.Lived
  watch : story.watch = sub.watch
  cancelled : story.cancelled = s.isCancelled sub.token

structure Faithful (c : Chronicle) : Prop where
  made : c.session.Made
  length : c.stories.length = c.session.subs.length
  agrees : ∀ {i : Nat} {sub : Subscription}, c.session.subs[i]? = some sub →
    ∃ story, c.stories[i]? = some story ∧ Agrees c.session sub story
  /-- The roster counts the workers that are there. -/
  running : c.session.roster.running = c.session.subs.countP fun sub => sub.watch.isLive

theorem faithful_start (client : Client) : Faithful (start client) where
  made := ⟨by simp [CallBook.Made, start, Session.start, CallBook.empty],
    by simp [start, Session.start]⟩
  length := rfl
  agrees h := by simp [start, Session.start] at h
  running := rfl

variable {c : Chronicle}

theorem Faithful.story_eq_none (h : Faithful c) {i : Nat} (hi : c.session.subs[i]? = none) :
    c.stories[i]? = none := by
  rw [List.getElem?_eq_none_iff] at hi ⊢
  rw [h.length]
  exact hi

theorem Faithful.sub_of_story (h : Faithful c) {i : Nat} {story : Story}
    (hi : c.stories[i]? = some story) :
    ∃ sub, c.session.subs[i]? = some sub ∧ Agrees c.session sub story := by
  have hlt : i < c.session.subs.length := by
    rw [← h.length]
    exact (List.getElem?_eq_some_iff.mp hi).1
  obtain ⟨story', hi', hagrees⟩ := h.agrees (List.getElem?_eq_getElem hlt)
  rw [hi] at hi'
  cases hi'
  exact ⟨_, List.getElem?_eq_getElem hlt, hagrees⟩

/-- Once a story is told of the cancellation it agrees in this respect too. -/
theorem agrees_heed {s : Session} {sub : Subscription} {story : Story} (hlived : story.Lived)
    (hwatch : story.watch = sub.watch)
    (hc : story.cancelled = true → s.isCancelled sub.token = true) :
    Agrees s sub (if s.isCancelled sub.token then story.act .cancel else story) := by
  have hcancel : (story.act .cancel).watch = story.watch
      ∧ (story.act .cancel).cancelled = true := by
    cases story <;> exact ⟨rfl, rfl⟩
  by_cases h : s.isCancelled sub.token = true
  · rw [if_pos h]
    exact ⟨hlived.act _, hcancel.1.trans hwatch, hcancel.2.trans h.symm⟩
  · rw [if_neg h]
    refine ⟨hlived, hwatch, ?_⟩
    rw [Bool.not_eq_true] at h
    rw [h, ← Bool.not_eq_true]
    intro hcancelled
    exact absurd (h.symm.trans (hc hcancelled)) Bool.false_ne_true

/-- After one more act every subscription still agrees with its story. A subscription that the act
has started agrees because its story starts with it. For one that was there before, the session did
to its watch exactly its share of the act (`EffectOf.carries`), and that share is what the story is
told; a cancellation that reached its token meanwhile is told last (`agrees_heed`). -/
theorem Faithful.agrees_act (h : Faithful c) (a : Session.Act) {i : Nat} {sub : Subscription}
    (hi' : (c.session.act a).subs[i]? = some sub) :
    Agrees (c.session.act a) sub (c.tell a i sub) := by
  have heffect := c.session.effect_act a
  unfold tell
  cases hi : c.session.subs[i]? with
  | none =>
      -- the subscription has just been started, and so has its story
      rw [h.story_eq_none hi]
      apply agrees_heed (Story.lived_start _) (heffect.fresh hi hi').1
      intro hcancelled
      cases hsub : sub.watch <;> rw [hsub] at hcancelled <;> exact Bool.noConfusion hcancelled
  | some before =>
      obtain ⟨story, hstory, hagrees⟩ := h.agrees hi
      obtain ⟨sub', hsub', htoken, hmirrors⟩ := heffect.carries h.made hi
      rw [hi'] at hsub'
      cases hsub'
      obtain ⟨hwatch, hc⟩ := hmirrors story hagrees.lived hagrees.watch hagrees.cancelled
      rw [hstory]
      apply agrees_heed (hagrees.lived.follow _) hwatch
      rw [htoken]
      exact hc

/-! ## 2. The count of workers -/

/-- What is done under a name stops no worker and starts none. -/
theorem Faithful.countP_afterWatch (h : Faithful c) {α : Type} (name : String)
    {f : Subscription → Option (Watch × α)} {a : Watch.Act} (hwork : a ≠ .work)
    (hf : ∀ sub : Subscription, Story.Mirrors (c.session.isCancelled sub.token) sub.watch [a]
      ((f sub).elim sub.watch Prod.fst) (c.session.isCancelled sub.token)) :
    (c.session.afterWatch name f).subs.countP (fun sub => sub.watch.isLive)
      = c.session.subs.countP fun sub => sub.watch.isLive := by
  have hlive : (c.session.afterWatch name f).subs.map (fun sub => sub.watch.isLive)
      = c.session.subs.map fun sub => sub.watch.isLive := by
    apply List.ext_getElem?
    intro i
    rw [List.getElem?_map, List.getElem?_map, Session.getElem?_afterWatch]
    cases hi : c.session.subs[i]? with
    | none => rfl
    | some sub =>
        by_cases hname : c.session.subNames.lookup name = some i
        · obtain ⟨story, -, hagrees⟩ := h.agrees hi
          have hwatch := (hf sub story hagrees.lived hagrees.watch hagrees.cancelled).1
          rw [Option.map_some, Option.map_some, Option.map_some, if_pos hname, ← hwatch,
            ← hagrees.watch]
          exact congrArg some (Story.live_act story hwork)
        · rw [Option.map_some, if_neg hname]
  have hcount := congrArg (List.countP id) hlive
  rw [List.countP_map, List.countP_map] at hcount
  exact hcount

theorem live_of_step {w : Watch} {cancelled : Bool} {m : Move Watch}
    (h : w.step cancelled = some m) : w.isLive = true := by
  by_cases hlive : w.isLive = true
  · exact hlive
  · rw [Bool.not_eq_true] at hlive
    cases w with
    | epochs w =>
        have hgone : w.worker = .gone := by simpa [Watch.isLive, EpochWatch.isLive] using hlive
        simp [Watch.step, EpochWatch.step, hgone] at h
    | confirm w =>
        have hgone : w.running = false := hlive
        simp [Watch.step, ResultWatch.step, hgone] at h
    | spend w =>
        have hgone : w.running = false := hlive
        simp [Watch.step, ResultWatch.step, hgone] at h

/-- A worker that is there is counted. -/
theorem Faithful.running_pos (h : Faithful c) {j : Nat} {sub : Subscription}
    (hj : c.session.subs[j]? = some sub) (hlive : sub.watch.isLive = true) :
    0 < c.session.roster.running := by
  rw [h.running, List.countP_pos_iff]
  exact ⟨sub, List.mem_of_getElem? hj, hlive⟩

/-- A worker is counted until it leaves, and no longer. -/
theorem Faithful.running_act (h : Faithful c) (a : Session.Act) :
    (c.session.act a).roster.running
      = (c.session.act a).subs.countP fun sub => sub.watch.isLive := by
  have hrunning := h.running
  have heffect := c.session.effect_act a
  generalize c.session.act a = s' at heffect ⊢
  generalize c.session.share a = share at heffect
  cases heffect with
  | aside hsubs hsame _ => rw [hsubs, hsame, hrunning]
  | @handled _ _ name _ _ hwork hf hsubs hroster _ =>
      rw [hsubs, hroster, h.countP_afterWatch name hwork hf, hrunning]
  | worked j =>
      cases hstep : c.session.stepWorker j with
      | none => exact hrunning
      | some s' =>
          obtain ⟨sub, m, hj, hm, rfl⟩ := Session.stepWorker_some hstep
          obtain ⟨hlt, hget⟩ := List.getElem?_eq_some_iff.mp hj
          have hlive : (c.session.subs[j]).watch.isLive = true := by
            rw [hget]
            exact live_of_step hm
          have hpos := h.running_pos hj (live_of_step hm)
          -- the worker that moved was counted; now it is only if it has not left
          rw [Option.getD_some]
          simp only [Session.applyMove]
          rw [List.countP_set hlt, if_pos hlive]
          split
          · rw [hrunning]
            omega
          · rw [Roster.running_leave, hrunning]
            omega
  | cancelled token hsubs hroster _ => rw [hsubs, hroster, hrunning]
  | @opened _ name sub hstart _ hsubs hone _ =>
      -- the subscription that had the name before loses its handle, and its worker goes on
      have hlive : sub.watch.isLive = true := by
        rw [← hstart]
        exact Story.live_start _
      rw [hsubs, hone, List.countP_append, Session.dropNamed_eq,
        h.countP_afterWatch name (a := .drop) (by simp) fun _ => Story.mirrors_drop, hrunning,
        List.countP_singleton, if_pos hlive]

/-! ## 3. Every session -/

theorem Faithful.act (h : Faithful c) (a : Session.Act) : Faithful (c.act a) where
  made := (c.session.effect_act a).made h.made
  length := List.length_mapIdx
  agrees := by
    intro i sub hi
    refine ⟨c.tell a i sub, ?_, h.agrees_act a hi⟩
    simp only [Chronicle.act, List.getElem?_mapIdx]
    exact congrArg (Option.map (c.tell a i)) hi
  running := h.running_act a

theorem Faithful.follow (h : Faithful c) (acts : List Session.Act) : Faithful (c.follow acts) := by
  induction acts generalizing c with
  | nil => exact h
  | cons a acts ih => exact ih (h.act a)

theorem faithful_follow (client : Client) (acts : List Session.Act) :
    Faithful ((start client).follow acts) := (faithful_start client).follow acts

/-- The story of a subscription only ever goes on. -/
theorem Faithful.goes_on (h : Faithful c) (acts : List Session.Act) {i : Nat} {sub : Subscription}
    {story : Story} (hi : c.session.subs[i]? = some sub) (hstory : c.stories[i]? = some story) :
    ∃ acts' sub', (c.follow acts).session.subs[i]? = some sub' ∧ sub'.token = sub.token
      ∧ (c.follow acts).stories[i]? = some (story.follow acts') := by
  induction acts generalizing c sub story with
  | nil => exact ⟨[], sub, hi, rfl, hstory⟩
  | cons a acts ih =>
      obtain ⟨sub', hi', htoken, -⟩ := (c.session.effect_act a).carries h.made hi
      -- what fell to the subscription, and the cancellation if there was one
      have htell : ∃ acts', (c.act a).stories[i]? = some (story.follow acts') := by
        simp only [Chronicle.act, List.getElem?_mapIdx, hi', Option.map_some, tell, hstory]
        split
        · exact ⟨c.session.share a i ++ [.cancel], by rw [Story.follow_append]; rfl⟩
        · exact ⟨c.session.share a i, rfl⟩
      obtain ⟨acts', hacts'⟩ := htell
      obtain ⟨more, sub'', hi'', htoken', hmore⟩ := ih (h.act a) hi' hacts'
      refine ⟨acts' ++ more, sub'', hi'', htoken'.trans htoken, ?_⟩
      rw [Story.follow_append]
      exact hmore

end Chronicle

end ChainWatch
