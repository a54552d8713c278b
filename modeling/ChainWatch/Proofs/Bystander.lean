/-
What the others leave of a subscription.

A subscription is known by its name, and its contexts by theirs. Most of what can happen to a
session is done under another name or with another context (`Act.Aside`): it may cancel the token of
the subscription, but apart from that it leaves the subscription and its contexts as they are. So
whatever others do meanwhile, a worker that was at rest is found as it was, or after the turn in
which it noticed the cancellation (`Kept.advance`).
-/
import ChainWatch.Proofs.ActiveWorkers
import ChainWatch.Proofs.Turn

set_option autoImplicit false

namespace ChainWatch

/-! ## 1. Whose step it is -/

/-- Whether a step is about the subscription `n` or makes or cancels one of the contexts `K`. -/
def Step.isOwn (n : String) (K : List String) : Step → Bool
  | .call name _ _ => name ∈ K
  | .cancel name => name ∈ K
  | .register name _ _ _ => name = n
  | .feed name _ _ => name = n
  | .recv name _ => name = n
  | .split name => name = n
  | .glance name => name = n
  | .tryResult name => name = n
  | .await name => name = n
  | .drop name => name = n
  | .viewCall _ | .dropClient | .settle => false
  | .wait | .startWait _ | .waitDone _ | .abandonWait _ => false

namespace Session

variable {s s' : Session} {n : String} {K : List String} {a : Act}

/-- An act that is not about the subscription and makes none of the contexts. It may cancel them. -/
def Act.Aside (n : String) (K : List String) : Act → Prop
  | .outer (.cancel _) => True
  | .outer step => step.isOwn n K = false
  | .recv name => name ≠ n
  | .answer name _ _ => name ≠ n
  | .turn _ | .arrange .. | .refuse .. | .waitNow => True

/-- A step that is about others is made of acts that are. -/
theorem aside_of_makes {step : Step} (hstep : step.isOwn n K = false) (h : Makes step a) :
    a.Aside n K := by
  cases h with
  | turn => trivial
  | arrange => trivial
  | outer =>
      cases step with
      | cancel name => trivial
      | _ => exact hstep
  | recv heq =>
      rw [heq] at hstep
      exact of_decide_eq_false hstep
  | answer heq =>
      rw [heq] at hstep
      exact of_decide_eq_false hstep
  | refuse => trivial
  | cancel => trivial
  | waitNow => trivial

/-! ## 2. Names -/

/-- The subscription that has a name. -/
def sub? (s : Session) (name : String) : Option Subscription :=
  (s.subNames.lookup name).bind fun i => s.subs[i]?

theorem sub?_eq {i : Nat} (h : s.subNames.lookup n = some i) : s.sub? n = s.subs[i]? := by
  rw [sub?, h, Option.bind_some]

/-- Contexts, tokens and names are the same, and there are as many subscriptions. -/
structure Still (s s' : Session) : Prop where
  book : s'.book = s.book
  names : s'.subNames = s.subNames
  length : s'.subs.length = s.subs.length

theorem still_refl (s : Session) : Still s s := ⟨rfl, rfl, rfl⟩

theorem still_onWatch {α : Type} {name : String} {f : Subscription → Option (Watch × α)}
    {r : Session × α} (h : s.onWatch name f = some r) : Still s r.1 where
  book := by rw [onWatch_frame h]
  names := by rw [onWatch_frame h]
  length := length_onWatch h

/-- A request has to do with a watch, or with what is no subscription at all. -/
theorem still_outer (s : Session) {step : Step}
    (hcall : ∀ name source metadata, step ≠ .call name source metadata)
    (hcancel : ∀ name, step ≠ .cancel name) : Still s (s.act (.outer step)) := by
  have htouches := s.touches_outer step
  generalize s.act (.outer step) = s' at htouches ⊢
  cases htouches with
  | contexts => exact absurd rfl (hcall _ _ _)
  | tokens => exact absurd rfl (hcancel _)
  | watches hframe hlength =>
      refine ⟨?_, ?_, hlength⟩
      · rw [hframe]
      · rw [hframe]
  | nothing | client | waitStarted | waitAbandoned => exact ⟨rfl, rfl, rfl⟩

/-- Contexts, names and the number of subscriptions are the same. Tokens may be cancelled. -/
structure Framed (s s' : Session) : Prop where
  calls : s'.book.calls = s.book.calls
  names : s'.subNames = s.subNames
  length : s'.subs.length = s.subs.length

theorem Still.framed (h : Still s s') : Framed s s' :=
  ⟨congrArg CallBook.calls h.book, h.names, h.length⟩

theorem framed_step {t : Task} (h : s.step t = some s') : Framed s s' where
  calls := calls_step h
  names := by
    cases t with
    | worker i =>
        obtain ⟨sub, m, -, -, rfl⟩ := stepWorker_some h
        rfl
    | wait i =>
        rw [step, Option.map_eq_some_iff] at h
        obtain ⟨roster, -, rfl⟩ := h
        rfl
  length := by
    cases t with
    | worker i =>
        obtain ⟨sub, m, -, -, rfl⟩ := stepWorker_some h
        exact List.length_set
    | wait i =>
        rw [step, Option.map_eq_some_iff] at h
        obtain ⟨roster, -, rfl⟩ := h
        rfl

/-- Contexts are made, and subscriptions started and named, by nothing but what is there for it. -/
theorem framed_act (s : Session) {a : Act}
    (hcall : ∀ name source metadata, a ≠ .outer (.call name source metadata))
    (hanswer : ∀ name callName order, a ≠ .answer name callName order) : Framed s (s.act a) := by
  cases a with
  | turn t =>
      rw [act]
      cases hstep : s.step t with
      | none => exact (still_refl s).framed
      | some s' => exact framed_step hstep
  | arrange ready line => exact ⟨rfl, rfl, rfl⟩
  | outer step =>
      by_cases hcancel : ∃ name, step = .cancel name
      · obtain ⟨name, rfl⟩ := hcancel
        simp only [act, Step.isAct, perform, if_true]
        split <;> exact ⟨rfl, rfl, rfl⟩
      · refine (s.still_outer ?_ ?_).framed
        · rintro name source metadata rfl
          exact hcall name source metadata rfl
        · rintro name rfl
          exact hcancel ⟨name, rfl⟩
  | recv name =>
      rw [act, recvOnce, afterWatch]
      cases hon : s.onWatch name _ with
      | none => exact (still_refl s).framed
      | some r => exact (still_onWatch hon).framed
  | answer name callName order => exact absurd rfl (hanswer name callName order)
  | refuse kind cause => exact ⟨rfl, rfl, rfl⟩
  | waitNow => exact ⟨rfl, rfl, rfl⟩

/-- A subscription starts, last of all, on the token of the context, and has the name from then
on. -/
theorem act_answer_ok {callName : String} {order : Order} {call : Call} {watch : Watch}
    (hcall : s.book.find? callName = some call) (hanswer : order.answer = .ok watch)
    (name : String) :
    (s.act (.answer name callName order)).book = s.book
    ∧ (s.act (.answer name callName order)).subs
      = (s.dropNamed name).subs ++ [⟨call.token, watch⟩]
    ∧ (s.act (.answer name callName order)).subNames = (name, s.subs.length) :: s.subNames := by
  have hframe := s.dropNamed_frame name
  simp only [act, hcall, answered, hanswer]
  refine ⟨?_, rfl, ?_⟩
  · show (s.dropNamed name).book = s.book
    rw [hframe]
  · show (name, (s.dropNamed name).subs.length) :: (s.dropNamed name).subNames = _
    rw [length_dropNamed, hframe]

/-- An answer of the service starts a subscription, or changes nothing here. -/
theorem act_answer (s : Session) (name callName : String) (order : Order) :
    Still s (s.act (.answer name callName order))
    ∨ ∃ call watch, s.book.find? callName = some call ∧ order.answer = .ok watch := by
  rw [act]
  cases s.book.find? callName with
  | none => exact Or.inl (still_refl s)
  | some call =>
      dsimp only
      unfold answered
      cases order.answer with
      | error cause => exact Or.inl ⟨rfl, rfl, rfl⟩
      | ok watch => exact Or.inr ⟨call, watch, rfl, rfl⟩

theorem book_answer (s : Session) (name callName : String) (order : Order) :
    (s.act (.answer name callName order)).book = s.book := by
  rcases s.act_answer name callName order with hstill | ⟨call, watch, hcall, hanswer⟩
  · exact hstill.book
  · exact (act_answer_ok hcall hanswer name).1

theorem names_act (s : Session) (a : Act) :
    (s.act a).subNames = s.subNames
    ∨ ∃ name callName order, a = .answer name callName order
      ∧ (s.act a).subNames = (name, s.subs.length) :: s.subNames
      ∧ s.subs.length < (s.act a).subs.length := by
  cases a with
  | answer name callName order =>
      rcases s.act_answer name callName order with hstill | ⟨call, watch, hcall, hanswer⟩
      · exact Or.inl hstill.names
      · obtain ⟨-, hsubs, hnames⟩ := act_answer_ok hcall hanswer name
        refine Or.inr ⟨name, callName, order, rfl, hnames, ?_⟩
        rw [hsubs, List.length_append, length_dropNamed]
        exact Nat.lt_succ_self _
  | outer step =>
      left
      by_cases hcall : ∃ name source metadata, step = .call name source metadata
      · obtain ⟨name, source, metadata, rfl⟩ := hcall
        rfl
      · apply (s.framed_act ?_ (fun _ _ _ h => by cases h)).names
        rintro name source metadata ⟨⟩
        exact hcall ⟨name, source, metadata, rfl⟩
  | _ => exact Or.inl (s.framed_act (fun _ _ _ h => by cases h) fun _ _ _ h => by cases h).names

/-- Subscriptions are never taken away. -/
theorem length_act (hmade : s.Made) (a : Act) : s.subs.length ≤ (s.act a).subs.length := by
  rw [← Nat.not_lt]
  intro hlt
  obtain ⟨sub', hsub', -⟩ :=
    (effect_act s a).carries hmade (List.getElem?_eq_getElem hlt)
  rw [List.getElem?_eq_none (Nat.le_refl _)] at hsub'
  cases hsub'

/-- Every name stands for a subscription of its own. -/
structure Sound (s : Session) : Prop where
  made : s.Made
  named : ∀ name i, s.subNames.lookup name = some i → i < s.subs.length
  distinct : ∀ name name' i, s.subNames.lookup name = some i → s.subNames.lookup name' = some i →
    name = name'

theorem sound_start (client : Client) : Sound (start client) where
  made := made_follow client []
  named _ _ h := by cases h
  distinct _ _ _ h := by cases h

/-- A name that is given anew. -/
theorem lookup_cons {names : List (String × Nat)} {name other : String} {i j : Nat}
    (h : ((name, j) :: names).lookup other = some i) :
    other = name ∧ i = j ∨ other ≠ name ∧ names.lookup other = some i := by
  rw [List.lookup_cons] at h
  by_cases hsame : other = name
  · rw [hsame, beq_self_eq_true] at h
    exact Or.inl ⟨hsame, (Option.some.inj h).symm⟩
  · rw [beq_false_of_ne hsame] at h
    exact Or.inr ⟨hsame, h⟩

/-- Every name still stands for a subscription of its own. Names are given by the answer of a
service only, to the subscription that it starts, and no older name stands for that index. -/
theorem Sound.act (h : s.Sound) (a : Act) : (s.act a).Sound := by
  have hmade := (effect_act s a).made h.made
  have hlength := length_act h.made a
  -- the only name that can be new stands for the last subscription
  rcases s.names_act a with hnames | ⟨new, -, -, -, hnames, hlt⟩
  · refine { made := hmade, named := ?_, distinct := ?_ }
    · rw [hnames]
      exact fun name i hi => Nat.lt_of_lt_of_le (h.named name i hi) hlength
    · rw [hnames]
      exact h.distinct
  · refine { made := hmade, named := ?_, distinct := ?_ }
    · rw [hnames]
      intro name i hi
      rcases lookup_cons hi with ⟨-, rfl⟩ | ⟨-, hold⟩
      · exact hlt
      · exact Nat.lt_of_lt_of_le (h.named name i hold) hlength
    · rw [hnames]
      intro name name' i hi hi'
      rcases lookup_cons hi with ⟨rfl, rfl⟩ | ⟨-, hold⟩ <;>
        rcases lookup_cons hi' with ⟨rfl, hlast⟩ | ⟨-, hold'⟩
      · rfl
      · exact absurd (h.named name' _ hold') (Nat.lt_irrefl _)
      · subst hlast
        exact absurd (h.named name _ hold) (Nat.lt_irrefl _)
      · exact h.distinct name name' i hold hold'

/-! ## 3. Acts of others -/

/-- No other context is touched. -/
theorem find?_call_ne (s : Session) {name k : String} (hk : k ≠ name) (source : Option String)
    (metadata : List TextEntry) :
    (s.perform (.call name source metadata)).1.book.find? k = s.book.find? k := by
  simp only [perform]
  rw [CallBook.find?_derive_ne _ _ hk]
  cases source with
  | none => exact CallBook.find?_store_ne _ hk
  | some source => exact CallBook.find?_derive_ne _ _ hk

/-- A name stands for its context until another one is made under it. -/
theorem find?_act_ne (s : Session) {a : Act} {k : String}
    (ha : ∀ source metadata, a ≠ .outer (.call k source metadata)) :
    (s.act a).book.find? k = s.book.find? k := by
  have hcalls (hcalls : (s.act a).book.calls = s.book.calls) :
      (s.act a).book.find? k = s.book.find? k := by rw [CallBook.find?, hcalls]; rfl
  cases a with
  | outer step =>
      cases step with
      | call name source metadata =>
          have hne : k ≠ name := by
            rintro rfl
            exact ha source metadata rfl
          exact find?_call_ne s hne source metadata
      | _ =>
          exact hcalls (s.framed_act (fun _ _ _ h => by cases h) fun _ _ _ h => by cases h).calls
  | answer name callName order =>
      apply hcalls
      rw [book_answer]
  | _ =>
      exact hcalls (s.framed_act (fun _ _ _ h => by cases h) fun _ _ _ h => by cases h).calls

theorem find?_act (ha : a.Aside n K) {k : String} (hk : k ∈ K) :
    (s.act a).book.find? k = s.book.find? k := by
  apply find?_act_ne
  rintro source metadata rfl
  exact of_decide_eq_false ha hk

theorem lookup_act (ha : a.Aside n K) : (s.act a).subNames.lookup n = s.subNames.lookup n := by
  rcases s.names_act a with hnames | ⟨name, callName, order, rfl, hnames, -⟩
  · rw [hnames]
  · have hne : name ≠ n := ha
    rw [hnames, List.lookup_cons, beq_false_of_ne hne.symm]

/-- Nothing falls to a subscription that has no other name in an act of others, except that its
worker may have a turn. -/
theorem share_aside {i : Nat} (hnames : ∀ name, name ≠ n → s.subNames.lookup name ≠ some i)
    (ha : a.Aside n K) (hturn : a ≠ .turn (.worker i)) : s.share a i = [] := by
  -- what is done under another name falls to another subscription
  have hfalls {name : String} (hne : name ≠ n) (b : Watch.Act) : s.falls name b i = [] := by
    rw [falls, if_neg (hnames name hne)]
  cases a with
  | turn t =>
      cases t with
      | worker j =>
          have hij : i ≠ j := by
            rintro rfl
            exact hturn rfl
          exact if_neg hij
      | wait j => rfl
  | recv name => exact hfalls ha _
  | answer name callName order =>
      rw [share]
      cases s.book.find? callName with
      | none => rfl
      | some call =>
          cases order.answer with
          | error cause => rfl
          | ok watch => exact hfalls ha _
  | outer step =>
      cases step with
      | feed name frames close => exact hfalls (of_decide_eq_false ha) _
      | split name => exact hfalls (of_decide_eq_false ha) _
      | glance name => exact hfalls (of_decide_eq_false ha) _
      | tryResult name => exact hfalls (of_decide_eq_false ha) _
      | await name => exact hfalls (of_decide_eq_false ha) _
      | drop name => exact hfalls (of_decide_eq_false ha) _
      | _ => rfl
  | _ => rfl

/-- A subscription to which nothing falls stays as it is. -/
theorem Effect.untouched {share : Nat → List Watch.Act} (h : Effect s share s') {i : Nat}
    (hlt : i < s.subs.length) (hi : share i = []) : s'.subs[i]? = s.subs[i]? := by
  have hnamed {α : Type} {name : String} {f : Subscription → Option (Watch × α)}
      (hname : s.subNames.lookup name ≠ some i) : (s.afterWatch name f).subs[i]? = s.subs[i]? := by
    rw [getElem?_afterWatch, List.getElem?_eq_getElem hlt, Option.map_some, if_neg hname]
  have hfalls {name : String} {b : Watch.Act} (hi : s.falls name b i = []) :
      s.subNames.lookup name ≠ some i := by
    intro hname
    rw [falls, if_pos hname] at hi
    cases hi
  cases h with
  | aside hsubs _ _ => rw [hsubs]
  | handled _ _ hsubs _ _ => rw [hsubs, hnamed (hfalls hi)]
  | worked j =>
      have hij : j ≠ i := by
        rintro rfl
        dsimp only at hi
        rw [if_pos rfl] at hi
        cases hi
      cases hstep : s.stepWorker j with
      | none => rfl
      | some s' =>
          obtain ⟨sub, m, -, -, rfl⟩ := stepWorker_some hstep
          exact List.getElem?_set_ne hij
  | cancelled token hsubs _ _ => rw [hsubs]
  | @opened _ name sub hstart htoken hsubs hrunning hbook =>
      have hlt' : i < (s.dropNamed name).subs.length := by
        rw [length_dropNamed]
        exact hlt
      rw [hsubs, List.getElem?_append_left hlt', dropNamed_eq, hnamed (hfalls hi)]

/-- In an act of others a worker may move, and nothing else is done with its subscription. -/
theorem sub?_act (hsound : s.Sound) (ha : a.Aside n K) {sub : Subscription}
    (hsub : s.sub? n = some sub) :
    (s.act a).sub? n = some sub
    ∨ ∃ m, sub.watch.step (s.isCancelled sub.token) = some m
      ∧ (s.act a).sub? n = some { sub with watch := m.watch } := by
  obtain ⟨i, hname, hi⟩ := Option.bind_eq_some_iff.mp hsub
  have hlt : i < s.subs.length := hsound.named n i hname
  rw [sub?_eq ((lookup_act ha).trans hname)]
  by_cases hturn : a = .turn (.worker i)
  · subst hturn
    rw [act, step_worker hi]
    cases hm : sub.watch.step (s.isCancelled sub.token) with
    | none => exact Or.inl hi
    | some m => exact Or.inr ⟨m, rfl, List.getElem?_set_self hlt⟩
  · left
    have hnames : ∀ name, name ≠ n → s.subNames.lookup name ≠ some i :=
      fun name hne hother => hne (hsound.distinct name n i hother hname)
    rw [(effect_act s a).untouched hlt (share_aside hnames ha hturn), hi]

theorem sub?_eq_none (hsound : s.Sound) : s.sub? n = none ↔ s.subNames.lookup n = none := by
  constructor
  · intro h
    cases hname : s.subNames.lookup n with
    | none => rfl
    | some i =>
        rw [sub?_eq hname, List.getElem?_eq_getElem (hsound.named n i hname)] at h
        cases h
  · intro h
    rw [sub?, h, Option.bind_none]

end Session

/-! ## 4. What others leave -/

/-- A worker was at rest and is looked at again. Either nothing has happened to it, or its call was
cancelled and its turn takes it where it would have taken it then. -/
def Watch.Bears (w₀ : Watch) (c₀ : Bool) (w : Watch) (c : Bool) : Prop :=
  w = w₀ ∧ c = c₀ ∨ c = true ∧ (w.turn true).watch = (w₀.turn true).watch

namespace Watch

variable {w w₀ : Watch} {c c₀ : Bool} {m : Move Watch}

/-- It notices the cancellation, or has noticed it. -/
theorem Bears.later (h : w₀.Bears c₀ w c) {c' : Bool} (hc : c = true → c' = true) :
    w₀.Bears c₀ w c' := by
  rcases h with ⟨rfl, rfl⟩ | ⟨rfl, hturn⟩
  · cases c' with
    | true => exact Or.inr ⟨rfl, rfl⟩
    | false =>
        cases c with
        | true => exact absurd (hc rfl) Bool.false_ne_true
        | false => exact Or.inl ⟨rfl, rfl⟩
  · exact Or.inr ⟨hc rfl, hturn⟩

theorem Bears.step (h : w₀.Bears c₀ w c) (hrest : w₀.step c₀ = none) (hstep : w.step c = some m) :
    w₀.Bears c₀ m.watch c := by
  rcases h with ⟨rfl, rfl⟩ | ⟨rfl, hturn⟩
  · rw [hrest] at hstep
    cases hstep
  · rw [turn_step hstep, Bool.true_or] at hturn
    exact Or.inr ⟨rfl, hturn⟩

theorem Bears.rest (h : w₀.Bears c₀ w c) (hrest : w₀.step c₀ = none) (hrest' : w.step c = none) :
    w = (w₀.turn c).watch := by
  rcases h with ⟨rfl, rfl⟩ | ⟨rfl, hturn⟩
  · rw [turn_rest hrest]
  · rw [← hturn, turn_rest hrest']

end Watch

namespace Session

variable {s b : Session} {n : String} {K : List String}

/-- What stays of a subscription and of its contexts while others act. -/
structure Kept (n : String) (K : List String) (b s : Session) : Prop where
  sound : s.Sound
  grows : b.book.Grows s.book
  calls : ∀ k ∈ K, s.book.find? k = b.book.find? k
  missing : b.sub? n = none → s.sub? n = none
  found : ∀ sub, b.sub? n = some sub → ∃ w, s.sub? n = some { sub with watch := w }
    ∧ sub.watch.Bears (b.isCancelled sub.token) w (s.isCancelled sub.token)

theorem kept_refl (hsound : s.Sound) : Kept n K s s where
  sound := hsound
  grows := CallBook.grows_refl _
  calls _ _ := rfl
  missing := id
  found sub hsub := ⟨sub.watch, hsub, Or.inl ⟨rfl, rfl⟩⟩

theorem sub?_rest (hrest : s.AtRest) {sub : Subscription} (hsub : s.sub? n = some sub) :
    sub.watch.step (s.isCancelled sub.token) = none := by
  obtain ⟨i, -, hi⟩ := Option.bind_eq_some_iff.mp hsub
  exact hrest.watch hi

theorem Kept.act (h : Kept n K b s) (hrest : b.AtRest) {a : Act} (ha : a.Aside n K) :
    Kept n K b (s.act a) where
  sound := h.sound.act a
  grows := h.grows.trans (effect_act s a).grows
  calls k hk := (find?_act ha hk).trans (h.calls k hk)
  missing hnone := by
    have hname := (sub?_eq_none h.sound).mp (h.missing hnone)
    rw [sub?_eq_none (h.sound.act a), lookup_act ha, hname]
  found sub hsub := by
    obtain ⟨w, hw, hbears⟩ := h.found sub hsub
    have hlater := (effect_act s a).kept sub.token
    rcases sub?_act h.sound ha hw with hsame | ⟨m, hm, hmoved⟩
    · exact ⟨w, hsame, hbears.later hlater⟩
    · exact ⟨m.watch, hmoved, (hbears.step (sub?_rest hrest hsub) hm).later hlater⟩

/-- A step that is about others leaves a subscription that was at rest as it was, or after the turn
in which its worker noticed the cancellation. -/
theorem Kept.advance (h : Kept n K b s) (hrest : b.AtRest) {step : Step}
    (hstep : step.isOwn n K = false) (settles : Bool) : Kept n K b (s.advance step settles).1 :=
  advance_keeps (P := Kept n K b) (fun _ _ hmakes h => h.act hrest (aside_of_makes hstep hmakes))
    h settles

theorem Kept.sub?_eq (h : Kept n K b s) (hrest : b.AtRest) (hrest' : s.AtRest) :
    s.sub? n = (b.sub? n).map fun sub =>
      { sub with watch := (sub.watch.turn (s.isCancelled sub.token)).watch } := by
  cases hsub : b.sub? n with
  | none => rw [h.missing hsub, Option.map_none]
  | some sub =>
      obtain ⟨w, hw, hbears⟩ := h.found sub hsub
      rw [hw, Option.map_some, hbears.rest (sub?_rest hrest hsub) (sub?_rest hrest' hw)]

end Session

end ChainWatch
