/-
What is done with a subscription and its contexts, in two sessions that look the same to it.

Whatever is done under the name of the subscription or with one of its contexts is answered alike
and leaves the sessions alike. That holds of each request (`Alike.onWatch`), of a context that is
made (`Alike.call`), of a registration and all that happens during it (`Alike.register`), and so of
a step of a script after which the tasks run (`Alike.advance`).
-/
import ChainWatch.Proofs.Alike

set_option autoImplicit false

namespace ChainWatch

namespace Session

variable {s s' : Session} {n : String} {K : List String}

/-! ## 1. Requests -/

/-- The session with another watch under a name. -/
def put (s : Session) (n : String) (w : Watch) : Session := s.afterWatch n fun _ => some (w, ())

/-- To do something under a name is to do it with the subscription that has it. -/
theorem onWatch_eq {α : Type} (s : Session) (n : String) (f : Subscription → Option (Watch × α)) :
    s.onWatch n f = (s.sub? n).bind fun sub => (f sub).map fun r => (s.put n r.1, r.2) := by
  unfold put afterWatch onWatch sub?
  cases s.subNames.lookup n with
  | none => rfl
  | some i =>
      rw [Option.bind_some]
      dsimp only
      cases s.subs[i]? with
      | none => rfl
      | some sub =>
          dsimp only
          rw [Option.bind_some]
          rfl

theorem put_frame (s : Session) (n : String) (w : Watch) :
    s.put n w = { s with subs := (s.put n w).subs } := s.afterWatch_frame n _

theorem getElem?_put (s : Session) (n : String) (w : Watch) (i : Nat) :
    (s.put n w).subs[i]? = if s.subNames.lookup n = some i then
        s.subs[i]?.map fun sub => { sub with watch := w }
      else s.subs[i]? := by
  rw [put, getElem?_afterWatch]
  by_cases hname : s.subNames.lookup n = some i
  · simp only [if_pos hname, Option.elim_some]
  · simp only [if_neg hname, Option.map_id']

/-- Nothing but the watch of the subscription is updated. The names stand for the indices they stood
for, so every other subscription is found where it was, as it was. -/
theorem updated_put (hq : s.Quiet n) (w : Watch) :
    Updated n .subscription false (fun _ => w) s (s.put n w) where
  quiet := {
    sound := {
      made := by
        rw [Made, put_frame]
        refine ⟨hq.sound.made.1, ?_⟩
        intro sub' hmem
        obtain ⟨i, hi⟩ := List.getElem?_of_mem hmem
        replace hi : (s.put n w).subs[i]? = some sub' := hi
        rw [getElem?_put] at hi
        split at hi
        · obtain ⟨sub, hsub, rfl⟩ := Option.map_eq_some_iff.mp hi
          exact hq.sound.made.2 sub (List.mem_of_getElem? hsub)
        · exact hq.sound.made.2 sub' (List.mem_of_getElem? hi)
      named := by
        rw [put_frame]
        intro name i hname
        have hlt := hq.sound.named name i hname
        have hi := s.getElem?_put n w i
        rw [List.getElem?_eq_getElem hlt] at hi
        split at hi
        · exact (List.getElem?_eq_some_iff.mp hi).1
        · exact (List.getElem?_eq_some_iff.mp hi).1
      distinct := by
        rw [put_frame]
        exact hq.sound.distinct }
    idle := by
      intro i sub hname hi
      rw [put_frame] at hname
      rw [getElem?_put, if_neg hname] at hi
      exact hq.idle i sub hname hi }
  calls := by rw [put_frame]
  sub := by
    have hnames : (s.put n w).subNames = s.subNames := by rw [put_frame]
    rw [sub?, sub?, hnames]
    cases hname : s.subNames.lookup n with
    | none => rfl
    | some i =>
        rw [Option.bind_some, Option.bind_some, getElem?_put, if_pos hname]
  fired token := by
    rw [isCancelled, put_frame, Bool.false_and, Bool.or_false]
    rfl

theorem Alike.put (h : Alike n K s s') (w : Watch) : Alike n K (s.put n w) (s'.put n w) :=
  h.updated (subscription_mem K) (updated_put h.left w) (updated_put h.right w)

/-- The same answer, and sessions that still look the same. -/
def Agree {α : Type} (n : String) (K : List String) (r r' : Session × α) : Prop :=
  Alike n K r.1 r'.1 ∧ r.2 = r'.2

/-- What can be done with the watch of a subscription in one session can be done in the other. -/
theorem Alike.onWatch {α : Type} (h : Alike n K s s') (f : Bool → Watch → Option (Watch × α)) :
    ((s.onWatch n fun sub => f (s.isCancelled sub.token) sub.watch) = none
      ∧ (s'.onWatch n fun sub => f (s'.isCancelled sub.token) sub.watch) = none)
    ∨ ∃ r r', (s.onWatch n fun sub => f (s.isCancelled sub.token) sub.watch) = some r
      ∧ (s'.onWatch n fun sub => f (s'.isCancelled sub.token) sub.watch) = some r'
      ∧ Agree n K r r' := by
  rw [onWatch_eq, onWatch_eq]
  rcases h.cases_sub with ⟨hsub, hsub'⟩ | ⟨sub, sub', hsub, hsub', hwatch, hcancelled⟩
  · rw [hsub, hsub']
    exact Or.inl ⟨rfl, rfl⟩
  · rw [hsub, hsub', Option.bind_some, Option.bind_some, hwatch, hcancelled]
    cases f (s'.isCancelled sub'.token) sub'.watch with
    | none => exact Or.inl ⟨rfl, rfl⟩
    | some r => exact Or.inr ⟨_, _, rfl, rfl, h.put r.1, rfl⟩

theorem Alike.orMissing (h : Alike n K s s') (f : Watch → Option (Watch × Answer)) :
    Agree n K (s.orMissing (s.onWatch n fun sub => f sub.watch))
      (s'.orMissing (s'.onWatch n fun sub => f sub.watch)) := by
  rcases h.onWatch fun _ => f with ⟨hon, hon'⟩ | ⟨r, r', hon, hon', hagree⟩
  · rw [hon, hon']
    exact ⟨h, rfl⟩
  · rw [hon, hon']
    exact hagree

theorem Alike.feed (h : Alike n K s s') (frames : Frames) (close : Bool) :
    Agree n K (s.perform (.feed n frames close)) (s'.perform (.feed n frames close)) := by
  simp only [perform]
  rcases h.onWatch fun _ w => (w.feed frames close).map (·, Answer.done) with
    ⟨hon, hon'⟩ | ⟨r, r', hon, hon', hagree⟩
  · rw [hon, hon']
    exact ⟨h, rfl⟩
  · rw [hon, hon']
    refine ⟨?_, hagree.2⟩
    show Alike n K (r.1.rouse n) (r'.1.rouse n)
    rw [rouse_frame r.1, rouse_frame r'.1]
    exact hagree.1.congr rfl rfl rfl rfl rfl rfl

theorem Alike.drop (h : Alike n K s s') :
    Agree n K (s.perform (.drop n)) (s'.perform (.drop n)) := by
  simp only [perform]
  rcases h.onWatch fun _ w => if w.isHeld then some (w.drop, ()) else none with
    ⟨hon, hon'⟩ | ⟨r, r', hon, hon', hagree⟩
  · rw [hon, hon']
    exact ⟨h, rfl⟩
  · rw [hon, hon']
    exact ⟨hagree.1, rfl⟩

/-- Several requests for a height, between which the worker has its turns. -/
theorem Alike.recvMany (h : Alike n K s s') (count : Nat) :
    Agree n K (s.recvMany n count) (s'.recvMany n count) := by
  induction count generalizing s s' with
  | zero => exact ⟨h, rfl⟩
  | succ count ih =>
      rw [Session.recvMany, Session.recvMany]
      rcases h.onWatch fun c w => w.recv? c with ⟨hon, hon'⟩ | ⟨r, r', hon, hon', halike, hanswer⟩
      · rw [hon, hon']
        exact ⟨h, rfl⟩
      · rw [hon, hon']
        dsimp only
        rw [hanswer]
        -- the tasks run only if there is another request
        split
        · exact ⟨halike, rfl⟩
        · obtain ⟨halike', hanswers⟩ := ih halike.settle
          exact ⟨halike', congrArg (r'.2 :: ·) hanswers⟩

theorem Alike.recv (h : Alike n K s s') (count : Nat) :
    Agree n K (s.perform (.recv n count)) (s'.perform (.recv n count)) := by
  have hsequence : s.hasSequence n = s'.hasSequence n := by
    unfold hasSequence
    rcases h.onWatch fun _ w => if w.isSequence then some (w, ()) else none with
      ⟨hon, hon'⟩ | ⟨r, r', hon, hon', -⟩
    · rw [hon, hon']
    · rw [hon, hon']
      rfl
  simp only [perform, hsequence]
  split
  · obtain ⟨halike, hanswers⟩ := h.recvMany count
    exact ⟨halike, congrArg Answer.received hanswers⟩
  · exact ⟨h, rfl⟩

/-! ## 2. Contexts -/

end Session

/-- The metadata with some entries written over it. -/
def filled (metadata : List TextEntry) (m : TextMap) : TextMap :=
  metadata.foldl (fun m entry => m.insert entry.1 entry.2) m

theorem foldl_withMetadata (metadata : List TextEntry) (call : Call) :
    metadata.foldl (fun call entry => call.withMetadata entry.1 entry.2) call
      = ⟨call.token, filled metadata call.metadata⟩ := by
  induction metadata generalizing call with
  | nil => rfl
  | cons entry metadata ih => exact ih _

namespace Session

variable {s s' : Session} {n : String} {K : List String}

/-- The context that a step makes: on a token of its own, or on that of its source. Without that one
there is only more metadata for the context that has the name, if there is one. -/
theorem find?_call (s : Session) (name : String) (source : Option String)
    (metadata : List TextEntry) :
    (s.perform (.call name source metadata)).1.book.find? name = match source with
      | none => some ⟨s.book.tokens.next, filled metadata .empty⟩
      | some source => match s.book.find? source with
        | some call => some ⟨call.token, filled metadata .empty⟩
        | none => (s.book.find? name).map fun call =>
            ⟨call.token, filled metadata call.metadata⟩ := by
  simp only [perform, foldl_withMetadata]
  rw [CallBook.find?_derive]
  cases source with
  | none =>
      dsimp only
      rw [CallBook.create, CallBook.find?_store_self]
      rfl
  | some source =>
      dsimp only
      rw [CallBook.find?_derive]
      cases s.book.find? source with
      | some call => rfl
      | none => cases s.book.find? name <;> rfl

theorem isCancelled_call (s : Session) (name : String) (source : Option String)
    (metadata : List TextEntry) (token : Token) :
    (s.perform (.call name source metadata)).1.isCancelled token = s.isCancelled token := by
  simp only [perform, isCancelled, CallBook.tokens_derive]
  cases source with
  | none => exact Tokens.isCancelled_fresh ..
  | some source => rw [CallBook.tokens_derive]

theorem made_tokenOf (hsound : s.Sound) {x : Holder} {token : Token}
    (h : s.tokenOf n x = some token) : token.index < s.book.tokens.fired.length := by
  cases x with
  | context name =>
      obtain ⟨call, hcall, rfl⟩ := Option.map_eq_some_iff.mp h
      obtain ⟨entry, hentry, htoken⟩ := CallBook.mem_of_find? hcall
      rw [← htoken]
      exact hsound.made.1 entry hentry
  | subscription =>
      obtain ⟨sub, hsub, rfl⟩ := Option.map_eq_some_iff.mp h
      obtain ⟨i, -, hi⟩ := Option.bind_eq_some_iff.mp hsub
      exact hsound.made.2 sub (List.mem_of_getElem? hi)

/-- Nobody is on the token that is made next, and it is not cancelled. -/
theorem next_unused (hsound : s.Sound) :
    (∀ x, s.tokenOf n x ≠ some s.book.tokens.next) ∧ s.isCancelled s.book.tokens.next = false := by
  refine ⟨?_, ?_⟩
  · intro x hx
    exact absurd (made_tokenOf hsound hx) (Nat.lt_irrefl _)
  · rw [isCancelled, Tokens.isCancelled, Tokens.next, List.getD_eq_getElem?_getD,
      List.getElem?_eq_none (Nat.le_refl _), Option.getD_none]

section Call

variable {name : String} {source : Option String} {metadata : List TextEntry}

theorem quiet_call (hq : s.Quiet n) : (s.perform (.call name source metadata)).1.Quiet n where
  sound := hq.sound.act (.outer (.call name source metadata))
  idle := hq.idle

theorem tokenOf_call {x : Holder} (hx : x ≠ .context name) :
    (s.perform (.call name source metadata)).1.tokenOf n x = s.tokenOf n x := by
  cases x with
  | subscription => rfl
  | context other =>
      have hne : other ≠ name := by
        rintro rfl
        exact hx rfl
      rw [tokenOf, tokenOf, find?_call_ne s hne]

/-- The holders are on like tokens after a context was made. A context without a source is on a
token that nobody has, in either session (`TokensAlike.fresh`). One that is made from a source is
where its source is, or where it was itself if there is no such source, so everybody is where
somebody was before (`TokensAlike.pull`). -/
theorem Alike.tokens_call (h : Alike n K s s')
    (hsource : ∀ other, source = some other → other ∈ K) :
    TokensAlike (holders K) ((s.perform (.call name source metadata)).1.tokenOf n)
      ((s'.perform (.call name source metadata)).1.tokenOf n) s.isCancelled s'.isCancelled := by
  have hcall := s.find?_call name source metadata
  have hcall' := s'.find?_call name source metadata
  cases source with
  | none =>
      obtain ⟨hunused, hopen⟩ := next_unused (n := n) h.left.sound
      obtain ⟨hunused', hopen'⟩ := next_unused (n := n) h.right.sound
      have hself : (s.perform (.call name none metadata)).1.tokenOf n (.context name)
          = some s.book.tokens.next := by rw [tokenOf, hcall, Option.map_some]
      have hself' : (s'.perform (.call name none metadata)).1.tokenOf n (.context name)
          = some s'.book.tokens.next := by rw [tokenOf, hcall', Option.map_some]
      apply h.tokens.fresh hself hself'
      · exact fun _ => tokenOf_call
      · exact fun _ => tokenOf_call
      · exact hunused
      · exact hunused'
      · rw [hopen, hopen']
  | some other =>
      dsimp only at hcall hcall'
      -- the context takes the place of its source, or keeps its own
      apply h.tokens.pull
      intro x hx
      by_cases hxname : x = .context name
      · subst hxname
        rcases h.cases_call (hsource other rfl) with
          ⟨hother, hother'⟩ | ⟨call, call', hother, hother', -, -⟩
        · refine ⟨.context name, hx, ?_, ?_⟩
          · rw [tokenOf, hcall, hother, Option.map_map]
            rfl
          · rw [tokenOf, hcall', hother', Option.map_map]
            rfl
        · refine ⟨.context other, context_mem (hsource other rfl), ?_, ?_⟩
          · rw [tokenOf, tokenOf, hcall, hother]
            rfl
          · rw [tokenOf, tokenOf, hcall', hother']
            rfl
      · exact ⟨x, hx, tokenOf_call hxname, tokenOf_call hxname⟩

/-- A context is made alike in both sessions: what it carries comes from the step and from its
source, which carries the same in both. -/
theorem Alike.call (h : Alike n K s s') (hname : name ∈ K)
    (hsource : ∀ other, source = some other → other ∈ K) :
    Agree n K (s.perform (.call name source metadata))
      (s'.perform (.call name source metadata)) where
  left := {
    left := quiet_call h.left
    right := quiet_call h.right
    metadata := by
      intro k hk
      by_cases hkname : k = name
      · subst hkname
        rw [find?_call, find?_call]
        cases source with
        | none => rfl
        | some other =>
            rcases h.cases_call (hsource other rfl) with
              ⟨hother, hother'⟩ | ⟨call, call', hother, hother', -, -⟩
            · have hmetadata := congrArg (Option.map (filled metadata)) (h.metadata k hk)
              rw [Option.map_map, Option.map_map] at hmetadata
              simp only [hother, hother', Option.map_map]
              exact hmetadata
            · simp only [hother, hother', Option.map_some]
      · rw [find?_call_ne s hkname, find?_call_ne s' hkname]
        exact h.metadata k hk
    watch := h.watch
    tokens := by
      have hopen : (s.perform (.call name source metadata)).1.isCancelled = s.isCancelled :=
        funext (isCancelled_call s name source metadata)
      have hopen' : (s'.perform (.call name source metadata)).1.isCancelled = s'.isCancelled :=
        funext (isCancelled_call s' name source metadata)
      rw [hopen, hopen']
      exact h.tokens_call hsource }
  right := rfl

end Call

/-! ## 3. Registrations -/

/-- When the service has accepted, the name stands for the new subscription, and every older one is
idle. -/
theorem answer_ok (hsound : s.Sound) (hrest : s.AtRest) {callName : String} {order : Order}
    {call : Call} {watch : Watch} (hcall : s.book.find? callName = some call)
    (hanswer : order.answer = .ok watch) :
    (s.act (.answer n callName order)).sub? n = some ⟨call.token, watch⟩
    ∧ (s.act (.answer n callName order)).Quiet n := by
  obtain ⟨-, hsubs, hnames⟩ := act_answer_ok hcall hanswer n
  have hname : (s.act (.answer n callName order)).subNames.lookup n = some s.subs.length := by
    rw [hnames, List.lookup_cons_self]
  refine ⟨?_, { sound := hsound.act _, idle := ?_ }⟩
  -- the last subscription is the new one, and the others were at rest before
  · rw [sub?_eq hname, hsubs, ← length_dropNamed s n, List.getElem?_concat_length]
  · intro i sub hi hsub
    rw [hname, ne_eq, Option.some.injEq, eq_comm] at hi
    rw [hsubs, List.getElem?_append] at hsub
    split at hsub
    · rw [dropNamed_eq, getElem?_afterWatch, Option.map_eq_some_iff] at hsub
      obtain ⟨old, hold, rfl⟩ := hsub
      have hidle := idle_of_atRest hrest hold
      split
      · exact hidle.drop
      · exact hidle
    · rename_i hge
      rw [length_dropNamed] at hge hsub
      rw [List.getElem?_eq_none (by rw [List.length_singleton]; omega)] at hsub
      cases hsub

section Register

variable {callName : String} {call call' : Call} {order : Order}

/-- The sessions still agree after two registrations, of which the same can be seen. -/
def AgreeSeen (n : String) (K : List String) (r r' : Session × Registered Incoming) : Prop :=
  Agree n K (r.1, r.2.map Incoming.seen) (r'.1, r'.2.map Incoming.seen)

theorem Alike.refuse (h : Alike n K s s') (kind : WatchKind) {incoming incoming' : Option Incoming}
    (hseen : incoming.map Incoming.seen = incoming'.map Incoming.seen) (cause : LinkError) :
    AgreeSeen n K (s.refuse kind incoming cause) (s'.refuse kind incoming' cause) :=
  ⟨h.congr rfl rfl rfl rfl rfl rfl, congrArg (Registered.refused · (.setup cause)) hseen⟩

/-- A stream that is opened is on the token that the service was given, and so it is as its context
is, in either session. -/
theorem Alike.answer (h : Alike n K s s') (hrest : s.AtRest) (hrest' : s'.AtRest)
    (hk : callName ∈ K) (hcall : s.book.find? callName = some call)
    (hcall' : s'.book.find? callName = some call') {incoming incoming' : Incoming}
    (htoken : incoming.call.token = call.token) (htoken' : incoming'.call.token = call'.token)
    (hseen : incoming.seen = incoming'.seen) :
    AgreeSeen n K (s.answered n order incoming) (s'.answered n order incoming') := by
  have hact {s : Session} {call : Call} {incoming : Incoming}
      (hcall : s.book.find? callName = some call) (htoken : incoming.call.token = call.token) :
      (s.answered n order incoming).1 = s.act (.answer n callName order) := by
    simp only [act, hcall]
    exact answered_fst s n order htoken
  cases hanswer : order.answer with
  | error cause =>
      unfold answered
      rw [hanswer]
      have hsome : (some incoming).map Incoming.seen = (some incoming').map Incoming.seen :=
        congrArg some hseen
      exact h.refuse order.kind hsome cause
  | ok watch =>
      obtain ⟨hsub, hquiet⟩ := answer_ok (n := n) h.left.sound hrest hcall hanswer
      obtain ⟨hsub', hquiet'⟩ := answer_ok (n := n) h.right.sound hrest' hcall' hanswer
      have hbook := s.book_answer n callName order
      have hbook' := s'.book_answer n callName order
      have hstarted : (s.answered n order incoming).2.map Incoming.seen
          = (s'.answered n order incoming').2.map Incoming.seen := by
        unfold answered
        rw [hanswer]
        exact congrArg Registered.started hseen
      refine ⟨?_, hstarted⟩
      rw [hact hcall htoken, hact hcall' htoken']
      refine { left := hquiet, right := hquiet', metadata := ?_, watch := ?_, tokens := ?_ }
      · rw [hbook, hbook']
        exact h.metadata
      · rw [hsub, hsub']
        rfl
      · rw [isCancelled_congr hbook, isCancelled_congr hbook']
        -- the subscription takes the place of its context
        apply h.tokens.pull
        intro x hx
        cases x with
        | subscription =>
            refine ⟨.context callName, context_mem hk, ?_, ?_⟩
            · rw [tokenOf, tokenOf, hsub, hcall]
              rfl
            · rw [tokenOf, tokenOf, hsub', hcall']
              rfl
        | context name =>
            refine ⟨.context name, hx, ?_, ?_⟩
            · rw [tokenOf, tokenOf, hbook]
            · rw [tokenOf, tokenOf, hbook']

/-- A registration comes to the same in two sessions that look alike to the subscription and its
contexts. The tokens may be numbered differently in them, but each is cancelled in the one when it
is in the other: before the call, when the tasks have run, and when the caller cancels. So the same
branch is taken in both, and on every branch the sessions still look alike. -/
theorem Alike.register (h : Alike n K s s') (hrest : s.AtRest) (hrest' : s'.AtRest)
    (hk : callName ∈ K) (hcall : s.book.find? callName = some call)
    (hcall' : s'.book.find? callName = some call') (client : Client) (cancelAfter : Option Nat) :
    AgreeSeen n K (s.register client n call order cancelAfter)
      (s'.register client n call' order cancelAfter) := by
  obtain ⟨hmetadata, hoff⟩ := h.call_eq hk hcall hcall'
  have hseen : (s.incoming (call.withAuth client.macaroon) order).seen
      = (s'.incoming (call'.withAuth client.macaroon) order).seen := by
    simp only [incoming, Incoming.seen, Call.withAuth, Call.withMetadata, hoff, hmetadata]
  have hsome : (some (s.incoming (call.withAuth client.macaroon) order)).map Incoming.seen
      = (some (s'.incoming (call'.withAuth client.macaroon) order)).map Incoming.seen :=
    congrArg some hseen
  unfold Session.register
  rw [hoff]
  split
  · exact h.refuse order.kind rfl .cancelled
  dsimp only
  -- unless the matter is decided at once the tasks run meanwhile, in both sessions
  generalize hs₁ : (if Registration.isImmediate client.timeout order.pace then s else s.settle) = s₁
  generalize hs₁' :
    (if Registration.isImmediate client.timeout order.pace then s' else s'.settle) = s₁'
  obtain ⟨h₁, hrest₁, hrest₁', hcall₁, hcall₁'⟩ : Alike n K s₁ s₁' ∧ s₁.AtRest ∧ s₁'.AtRest
      ∧ s₁.book.find? callName = some call ∧ s₁'.book.find? callName = some call' := by
    rw [← hs₁, ← hs₁']
    split
    · exact ⟨h, hrest, hrest', hcall, hcall'⟩
    · rw [find?_settle, find?_settle]
      exact ⟨h.settle, atRest_settle s, atRest_settle s', hcall, hcall'⟩
  obtain ⟨-, hoff₁⟩ := h₁.call_eq hk hcall₁ hcall₁'
  rw [hoff₁]
  split
  · exact h₁.refuse order.kind hsome .cancelled
  split
  · exact h₁.answer hrest₁ hrest₁' hk hcall₁ hcall₁' rfl rfl hseen
  · exact (h₁.cancel hk hcall₁ hcall₁').settle.refuse order.kind hsome .cancelled
  · exact h₁.refuse order.kind hsome _

end Register

end Session

/-! ## 4. Steps of a script -/

/-- The contexts on which a step depends are among those of the subscription. -/
def Step.DependsOn (K : List String) : Step → Prop
  | .call _ (some source) _ => source ∈ K
  | .register _ callName _ _ => callName ∈ K
  | _ => True

namespace Session

variable {s s' : Session} {n : String} {K : List String}

/-- The client, if a step has to do with it. -/
def clientFor (s : Session) : Step → Option Client
  | .register .. => s.client
  | _ => none

/-- What is done with the subscription or its contexts is answered alike. -/
theorem Alike.perform (h : Alike n K s s') (hrest : s.AtRest) (hrest' : s'.AtRest) {step : Step}
    (hown : step.isOwn n K = true) (hdepends : step.DependsOn K)
    (hclient : s.clientFor step = s'.clientFor step) :
    Agree n K (s.perform step) (s'.perform step) := by
  cases step with
  | call name source metadata =>
      apply h.call (of_decide_eq_true hown)
      rintro other rfl
      exact hdepends
  | cancel name =>
      have hk : name ∈ K := of_decide_eq_true hown
      simp only [Session.perform]
      rcases h.cases_call hk with ⟨hcall, hcall'⟩ | ⟨call, call', hcall, hcall', -, -⟩
      · rw [hcall, hcall']
        exact ⟨h, rfl⟩
      · rw [hcall, hcall']
        exact ⟨h.cancel hk hcall hcall', rfl⟩
  | register name callName order cancelAfter =>
      obtain rfl : name = n := of_decide_eq_true hown
      have hk : callName ∈ K := hdepends
      replace hclient : s.client = s'.client := hclient
      simp only [Session.perform, hclient]
      cases s'.client with
      | none => exact ⟨h, rfl⟩
      | some client =>
          rcases h.cases_call hk with ⟨hcall, hcall'⟩ | ⟨call, call', hcall, hcall', -, -⟩
          · rw [hcall, hcall']
            exact ⟨h, rfl⟩
          · rw [hcall, hcall']
            obtain ⟨halike, hanswer⟩ := h.register hrest hrest' hk hcall hcall' client
              (cancelAfter.map (· * 1000000))
            exact ⟨halike, congrArg Answer.registered hanswer⟩
  | feed name frames close =>
      obtain rfl : name = n := of_decide_eq_true hown
      exact h.feed frames close
  | recv name count =>
      obtain rfl : name = n := of_decide_eq_true hown
      exact h.recv count
  | split name =>
      obtain rfl : name = n := of_decide_eq_true hown
      exact h.orMissing fun w => some w.split
  | glance name =>
      obtain rfl : name = n := of_decide_eq_true hown
      exact h.orMissing Watch.glance?
  | tryResult name =>
      obtain rfl : name = n := of_decide_eq_true hown
      exact h.orMissing Watch.tryResult?
  | await name =>
      obtain rfl : name = n := of_decide_eq_true hown
      exact h.orMissing Watch.await?
  | drop name =>
      obtain rfl : name = n := of_decide_eq_true hown
      exact h.drop
  | _ => cases hown

theorem Alike.advance (h : Alike n K s s') (hrest : s.AtRest) (hrest' : s'.AtRest) {step : Step}
    (hown : step.isOwn n K = true) (hdepends : step.DependsOn K)
    (hclient : s.clientFor step = s'.clientFor step) :
    Agree n K (s.advance step true) (s'.advance step true) := by
  obtain ⟨halike, hanswer⟩ := h.perform hrest hrest' hown hdepends hclient
  exact ⟨halike.settle, hanswer⟩

end Session

end ChainWatch
