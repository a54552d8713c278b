/-
Two sessions that look the same to one subscription.

A subscription sees of its session its own watch, what its contexts carry, and whether its token and
theirs are cancelled. Which tokens these are does not show, only which of them are the same. Two
sessions that agree on this (`Alike`) give the same answer to whatever is done with the subscription
or with its contexts, and agree on it afterwards (`Alike.advance`).
-/
import ChainWatch.Proofs.Quiet

set_option autoImplicit false

namespace ChainWatch

/-! ## 1. Who is on which token -/

/-- What can be on a token: a context, or the subscription in question. -/
inductive Holder where
  | context (name : String)
  | subscription

/-- A subscription and its contexts. -/
def holders (K : List String) : List Holder := .subscription :: K.map .context

theorem subscription_mem (K : List String) : Holder.subscription ∈ holders K := List.mem_cons_self

theorem context_mem {K : List String} {k : String} (hk : k ∈ K) : Holder.context k ∈ holders K :=
  List.mem_cons_of_mem _ (List.mem_map_of_mem hk)

/-- Holders on two sets of tokens: those who share one here share one there, and whoever is
cancelled here is cancelled there. -/
structure TokensAlike (own : List Holder) (f f' : Holder → Option Token) (c c' : Token → Bool) :
    Prop where
  there : ∀ x ∈ own, (f x).isSome = (f' x).isSome
  shared : ∀ x ∈ own, ∀ y ∈ own, f x = f y ↔ f' x = f' y
  off : ∀ x ∈ own, (f x).any c = (f' x).any c'

namespace TokensAlike

variable {own : List Holder} {f f' g g' : Holder → Option Token} {c c' d d' : Token → Bool}

/-- Holders who all take the places of others. -/
theorem pull (h : TokensAlike own f f' c c')
    (hplace : ∀ x ∈ own, ∃ y ∈ own, g x = f y ∧ g' x = f' y) : TokensAlike own g g' c c' where
  there x hx := by
    obtain ⟨y, hy, hg, hg'⟩ := hplace x hx
    rw [hg, hg', h.there y hy]
  shared x hx z hz := by
    obtain ⟨y, hy, hg, hg'⟩ := hplace x hx
    obtain ⟨y', hy', hgz, hgz'⟩ := hplace z hz
    rw [hg, hg', hgz, hgz', h.shared y hy y' hy']
  off x hx := by
    obtain ⟨y, hy, hg, hg'⟩ := hplace x hx
    rw [hg, hg', h.off y hy]

/-- The token of one holder is cancelled. -/
theorem fire (h : TokensAlike own f f' c c') {y : Holder} (hy : y ∈ own) (b : Bool)
    (hd : ∀ token, d token = (c token || (b && f y = some token)))
    (hd' : ∀ token, d' token = (c' token || (b && f' y = some token))) :
    TokensAlike own f f' d d' where
  there := h.there
  shared := h.shared
  off x hx := by
    have hthere := h.there x hx
    have hoff := h.off x hx
    have hshared := h.shared y hy x hx
    cases hf : f x with
    | none =>
        rw [hf, Option.isSome_none, eq_comm, Option.isSome_eq_false_iff, Option.isNone_iff_eq_none]
          at hthere
        rw [hthere, Option.any_none, Option.any_none]
    | some token =>
        -- this token is the one that is cancelled if both holders share it, here as there
        rw [hf, Option.isSome_some, eq_comm, Option.isSome_iff_exists] at hthere
        obtain ⟨token', hf'⟩ := hthere
        rw [hf, hf', Option.any_some, Option.any_some] at hoff
        rw [hf, hf'] at hshared
        rw [hf', Option.any_some, Option.any_some, hd, hd', hoff, decide_eq_decide.mpr hshared]

/-- One holder gets a token that nobody has. -/
theorem fresh (h : TokensAlike own f f' c c') {x : Holder} {token token' : Token}
    (hx : g x = some token) (hx' : g' x = some token')
    (hg : ∀ z, z ≠ x → g z = f z) (hg' : ∀ z, z ≠ x → g' z = f' z)
    (hnew : ∀ z, f z ≠ some token) (hnew' : ∀ z, f' z ≠ some token')
    (hopen : c token = c' token') : TokensAlike own g g' c c' where
  there z hz := by
    by_cases hzx : z = x
    · rw [hzx, hx, hx']
      rfl
    · rw [hg z hzx, hg' z hzx, h.there z hz]
  shared z hz w hw := by
    -- nobody else shares the new token
    by_cases hzx : z = x <;> by_cases hwx : w = x
    · rw [hzx, hwx]
      simp only
    · rw [hzx, hx, hx', hg w hwx, hg' w hwx]
      simp only [eq_comm, hnew, hnew']
    · rw [hwx, hx, hx', hg z hzx, hg' z hzx]
      simp only [hnew, hnew']
    · rw [hg z hzx, hg' z hzx, hg w hwx, hg' w hwx, h.shared z hz w hw]
  off z hz := by
    by_cases hzx : z = x
    · rw [hzx, hx, hx', Option.any_some, Option.any_some, hopen]
    · rw [hg z hzx, hg' z hzx, h.off z hz]

end TokensAlike

/-- Two things that look the same and are on tokens that are cancelled alike: both are there, or
both are missing. -/
theorem both_or_none {α β : Type} {o o' : Option α} {look : α → β} {token : α → Token}
    {c c' : Token → Bool} (hlook : o.map look = o'.map look)
    (hoff : (o.map token).any c = (o'.map token).any c') :
    o = none ∧ o' = none
    ∨ ∃ a a', o = some a ∧ o' = some a' ∧ look a = look a' ∧ c (token a) = c' (token a') := by
  cases o with
  | none =>
      rw [Option.map_none, eq_comm, Option.map_eq_none_iff] at hlook
      exact Or.inl ⟨rfl, hlook⟩
  | some a =>
      rw [Option.map_some, eq_comm, Option.map_eq_some_iff] at hlook
      obtain ⟨a', rfl, hsame⟩ := hlook
      exact Or.inr ⟨a, a', rfl, rfl, hsame.symm, hoff⟩

namespace Session

variable {s s' b t t' : Session} {n : String} {K : List String}

/-- The token a holder is on. -/
def tokenOf (s : Session) (n : String) : Holder → Option Token
  | .context name => (s.book.find? name).map Call.token
  | .subscription => (s.sub? n).map Subscription.token

/-- Whether the token of a holder is cancelled. -/
def isOff (s : Session) (n : String) (x : Holder) : Bool := (s.tokenOf n x).any s.isCancelled

/-- Which of the tokens of a subscription and its contexts are cancelled. -/
def fate (s : Session) (n : String) (K : List String) : List Bool := (holders K).map (s.isOff n)

theorem isOff_of_fate (h : s.fate n K = s'.fate n K) {x : Holder} (hx : x ∈ holders K) :
    s.isOff n x = s'.isOff n x := List.map_inj_left.mp h x hx

/-- Others move nobody to another token. -/
theorem Kept.tokenOf (h : Kept n K b s) (hrest : b.AtRest) (hrest' : s.AtRest) {x : Holder}
    (hx : x ∈ holders K) : s.tokenOf n x = b.tokenOf n x := by
  rcases List.mem_cons.mp hx with rfl | hmem
  · rw [Session.tokenOf, Session.tokenOf, h.sub?_eq hrest hrest', Option.map_map]
    rfl
  · obtain ⟨k, hk, rfl⟩ := List.mem_map.mp hmem
    rw [Session.tokenOf, Session.tokenOf, h.calls k hk]

/-! ## 2. Sessions that look the same -/

/-- Two sessions look the same to the subscription `n` and its contexts `K`. -/
structure Alike (n : String) (K : List String) (s s' : Session) : Prop where
  left : s.Quiet n
  right : s'.Quiet n
  metadata : ∀ k ∈ K,
    (s.book.find? k).map Call.metadata = (s'.book.find? k).map Call.metadata
  watch : (s.sub? n).map Subscription.watch = (s'.sub? n).map Subscription.watch
  tokens : TokensAlike (holders K) (s.tokenOf n) (s'.tokenOf n) s.isCancelled s'.isCancelled

/-- The subscription is in both sessions, or in none. -/
theorem Alike.cases_sub (h : Alike n K s s') :
    s.sub? n = none ∧ s'.sub? n = none
    ∨ ∃ sub sub', s.sub? n = some sub ∧ s'.sub? n = some sub' ∧ sub.watch = sub'.watch
      ∧ s.isCancelled sub.token = s'.isCancelled sub'.token :=
  both_or_none h.watch (h.tokens.off .subscription (subscription_mem K))

/-- A context is in both sessions, or in none. -/
theorem Alike.cases_call (h : Alike n K s s') {k : String} (hk : k ∈ K) :
    s.book.find? k = none ∧ s'.book.find? k = none
    ∨ ∃ call call', s.book.find? k = some call ∧ s'.book.find? k = some call'
      ∧ call.metadata = call'.metadata
      ∧ s.isCancelled call.token = s'.isCancelled call'.token :=
  both_or_none (h.metadata k hk) (h.tokens.off (.context k) (context_mem hk))

/-- A context that is in both sessions carries the same and is cancelled in both or in none. -/
theorem Alike.call_eq (h : Alike n K s s') {k : String} (hk : k ∈ K) {call call' : Call}
    (hcall : s.book.find? k = some call) (hcall' : s'.book.find? k = some call') :
    call.metadata = call'.metadata ∧ s.isCancelled call.token = s'.isCancelled call'.token := by
  have hmetadata := h.metadata k hk
  have hoff := h.tokens.off (.context k) (context_mem hk)
  rw [hcall, hcall', Option.map_some, Option.map_some] at hmetadata
  rw [tokenOf, tokenOf, hcall, hcall'] at hoff
  exact ⟨Option.some.inj hmetadata, hoff⟩

/-! ## 3. Changes of a watch and of a token -/

/-- From one session to another the watch of a subscription changes, and the token of a holder may
be cancelled. -/
structure Updated (n : String) (y : Holder) (b : Bool) (g : Watch → Watch) (s t : Session) :
    Prop where
  quiet : t.Quiet n
  calls : t.book.calls = s.book.calls
  sub : t.sub? n = (s.sub? n).map fun sub => { sub with watch := g sub.watch }
  fired : ∀ token, t.isCancelled token = (s.isCancelled token || (b && s.tokenOf n y = some token))

theorem Updated.tokenOf {y : Holder} {b : Bool} {g : Watch → Watch} (h : Updated n y b g s t) :
    t.tokenOf n = s.tokenOf n := by
  funext x
  cases x with
  | context name => rw [Session.tokenOf, Session.tokenOf, CallBook.find?, CallBook.find?, h.calls]
  | subscription => rw [Session.tokenOf, Session.tokenOf, h.sub, Option.map_map]; rfl

theorem Alike.updated (h : Alike n K s s') {y : Holder} (hy : y ∈ holders K) {b : Bool}
    {g : Watch → Watch} (ht : Updated n y b g s t) (ht' : Updated n y b g s' t') :
    Alike n K t t' where
  left := ht.quiet
  right := ht'.quiet
  metadata k hk := by
    have hmetadata := h.metadata k hk
    rw [CallBook.find?, CallBook.find?] at hmetadata ⊢
    rw [ht.calls, ht'.calls, hmetadata]
  watch := by
    have hwatch := congrArg (Option.map g) h.watch
    rw [Option.map_map, Option.map_map] at hwatch
    rw [ht.sub, ht'.sub, Option.map_map, Option.map_map]
    exact hwatch
  tokens := by
    rw [ht.tokenOf, ht'.tokenOf]
    exact h.tokens.fire hy b ht.fired ht'.fired

theorem isCancelled_congr (hbook : t.book = s.book) : t.isCancelled = s.isCancelled := by
  funext token
  rw [isCancelled, hbook, isCancelled]

/-- What is neither a subscription nor a context nor a token does not show. -/
theorem updated_congr (hq : s.Quiet n) (hbook : t.book = s.book) (hsubs : t.subs = s.subs)
    (hnames : t.subNames = s.subNames) : Updated n .subscription false id s t where
  quiet := hq.congr hbook hsubs hnames
  calls := by rw [hbook]
  sub := by
    rw [sub?, sub?, hnames, hsubs]
    exact Option.map_id'.symm
  fired token := by
    rw [isCancelled_congr hbook, Bool.false_and, Bool.or_false]

theorem Alike.congr (h : Alike n K s s') (hbook : t.book = s.book) (hsubs : t.subs = s.subs)
    (hnames : t.subNames = s.subNames) (hbook' : t'.book = s'.book) (hsubs' : t'.subs = s'.subs)
    (hnames' : t'.subNames = s'.subNames) : Alike n K t t' :=
  h.updated (subscription_mem K) (updated_congr h.left hbook hsubs hnames)
    (updated_congr h.right hbook' hsubs' hnames')

theorem updated_cancel (hq : s.Quiet n) {k : String} {call : Call}
    (hcall : s.book.find? k = some call) :
    Updated n (.context k) true id s { s with book := s.book.cancel call } where
  quiet := {
    sound := by
      have hsound := hq.sound.act (.outer (.cancel k))
      simp only [act, Step.isAct, if_true, perform, hcall] at hsound
      exact hsound
    idle := hq.idle }
  calls := rfl
  sub := Option.map_id'.symm
  fired token := by
    obtain ⟨entry, hentry, htoken⟩ := CallBook.mem_of_find? hcall
    have hmade := hq.sound.made.1 entry hentry
    have hfired : (s.book.noting true call.token).tokens.isCancelled token
        = (s.isCancelled token || (true && call.token = token)) :=
      CallBook.isCancelled_noting (htoken ▸ hmade) true
    rw [tokenOf, hcall, Option.map_some]
    simp only [Option.some.injEq]
    exact hfired

theorem Alike.cancel (h : Alike n K s s') {k : String} (hk : k ∈ K) {call call' : Call}
    (hcall : s.book.find? k = some call) (hcall' : s'.book.find? k = some call') :
    Alike n K { s with book := s.book.cancel call } { s' with book := s'.book.cancel call' } :=
  h.updated (context_mem hk) (updated_cancel h.left hcall) (updated_cancel h.right hcall')

/-- The turn of the worker shows in its watch and perhaps in its token. -/
theorem updated_settle (hq : s.Quiet n) :
    Updated n .subscription
      ((s.sub? n).any fun sub => (sub.watch.turn (s.isCancelled sub.token)).cancels)
      (fun w => (w.turn (s.isOff n .subscription)).watch) s s.settle where
  quiet := (settle_quiet hq).1
  calls := calls_settle s
  sub := by
    rw [(settle_quiet hq).2.1, ahead?, isOff, tokenOf]
    cases s.sub? n <;> rfl
  fired token := by
    rw [(settle_quiet hq).2.2, firesAhead, tokenOf]
    cases s.sub? n with
    | none => rw [Option.any_none, Option.any_none, Bool.false_and]
    | some sub => simp only [Option.any_some, Option.map_some, Option.some.injEq]

theorem Alike.settle (h : Alike n K s s') : Alike n K s.settle s'.settle := by
  have hturn := updated_settle h.right
  have hoff : s.isOff n .subscription = s'.isOff n .subscription :=
    h.tokens.off .subscription (subscription_mem K)
  have hcancels : ((s.sub? n).any fun sub => (sub.watch.turn (s.isCancelled sub.token)).cancels)
      = (s'.sub? n).any fun sub => (sub.watch.turn (s'.isCancelled sub.token)).cancels := by
    rcases h.cases_sub with ⟨hsub, hsub'⟩ | ⟨sub, sub', hsub, hsub', hwatch, hcancelled⟩
    · rw [hsub, hsub', Option.any_none, Option.any_none]
    · rw [hsub, hsub', Option.any_some, Option.any_some, hwatch, hcancelled]
  rw [← hoff, ← hcancels] at hturn
  exact h.updated (subscription_mem K) (updated_settle h.left) hturn

end Session

end ChainWatch
