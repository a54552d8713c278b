/-
Tokens that nobody else is on.

If no other subscription is registered under the contexts of a subscription, and no other context is
made from them, then all who are on their tokens are their own (`Owned`), apart from subscriptions
that have lost their name and are idle for good. So others cannot cancel these tokens, neither
themselves nor through what their workers take (`fate_others`).
-/
import ChainWatch.Proofs.OwnSteps

set_option autoImplicit false

namespace ChainWatch

/-! ## 1. Steps that keep to their own contexts -/

/-- A step makes no context from one of `K` and registers nothing under one. -/
def Step.Spares (K : List String) : Step → Prop
  | .call _ (some source) _ => source ∉ K
  | .register _ callName _ _ => callName ∉ K
  | _ => True

namespace Session

variable {s s' b : Session} {n : String} {K : List String} {a : Act} {step : Step}

/-- A context of one's own comes from one's own, and so does the context of a subscription. -/
def Act.Tidy (n : String) (K : List String) : Act → Prop
  | .outer (.call name (some source) _) => name ∈ K ↔ source ∈ K
  | .answer name callName _ => name = n ↔ callName ∈ K
  | _ => True

theorem tidy_of_makes (hown : step.isOwn n K = true → step.DependsOn K)
    (hother : step.isOwn n K = false → step.Spares K) (h : Makes step a) : a.Tidy n K := by
  cases h with
  | outer =>
      cases step with
      | call name source metadata =>
          cases source with
          | none => trivial
          | some source =>
              by_cases hname : name ∈ K
              · exact iff_of_true hname (hown (decide_eq_true hname))
              · exact iff_of_false hname (hother (decide_eq_false hname))
      | _ => trivial
  | @answer name callName order cancelAfter heq =>
      subst heq
      by_cases hname : name = n
      · exact iff_of_true hname (hown (decide_eq_true hname))
      · exact iff_of_false hname (hother (decide_eq_false hname))
  | _ => trivial

/-! ## 2. Tokens of one's own -/

/-- Nobody who has a name is on one of the tokens `T` but the subscription and its contexts. -/
structure Owned (n : String) (K : List String) (T : Token → Prop) (s : Session) : Prop where
  sound : s.Sound
  made : ∀ token, T token → token.index < s.book.tokens.fired.length
  calls : ∀ k call, s.book.find? k = some call → (T call.token ↔ k ∈ K)
  subs : ∀ name sub, s.sub? name = some sub → (T sub.token ↔ name = n)

theorem owned_start (client : Client) : Owned n K (fun _ => False) (start client) where
  sound := sound_start client
  made _ h := h.elim
  calls _ _ h := by cases h
  subs _ _ h := by cases h

/-- As long as a name stands for the same subscription, that one stays on its token. -/
theorem sub?_carried (hsound : s.Sound) {name : String} {sub' : Subscription}
    (hname : (s.act a).subNames.lookup name = s.subNames.lookup name)
    (h : (s.act a).sub? name = some sub') :
    ∃ sub, s.sub? name = some sub ∧ sub'.token = sub.token := by
  obtain ⟨i, hi, hsub'⟩ := Option.bind_eq_some_iff.mp h
  rw [hname] at hi
  have hsub := List.getElem?_eq_getElem (hsound.named name i hi)
  obtain ⟨sub'', hsub'', htoken, -⟩ := (effect_act s a).carries hsound.made hsub
  rw [hsub'] at hsub''
  cases hsub''
  exact ⟨_, (sub?_eq hi).trans hsub, htoken⟩

/-- Only an answer starts a subscription, on the token of the context it is for. -/
theorem new_sub {i : Nat} {sub : Subscription} (hi : s.subs[i]? = none)
    (hsub : (s.act a).subs[i]? = some sub) :
    ∃ name callName order call, a = .answer name callName order
      ∧ s.book.find? callName = some call ∧ sub.token = call.token := by
  have hlt := (List.getElem?_eq_some_iff.mp hsub).1
  have hge := List.getElem?_eq_none_iff.mp hi
  have hmore (hlength : (s.act a).subs.length = s.subs.length) : False := by omega
  cases a with
  | answer name callName order =>
      rcases s.act_answer name callName order with hstill | ⟨call, watch, hcall, hanswer⟩
      · exact (hmore hstill.length).elim
      · refine ⟨name, callName, order, call, rfl, hcall, ?_⟩
        rw [(act_answer_ok hcall hanswer name).2.1, List.getElem?_append_right
          ((s.length_dropNamed name).symm ▸ hge), List.getElem?_singleton] at hsub
        split at hsub
        · cases hsub
          rfl
        · cases hsub
  | outer step =>
      by_cases hcall : ∃ name source metadata, step = .call name source metadata
      · obtain ⟨name, source, metadata, rfl⟩ := hcall
        exact (hmore rfl).elim
      · refine (hmore (s.framed_act ?_ fun _ _ _ h => by cases h).length).elim
        rintro name source metadata ⟨⟩
        exact hcall ⟨name, source, metadata, rfl⟩
  | _ =>
      exact (hmore
        (s.framed_act (fun _ _ _ h => by cases h) fun _ _ _ h => by cases h).length).elim

variable {T : Token → Prop}

/-- The contexts on one's own tokens are still one's own. Only a step that makes a context could
change that. One that is made on a new token is on none of them, and one that is made from a source
belongs where its source does, which is what `Tidy` asks. -/
theorem Owned.act_calls (h : Owned n K T s) (ha : a.Tidy n K)
    (hfresh : ∀ name metadata, a = .outer (.call name none metadata) → name ∉ K) {k : String}
    {call : Call} (hcall : (s.act a).book.find? k = some call) : T call.token ↔ k ∈ K := by
  have hsame (hcalls : (s.act a).book.calls = s.book.calls) : T call.token ↔ k ∈ K := by
    rw [CallBook.find?, hcalls] at hcall
    exact h.calls k call hcall
  cases a with
  | outer step =>
      cases step with
      | call name source metadata =>
          replace hcall : (s.perform (.call name source metadata)).1.book.find? k = some call :=
            hcall
          by_cases hk : k = name
          · subst hk
            rw [find?_call] at hcall
            cases source with
            | none =>
                -- the token that was made for it is nobody's
                cases hcall
                refine iff_of_false ?_ (hfresh k metadata rfl)
                intro hT
                exact Nat.lt_irrefl _ (h.made _ hT)
            | some source =>
                dsimp only at hcall
                cases hsource : s.book.find? source with
                | some other =>
                    rw [hsource] at hcall
                    cases hcall
                    exact (h.calls source other hsource).trans (Iff.symm ha)
                | none =>
                    rw [hsource, Option.map_eq_some_iff] at hcall
                    obtain ⟨other, hother, rfl⟩ := hcall
                    exact h.calls k other hother
          · rw [find?_call_ne s hk] at hcall
            exact h.calls k call hcall
      | _ => exact hsame (s.framed_act (fun _ _ _ h => by cases h) fun _ _ _ h => by cases h).calls
  | answer name callName order => exact hsame (congrArg _ (s.book_answer name callName order))
  | _ => exact hsame (s.framed_act (fun _ _ _ h => by cases h) fun _ _ _ h => by cases h).calls

/-- The subscriptions on one's own tokens are still one's own. One that was there stays on its
token. One that has just started is on the token of its context, and by `Tidy` both are one's own or
neither is. -/
theorem Owned.act_subs (h : Owned n K T s) (ha : a.Tidy n K) {name : String} {sub : Subscription}
    (hsub : (s.act a).sub? name = some sub) : T sub.token ↔ name = n := by
  have hold (hname : (s.act a).subNames.lookup name = s.subNames.lookup name) :
      T sub.token ↔ name = n := by
    obtain ⟨old, hold, htoken⟩ := sub?_carried h.sound hname hsub
    rw [htoken]
    exact h.subs name old hold
  rcases s.names_act a with hnames | ⟨new, callName, order, rfl, hnames, -⟩
  · exact hold (by rw [hnames])
  · by_cases hnew : name = new
    · subst hnew
      -- the subscription has just started, on the token of its context
      have hlast : (s.act (.answer name callName order)).subNames.lookup name
          = some s.subs.length := by rw [hnames, List.lookup_cons_self]
      rw [sub?_eq hlast] at hsub
      obtain ⟨_, _, _, call, hanswer, hcall, htoken⟩ :=
        new_sub (List.getElem?_eq_none (Nat.le_refl _)) hsub
      cases hanswer
      rw [htoken]
      exact (h.calls callName call hcall).trans (Iff.symm ha)
    · apply hold
      rw [hnames, List.lookup_cons, beq_false_of_ne hnew]

theorem Owned.act (h : Owned n K T s) (ha : a.Tidy n K)
    (hfresh : ∀ name metadata, a = .outer (.call name none metadata) → name ∉ K) :
    Owned n K T (s.act a) where
  sound := h.sound.act a
  made token hT := Nat.lt_of_lt_of_le (h.made token hT) (effect_act s a).grows.length
  calls _ _ hcall := h.act_calls ha hfresh hcall
  subs _ _ hsub := h.act_subs ha hsub

/-- A context of one's own on a token of its own: that token is added. -/
theorem Owned.create (h : Owned n K T s) {name : String} (hname : name ∈ K)
    (metadata : List TextEntry) :
    Owned n K (fun token => T token ∨ token = s.book.tokens.next)
      (s.act (.outer (.call name none metadata))) := by
  have hold {token : Token} (hmade : token.index < s.book.tokens.fired.length) :
      T token ∨ token = s.book.tokens.next ↔ T token := by
    refine or_iff_left ?_
    rintro rfl
    exact Nat.lt_irrefl _ hmade
  refine { sound := h.sound.act _, made := ?_, calls := ?_, subs := ?_ }
  · have htokens :
        (s.act (.outer (.call name none metadata))).book.tokens = s.book.tokens.fresh := by
      simp only [Session.act, Step.isAct, if_true, perform, CallBook.tokens_derive]
      rfl
    rw [htokens, Tokens.fresh, List.length_append, List.length_singleton]
    rintro token (hT | rfl)
    · exact Nat.lt_succ_of_lt (h.made token hT)
    · exact Nat.lt_succ_self _
  · intro k call hcall
    replace hcall : (s.perform (.call name none metadata)).1.book.find? k = some call := hcall
    by_cases hk : k = name
    · subst hk
      rw [find?_call] at hcall
      cases hcall
      exact iff_of_true (Or.inr rfl) hname
    · rw [find?_call_ne s hk] at hcall
      obtain ⟨entry, hentry, htoken⟩ := CallBook.mem_of_find? hcall
      rw [hold (htoken ▸ h.sound.made.1 entry hentry)]
      exact h.calls k call hcall
  · intro other sub hsub
    obtain ⟨i, -, hi⟩ := Option.bind_eq_some_iff.mp hsub
    rw [hold (h.sound.made.2 sub (List.mem_of_getElem? hi))]
    exact h.subs other sub hsub

/-- Whatever is done, somebody's tokens are one's own. -/
theorem exists_owned_act (h : ∃ T, Owned n K T s) (ha : a.Tidy n K) :
    ∃ T, Owned n K T (s.act a) := by
  obtain ⟨T, hT⟩ := h
  by_cases hcreate : ∃ name metadata, a = .outer (.call name none metadata) ∧ name ∈ K
  · obtain ⟨name, metadata, rfl, hname⟩ := hcreate
    exact ⟨_, hT.create hname metadata⟩
  · exact ⟨T, hT.act ha fun name metadata heq hname => hcreate ⟨name, metadata, heq, hname⟩⟩

theorem exists_owned_advance (h : ∃ T, Owned n K T s)
    (hown : step.isOwn n K = true → step.DependsOn K)
    (hother : step.isOwn n K = false → step.Spares K) (settles : Bool) :
    ∃ T, Owned n K T (s.advance step settles).1 :=
  advance_keeps (P := fun s => ∃ T, Owned n K T s)
    (fun _ _ hmakes h => exists_owned_act h (tidy_of_makes hown hother hmakes)) h settles

/-! ## 3. Steps of others -/

/-- Others have acted since `b`: those on the tokens of one's own have been idle, and none of these
tokens has been cancelled. -/
structure Undisturbed (n : String) (K : List String) (T : Token → Prop) (b s : Session) : Prop where
  owned : Owned n K T s
  idle : ∀ (i : Nat) (sub : Subscription), s.subs[i]? = some sub → T sub.token → sub.watch.Idle
  off : ∀ token, T token → s.isCancelled token = b.isCancelled token

theorem undisturbed_refl (h : Owned n K T s) (hrest : s.AtRest) : Undisturbed n K T s s where
  owned := h
  idle _ _ hi _ := idle_of_atRest hrest hi
  off _ _ := rfl

/-- Whoever is on a token of one's own is idle after an act of others too. A subscription that the
act starts is on a token of theirs. An older one is idle before: if its worker moves it stays so
(`Idle.step`), and nothing else is done with it, as it has no name that others use. -/
theorem Undisturbed.act_idle (h : Undisturbed n K T b s) (haside : a.Aside n K)
    (htidy : a.Tidy n K) {i : Nat} {sub : Subscription} (hi : (s.act a).subs[i]? = some sub)
    (hT : T sub.token) : sub.watch.Idle := by
  cases hold : s.subs[i]? with
  | none =>
      -- a subscription of others is on no token of one's own
      obtain ⟨name, callName, order, call, rfl, hcall, htoken⟩ := new_sub hold hi
      rw [htoken, h.owned.calls callName call hcall] at hT
      exact absurd (htidy.mpr hT) haside
  | some old =>
      obtain ⟨sub', hsub', htoken, -⟩ := (effect_act s a).carries h.owned.sound.made hold
      rw [hi] at hsub'
      cases hsub'
      rw [htoken] at hT
      have hidle := h.idle i old hold hT
      by_cases hturn : a = .turn (.worker i)
      · subst hturn
        cases hm : old.watch.step (s.isCancelled old.token) with
        | none =>
            have hrest : s.step (.worker i) = none := by
              rw [step_worker hold, hm, Option.map_none]
            rw [Session.act, hrest, Option.getD_none, hold] at hi
            cases hi
            exact hidle
        | some m =>
            have hmove : s.step (.worker i) = some (s.applyMove i old m) := by
              rw [step_worker hold, hm, Option.map_some]
            have hlt := (List.getElem?_eq_some_iff.mp hold).1
            have hset : (s.applyMove i old m).subs[i]? = some { old with watch := m.watch } :=
              List.getElem?_set_self hlt
            rw [act_turn hmove, hset] at hi
            cases hi
            exact (hidle.step hm).2
      · -- it has no name of others, so nothing is done with it
        have hnames : ∀ name, name ≠ n → s.subNames.lookup name ≠ some i := by
          intro name hne hname
          exact hne ((h.owned.subs name old ((sub?_eq hname).trans hold)).mp hT)
        have hlt := (List.getElem?_eq_some_iff.mp hold).1
        rw [(effect_act s a).untouched hlt (share_aside hnames haside hturn), hold] at hi
        cases hi
        exact hidle

/-- An act of others cancels no token of one's own. A worker cancels the token of its own
subscription, and what is on one's own tokens is idle, so it takes no item that cancels. A context
that is cancelled under its name is one of theirs. -/
theorem Undisturbed.act_off (h : Undisturbed n K T b s)
    (hcancel : ∀ name, a = .outer (.cancel name) → name ∉ K) {token : Token} (hT : T token) :
    (s.act a).isCancelled token = s.isCancelled token := by
  cases a with
  | turn t =>
      cases hstep : s.step t with
      | none => rw [Session.act, hstep, Option.getD_none]
      | some s' =>
          rw [act_turn hstep]
          cases t with
          | worker i =>
              obtain ⟨sub, m, hi, hm, rfl⟩ := stepWorker_some hstep
              rw [isCancelled_applyMove (h.owned.sound.made.2 sub (List.mem_of_getElem? hi))]
              by_cases htoken : sub.token = token
              · have hidle := h.idle i sub hi (htoken ▸ hT)
                rw [(hidle.step hm).1, Bool.false_and, Bool.or_false]
              · rw [decide_eq_false htoken, Bool.and_false, Bool.or_false]
          | wait i =>
              rw [step, Option.map_eq_some_iff] at hstep
              obtain ⟨roster, -, rfl⟩ := hstep
              rfl
  | outer step =>
      cases step with
      | call name source metadata => exact isCancelled_call s name source metadata token
      | cancel name =>
          simp only [Session.act, Step.isAct, if_true, perform]
          cases hcall : s.book.find? name with
          | none => rfl
          | some call =>
              have hne : call.token ≠ token := by
                rintro rfl
                exact hcancel name rfl ((h.owned.calls name call hcall).mp hT)
              exact Tokens.isCancelled_cancel_ne hne
      | _ =>
          rw [isCancelled_congr
            (s.still_outer (fun _ _ _ h => by cases h) fun _ h => by cases h).book]
  | answer name callName order => rw [isCancelled_congr (s.book_answer name callName order)]
  | recv name =>
      rw [Session.act, recvOnce, afterWatch_frame]
      rfl
  | _ => rfl

/-- Others cancel no token that nobody else is on. -/
theorem Undisturbed.advance (h : Undisturbed n K T b s) (hother : step.isOwn n K = false)
    (hspares : step.Spares K) (settles : Bool) :
    Undisturbed n K T b (s.advance step settles).1 := by
  apply advance_keeps (P := Undisturbed n K T b) _ h settles
  intro s a hmakes h
  have haside : a.Aside n K := aside_of_makes hother hmakes
  have htidy : a.Tidy n K := by
    refine tidy_of_makes ?_ (fun _ => hspares) hmakes
    intro hown
    rw [hother] at hown
    cases hown
  have hcancel : ∀ name, a = .outer (.cancel name) → name ∉ K := by
    rintro name rfl
    cases hmakes with
    | outer => exact of_decide_eq_false hother
    | cancel heq =>
        subst heq
        exact hspares
  exact {
    owned := h.owned.act htidy (by
      rintro name metadata rfl
      exact of_decide_eq_false haside)
    idle := fun _ _ hi hT => h.act_idle haside htidy hi hT
    off := fun token hT => (h.act_off hcancel hT).trans (h.off token hT) }

theorem Owned.of_tokenOf (h : Owned n K T s) {x : Holder} (hx : x ∈ holders K) {token : Token}
    (htoken : s.tokenOf n x = some token) : T token := by
  rcases List.mem_cons.mp hx with rfl | hmem
  · obtain ⟨sub, hsub, rfl⟩ := Option.map_eq_some_iff.mp htoken
    exact (h.subs n sub hsub).mpr rfl
  · obtain ⟨k, hk, rfl⟩ := List.mem_map.mp hmem
    obtain ⟨call, hcall, rfl⟩ := Option.map_eq_some_iff.mp htoken
    exact (h.calls k call hcall).mpr hk

/-- Nothing that others do shows in the tokens. -/
theorem fate_others (hT : Owned n K T s) (hrest : s.AtRest) (hother : step.isOwn n K = false)
    (hspares : step.Spares K) : (s.advance step true).1.fate n K = s.fate n K := by
  have hkept : Kept n K s (s.advance step true).1 :=
    (kept_refl hT.sound).advance hrest hother true
  have hoff := ((undisturbed_refl hT hrest).advance hother hspares true).off
  apply List.map_congr_left
  intro x hx
  rw [isOff, isOff, hkept.tokenOf hrest (atRest_advance s step) hx]
  cases htoken : s.tokenOf n x with
  | none => rfl
  | some token => exact hoff token (hT.of_tokenOf hx htoken)

end Session

end ChainWatch
