/-
What the service is given.

A request carries the arguments of its caller and nothing else (`Carries`). The service is called
unless the context was cancelled before, and then it is given a context on the same token, with the
credential of the client among the entries the caller has put there (`Given`). The stream it opens
is on the token of that context, and so it is cancelled with the caller's. The credential is put
into a copy: whatever is registered by whomever, the context of the caller stays as it is. So
several clients can work under the same contexts (`Commons`), in any order, and each of them sends
its own credential every time (`calls_authenticated`).
-/
import ChainWatch.Proofs.Bystander
import ChainWatch.Proofs.Macaroon
import ChainWatch.Proofs.TextMap

set_option autoImplicit false

namespace ChainWatch

/-! ## 1. Requests -/

/-- The arguments of a registration. -/
inductive Wish where
  | epochs
  | confirm (txid : Option Digest) (script : Bytes) (numConfs heightHint : UInt32)
  | spend (output : Option Outpoint) (script : Bytes) (heightHint : UInt32)

def Order.wish : Order → Wish
  | epochs _ => .epochs
  | confirm txid script numConfs heightHint _ => .confirm txid script numConfs heightHint
  | spend output script heightHint _ => .spend output script heightHint

/-- A request for blocks is empty. The others have the arguments as they are, except that a
transaction that is not given is an empty hash, and an output is its reference. -/
inductive Request.Carries : Request → Wish → Prop where
  | epochs : Carries (.epochs ⟨[], 0⟩) .epochs
  | anyTransaction {m : ConfirmRequest} (htxid : m.txid = []) :
      Carries (.confirm m) (.confirm none m.script m.numConfs m.heightHint)
  | transaction {m : ConfirmRequest} {txid : Digest} (htxid : m.txid = txid.bytes) :
      Carries (.confirm m) (.confirm (some txid) m.script m.numConfs m.heightHint)
  | anyOutput {m : SpendRequest} (houtput : m.output = none) :
      Carries (.spend m) (.spend none m.script m.heightHint)
  | output {m : SpendRequest} {ref : OutputRef} {output : Outpoint} (houtput : m.output = some ref)
      (hdecode : ref.decode = .ok output) :
      Carries (.spend m) (.spend (some output) m.script m.heightHint)

theorem Order.carries (order : Order) : order.request.Carries order.wish := by
  cases order with
  | epochs reaction => exact .epochs
  | confirm txid script numConfs heightHint reaction =>
      cases txid with
      | none => exact .anyTransaction rfl
      | some txid => exact .transaction rfl
  | spend output script heightHint reaction =>
      cases output with
      | none => exact .anyOutput rfl
      | some output => exact .output rfl output.decode_toRef

/-- The arguments are found again. In particular no hash is taken for none. -/
theorem Request.Carries.unique {r : Request} {w w' : Wish} (h : r.Carries w)
    (h' : r.Carries w') : w' = w := by
  have hsome (txid : Digest) : txid.bytes ≠ [] := by
    intro hnil
    have hlength := txid.length_bytes
    rw [hnil] at hlength
    cases hlength
  cases h with
  | epochs =>
      cases h' with
      | epochs => rfl
  | anyTransaction htxid =>
      cases h' with
      | anyTransaction => rfl
      | transaction htxid' => exact absurd (htxid'.symm.trans htxid) (hsome _)
  | transaction htxid =>
      cases h' with
      | anyTransaction htxid' => exact absurd (htxid.symm.trans htxid') (hsome _)
      | transaction htxid' => rw [Digest.ext (htxid'.symm.trans htxid)]
  | anyOutput houtput =>
      cases h' with
      | anyOutput => rfl
      | output houtput' =>
          rw [houtput] at houtput'
          cases houtput'
  | output houtput hdecode =>
      cases h' with
      | anyOutput houtput' =>
          rw [houtput] at houtput'
          cases houtput'
      | output houtput' hdecode' =>
          rw [houtput] at houtput'
          cases houtput'
          rw [hdecode] at hdecode'
          cases hdecode'
          rfl

/-! ## 2. One call -/

namespace Session

/-- What has reached the service, if its method was started. -/
def Registered.incoming? {σ : Type} : Registered σ → Option σ
  | started incoming => some incoming
  | refused incoming _ => incoming

/-- What the service is given for a call: a context on the token of the caller that has the entries
of the caller and the credential of the client, and the arguments. -/
structure Given (client : Client) (call : Call) (order : Order) (incoming : Incoming) : Prop where
  token : incoming.call.token = call.token
  open_ : incoming.cancelled = false
  metadata : ∀ key, incoming.call.metadata.get? key
    = if key = "macaroon" then some client.macaroon.hex else call.metadata.get? key
  /-- The credential is the hex of its bytes, in lower case, however it was made. -/
  credential : ∀ bytes, client.macaroon.Issued bytes →
    client.macaroon.hex = Hex.encode bytes ∧ Hex.IsLower client.macaroon.hex
  carries : incoming.request.Carries order.wish
  unique : ∀ wish, incoming.request.Carries wish → wish = order.wish

theorem given_incoming {s : Session} {client : Client} {call : Call} {order : Order}
    (hopen : s.isCancelled call.token = false) :
    Given client call order (s.incoming (call.withAuth client.macaroon) order) where
  token := rfl
  open_ := hopen
  metadata key := call.metadata.get?_insert "macaroon" client.macaroon.hex key
  credential bytes hissued := by
    have hhex := hissued.hex_eq
    exact ⟨hhex, hhex ▸ Hex.isLower_encode bytes⟩
  carries := order.carries
  unique _ h := order.carries.unique h

/-- What a registration comes to, as far as the service is concerned. -/
structure Served (s : Session) (client : Client) (name : String) (call : Call) (order : Order)
    (outcome : Session × Registered Incoming) : Prop where
  /-- The service is not called under a context that was cancelled before, and only then. -/
  uncalled : outcome.2.incoming? = none ↔ s.isCancelled call.token = true
  given : ∀ incoming, outcome.2.incoming? = some incoming → Given client call order incoming
  /-- A stream that was opened is on the token of the context. -/
  token : ∀ incoming, outcome.2 = .started incoming →
    ∃ watch, outcome.1.sub? name = some ⟨call.token, watch⟩

theorem served_of_incoming {s : Session} {client : Client} {name : String} {call : Call}
    {order : Order} {outcome : Session × Registered Incoming}
    (hopen : s.isCancelled call.token = false)
    (hincoming : outcome.2.incoming?
      = some (s.incoming (call.withAuth client.macaroon) order))
    (htoken : ∀ incoming, outcome.2 = .started incoming →
      ∃ watch, outcome.1.sub? name = some ⟨call.token, watch⟩) :
    Served s client name call order outcome where
  uncalled := by
    rw [hincoming, hopen]
    exact ⟨nofun, nofun⟩
  given incoming h := by
    rw [hincoming] at h
    cases h
    exact given_incoming hopen
  token := htoken

theorem incoming?_answered (s : Session) (name : String) (order : Order) (incoming : Incoming) :
    (s.answered name order incoming).2.incoming? = some incoming := by
  unfold answered
  cases order.answer with
  | ok watch => rfl
  | error cause => rfl

/-- The name stands for the subscription that was started last, on the token that the service was
given. -/
theorem sub?_answered {s : Session} {name : String} {order : Order} {incoming incoming' : Incoming}
    (h : (s.answered name order incoming).2 = .started incoming') :
    ∃ watch, (s.answered name order incoming).1.sub? name
      = some ⟨incoming.call.token, watch⟩ := by
  unfold answered at h ⊢
  cases hanswer : order.answer with
  | ok watch =>
      refine ⟨watch, ?_⟩
      rw [sub?_eq List.lookup_cons_self]
      exact List.getElem?_concat_length
  | error cause =>
      rw [hanswer] at h
      cases h

theorem served_register (s : Session) (client : Client) (name : String) (call : Call)
    (order : Order) (cancelAfter : Option Nat) :
    Served s client name call order (s.register client name call order cancelAfter) := by
  have hr := s.register_cases client name call order cancelAfter
  generalize s.register client name call order cancelAfter = r at hr ⊢
  generalize s.meanwhile client order = m at hr
  cases hr with
  | uncalled hcancelled =>
      exact
        { uncalled := ⟨fun _ => hcancelled, fun _ => rfl⟩
          given := nofun
          token := nofun }
  | interrupted hopen => exact served_of_incoming hopen rfl nofun
  | answered hopen =>
      refine served_of_incoming hopen (incoming?_answered m name order _) fun _ hstarted => ?_
      exact sub?_answered hstarted
  | cancelled hopen => exact served_of_incoming hopen rfl nofun
  | timedOut hopen => exact served_of_incoming hopen rfl nofun

/-! ## 3. What stays -/

theorem client_step {s s' : Session} {t : Task} (h : s.step t = some s') :
    s'.client = s.client := by
  cases t with
  | worker i =>
      obtain ⟨sub, m, -, -, rfl⟩ := stepWorker_some h
      rfl
  | wait i =>
      rw [step, Option.map_eq_some_iff] at h
      obtain ⟨roster, -, rfl⟩ := h
      rfl

/-- Nothing but the step that is there for it drops a client, and none brings one. -/
theorem client_outer (s : Session) {step : Step} (hstep : step ≠ .dropClient) :
    (s.act (.outer step)).client = s.client := by
  have htouches := s.touches_outer step
  generalize s.act (.outer step) = s' at htouches ⊢
  cases htouches with
  | client => exact absurd rfl hstep
  | watches hframe => rw [hframe]
  | nothing | contexts | tokens | waitStarted | waitAbandoned => rfl

theorem client_act (s : Session) (a : Act) :
    (s.act a).client = s.client ∨ (s.act a).client = none := by
  cases a with
  | turn t =>
      left
      rw [act]
      cases hstep : s.step t with
      | none => rfl
      | some s' => exact client_step hstep
  | arrange ready line => exact Or.inl rfl
  | outer step =>
      by_cases hstep : step = .dropClient
      · subst hstep
        right
        simp only [act, Step.isAct, perform, if_true]
        cases hclient : s.client with
        | none => exact hclient
        | some client => rfl
      · exact Or.inl (s.client_outer hstep)
  | recv name =>
      left
      rw [act, recvOnce, afterWatch_frame]
  | answer name callName order =>
      left
      rw [act]
      cases s.book.find? callName with
      | none => rfl
      | some call =>
          dsimp only
          unfold answered
          cases order.answer with
          | error cause => rfl
          | ok watch =>
              show (s.dropNamed name).client = s.client
              rw [dropNamed_frame]
  | refuse kind cause => exact Or.inl rfl
  | waitNow => exact Or.inl rfl

theorem find?_advance {s : Session} {name : String} {step : Step}
    (hstep : ∀ source metadata, step ≠ .call name source metadata) (settles : Bool) :
    (s.advance step settles).1.book.find? name = s.book.find? name := by
  apply advance_keeps (P := fun s' => s'.book.find? name = s.book.find? name)
  · intro s' a hmakes h
    refine (s'.find?_act_ne ?_).trans h
    rintro source metadata rfl
    cases hmakes with
    | outer hact => exact hstep source metadata rfl
  · rfl

theorem client_advance {s : Session} {client : Client} (step : Step) (settles : Bool) :
    (s.advance step settles).1.client = some client → s.client = some client := by
  apply advance_keeps (P := fun s' => s'.client = some client → s.client = some client)
  · intro s' a _ hkept h
    rcases s'.client_act a with hsame | hnone
    · exact hkept (hsame.symm.trans h)
    · cases hnone.symm.trans h
  · exact id

end Session

/-! ## 4. Several clients -/

/-- Several clients at work under the same contexts. -/
structure Commons where
  book : CallBook
  sessions : List Session

namespace Commons

/-- A session as it is when its turn comes: the contexts are as the others have left them. -/
def session? (c : Commons) (i : Nat) : Option Session :=
  c.sessions[i]?.map fun s => { s with book := c.book }

/-- The client of a session, if it has not dropped it. -/
def client? (c : Commons) (i : Nat) : Option Client := c.sessions[i]?.bind Session.client

/-- A step of the script of one session. -/
structure Turn where
  session : Nat
  step : Step
  settles : Bool

def take (c : Commons) (t : Turn) : Commons :=
  match c.session? t.session with
  | some s =>
      let s := (s.advance t.step t.settles).1
      ⟨s.book, c.sessions.set t.session s⟩
  | none => c

def follow (c : Commons) (turns : List Turn) : Commons := turns.foldl take c

theorem session?_eq_some {c : Commons} {i : Nat} {s : Session} (h : c.session? i = some s) :
    s.book = c.book ∧ s.client = c.client? i := by
  obtain ⟨s₀, hs₀, rfl⟩ := Option.map_eq_some_iff.mp h
  refine ⟨rfl, ?_⟩
  rw [client?, hs₀, Option.bind_some]

/-- A name stands for the same context, and whoever still has a client has the same. -/
structure Kept (name : String) (c c' : Commons) : Prop where
  find? : c'.book.find? name = c.book.find? name
  client : ∀ i client, c'.client? i = some client → c.client? i = some client

/-- One more turn keeps what a name stands for. The book that is shared is written by the session
whose turn it is, and no step but one that makes a context writes under the name. The other sessions
are as they were. -/
theorem Kept.take {name : String} {c c' : Commons} {t : Turn} (h : Kept name c c')
    (ht : ∀ source metadata, t.step ≠ .call name source metadata) : Kept name c (c'.take t) := by
  unfold Commons.take
  cases hs : c'.session? t.session with
  | none => exact h
  | some s =>
      obtain ⟨hbook, hclient⟩ := session?_eq_some hs
      refine { find? := ?_, client := ?_ }
      · rw [Session.find?_advance ht, hbook, h.find?]
      · intro i client hi
        apply h.client
        -- only the session whose turn it is can have lost its client
        by_cases hturn : t.session = i
        · subst hturn
          obtain ⟨s₀, hs₀, -⟩ := Option.map_eq_some_iff.mp hs
          have hlt := (List.getElem?_eq_some_iff.mp hs₀).1
          rw [client?, List.getElem?_set_self hlt, Option.bind_some] at hi
          rw [← hclient]
          exact Session.client_advance t.step t.settles hi
        · rw [client?, List.getElem?_set_ne hturn] at hi
          exact hi

theorem Kept.follow {name : String} {c : Commons} (turns : List Turn)
    (hturns : ∀ t ∈ turns, ∀ source metadata, t.step ≠ .call name source metadata) {c' : Commons}
    (h : Kept name c c') : Kept name c (c'.follow turns) := by
  induction turns generalizing c' with
  | nil => exact h
  | cons t turns ih =>
      have ht := hturns t List.mem_cons_self
      exact ih (fun t ht => hturns t (List.mem_cons_of_mem _ ht)) (h.take ht)

/-- **Every call is authenticated and carries what its caller asks for.** Several clients work under
the same contexts, in any order and whatever is in the metadata. As long as nobody makes another
context under its name, a context stays as it is. Whoever registers under it is served with the
credential of its own client, whatever the others have done there before and whenever the context
is cancelled. A step of a script is such a registration, with its cancellation counted in
milliseconds. -/
theorem calls_authenticated (c : Commons) (name : String) (call : Call) (turns : List Turn)
    (hcall : c.book.find? name = some call)
    (hturns : ∀ t ∈ turns, ∀ source metadata, t.step ≠ .call name source metadata) :
    (c.follow turns).book.find? name = some call
    ∧ ∀ i s client, (c.follow turns).session? i = some s → s.client = some client →
      c.client? i = some client
      ∧ ∀ sub order,
        (∀ cancelAfter, Session.Served s client sub call order
          (s.register client sub call order cancelAfter))
        ∧ ∀ millis,
          let outcome := s.register client sub call order (millis.map (· * 1000000))
          s.perform (.register sub name order millis)
            = (outcome.1, .registered (outcome.2.map Session.Incoming.seen)) := by
  have hkept : Kept name c (c.follow turns) :=
    Kept.follow turns hturns ⟨rfl, fun _ _ h => h⟩
  have hfind : (c.follow turns).book.find? name = some call := hkept.find?.trans hcall
  refine ⟨hfind, ?_⟩
  intro i s client hs hclient
  obtain ⟨hbook, hsame⟩ := session?_eq_some hs
  refine ⟨hkept.client i client (hsame ▸ hclient), ?_⟩
  intro sub order
  refine ⟨s.served_register client sub call order, ?_⟩
  intro millis outcome
  simp only [Session.perform, hclient, hbook, hfind]
  rfl

/-- Two clients, and a context with a credential that is neither's. -/
def shared : Commons where
  book := (CallBook.empty.create "c").derive "c" "c" fun call =>
    (call.withMetadata "macaroon" "00").withMetadata "x" "1"
  sessions :=
    [.start ⟨.ofBytes [0xab], ⟨1, 0, by decide⟩⟩, .start ⟨.ofBytes [0x02], ⟨1, 0, by decide⟩⟩]

/-- Each of them registers under it, and the first one goes. -/
def coming : List Turn :=
  [⟨0, .register "e" "c" (.epochs ⟨.after 0, .ok ⟨[], false, false⟩⟩) none, false⟩,
    ⟨1, .register "s" "c" (.spend none [1] 7 ⟨.after 0, .ok ⟨[], false, false⟩⟩) none, false⟩,
    ⟨0, .dropClient, false⟩]

theorem calls_authenticated_shared :
    let call : Call := ⟨⟨0⟩, (TextMap.empty.insert "macaroon" "00").insert "x" "1"⟩
    let client : Client := ⟨.ofBytes [0x02], ⟨1, 0, by decide⟩⟩
    let order : Order := .confirm (some .zero) [1] 1 7 ⟨.after 5, .ok ⟨[], false, false⟩⟩
    (shared.follow coming).book.find? "c" = some call
    ∧ ∃ (s : Session) (incoming : Session.Incoming),
      (shared.follow coming).session? 1 = some s
      ∧ (s.register client "t" call order none).2.incoming? = some incoming
      ∧ Session.Given client call order incoming
      ∧ incoming.call.token = ⟨0⟩ ∧ incoming.call.metadata.get? "macaroon" = some "02" := by
  intro call client order
  have hturns : ∀ t ∈ coming, ∀ source metadata, t.step ≠ .call "c" source metadata := by
    simp [coming]
  obtain ⟨hfind, hserved⟩ := calls_authenticated shared "c" call coming rfl hturns
  refine ⟨hfind, ?_⟩
  -- the second session still has its client
  have hclient : (shared.follow coming).client? 1 = some client := by decide +kernel
  obtain ⟨s₀, hs₀, -⟩ := Option.bind_eq_some_iff.mp hclient
  obtain ⟨s, hs⟩ : ∃ s, (shared.follow coming).session? 1 = some s := by
    rw [session?, hs₀]
    exact ⟨_, rfl⟩
  obtain ⟨hbook, hsame⟩ := session?_eq_some hs
  have hserves : Session.Served s client "t" call order (s.register client "t" call order none) :=
    ((hserved 1 s client hs (hsame.trans hclient)).2 "t" order).1 none
  -- the service is called, as nobody has cancelled the context
  have hopen : s.isCancelled call.token = false := by
    rw [Session.isCancelled, hbook]
    decide +kernel
  have hcalled : (s.register client "t" call order none).2.incoming? ≠ none := by
    rw [Ne, hserves.uncalled, hopen]
    exact Bool.false_ne_true
  obtain ⟨incoming, hincoming⟩ := Option.ne_none_iff_exists'.mp hcalled
  have hgiven := hserves.given incoming hincoming
  have hhex : client.macaroon.hex = "02" := by decide +kernel
  refine ⟨s, incoming, hs, hincoming, hgiven, hgiven.token, ?_⟩
  rw [hgiven.metadata, if_pos rfl, hhex]

end Commons

end ChainWatch
