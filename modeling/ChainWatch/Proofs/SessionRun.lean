/-
What can happen to a session.

A script runs the tasks of a session in one order; a client may see them run in any. Here a
session moves in acts: one step of one task, one request, one answer of the service. They may
follow each other in any order. Whatever a script step does, settling included, is a sequence of
acts (`reaches_advance`), so what holds after all acts holds of every session that a script leads
to, and of many more. `Makes` says which acts a step is made of; what those keep it keeps
(`advance_keeps`). The longest of the steps is a registration, and there are five ways for it to go
(`register_cases`).
-/
import ChainWatch.Script

set_option autoImplicit false

namespace ChainWatch

/-! ## 1. Running tasks -/

namespace System

variable {σ τ : Type} (S : System σ τ)

/-- What one step keeps, a turn keeps. -/
theorem turn_keeps {P : σ → Prop} (hstep : ∀ s t s', S.step s t = some s' → P s → P s') (t : τ)
    {s : σ} (h : P s) : P (S.turn t s) := by
  fun_induction S.turn t s with
  | case1 => exact h
  | case2 s s' hs ih => exact ih (hstep s t s' hs h)

theorem settle_keeps [DecidableEq τ] {P : σ → Prop}
    (hstep : ∀ s t s', S.step s t = some s' → P s → P s') (queue : List τ) (line : Line τ) {s : σ}
    (h : P s) : P (S.settle queue line s).2 := by
  unfold settle
  generalize S.wake queue line s = queue
  fun_induction S.run queue line s with
  | case1 => exact h
  | case2 line s u rest hu ih => exact ih h
  | case3 line s u rest s' hu s'' line' ih => exact ih (S.turn_keeps hstep u (hstep s u s' hu h))

end System

/-! ## 2. Acts -/

/-- Whether a script step is a single act. A registration and a wait let the tasks run
meanwhile, and so do several requests for a height. -/
def Step.isAct : Step → Bool
  | .register .. => false
  | .recv .. => false
  | .wait => false
  | _ => true

namespace Session

/-- One thing that can happen to a session. -/
inductive Act where
  /-- A task takes one step, if it can. -/
  | turn (t : Task)
  /-- The tasks are put in another order. -/
  | arrange (ready : List Task) (line : Line Task)
  | outer (step : Step)
  /-- The holder asks once for the next height. -/
  | recv (name : String)
  /-- The service answers a call, if there is a context of that name. -/
  | answer (name callName : String) (order : Order)
  | refuse (kind : WatchKind) (cause : LinkError)
  /-- A wait that is not given time to sleep. -/
  | waitNow

/-- The session after something was done with the subscription that has a name, or as it was if
that could not be done. -/
def afterWatch {α : Type} (s : Session) (name : String) (f : Subscription → Option (Watch × α)) :
    Session := (s.onWatch name f).elim s Prod.fst

/-- The session after one request for the next height. -/
def recvOnce (s : Session) (name : String) : Session :=
  s.afterWatch name fun sub => sub.watch.recv? (s.isCancelled sub.token)

def act (s : Session) : Act → Session
  | .turn t => (s.step t).getD s
  | .arrange ready line => { s with ready, line }
  | .outer step => if step.isAct then (s.perform step).1 else s
  | .recv name => s.recvOnce name
  | .answer name callName order =>
      match s.book.find? callName with
      | some call => (s.answered name order (s.incoming call order)).1
      | none => s
  | .refuse kind cause => (s.refuse kind none cause).1
  | .waitNow => { s with roster := s.roster.waitNow.1 }

def follow (s : Session) (acts : List Act) : Session := acts.foldl act s

theorem act_turn {s s' : Session} {t : Task} (h : s.step t = some s') : s.act (.turn t) = s' := by
  rw [act, h, Option.getD_some]

/-- One session comes from another by acts. -/
def Reaches (s s' : Session) : Prop := ∃ acts, s.follow acts = s'

theorem reaches_refl (s : Session) : Reaches s s := ⟨[], rfl⟩

theorem reaches_act (s : Session) (a : Act) : Reaches s (s.act a) := ⟨[a], rfl⟩

theorem Reaches.trans {s s' s'' : Session} (h : Reaches s s') (h' : Reaches s' s'') :
    Reaches s s'' := by
  obtain ⟨acts, rfl⟩ := h
  obtain ⟨acts', rfl⟩ := h'
  exact ⟨acts ++ acts', List.foldl_append⟩

/-! ## 3. What a script does -/

/-- Settling changes only what steps of tasks change, and their order. -/
theorem settle_keeps {P : Session → Prop}
    (hstep : ∀ s t s', s.step t = some s' → P s → P s')
    (harrange : ∀ s ready line, P s → P { s with ready, line }) {s : Session} (h : P s) :
    P s.settle := by
  have hrun := system.settle_keeps hstep s.ready s.line h
  exact harrange _ _ _ hrun

theorem Reaches.act {s s' : Session} (h : Reaches s s') (a : Act) : Reaches s (s'.act a) :=
  h.trans (reaches_act s' a)

theorem reaches_settle (s : Session) : Reaches s s.settle := by
  apply settle_keeps (P := Reaches s)
  · intro s' t s'' hstep h
    rw [← act_turn hstep]
    exact h.act _
  · intro s' ready line h
    exact h.act (.arrange ready line)
  · exact reaches_refl s

/-- The order in which tasks wait does not decide whether they can move. -/
theorem step_arrange {s : Session} {t : Task} (h : s.step t = none) (ready : List Task)
    (line : Line Task) : { s with ready, line }.step t = none := by
  cases t with
  | worker i =>
      simp only [step, stepWorker] at h ⊢
      split at h
      · rw [Option.map_eq_none_iff] at h
        exact Option.map_eq_none_iff.mpr h
      · rfl
  | wait i =>
      rw [step, Option.map_eq_none_iff] at h
      exact Option.map_eq_none_iff.mpr h

/-- After settling no task can move. -/
theorem step_settle (s : Session) (t : Task) : s.settle.step t = none := by
  by_cases ht : t ∈ s.settle.tasks
  · exact step_arrange (system.step_settle s.ready s.line s ht) _ _
  · -- a task that is not there cannot move anyway
    cases t with
    | worker i =>
        have hi : s.settle.subs[i]? = none := by
          rw [List.getElem?_eq_none_iff, ← Nat.not_lt]
          intro hlt
          apply ht
          simp [tasks, hlt]
        simp only [step, stepWorker, hi]
    | wait i =>
        have hi : s.settle.roster.waits[i]? = none := by
          rw [List.getElem?_eq_none_iff, ← Nat.not_lt]
          intro hlt
          apply ht
          simp [tasks, hlt]
        simp only [step, Roster.stepWait, hi, Option.map_none]

/-- What the tasks do leaves the contexts as they are, apart from their tokens. -/
theorem calls_step {s s' : Session} {t : Task} (h : s.step t = some s') :
    s'.book.calls = s.book.calls := by
  cases t with
  | worker i =>
      simp only [step, stepWorker] at h
      split at h
      · rw [Option.map_eq_some_iff] at h
        obtain ⟨m, -, rfl⟩ := h
        simp only [applyMove]
        split
        · rfl
        · rfl
      · cases h
  | wait i =>
      rw [step, Option.map_eq_some_iff] at h
      obtain ⟨roster, -, rfl⟩ := h
      rfl

theorem calls_settle (s : Session) : s.settle.book.calls = s.book.calls := by
  apply settle_keeps (P := fun s' => s'.book.calls = s.book.calls)
  · intro s' t s'' hstep h
    exact (calls_step hstep).trans h
  · intro s' ready line h
    exact h
  · rfl

theorem find?_settle (s : Session) (name : String) :
    s.settle.book.find? name = s.book.find? name := by
  rw [CallBook.find?, calls_settle]
  rfl

/-- What an answer leaves depends on nothing that has reached the service but the token. -/
theorem answered_fst (s : Session) (name : String) (order : Order) {incoming incoming' : Incoming}
    (h : incoming.call.token = incoming'.call.token) :
    (s.answered name order incoming).1 = (s.answered name order incoming').1 := by
  simp only [answered, h]
  split
  · rfl
  · rfl

/-- The session at the moment at which a call is decided, unless its caller cancels it: the tasks
have run meanwhile, if there was time for it. -/
def meanwhile (s : Session) (client : Client) (order : Order) : Session :=
  if Registration.isImmediate client.timeout order.pace then s else s.settle

/-- What a registration comes to, if the session has become another one meanwhile and this is what
reaches the service. -/
inductive Registers (s m : Session) (client : Client) (name : String) (call : Call) (order : Order)
    (cancelAfter : Option Nat) (incoming : Incoming) : Session × Registered Incoming → Prop where
  | uncalled (hcancelled : s.isCancelled call.token = true) :
      Registers s m client name call order cancelAfter incoming
        (s.refuse order.kind none .cancelled)
  /-- A task has cancelled the context. -/
  | interrupted (hopen : s.isCancelled call.token = false)
      (hmeanwhile : m.isCancelled call.token = true) :
      Registers s m client name call order cancelAfter incoming
        (m.refuse order.kind (some incoming) .cancelled)
  | answered (hopen : s.isCancelled call.token = false)
      (hmeanwhile : m.isCancelled call.token = false)
      (hfirst : Registration.first client.timeout cancelAfter order.pace = .answer) :
      Registers s m client name call order cancelAfter incoming (m.answered name order incoming)
  | cancelled (hopen : s.isCancelled call.token = false)
      (hmeanwhile : m.isCancelled call.token = false)
      (hfirst : Registration.first client.timeout cancelAfter order.pace = .cancellation) :
      Registers s m client name call order cancelAfter incoming
        ({ m with book := m.book.cancel call }.settle.refuse order.kind (some incoming) .cancelled)
  | timedOut (hopen : s.isCancelled call.token = false)
      (hmeanwhile : m.isCancelled call.token = false)
      (hfirst : Registration.first client.timeout cancelAfter order.pace = .timeout) :
      Registers s m client name call order cancelAfter incoming
        (m.refuse order.kind (some incoming) (.timeout client.timeout.wholeMillis))

/-- The service is given the context as it was before the tasks ran. -/
theorem register_cases (s : Session) (client : Client) (name : String) (call : Call)
    (order : Order) (cancelAfter : Option Nat) :
    Registers s (s.meanwhile client order) client name call order cancelAfter
      (s.incoming (call.withAuth client.macaroon) order)
      (s.register client name call order cancelAfter) := by
  unfold register
  cases hopen : s.isCancelled call.token with
  | true =>
      rw [if_pos rfl]
      exact .uncalled hopen
  | false =>
      rw [if_neg Bool.false_ne_true]
      dsimp only
      generalize hm :
        (if Registration.isImmediate client.timeout order.pace then s else s.settle) = m
      obtain rfl : s.meanwhile client order = m := hm
      cases hmeanwhile : (s.meanwhile client order).isCancelled call.token with
      | true =>
          rw [if_pos rfl]
          exact .interrupted hopen hmeanwhile
      | false =>
          rw [if_neg Bool.false_ne_true]
          cases hfirst : Registration.first client.timeout cancelAfter order.pace with
          | answer => exact .answered hopen hmeanwhile hfirst
          | cancellation => exact .cancelled hopen hmeanwhile hfirst
          | timeout => exact .timedOut hopen hmeanwhile hfirst

/-- The acts that a script step is made of, and perhaps more. -/
inductive Makes (step : Step) : Act → Prop where
  | turn (t : Task) : Makes step (.turn t)
  | arrange (ready : List Task) (line : Line Task) : Makes step (.arrange ready line)
  | outer (hact : step.isAct = true) : Makes step (.outer step)
  | recv {name : String} {count : Nat} (hstep : step = .recv name count) : Makes step (.recv name)
  | answer {name callName : String} {order : Order} {cancelAfter : Option Nat}
      (hstep : step = .register name callName order cancelAfter) :
      Makes step (.answer name callName order)
  | refuse (kind : WatchKind) (cause : LinkError) : Makes step (.refuse kind cause)
  | cancel {name callName : String} {order : Order} {cancelAfter : Option Nat}
      (hstep : step = .register name callName order cancelAfter) :
      Makes step (.outer (.cancel callName))
  | waitNow (hstep : step = .wait) : Makes step .waitNow

section Keeps

variable {P : Session → Prop} {step : Step}

/-- What its acts keep is kept while the tasks run. -/
theorem settle_keeps_of_makes (hkeeps : ∀ s a, Makes step a → P s → P (s.act a)) {s : Session}
    (h : P s) : P s.settle := by
  apply settle_keeps
  · intro s' t s'' hstep h
    rw [← act_turn hstep]
    exact hkeeps s' _ (.turn t) h
  · intro s' ready line h
    exact hkeeps s' _ (.arrange ready line) h
  · exact h

theorem recvMany_keeps {name : String} {count : Nat}
    (hkeeps : ∀ s a, Makes (.recv name count) a → P s → P (s.act a)) (n : Nat) {s : Session}
    (h : P s) : P (s.recvMany name n).1 := by
  induction n generalizing s with
  | zero => exact h
  | succ n ih =>
      rw [recvMany]
      split
      · rename_i s' answer hrecv
        have honce : s.act (.recv name) = s' := by
          rw [act, recvOnce, afterWatch, hrecv, Option.elim_some]
        have hfirst : P s' := by
          rw [← honce]
          exact hkeeps s _ (.recv rfl) h
        split
        · exact hfirst
        · exact ih (settle_keeps_of_makes hkeeps hfirst)
      · exact h

/-- What every act of a registration keeps, the registration keeps. Whichever way it goes
(`register_cases`), it is made of the tasks that run meanwhile and of an answer or a refusal. The
caller's cancellation comes before a refusal, and the tasks run once more. -/
theorem register_keeps {client : Client} {name callName : String} {order : Order}
    {cancelAfter : Option Nat}
    (hkeeps : ∀ s a, Makes (.register name callName order cancelAfter) a → P s → P (s.act a))
    {s : Session} {call : Call} (hcall : s.book.find? callName = some call) (h : P s)
    (nanos : Option Nat) : P (s.register client name call order nanos).1 := by
  have hrefuse {s : Session} (h : P s) (incoming : Option Incoming) (cause : LinkError) :
      P (s.refuse order.kind incoming cause).1 := hkeeps s _ (.refuse order.kind cause) h
  have hmeanwhile : P (s.meanwhile client order)
      ∧ (s.meanwhile client order).book.find? callName = some call := by
    unfold meanwhile
    split
    · exact ⟨h, hcall⟩
    · exact ⟨settle_keeps_of_makes hkeeps h, by rw [find?_settle, hcall]⟩
  obtain ⟨h', hfind⟩ := hmeanwhile
  have hr := s.register_cases client name call order nanos
  generalize s.register client name call order nanos = r at hr ⊢
  generalize s.meanwhile client order = s' at h' hfind hr
  cases hr with
  | uncalled => exact hrefuse h none .cancelled
  | interrupted => exact hrefuse h' _ .cancelled
  | answered =>
      have hanswer : s'.act (.answer name callName order)
          = (s'.answered name order (s'.incoming call order)).1 := by
        simp only [act, hfind]
      -- the credential leaves the token as it is
      have htoken : (s.incoming (call.withAuth client.macaroon) order).call.token
          = (s'.incoming call order).call.token := rfl
      rw [answered_fst s' name order htoken, ← hanswer]
      exact hkeeps s' _ (.answer rfl) h'
  | cancelled =>
      -- the tasks learn of it before the registration does
      have hcancel : s'.act (.outer (.cancel callName))
          = { s' with book := s'.book.cancel call } := by
        simp only [act, Step.isAct, if_true, perform, hfind]
      apply hrefuse
      rw [← hcancel]
      exact settle_keeps_of_makes hkeeps (hkeeps s' _ (.cancel rfl) h')
  | timedOut => exact hrefuse h' _ _

/-- A step is a single act, unless it lets the tasks run in between; each of those that do was shown
to be made of acts. -/
theorem perform_keeps (hkeeps : ∀ s a, Makes step a → P s → P (s.act a)) {s : Session} (h : P s) :
    P (s.perform step).1 := by
  by_cases hact : step.isAct
  · have houter : s.act (.outer step) = (s.perform step).1 := by rw [act, if_pos hact]
    rw [← houter]
    exact hkeeps s _ (.outer hact) h
  · cases step with
    | register name callName order cancelAfter =>
        simp only [perform]
        split
        · rename_i client call _ hcall
          exact register_keeps hkeeps hcall h _
        · exact h
    | recv name count =>
        simp only [perform]
        split
        · exact recvMany_keeps hkeeps count h
        · exact h
    | wait =>
        simp only [perform]
        split
        · exact hkeeps _ .waitNow (.waitNow rfl) (settle_keeps_of_makes hkeeps h)
        · exact h
    | _ => exact absurd rfl hact

/-- Whatever a step of a script does, it does by its acts. -/
theorem advance_keeps (hkeeps : ∀ s a, Makes step a → P s → P (s.act a)) {s : Session} (h : P s)
    (settles : Bool) : P (s.advance step settles).1 := by
  have hperform := perform_keeps hkeeps h
  unfold advance
  dsimp only
  split
  · exact settle_keeps_of_makes hkeeps hperform
  · exact hkeeps _ _ (.arrange _ _) hperform

end Keeps

theorem reaches_register (s : Session) (client : Client) (name callName : String) {call : Call}
    (hcall : s.book.find? callName = some call) (order : Order) (cancelAfter : Option Nat) :
    Reaches s (s.register client name call order cancelAfter).1 :=
  register_keeps (P := Reaches s)
    (fun _ a (_ : Makes (.register name callName order cancelAfter) a) h => h.act a) hcall
    (reaches_refl s) cancelAfter

theorem reaches_perform (s : Session) (step : Step) : Reaches s (s.perform step).1 :=
  perform_keeps (P := Reaches s) (fun _ a _ h => h.act a) (reaches_refl s)

theorem reaches_advance (s : Session) (step : Step) (settles : Bool) :
    Reaches s (s.advance step settles).1 :=
  advance_keeps (P := Reaches s) (fun _ a _ h => h.act a) (reaches_refl s) settles

end Session

end ChainWatch
