/-
What contexts have in common.

A context is made on a token of its own, on the token of another one, or as a copy of another one
with an entry written to its metadata. Its `Descent` says which, all the way back, and everything
that it ever shows can be read off that: it is cancelled once a context is cancelled that it is
connected with, and its metadata is what was written last on its own way (`Shows`). A `Lineage`
keeps the descents and no tokens; a book follows it step by step (`Mirrors`).
-/
import ChainWatch.Proofs.CallBook
import ChainWatch.Proofs.TextMap
import Mathlib.Logic.Relation

set_option autoImplicit false

namespace ChainWatch

/-! ## 1. Descents -/

/-- How a context came about. -/
inductive Descent where
  /-- On a token of its own; such contexts are numbered. -/
  | fresh (index : Nat)
  /-- On the token of another one, without metadata. -/
  | sharing (source : Descent)
  /-- As a copy of another one, with an entry written. -/
  | writing (source : Descent) (entry : TextEntry)

namespace Descent

/-- A context and one that was made from it. -/
inductive Parent : Descent → Descent → Prop where
  | sharing (source : Descent) : Parent source (.sharing source)
  | writing (source : Descent) (entry : TextEntry) : Parent source (.writing source entry)

/-- Contexts that were made from one another, or from contexts that are connected. -/
def Connected : Descent → Descent → Prop := Relation.EqvGen Parent

/-- What was written on the way to a context, in order. Sharing a token starts afresh. -/
def writes : Descent → List TextEntry
  | fresh _ => []
  | sharing _ => []
  | writing source entry => source.writes ++ [entry]

/-- The number of the context that it all began with. -/
def root : Descent → Nat
  | fresh index => index
  | sharing source => source.root
  | writing source _ => source.root

theorem connected_root (d : Descent) : Connected (.fresh d.root) d := by
  induction d with
  | fresh index => exact .refl _
  | sharing source ih => exact ih.trans _ _ _ (.rel _ _ (.sharing source))
  | writing source entry ih => exact ih.trans _ _ _ (.rel _ _ (.writing source entry))

theorem Connected.root_eq {d d' : Descent} (h : Connected d d') : d.root = d'.root := by
  induction h with
  | rel d d' hparent => cases hparent <;> rfl
  | refl d => rfl
  | symm d d' h ih => exact ih.symm
  | trans d d' d'' h h' ih ih' => exact ih.trans ih'

/-- What is connected has begun with the same context. -/
theorem connected_iff {d d' : Descent} : Connected d d' ↔ d.root = d'.root := by
  refine ⟨Connected.root_eq, fun h => ?_⟩
  have hd : Connected (.fresh d'.root) d := h ▸ d.connected_root
  exact (hd.symm _ _).trans _ _ _ d'.connected_root

/-- The context that has come about so. -/
def call (d : Descent) : Call := ⟨⟨d.root⟩, .ofList d.writes⟩

theorem call_writing (d : Descent) (entry : TextEntry) :
    (writing d entry).call = d.call.withMetadata entry.1 entry.2 := by
  rw [call, writes, TextMap.ofList, List.foldl_append]
  rfl

end Descent

/-! ## 2. What was done -/

/-- The descents of contexts by name, and what has been cancelled. -/
structure Lineage where
  /-- How many contexts were made on a token of their own. -/
  fresh : Nat
  /-- The newest of a name first. -/
  names : List (String × Descent)
  cancelled : List Descent

namespace Lineage

def empty : Lineage := ⟨0, [], []⟩

def find? (l : Lineage) (name : String) : Option Descent := l.names.lookup name

def store (l : Lineage) (name : String) (d : Descent) : Lineage :=
  { l with names := (name, d) :: l.names }

/-- A context is made from a named one, if there is that one. -/
def bear (l : Lineage) (name source : String) (f : Descent → Descent) : Lineage :=
  match l.find? source with
  | some d => l.store name (f d)
  | none => l

def record (l : Lineage) : CallStep → Lineage
  | .create name => { l with fresh := l.fresh + 1 }.store name (.fresh l.fresh)
  | .share name source => l.bear name source .sharing
  | .withMetadata name source key value => l.bear name source fun d => .writing d (key, value)
  | .withAuth name source (.ok m) => l.bear name source fun d => .writing d ("macaroon", m.hex)
  | .withAuth _ _ (.error _) => l
  | .get _ _ => l
  | .cancel name => { l with cancelled := (l.find? name).toList ++ l.cancelled }

def follow (l : Lineage) (steps : List CallStep) : Lineage := steps.foldl record l

/-- What is to be seen of a context. -/
structure Shows (l : Lineage) (d : Descent) (view : CallView) : Prop where
  cancelled : view.cancelled = true ↔ ∃ d' ∈ l.cancelled, d'.Connected d
  /-- A key has the value that was written last on the way to the context. -/
  value : ∀ key, view.metadata.get? key = TextMap.lastWrite? d.writes key
  /-- The keys that were written are listed with their values, and nothing else is. -/
  listed : ∀ entry, entry ∈ view.metadata.toList
    ↔ TextMap.lastWrite? d.writes entry.1 = some entry.2
  /-- They stand in the order of their bytes, each of them once. -/
  ascending : (view.metadata.toList.map fun entry => utf8 entry.1).Pairwise (· < ·)

end Lineage

namespace CallBook

def follow (b : CallBook) (steps : List CallStep) : CallBook :=
  steps.foldl (fun b step => (b.perform step).1) b

end CallBook

/-- The name under which a step stores a context. -/
def CallStep.target? : CallStep → Option String
  | create name => some name
  | share name _ => some name
  | withMetadata name _ _ _ => some name
  | withAuth name _ (.ok _) => some name
  | withAuth _ _ (.error _) => none
  | get _ _ => none
  | cancel _ => none

namespace Lineage

/-! ## 3. A book follows -/

/-- A book holds the contexts of a lineage, and has cancelled what they began with. -/
structure Mirrors (l : Lineage) (b : CallBook) : Prop where
  length : b.tokens.fired.length = l.fresh
  find? : ∀ name, b.find? name = (l.find? name).map Descent.call
  root_lt : ∀ name d, l.find? name = some d → d.root < l.fresh
  fired : ∀ token, b.tokens.isCancelled token = true ↔ ∃ d ∈ l.cancelled, d.root = token.index

theorem mirrors_empty : Mirrors empty .empty where
  length := rfl
  find? _ := rfl
  root_lt _ _ h := nomatch h
  fired token := by
    constructor
    · intro h
      cases h
    · rintro ⟨d, hd, -⟩
      cases hd

variable {l : Lineage} {b : CallBook}

theorem Mirrors.fresh (h : Mirrors l b) :
    Mirrors { l with fresh := l.fresh + 1 } { b with tokens := b.tokens.fresh } where
  length := by
    show (b.tokens.fired ++ [false]).length = l.fresh + 1
    rw [List.length_append, h.length]
    rfl
  find? := h.find?
  root_lt name d hd := Nat.lt_succ_of_lt (h.root_lt name d hd)
  fired token := by
    show b.tokens.fresh.isCancelled token = true ↔ _
    rw [Tokens.isCancelled_fresh]
    exact h.fired token

theorem Mirrors.store (h : Mirrors l b) (name : String) {d : Descent} (hd : d.root < l.fresh) :
    Mirrors (l.store name d) (b.store name d.call) where
  length := h.length
  find? other := by
    by_cases hname : other = name
    · subst hname
      rw [CallBook.find?_store_self, Lineage.find?, Lineage.store, List.lookup_cons_self]
      rfl
    · rw [CallBook.find?_store_ne _ hname, h.find?, Lineage.find?, Lineage.find?, Lineage.store,
        List.lookup_cons, beq_false_of_ne hname]
  root_lt other d' hd' := by
    rw [Lineage.find?, Lineage.store, List.lookup_cons] at hd'
    split at hd'
    · cases hd'
      exact hd
    · exact h.root_lt other d' hd'
  fired := h.fired

theorem Mirrors.derive (h : Mirrors l b) (name source : String) {f : Descent → Descent}
    {g : Call → Call} (hcall : ∀ d, (f d).call = g d.call) (hroot : ∀ d, (f d).root = d.root) :
    Mirrors (l.bear name source f) (b.derive name source g) := by
  unfold bear CallBook.derive
  rw [h.find?]
  cases hd : l.find? source with
  | none => exact h
  | some d =>
      dsimp only [Option.map_some]
      rw [← hcall]
      exact h.store name (hroot d ▸ h.root_lt source d hd)

theorem Mirrors.cancel (h : Mirrors l b) {name : String} {d : Descent}
    (hd : l.find? name = some d) :
    Mirrors { l with cancelled := d :: l.cancelled } (b.cancel d.call) where
  length := List.length_set.trans h.length
  find? := h.find?
  root_lt := h.root_lt
  fired token := by
    show (b.tokens.cancel ⟨d.root⟩).isCancelled token = true ↔ _
    simp only [List.mem_cons, exists_eq_or_imp, ← h.fired token]
    by_cases hsame : (⟨d.root⟩ : Token) = token
    · subst hsame
      -- a token that the book does not hold could not be cancelled
      have hlt : d.root < b.tokens.fired.length := h.length ▸ h.root_lt name d hd
      rw [Tokens.isCancelled_cancel_self hlt]
      exact iff_of_true rfl (Or.inl rfl)
    · have hne : d.root ≠ token.index := fun heq => hsame (congrArg Token.mk heq)
      rw [Tokens.isCancelled_cancel_ne hsame, or_iff_right hne]

/-- The lineage and the book go along with each other. A context that is made has the next token of
the book as its root. One that is borne by another is on its token, and has its root. -/
theorem Mirrors.record (h : Mirrors l b) (step : CallStep) :
    Mirrors (l.record step) (b.perform step).1 := by
  cases step with
  | create name =>
      have hcall : (Descent.fresh l.fresh).call = .onToken b.tokens.next := by
        rw [← h.length]
        rfl
      show Mirrors _ ({ b with tokens := b.tokens.fresh }.store name (.onToken b.tokens.next))
      rw [← hcall]
      exact h.fresh.store name (Nat.lt_succ_self l.fresh)
  | share name source => exact h.derive name source (fun _ => rfl) fun _ => rfl
  | withMetadata name source key value =>
      exact h.derive name source (fun d => d.call_writing (key, value)) fun _ => rfl
  | withAuth name source credential =>
      cases credential with
      | ok m =>
          exact h.derive name source (fun d => d.call_writing ("macaroon", m.hex)) fun _ => rfl
      | error cause => exact h
  | get name key => exact h
  | cancel name =>
      simp only [Lineage.record, CallBook.perform, h.find?]
      cases hd : l.find? name with
      | none => exact h
      | some d => exact h.cancel hd

theorem Mirrors.follow (h : Mirrors l b) (steps : List CallStep) :
    Mirrors (l.follow steps) (b.follow steps) := by
  induction steps generalizing l b with
  | nil => exact h
  | cons step steps ih => exact ih (h.record step)

/-- What a lineage says of a context is what the book shows. -/
theorem Mirrors.shows (h : Mirrors l b) (d : Descent) : Shows l d (b.view d.call) where
  cancelled := by
    simp only [Descent.connected_iff]
    exact h.fired ⟨d.root⟩
  value key := TextMap.get?_ofList d.writes key
  listed entry := by
    rw [TextMap.mem_toList]
    exact Eq.congr_left (TextMap.get?_ofList d.writes entry.1)
  ascending := List.pairwise_map.mpr (TextMap.ofList d.writes).ascending

/-! ## 4. What steps change -/

/-- Nothing is cancelled but by the step that is there for it. -/
theorem cancelled_record (l : Lineage) (step : CallStep) :
    (l.record step).cancelled = l.cancelled
    ∨ ∃ name d, step = .cancel name ∧ l.find? name = some d
      ∧ (l.record step).cancelled = d :: l.cancelled := by
  have hbear (name source : String) (f : Descent → Descent) :
      (l.bear name source f).cancelled = l.cancelled := by
    unfold bear
    split <;> rfl
  cases step with
  | create name => exact Or.inl rfl
  | share name source => exact Or.inl (hbear ..)
  | withMetadata name source key value => exact Or.inl (hbear ..)
  | withAuth name source credential =>
      cases credential with
      | ok m => exact Or.inl (hbear ..)
      | error cause => exact Or.inl rfl
  | get name key => exact Or.inl rfl
  | cancel name =>
      cases hd : l.find? name with
      | none =>
          left
          rw [record, hd]
          rfl
      | some d =>
          right
          refine ⟨name, d, rfl, hd, ?_⟩
          rw [record, hd]
          rfl

theorem mem_cancelled_follow {d : Descent} (h : d ∈ l.cancelled) (steps : List CallStep) :
    d ∈ (l.follow steps).cancelled := by
  induction steps generalizing l with
  | nil => exact h
  | cons step steps ih =>
      apply ih
      rcases l.cancelled_record step with hsame | ⟨name, d', -, -, hmore⟩
      · rw [hsame]
        exact h
      · rw [hmore]
        exact List.mem_cons_of_mem d' h

/-- A step that changes what is to be seen of a context cancels one that it is connected with. -/
theorem Mirrors.change (h : Mirrors l b) {d : Descent} {step : CallStep}
    (hview : (b.perform step).1.view d.call ≠ b.view d.call) :
    ∃ name d', step = .cancel name ∧ l.find? name = some d' ∧ d'.Connected d := by
  have hcancelled : ¬ (((b.perform step).1.view d.call).cancelled = true
      ↔ (b.view d.call).cancelled = true) := by
    intro hiff
    -- the metadata is held by the context itself, and is the same before and after
    apply hview
    rw [CallBook.view, CallBook.view, CallView.mk.injEq]
    exact ⟨Bool.eq_iff_iff.mpr hiff, rfl⟩
  rw [((h.record step).shows d).cancelled, (h.shows d).cancelled] at hcancelled
  rcases l.cancelled_record step with hsame | ⟨name, d', hstep, hd', hmore⟩
  · rw [hsame] at hcancelled
    exact absurd Iff.rfl hcancelled
  · refine ⟨name, d', hstep, hd', ?_⟩
    by_cases hconnected : d'.Connected d
    · exact hconnected
    · refine absurd ?_ hcancelled
      rw [hmore]
      simp only [List.mem_cons, exists_eq_or_imp, or_iff_right hconnected]

/-- A step stores a context under its own name or under none. -/
theorem find?_perform_ne {step : CallStep} {name : String} (h : step.target? ≠ some name) :
    (b.perform step).1.find? name = b.find? name := by
  cases step with
  | create own => exact CallBook.find?_store_ne _ fun heq => h (congrArg some heq.symm)
  | share own source => exact CallBook.find?_derive_ne _ _ fun heq => h (congrArg some heq.symm)
  | withMetadata own source key value =>
      exact CallBook.find?_derive_ne _ _ fun heq => h (congrArg some heq.symm)
  | withAuth own source credential =>
      cases credential with
      | ok m => exact CallBook.find?_derive_ne _ _ fun heq => h (congrArg some heq.symm)
      | error cause => rfl
  | get own key => rfl
  | cancel own =>
      rw [CallBook.perform]
      split <;> rfl

/-- **Contexts share their cancellation and nothing else.** Whatever is done to contexts, one that
was made at some time is cancelled at a later time if a context was cancelled by then that it is
connected with, and its metadata is what was written last on the way to it. A step leaves the other
contexts as they are, except that a cancellation reaches those that are connected. -/
theorem cancellation_shared_metadata_own (before after : List CallStep) :
    let l := empty.follow before
    let b := CallBook.empty.follow before
    let l' := l.follow after
    let b' := b.follow after
    (∀ name, (∃ c, b.find? name = some c) ↔ ∃ d, l.find? name = some d)
    ∧ (∀ name c d, b.find? name = some c → l.find? name = some d →
      l.Shows d (b.view c) ∧ l'.Shows d (b'.view c)
      ∧ ((b.view c).cancelled = true → (b'.view c).cancelled = true)
      ∧ ∀ step, (b'.perform step).1.view c ≠ b'.view c →
        ∃ other d', step = .cancel other ∧ l'.find? other = some d' ∧ d'.Connected d)
    ∧ (∀ step name, step.target? ≠ some name → (b.perform step).1.find? name = b.find? name)
    ∧ (∀ name key, b.perform (.get name key)
      = (b, .value ((l.find? name).bind fun d => TextMap.lastWrite? d.writes key)))
    ∧ ∀ name source s cause, Macaroon.ofHex? s = .error cause →
      b.perform (.withAuth name source (Macaroon.ofHex? s)) = (b, .refused cause) := by
  intro l b l' b'
  have h : Mirrors l b := mirrors_empty.follow before
  have h' : Mirrors l' b' := h.follow after
  refine ⟨?_, ?_, fun step name => find?_perform_ne, ?_, ?_⟩
  · intro name
    simp only [h.find?, Option.map_eq_some_iff]
    constructor
    · rintro ⟨c, d, hd, -⟩
      exact ⟨d, hd⟩
    · rintro ⟨d, hd⟩
      exact ⟨d.call, d, hd, rfl⟩
  · intro name c d hc hd
    rw [h.find?, hd] at hc
    cases hc
    refine ⟨h.shows d, h'.shows d, ?_, fun step => h'.change⟩
    intro hcancelled
    obtain ⟨d', hmem, hconnected⟩ := (h.shows d).cancelled.mp hcancelled
    exact (h'.shows d).cancelled.mpr ⟨d', mem_cancelled_follow hmem after, hconnected⟩
  · intro name key
    rw [CallBook.perform, h.find?]
    cases l.find? name with
    | none => rfl
    | some d => exact congrArg (fun found => (b, CallAnswer.value found)) ((h.shows d).value key)
  · intro name source s cause hs
    rw [hs]
    rfl

end Lineage

end ChainWatch
