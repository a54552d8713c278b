/-
Subscriptions do not see each other.

Take the steps of a script that are about one subscription or make or cancel one of its contexts,
and note between them whenever a step of others has cancelled one of its tokens (`trace`). What the
subscription is told is a matter of this trace (`isolated`): whatever others do besides, and whether
they do it at all, its registration and its requests are answered the same. If nobody else uses its
contexts there is nothing to note (`fate_not_mem_trace`). Otherwise the cancellations of others have
to be noted, because two subscriptions may share a token: a step that cancels nothing may be what
another step needs in order to cancel it (`deletion_tells`).
-/
import Mathlib
import ChainWatch.Proofs.Seclusion

set_option autoImplicit false

namespace ChainWatch

/-! ## 1. Traces -/

/-- What a subscription gets to know of a script. -/
inductive Cue where
  /-- A step of its own, with the client if that matters. -/
  | own (step : Step) (client : Option Client)
  /-- Others have cancelled some of its tokens: says which are cancelled by now. -/
  | fate (off : List Bool)

namespace Session

variable {s s' b b' : Session} {n : String} {K : List String}

/-- The steps of one's own, and what others cancel between them. Workers run after every step. -/
def trace (n : String) (K : List String) : Session → List Step → List Cue
  | _, [] => []
  | s, step :: p =>
      let s' := (s.advance step true).1
      if step.isOwn n K then .own step (s.clientFor step) :: s'.trace n K p
      else if s'.fate n K = s.fate n K then s'.trace n K p
      else .fate (s'.fate n K) :: s'.trace n K p

/-- The answers to the steps of one's own. -/
def heard (n : String) (K : List String) : Session → List Step → List Answer
  | _, [] => []
  | s, step :: p =>
      let r := s.advance step true
      if step.isOwn n K then r.2 :: r.1.heard n K p else r.1.heard n K p

/-! ## 2. Steps of others -/

/-- Others act in two sessions, perhaps not in the same way. As long as they have cancelled the
same, it does not show. -/
theorem Alike.kept (h : Alike n K b b') (hb : b.AtRest) (hb' : b'.AtRest) (hkept : Kept n K b s)
    (hkept' : Kept n K b' s') (hrest : s.AtRest) (hrest' : s'.AtRest)
    (hfate : s.fate n K = s'.fate n K) : Alike n K s s' where
  left := quiet_of_atRest hkept.sound hrest
  right := quiet_of_atRest hkept'.sound hrest'
  metadata k hk := by
    rw [hkept.calls k hk, hkept'.calls k hk]
    exact h.metadata k hk
  watch := by
    have hoff := isOff_of_fate hfate (subscription_mem K)
    rw [isOff, isOff, hkept.tokenOf hb hrest (subscription_mem K),
      hkept'.tokenOf hb' hrest' (subscription_mem K), tokenOf, tokenOf] at hoff
    -- both workers have had the turn in which they noticed a cancellation, or none has
    rw [hkept.sub?_eq hb hrest, hkept'.sub?_eq hb' hrest']
    rcases h.cases_sub with ⟨hsub, hsub'⟩ | ⟨sub, sub', hsub, hsub', hwatch, -⟩
    · rw [hsub, hsub']
      rfl
    · rw [hsub, hsub', Option.map_some, Option.map_some, Option.any_some, Option.any_some] at hoff
      simp only [hsub, hsub', Option.map_some, hwatch, hoff]
  tokens := {
    there := by
      intro x hx
      rw [hkept.tokenOf hb hrest hx, hkept'.tokenOf hb' hrest' hx]
      exact h.tokens.there x hx
    shared := by
      intro x hx y hy
      rw [hkept.tokenOf hb hrest hx, hkept'.tokenOf hb' hrest' hx, hkept.tokenOf hb hrest hy,
        hkept'.tokenOf hb' hrest' hy]
      exact h.tokens.shared x hx y hy
    off := fun _ hx => isOff_of_fate hfate hx }

/-! ## 3. What is told -/

/-- What comes next for a subscription, of which nothing has been seen since `b`. -/
inductive Outlook (n : String) (K : List String) (b s : Session) (p : List Step) : Prop where
  | nothing (htrace : s.trace n K p = []) (hheard : s.heard n K p = [])
  | own (s₁ : Session) (step : Step) (rest : List Step) (hkept : Kept n K b s₁)
      (hrest : s₁.AtRest) (hfate : s₁.fate n K = b.fate n K) (hown : step.isOwn n K = true)
      (hmem : step :: rest ⊆ p)
      (htrace : s.trace n K p
        = .own step (s₁.clientFor step) :: (s₁.advance step true).1.trace n K rest)
      (hheard : s.heard n K p
        = (s₁.advance step true).2 :: (s₁.advance step true).1.heard n K rest)
  | others (s₁ : Session) (rest : List Step) (hkept : Kept n K b s₁) (hrest : s₁.AtRest)
      (hmem : rest ⊆ p) (htrace : s.trace n K p = .fate (s₁.fate n K) :: s₁.trace n K rest)
      (hheard : s.heard n K p = s₁.heard n K rest)

/-- The steps that nothing is noted of are passed over. -/
theorem outlook (hb : b.AtRest) (hkept : Kept n K b s) (hrest : s.AtRest)
    (hfate : s.fate n K = b.fate n K) (p : List Step) : Outlook n K b s p := by
  induction p generalizing s with
  | nil => exact .nothing rfl rfl
  | cons step p ih =>
      by_cases hown : step.isOwn n K
      · refine .own s step p hkept hrest hfate hown (List.Subset.refl _) ?_ ?_
        · rw [trace, if_pos hown]
        · rw [heard, if_pos hown]
      · have hkept' := hkept.advance hb (Bool.not_eq_true _ ▸ hown) true
        have hheard : s.heard n K (step :: p) = (s.advance step true).1.heard n K p := by
          rw [heard, if_neg hown]
        by_cases hsame : (s.advance step true).1.fate n K = s.fate n K
        · have htrace : s.trace n K (step :: p) = (s.advance step true).1.trace n K p := by
            rw [trace, if_neg hown, if_pos hsame]
          cases ih hkept' (atRest_advance s step) (hsame.trans hfate) with
          | nothing htrace' hheard' =>
              exact .nothing (htrace.trans htrace') (hheard.trans hheard')
          | own s₁ step' rest hkept₁ hrest₁ hfate₁ hown' hmem htrace' hheard' =>
              exact .own s₁ step' rest hkept₁ hrest₁ hfate₁ hown'
                (List.subset_cons_of_subset _ hmem) (htrace.trans htrace') (hheard.trans hheard')
          | others s₁ rest hkept₁ hrest₁ hmem htrace' hheard' =>
              exact .others s₁ rest hkept₁ hrest₁ (List.subset_cons_of_subset _ hmem)
                (htrace.trans htrace') (hheard.trans hheard')
        · refine .others _ p hkept' (atRest_advance s step) (List.subset_cons_self _ _) ?_ hheard
          rw [trace, if_neg hown, if_neg hsame]

theorem heard_nil (hsound : s.Sound) (hrest : s.AtRest) {p : List Step}
    (hp : s.trace n K p = []) : s.heard n K p = [] := by
  cases outlook hrest (kept_refl hsound) hrest rfl p with
  | nothing _ hheard => exact hheard
  | own _ _ _ _ _ _ _ _ htrace _ => cases htrace.symm.trans hp
  | others _ _ _ _ _ htrace _ => cases htrace.symm.trans hp

/-- A cue that is a step of one's own. -/
theorem heard_own (hsound : s.Sound) (hrest : s.AtRest) {p : List Step} {step : Step}
    {client : Option Client} {cues : List Cue} (hp : s.trace n K p = .own step client :: cues) :
    ∃ s₁ rest, Kept n K s s₁ ∧ s₁.AtRest ∧ s₁.fate n K = s.fate n K ∧ step.isOwn n K = true
      ∧ step :: rest ⊆ p ∧ s₁.clientFor step = client
      ∧ (s₁.advance step true).1.trace n K rest = cues
      ∧ s.heard n K p = (s₁.advance step true).2 :: (s₁.advance step true).1.heard n K rest := by
  cases outlook hrest (kept_refl hsound) hrest rfl p with
  | nothing htrace _ => cases htrace.symm.trans hp
  | own s₁ step' rest hkept hrest₁ hfate hown hmem htrace hheard =>
      obtain ⟨hcue, htail⟩ := List.cons.inj (htrace.symm.trans hp)
      obtain ⟨rfl, hclient⟩ := Cue.own.inj hcue
      exact ⟨s₁, rest, hkept, hrest₁, hfate, hown, hmem, hclient, htail, hheard⟩
  | others _ _ _ _ _ htrace _ => cases (List.cons.inj (htrace.symm.trans hp)).1

/-- A cue that others have given. -/
theorem heard_fate (hsound : s.Sound) (hrest : s.AtRest) {p : List Step} {off : List Bool}
    {cues : List Cue} (hp : s.trace n K p = .fate off :: cues) :
    ∃ s₁ rest, Kept n K s s₁ ∧ s₁.AtRest ∧ s₁.fate n K = off ∧ rest ⊆ p
      ∧ s₁.trace n K rest = cues ∧ s.heard n K p = s₁.heard n K rest := by
  cases outlook hrest (kept_refl hsound) hrest rfl p with
  | nothing htrace _ => cases htrace.symm.trans hp
  | own _ _ _ _ _ _ _ _ htrace _ => cases (List.cons.inj (htrace.symm.trans hp)).1
  | others s₁ rest hkept hrest₁ hmem htrace hheard =>
      obtain ⟨hcue, htail⟩ := List.cons.inj (htrace.symm.trans hp)
      exact ⟨s₁, rest, hkept, hrest₁, Cue.fate.inj hcue, hmem, htail, hheard⟩

/-- Sessions that look the same and have the same trace ahead are heard the same. -/
theorem Alike.heard_eq {cues : List Cue} (h : Alike n K s s') (hrest : s.AtRest)
    (hrest' : s'.AtRest) {p q : List Step}
    (hdepends : ∀ step ∈ p, step.isOwn n K = true → step.DependsOn K)
    (hp : s.trace n K p = cues) (hq : s'.trace n K q = cues) :
    s.heard n K p = s'.heard n K q := by
  -- the scripts differ in length, so the induction is on the trace they have in common
  induction cues generalizing s s' p q with
  | nil => rw [heard_nil h.left.sound hrest hp, heard_nil h.right.sound hrest' hq]
  | cons cue cues ih =>
      cases cue with
      | own step client =>
          obtain ⟨s₁, rest, hkept, hrest₁, hfate, hown, hmem, hclient, htail, hheard⟩ :=
            heard_own h.left.sound hrest hp
          obtain ⟨s₁', rest', hkept', hrest₁', hfate', -, -, hclient', htail', hheard'⟩ :=
            heard_own h.right.sound hrest' hq
          -- what has been passed over does not show, so the step is answered alike
          have hfates : s₁.fate n K = s₁'.fate n K := by
            rw [hfate, hfate']
            exact List.map_congr_left fun x hx => h.tokens.off x hx
          have h₁ := h.kept hrest hrest' hkept hkept' hrest₁ hrest₁' hfates
          obtain ⟨h₂, hanswer⟩ := h₁.advance hrest₁ hrest₁' hown
            (hdepends step (hmem List.mem_cons_self) hown) (hclient.trans hclient'.symm)
          have hlater := ih h₂ (atRest_advance s₁ step) (atRest_advance s₁' step)
            (fun step hstep => hdepends step (hmem (List.mem_cons_of_mem _ hstep))) htail htail'
          rw [hheard, hheard', hanswer, hlater]
      | fate off =>
          obtain ⟨s₁, rest, hkept, hrest₁, hfate, hmem, htail, hheard⟩ :=
            heard_fate h.left.sound hrest hp
          obtain ⟨s₁', rest', hkept', hrest₁', hfate', -, htail', hheard'⟩ :=
            heard_fate h.right.sound hrest' hq
          have h₁ := h.kept hrest hrest' hkept hkept' hrest₁ hrest₁' (hfate.trans hfate'.symm)
          rw [hheard, hheard']
          exact ih h₁ hrest₁ hrest₁' (fun step hstep => hdepends step (hmem hstep)) htail htail'

theorem alike_start (client : Client) : Alike n K (start client) (start client) :=
  have hrest : (start client).AtRest := fun _ => rfl
  { left := quiet_of_atRest (sound_start client) hrest
    right := quiet_of_atRest (sound_start client) hrest
    metadata := fun _ _ => rfl
    watch := rfl
    tokens := { there := fun _ _ => rfl, shared := fun _ _ _ _ => Iff.rfl, off := fun _ _ => rfl } }

/-- Nothing is noted of others who spare the contexts. -/
theorem fate_not_mem_trace (hT : ∃ T, Owned n K T s) (hrest : s.AtRest) {p : List Step}
    (hdepends : ∀ step ∈ p, step.isOwn n K = true → step.DependsOn K)
    (hspares : ∀ step ∈ p, step.isOwn n K = false → step.Spares K) (off : List Bool) :
    .fate off ∉ s.trace n K p := by
  induction p generalizing s with
  | nil => exact List.not_mem_nil
  | cons step p ih =>
      have hlater := ih
        (exists_owned_advance hT (hdepends step List.mem_cons_self)
          (hspares step List.mem_cons_self) true)
        (atRest_advance s step)
        (fun step hstep => hdepends step (List.mem_cons_of_mem _ hstep))
        (fun step hstep => hspares step (List.mem_cons_of_mem _ hstep))
      by_cases hown : step.isOwn n K = true
      · rw [trace, if_pos hown]
        intro hmem
        cases hmem with
        | tail _ hmem => exact hlater hmem
      · have hother := Bool.not_eq_true _ ▸ hown
        obtain ⟨T, hT⟩ := hT
        have hfate := fate_others hT hrest hother (hspares step List.mem_cons_self hother)
        rw [trace, if_neg hown, if_pos hfate]
        exact hlater

/-- Two scripts for one client, in both of which the workers run after every step. If they have the
same trace for a subscription and its contexts, its registration and all its requests are answered
the same. There is nothing in the trace but the steps of its own if others make no contexts from
these and register nothing under them. -/
theorem isolated (client : Client) (n : String) (K : List String) (p q : List Step)
    (hdepends : ∀ step ∈ p, step.isOwn n K = true → step.DependsOn K) :
    ((start client).trace n K p = (start client).trace n K q →
      (start client).heard n K p = (start client).heard n K q)
    ∧ ((∀ step ∈ p, step.isOwn n K = false → step.Spares K) →
      ∀ off, .fate off ∉ (start client).trace n K p) := by
  have hrest : (start client).AtRest := fun _ => rfl
  refine ⟨?_, ?_⟩
  · intro htrace
    exact (alike_start client).heard_eq hrest hrest hdepends htrace rfl
  · intro hspares
    exact fate_not_mem_trace ⟨_, owned_start client⟩ hrest hdepends hspares

/-- Another subscription, whose context shares the token, is registered, used and cancelled. -/
def crowd : List Step :=
  [.call "c" none [], .call "d" none [], .call "e" (some "c") [],
    .register "o" "e" (.epochs ⟨.after 5, .ok ⟨[.event ⟨[], 7⟩ false], false, false⟩⟩) none,
    .register "s" "c" (.epochs ⟨.after 0, .ok ⟨[.event ⟨[], 1⟩ false], false, false⟩⟩) none,
    .dropClient, .recv "o" 1, .recv "s" 1, .cancel "d", .cancel "e", .recv "s" 2]

/-- The same without the other one, except that the token is cancelled at the same time. -/
def fewer : List Step :=
  [.call "c" none [], .call "e" (some "c") [],
    .register "s" "c" (.epochs ⟨.after 0, .ok ⟨[.event ⟨[], 1⟩ false], false, false⟩⟩) none,
    .recv "s" 1, .cancel "e", .recv "s" 2]

/-- The other one is on a token of its own, and takes an item that cancels it. -/
def secluded : List Step :=
  [.call "c" none [], .call "d" none [],
    .register "o" "d" (.epochs ⟨.after 5, .ok ⟨[.event ⟨[], 7⟩ true], false, false⟩⟩) none,
    .register "s" "c" (.epochs ⟨.after 0, .ok ⟨[.event ⟨[], 1⟩ false], false, false⟩⟩) none,
    .recv "s" 1, .cancel "d", .recv "s" 1]

theorem isolated_crowd :
    let s := start ⟨⟨""⟩, ⟨1, 0, by decide⟩⟩
    (∀ step ∈ crowd, step.isOwn "s" ["c"] = true → step.DependsOn ["c"])
    ∧ s.trace "s" ["c"] crowd = s.trace "s" ["c"] fewer
    ∧ s.heard "s" ["c"] crowd = s.heard "s" ["c"] fewer
    ∧ (∀ step ∈ secluded, step.isOwn "s" ["c"] = true → step.DependsOn ["c"])
    ∧ (∀ step ∈ secluded, step.isOwn "s" ["c"] = false → step.Spares ["c"])
    ∧ ∀ off, .fate off ∉ s.trace "s" ["c"] secluded := by
  intro s
  have hcrowd : ∀ step ∈ crowd, step.isOwn "s" ["c"] = true → step.DependsOn ["c"] := by
    simp [crowd, Step.isOwn, Step.DependsOn]
  have htrace : s.trace "s" ["c"] crowd = s.trace "s" ["c"] fewer := by cbv
  have hsecluded : ∀ step ∈ secluded, step.isOwn "s" ["c"] = true → step.DependsOn ["c"] := by
    simp [secluded, Step.isOwn, Step.DependsOn]
  have hspares : ∀ step ∈ secluded, step.isOwn "s" ["c"] = false → step.Spares ["c"] := by
    simp [secluded, Step.isOwn, Step.Spares]
  exact ⟨hcrowd, htrace, (isolated ⟨⟨""⟩, ⟨1, 0, by decide⟩⟩ "s" ["c"] crowd fewer hcrowd).1 htrace,
    hsecluded, hspares,
    (isolated ⟨⟨""⟩, ⟨1, 0, by decide⟩⟩ "s" ["c"] secluded fewer hsecluded).2 hspares⟩

/-- Two subscriptions on one token. The fourth height of the second one comes with the cancellation
of its call, and its worker gets that far when two heights have been read. -/
def entwined : List Step :=
  [.call "c" none [],
    .register "s" "c" (.epochs ⟨.after 0, .ok ⟨[], false, false⟩⟩) none,
    .register "o" "c" (.epochs ⟨.after 0, .ok ⟨[.event ⟨[], 1⟩ false, .event ⟨[], 2⟩ false,
      .event ⟨[], 3⟩ false, .event ⟨[], 4⟩ true], false, false⟩⟩) none]

/-- To read the first height of the one cancels nothing, and yet the other one can tell whether it
was done: without it the next request does not lead to the cancellation. -/
theorem deletion_tells :
    let s := start ⟨⟨""⟩, ⟨1, 0, by decide⟩⟩
    let s₁ := entwined.foldl (fun s step => (s.advance step true).1) s
    (Step.recv "o" 1).isOwn "s" ["c"] = false
    ∧ (s₁.advance (.recv "o" 1) true).1.fate "s" ["c"] = s₁.fate "s" ["c"]
    ∧ s.heard "s" ["c"] (entwined ++ [.recv "o" 1, .recv "o" 1, .recv "s" 1])
      ≠ s.heard "s" ["c"] (entwined ++ [.recv "o" 1, .recv "s" 1]) := by
  intro s s₁
  refine ⟨by decide, by cbv, ?_⟩
  have hwhole : (s.heard "s" ["c"] (entwined ++ [.recv "o" 1, .recv "o" 1, .recv "s" 1])).getLast?
      = some (.received [.ready none]) := by cbv
  have hless : (s.heard "s" ["c"] (entwined ++ [.recv "o" 1, .recv "s" 1])).getLast?
      = some (.received [.pending]) := by cbv
  intro hsame
  rw [hsame, hless] at hwhole
  cases hwhole

end Session

end ChainWatch
