/-
What a reader takes for what.

A reader `Takes` some bytes for a value if it finds the value whatever stands behind them, and runs
out of bytes if any of them is missing. `Reads` says which bytes it takes for which values, and that
it takes nothing else. Both go through `bind`, so what a reader takes is found part by part, and
nobody has to ask again where the bytes may end: a fault in the middle is never mistaken for an end,
and no reader looks further than it takes.
-/
import ChainWatch.CompactSize
import ChainWatch.Proofs.Bytes

set_option autoImplicit false

namespace ChainWatch.Reader

variable {α β : Type}

/-! ## 1. From left to right -/

/-- The reader takes just these bytes for `a`. -/
structure Takes (r : Reader α) (used : Bytes) (a : α) : Prop where
  /-- Whatever stands behind them is left. -/
  leaves : ∀ rest, r (used ++ rest) = .ok (a, rest)
  /-- Without the last of them there is too little. -/
  lacks : ∀ cut missing, used = cut ++ missing → missing ≠ [] → r cut = .error .truncated

theorem takes_pure (a : α) : Takes (Pure.pure a) [] a where
  leaves rest := by rw [List.nil_append, pure_apply]
  lacks cut missing h hmissing := absurd (List.append_eq_nil_iff.mp h.symm).2 hmissing

/-- One after the other. -/
theorem Takes.bind {r : Reader α} {f : α → Reader β} {used used' : Bytes} {a : α} {b : β}
    (h : Takes r used a) (h' : Takes (f a) used' b) : Takes (r >>= f) (used ++ used') b where
  leaves rest := by
    rw [List.append_assoc, bind_ok (h.leaves (used' ++ rest))]
    exact h'.leaves rest
  lacks cut missing heq hmissing := by
    rcases List.append_eq_append_iff.mp heq with ⟨cut', rfl, hsplit⟩ | ⟨gap, rfl, hsplit⟩
    · -- the second part is cut
      rw [bind_ok (h.leaves cut')]
      exact h'.lacks cut' missing hsplit hmissing
    · cases gap with
      | nil =>
          -- the cut is just behind the first part, so all of the second is missing
          rw [hsplit] at hmissing
          have hsecond := h'.lacks [] used' rfl hmissing
          have hfirst := h.leaves []
          rw [List.append_nil, List.append_nil] at hfirst
          rw [bind_ok hfirst]
          exact hsecond
      | cons byte gap => exact bind_error (h.lacks cut (byte :: gap) rfl (List.cons_ne_nil _ _))

theorem bind_eq_ok {r : Reader α} {f : α → Reader β} {bytes rest : Bytes} {b : β} :
    (r >>= f) bytes = .ok (b, rest)
      ↔ ∃ a mid, r bytes = .ok (a, mid) ∧ f a mid = .ok (b, rest) := by
  constructor
  · intro h
    cases hr : r bytes with
    | ok first => exact ⟨first.1, first.2, rfl, (bind_ok hr).symm.trans h⟩
    | error fault =>
        rw [bind_error hr] at h
        cases h
  · rintro ⟨a, mid, hr, hf⟩
    rw [bind_ok hr, hf]

/-! ## 2. Forms -/

/-- The reader takes the bytes that have the form of a value for that value, and no others. -/
structure Reads (r : Reader α) (Form : α → Bytes → Prop) : Prop where
  takes : ∀ {a used}, Form a used → Takes r used a
  only : ∀ {bytes a rest}, r bytes = .ok (a, rest) → ∃ used, Form a used ∧ bytes = used ++ rest

/-- The same form in other words. -/
theorem Reads.iff {r : Reader α} {Form Form' : α → Bytes → Prop} (h : Reads r Form)
    (hiff : ∀ a used, Form a used ↔ Form' a used) : Reads r Form' where
  takes hform := h.takes ((hiff _ _).mpr hform)
  only hr := by
    obtain ⟨used, hform, hbytes⟩ := h.only hr
    exact ⟨used, (hiff _ _).mp hform, hbytes⟩

theorem reads_pure (a : α) : Reads (Pure.pure a) fun b used => b = a ∧ used = [] where
  takes := by
    rintro _ _ ⟨rfl, rfl⟩
    exact takes_pure _
  only h := by
    rw [pure_apply] at h
    cases h
    exact ⟨[], ⟨rfl, rfl⟩, rfl⟩

theorem reads_fail (fault : TxFault) : Reads (fail fault : Reader α) fun _ _ => False where
  takes := False.elim
  only h := by cases h

/-- The bytes of one part stand before those of the next. -/
theorem Reads.bind {r : Reader α} {f : α → Reader β} {Form : α → Bytes → Prop}
    {Form' : α → β → Bytes → Prop} (h : Reads r Form) (h' : ∀ a, Reads (f a) (Form' a)) :
    Reads (r >>= f) fun b used =>
      ∃ a used₁ used₂, Form a used₁ ∧ Form' a b used₂ ∧ used = used₁ ++ used₂ where
  takes := by
    rintro b _ ⟨a, used₁, used₂, hform, hform', rfl⟩
    exact (h.takes hform).bind ((h' a).takes hform')
  only hr := by
    obtain ⟨a, mid, hfirst, hsecond⟩ := bind_eq_ok.mp hr
    obtain ⟨used₁, hform, rfl⟩ := h.only hfirst
    obtain ⟨used₂, hform', rfl⟩ := (h' a).only hsecond
    exact ⟨_, ⟨a, used₁, used₂, hform, hform', rfl⟩, (List.append_assoc ..).symm⟩

/-- What was read is kept as something else, from which it can be found again. -/
theorem Reads.map {r : Reader α} {Valid : α → Prop} {Valid' : β → Prop} {write : α → Bytes}
    (h : Reads r fun a used => Valid a ∧ used = write a) {f : α → β} {g : β → α}
    (hf : ∀ a, Valid a → Valid' (f a) ∧ g (f a) = a)
    (hg : ∀ b, Valid' b → Valid (g b) ∧ f (g b) = b) :
    Reads (r >>= fun a => Pure.pure (f a)) fun b used => Valid' b ∧ used = write (g b) := by
  refine (h.bind fun a => reads_pure (f a)).iff ?_
  intro b used
  constructor
  · rintro ⟨a, _, _, ⟨ha, rfl⟩, ⟨rfl, rfl⟩, rfl⟩
    obtain ⟨hvalid, hback⟩ := hf a ha
    refine ⟨hvalid, ?_⟩
    rw [hback, List.append_nil]
  · rintro ⟨hb, rfl⟩
    obtain ⟨hvalid, hforth⟩ := hg b hb
    exact ⟨g b, _, [], ⟨hvalid, rfl⟩, ⟨hforth.symm, rfl⟩, (List.append_nil _).symm⟩

theorem reads_ite {c : Prop} [Decidable c] {r r' : Reader α} {Form Form' : α → Bytes → Prop}
    (h : c → Reads r Form) (h' : ¬ c → Reads r' Form') :
    Reads (if c then r else r') fun a used => c ∧ Form a used ∨ ¬ c ∧ Form' a used := by
  by_cases hc : c
  · rw [if_pos hc]
    refine (h hc).iff ?_
    intro a used
    simp only [hc, true_and, not_true, false_and, or_false]
  · rw [if_neg hc]
    refine (h' hc).iff ?_
    intro a used
    simp only [hc, false_and, not_false_iff, true_and, false_or]

/-- The same form as often as asked, one after the other. -/
theorem reads_replicate {r : Reader α} {Valid : α → Prop} {write : α → Bytes}
    (h : Reads r fun a used => Valid a ∧ used = write a) (n : Nat) :
    Reads (replicate r n) fun as used =>
      as.length = n ∧ (∀ a ∈ as, Valid a) ∧ used = as.flatMap write := by
  induction n with
  | zero =>
      refine (reads_pure []).iff ?_
      intro as used
      constructor
      · rintro ⟨rfl, rfl⟩
        exact ⟨rfl, fun _ hmem => absurd hmem List.not_mem_nil, rfl⟩
      · rintro ⟨hlength, -, rfl⟩
        obtain rfl := List.length_eq_zero_iff.mp hlength
        exact ⟨rfl, rfl⟩
  | succ n ih =>
      refine (h.bind fun a => ih.bind fun as => reads_pure (a :: as)).iff ?_
      intro as used
      constructor
      · rintro ⟨a, _, _, ⟨ha, rfl⟩, ⟨as, _, _, ⟨hlength, has, rfl⟩, ⟨rfl, rfl⟩, rfl⟩, rfl⟩
        refine ⟨congrArg (· + 1) hlength, List.forall_mem_cons.mpr ⟨ha, has⟩, ?_⟩
        rw [List.append_nil, List.flatMap_cons]
      · rintro ⟨hlength, hvalid, rfl⟩
        cases as with
        | nil => cases hlength
        | cons a as =>
            obtain ⟨ha, has⟩ := List.forall_mem_cons.mp hvalid
            refine ⟨a, _, _, ⟨ha, rfl⟩, ⟨as, _, _, ⟨Nat.succ.inj hlength, has, rfl⟩, ⟨rfl, rfl⟩,
              rfl⟩, ?_⟩
            rw [List.append_nil, List.flatMap_cons]

/-! ## 3. Bytes, numbers, digests -/

theorem reads_take (n : Nat) : Reads (take n) fun a used => a.length = n ∧ used = a where
  takes := by
    rintro a _ ⟨rfl, rfl⟩
    refine ⟨take_append _, ?_⟩
    rintro cut missing rfl hmissing
    have hlong := List.length_pos_iff.mpr hmissing
    rw [take, if_neg]
    rw [List.length_take, List.length_append]
    omega
  only h := by
    unfold take at h
    split at h
    · rename_i hlength
      cases h
      exact ⟨_, ⟨hlength, rfl⟩, (List.take_append_drop ..).symm⟩
    · cases h

theorem reads_number (width : Nat) :
    Reads (number width) fun n used => n < 256 ^ width ∧ used = leBytes width n := by
  refine (reads_take width).map ?_ ?_
  · rintro bytes rfl
    exact ⟨leValue_lt bytes, leBytes_leValue bytes⟩
  · intro n hlt
    exact ⟨leBytes_length width n, leValue_leBytes width n hlt⟩

theorem reads_digest : Reads digest fun d used => used = d.bytes where
  takes := by
    rintro d _ rfl
    refine ⟨?_, ?_⟩
    · intro rest
      have htake : (d.bytes ++ rest).take 32 = d.bytes := by
        rw [List.take_append_of_le_length (Nat.le_of_eq d.length_bytes.symm),
          List.take_of_length_le (Nat.le_of_eq d.length_bytes)]
      have hdrop : (d.bytes ++ rest).drop 32 = rest := by
        rw [← d.length_bytes, List.drop_left]
      rw [digest, dif_pos (by rw [htake, d.length_bytes]), hdrop]
      simp only [htake]
    · rintro cut missing hsplit hmissing
      have hlong := List.length_pos_iff.mpr hmissing
      have hlength := d.length_bytes
      rw [hsplit, List.length_append] at hlength
      rw [digest, dif_neg]
      rw [List.length_take]
      omega
  only h := by
    unfold digest at h
    split at h
    · cases h
      exact ⟨_, rfl, (List.take_append_drop ..).symm⟩
    · cases h

/-! ## 4. The whole of a byte string -/

section RunAll

variable {r : Reader α} {Form : α → Bytes → Prop}

theorem runAll_eq_ok {bytes : Bytes} {a : α} :
    r.runAll bytes = .ok a ↔ r bytes = .ok (a, []) := by
  unfold runAll
  split <;> simp_all

/-- A byte string is read as a whole if it has the form of a value. -/
theorem Reads.runAll (h : Reads r Form) {bytes : Bytes} {a : α} :
    r.runAll bytes = .ok a ↔ Form a bytes := by
  rw [runAll_eq_ok]
  constructor
  · intro hr
    obtain ⟨used, hform, rfl⟩ := h.only hr
    rw [List.append_nil]
    exact hform
  · intro hform
    have hall := (h.takes hform).leaves []
    rw [List.append_nil] at hall
    exact hall

theorem Takes.runAll_cut {cut missing : Bytes} {a : α} (h : Takes r (cut ++ missing) a)
    (hmissing : missing ≠ []) : r.runAll cut = .error .truncated := by
  rw [runAll, h.lacks cut missing rfl hmissing]

theorem Takes.runAll_more {used more : Bytes} {a : α} (h : Takes r used a) (hmore : more ≠ []) :
    r.runAll (used ++ more) = .error .trailing := by
  obtain ⟨byte, more, rfl⟩ := List.exists_cons_of_ne_nil hmore
  rw [runAll, h.leaves]

end RunAll

end ChainWatch.Reader
