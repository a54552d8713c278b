/-
What a book of contexts does.

A token that was cancelled stays so, and cancelling one leaves the others alone. A name stands for
the context that was stored under it last. A later book `Grows` out of an earlier one: it has at
least its tokens, and they are cancelled if they were.
-/
import ChainWatch.Call

set_option autoImplicit false

namespace ChainWatch

/-! ## 1. Tokens -/

namespace Tokens

theorem isCancelled_fresh (t : Tokens) (token : Token) :
    t.fresh.isCancelled token = t.isCancelled token := by
  simp only [fresh, isCancelled, List.getD_eq_getElem?_getD]
  by_cases hlt : token.index < t.fired.length
  · rw [List.getElem?_append_left hlt]
  · rw [List.getElem?_append_right (Nat.not_lt.mp hlt),
      List.getElem?_eq_none (Nat.not_lt.mp hlt)]
    by_cases hzero : token.index - t.fired.length = 0
    · rw [hzero]
      rfl
    · rw [List.getElem?_eq_none (by rw [List.length_singleton]; omega)]

theorem isCancelled_cancel_self {t : Tokens} {token : Token}
    (h : token.index < t.fired.length) : (t.cancel token).isCancelled token = true := by
  rw [cancel, isCancelled, List.getD_eq_getElem?_getD, List.getElem?_set_self h]
  rfl

theorem isCancelled_cancel_ne {t : Tokens} {token other : Token} (h : other ≠ token) :
    (t.cancel other).isCancelled token = t.isCancelled token := by
  have hindex : other.index ≠ token.index := by
    intro heq
    cases other
    cases token
    exact h (congrArg Token.mk heq)
  rw [isCancelled, isCancelled, cancel, List.getD_eq_getElem?_getD, List.getD_eq_getElem?_getD,
    List.getElem?_set_ne hindex]

/-- There is no way back. -/
theorem isCancelled_cancel {t : Tokens} {token : Token} (h : t.isCancelled token = true)
    (other : Token) : (t.cancel other).isCancelled token = true := by
  by_cases hsame : other = token
  · subst hsame
    apply isCancelled_cancel_self
    rw [← Nat.not_le]
    intro hle
    rw [isCancelled, List.getD_eq_getElem?_getD, List.getElem?_eq_none hle] at h
    cases h
  · rw [isCancelled_cancel_ne hsame]
    exact h

end Tokens

namespace CallBook

/-! ## 2. Names -/

section Names

variable {b : CallBook} {name other : String}

theorem find?_store_self (call : Call) : (b.store name call).find? name = some call :=
  List.lookup_cons_self

theorem find?_store_ne (call : Call) (h : other ≠ name) :
    (b.store name call).find? other = b.find? other := by
  have hne : (other == name) = false := beq_false_of_ne h
  rw [find?, store, List.lookup_cons, hne, find?]
  induction b.calls with
  | nil => rfl
  | cons entry calls ih =>
      by_cases hentry : entry.1 = name
      · have hother : (other == entry.1) = false := beq_false_of_ne (hentry ▸ h)
        rw [List.filter_cons_of_neg (by simp [hentry]), List.lookup_cons, hother]
        exact ih
      · rw [List.filter_cons_of_pos (by simp [hentry]), List.lookup_cons, List.lookup_cons]
        cases other == entry.1 with
        | true => rfl
        | false => exact ih

theorem find?_derive (source : String) (f : Call → Call) :
    (b.derive name source f).find? name
      = (b.find? source).elim (b.find? name) fun call => some (f call) := by
  unfold derive
  cases b.find? source with
  | none => rfl
  | some call => exact find?_store_self (f call)

theorem tokens_derive (source : String) (f : Call → Call) :
    (b.derive name source f).tokens = b.tokens := by
  unfold derive
  split <;> rfl

theorem find?_derive_ne (source : String) (f : Call → Call) (h : other ≠ name) :
    (b.derive name source f).find? other = b.find? other := by
  unfold derive
  split
  · exact find?_store_ne _ h
  · rfl

end Names

/-! ## 3. Later books -/

/-- Every context is on a token that was made. -/
def Made (b : CallBook) : Prop := ∀ entry ∈ b.calls, entry.2.token.index < b.tokens.fired.length

/-- A later book: its tokens are those of the earlier one, cancelled if they were. -/
structure Grows (b b' : CallBook) : Prop where
  fired : ∀ token, b.tokens.isCancelled token = true → b'.tokens.isCancelled token = true
  length : b.tokens.fired.length ≤ b'.tokens.fired.length
  made : b.Made → b'.Made

theorem grows_refl (b : CallBook) : Grows b b := ⟨fun _ => id, Nat.le_refl _, id⟩

theorem Grows.trans {b b' b'' : CallBook} (h : Grows b b') (h' : Grows b' b'') : Grows b b'' :=
  ⟨fun token => h'.fired token ∘ h.fired token, Nat.le_trans h.length h'.length, h'.made ∘ h.made⟩

theorem made_store {b : CallBook} (h : b.Made) (name : String) {call : Call}
    (hcall : call.token.index < b.tokens.fired.length) : (b.store name call).Made := by
  intro entry hentry
  rcases List.mem_cons.mp hentry with rfl | hmem
  · exact hcall
  · exact h entry (List.mem_filter.mp hmem).1

theorem grows_create (b : CallBook) (name : String) : Grows b (b.create name) where
  fired token h := (b.tokens.isCancelled_fresh token).trans h
  length := by
    show _ ≤ (b.tokens.fired ++ [false]).length
    rw [List.length_append]
    exact Nat.le_add_right _ _
  made h := by
    apply made_store (b := { b with tokens := b.tokens.fresh })
    · intro entry hentry
      have hlt := h entry hentry
      show _ < (b.tokens.fired ++ [false]).length
      rw [List.length_append]
      omega
    · show b.tokens.fired.length < (b.tokens.fired ++ [false]).length
      rw [List.length_append, List.length_singleton]
      omega

theorem mem_of_find? {b : CallBook} {name : String} {call : Call} (h : b.find? name = some call) :
    ∃ entry ∈ b.calls, entry.2.token = call.token := by
  rw [find?, List.lookup_eq_some_iff] at h
  obtain ⟨before, after, hcalls, -⟩ := h
  refine ⟨(name, call), ?_, rfl⟩
  rw [hcalls]
  exact List.mem_append_right _ List.mem_cons_self

theorem grows_derive (b : CallBook) (name source : String) {f : Call → Call}
    (hf : ∀ call, (f call).token = call.token) : Grows b (b.derive name source f) := by
  unfold derive
  split
  · rename_i call hfind
    refine ⟨fun _ => id, Nat.le_refl _, fun h => made_store h name ?_⟩
    obtain ⟨entry, hentry, htoken⟩ := mem_of_find? hfind
    rw [hf, ← htoken]
    exact h entry hentry
  · exact grows_refl b

theorem grows_cancel (b : CallBook) (token : Token) :
    Grows b { b with tokens := b.tokens.cancel token } where
  fired _ h := Tokens.isCancelled_cancel h token
  length := by
    show _ ≤ (b.tokens.fired.set token.index true).length
    exact Nat.le_of_eq List.length_set.symm
  made h := by
    intro entry hentry
    show _ < (b.tokens.fired.set token.index true).length
    rw [List.length_set]
    exact h entry hentry

end CallBook

end ChainWatch
