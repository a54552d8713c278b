/-
Which texts are hex.

`Spells` says it in characters: two digits of either case for each byte, high half first, and
nothing else. The reader looks at the bytes of a text, and a character that is no digit may have
several of them, but it reads exactly these texts (`decode_eq_ok`), the one that `encode` writes
among them (`decode_encode`). Any even number of digits spells something (`exists_spells`), and all
other texts are refused for the first fault that their bytes have (`decode_eq_error`).
-/
import ChainWatch.Hex
import Mathlib.Data.List.Forall2

set_option autoImplicit false

namespace ChainWatch.Hex

/-! ## 1. Digits -/

/-- A digit of either case, by the number it stands for. -/
def IsDigit (c : Char) (n : Nat) : Prop :=
  n < 10 ∧ c.toNat = 48 + n ∨ 10 ≤ n ∧ n < 16 ∧ (c.toNat = 87 + n ∨ c.toNat = 55 + n)

theorem IsDigit.lt {c : Char} {n : Nat} (h : IsDigit c n) : n < 16 ∧ c.toNat < 128 := by
  unfold IsDigit at h
  omega

theorem toNat_ofNat {n : Nat} (h : n < 128) : (Char.ofNat n).toNat = n := by
  have hvalid : n.isValidChar := Or.inl (by omega)
  rw [Char.ofNat, dif_pos hvalid]
  rfl

theorem isDigit_digit {n : Nat} (h : n < 16) : IsDigit (digit n) n := by
  unfold digit
  split
  · rename_i hdecimal
    exact Or.inl ⟨hdecimal, toNat_ofNat (by omega)⟩
  · rename_i hletter
    exact Or.inr ⟨by omega, h, Or.inl (toNat_ofNat (by omega))⟩

/-- A byte is read as the digit of the same number. -/
theorem value?_eq_some {b : UInt8} {n : Nat} :
    value? b = some n
      ↔ n < 10 ∧ b.toNat = 48 + n
        ∨ 10 ≤ n ∧ n < 16 ∧ (b.toNat = 87 + n ∨ b.toNat = 55 + n) := by
  unfold value?
  dsimp only
  split
  · rw [Option.some.injEq]
    omega
  split
  · rw [Option.some.injEq]
    omega
  split
  · rw [Option.some.injEq]
    omega
  · simp only [reduceCtorEq, false_iff]
    omega

/-- No byte of a character beyond ASCII is a digit. -/
theorem value?_eq_none {b : UInt8} (h : 128 ≤ b.toNat) : value? b = none := by
  rw [Option.eq_none_iff_forall_ne_some]
  intro n hn
  rw [value?_eq_some] at hn
  omega

/-- A character has one byte, which is its number, or starts with a byte that is no digit. -/
theorem utf8EncodeChar_cases (c : Char) :
    (∃ b, String.utf8EncodeChar c = [b] ∧ b.toNat = c.toNat)
    ∨ 128 ≤ c.toNat ∧ ∃ b b' rest, String.utf8EncodeChar c = b :: b' :: rest ∧ value? b = none := by
  have hvalue {n : Nat} (hlow : 128 ≤ n) (hhigh : n < 256) : value? (UInt8.ofNat n) = none := by
    apply value?_eq_none
    rw [UInt8.toNat_ofNat', Nat.mod_eq_of_lt hhigh]
    exact hlow
  rw [String.utf8EncodeChar.eq_1]
  split
  · rename_i hsmall
    refine Or.inl ⟨_, rfl, ?_⟩
    rw [UInt8.toNat_ofNat']
    exact Nat.mod_eq_of_lt (by omega)
  rename_i hlarge
  refine Or.inr ⟨Nat.not_le.mp hlarge, ?_⟩
  split
  · exact ⟨_, _, [], rfl, hvalue (by omega) (by omega)⟩
  split
  · exact ⟨_, _, _, rfl, hvalue (by omega) (by omega)⟩
  · exact ⟨_, _, _, rfl, hvalue (by omega) (by omega)⟩

theorem value?_eq_some_iff_isDigit {b : UInt8} {c : Char} {n : Nat} (h : b.toNat = c.toNat) :
    value? b = some n ↔ IsDigit c n := by
  rw [value?_eq_some, h]
  rfl

theorem IsDigit.bytes {c : Char} {n : Nat} (h : IsDigit c n) :
    ∃ b, String.utf8EncodeChar c = [b] ∧ value? b = some n := by
  rcases utf8EncodeChar_cases c with ⟨b, hb, hnat⟩ | ⟨hlarge, -⟩
  · exact ⟨b, hb, (value?_eq_some_iff_isDigit hnat).mpr h⟩
  · exact absurd h.lt.2 (Nat.not_lt.mpr hlarge)

/-! ## 2. Texts -/

/-- The texts that spell a byte string: two digits of either case for each byte. -/
inductive Spells : List Char → Bytes → Prop where
  | nil : Spells [] []
  | cons {hi lo : Char} {b : UInt8} {cs : List Char} {bytes : Bytes}
      (hhi : IsDigit hi (b.toNat / 16)) (hlo : IsDigit lo (b.toNat % 16)) (h : Spells cs bytes) :
      Spells (hi :: lo :: cs) (b :: bytes)

/-- Any two digits are those of a byte. -/
theorem Spells.cons_digits {hi lo : Char} {m n : Nat} {cs : List Char} {bytes : Bytes}
    (hhi : IsDigit hi m) (hlo : IsDigit lo n) (h : Spells cs bytes) :
    Spells (hi :: lo :: cs) (UInt8.ofNat (16 * m + n) :: bytes) := by
  have hm := hhi.lt.1
  have hn := hlo.lt.1
  have hbyte : (UInt8.ofNat (16 * m + n)).toNat = 16 * m + n := by
    rw [UInt8.toNat_ofNat']
    exact Nat.mod_eq_of_lt (by omega)
  refine .cons ?_ ?_ h
  · rw [hbyte, Nat.mul_add_div (by omega), Nat.div_eq_of_lt hn]
    exact hhi
  · rw [hbyte, Nat.mul_add_mod, Nat.mod_eq_of_lt hn]
    exact hlo

theorem spells_encode (bytes : Bytes) : Spells (bytes.flatMap pair) bytes := by
  induction bytes with
  | nil => exact .nil
  | cons b bytes ih =>
      have hb := b.toNat_lt
      exact .cons (isDigit_digit (by omega)) (isDigit_digit (by omega)) ih

/-- What a text spells is read from its bytes. -/
theorem Spells.decodeFrom {cs : List Char} {bytes : Bytes} (h : Spells cs bytes) (index : Nat) :
    (cs.flatMap String.utf8EncodeChar).length % 2 = 0
    ∧ decodeFrom index (cs.flatMap String.utf8EncodeChar) = .ok bytes := by
  induction h generalizing index with
  | nil => exact ⟨rfl, rfl⟩
  | @cons hi lo b cs bytes hhi hlo h ih =>
      obtain ⟨x, hx, hxvalue⟩ := hhi.bytes
      obtain ⟨y, hy, hyvalue⟩ := hlo.bytes
      obtain ⟨heven, hrest⟩ := ih (index + 2)
      have hbyte : UInt8.ofNat (16 * (b.toNat / 16) + b.toNat % 16) = b := by
        rw [Nat.div_add_mod, UInt8.ofNat_toNat]
      simp only [List.flatMap_cons, hx, hy, List.singleton_append, List.length_cons]
      refine ⟨by omega, ?_⟩
      simp only [Hex.decodeFrom, hxvalue, hyvalue, hrest, hbyte]
      rfl

/-- What is read from the bytes of a text is what the text spells. -/
theorem spells_of_decodeFrom : ∀ (cs : List Char) {index : Nat} {bytes : Bytes},
    (cs.flatMap String.utf8EncodeChar).length % 2 = 0 →
    Hex.decodeFrom index (cs.flatMap String.utf8EncodeChar) = .ok bytes → Spells cs bytes
  | [], _, _, _, h => by
      cases h
      exact .nil
  | [c], index, bytes, heven, h => by
      -- a single character has an odd number of bytes or is no digit
      rcases utf8EncodeChar_cases c with ⟨x, hx, -⟩ | ⟨-, x, x', more, hx, hnone⟩
      · simp [hx] at heven
      · simp only [List.flatMap_cons, hx, List.cons_append, Hex.decodeFrom, hnone] at h
        cases h
  | hi :: lo :: cs, index, bytes, heven, h => by
      -- a character of several bytes ends the reading at the first of them, whichever half it is
      rcases utf8EncodeChar_cases hi with ⟨x, hx, hxnat⟩ | ⟨-, x, x', more, hx, hnone⟩
      case inr =>
        simp only [List.flatMap_cons, hx, List.cons_append, Hex.decodeFrom, hnone] at h
        cases h
      rcases utf8EncodeChar_cases lo with ⟨y, hy, hynat⟩ | ⟨-, y, y', more, hy, hnone⟩
      case inr =>
        simp only [List.flatMap_cons, hx, hy, List.cons_append, List.nil_append, Hex.decodeFrom,
          hnone] at h
        split at h
        · rename_i hnever
          cases hnever
        · cases h
        · cases h
      simp only [List.flatMap_cons, hx, hy, List.singleton_append, List.length_cons] at heven h
      simp only [Hex.decodeFrom] at h
      split at h
      · rename_i m n hm hn
        rw [value?_eq_some_iff_isDigit hxnat] at hm
        rw [value?_eq_some_iff_isDigit hynat] at hn
        cases hrest : Hex.decodeFrom (index + 2) (cs.flatMap String.utf8EncodeChar) with
        | error e =>
            rw [hrest] at h
            cases h
        | ok rest =>
            rw [hrest] at h
            cases h
            exact (spells_of_decodeFrom cs (by omega) hrest).cons_digits hm hn
      · cases h
      · cases h

/-- The texts that are read are those that spell bytes. -/
theorem decode_eq_ok {s : String} {bytes : Bytes} :
    decode s = .ok bytes ↔ Spells s.toList bytes := by
  unfold decode utf8
  dsimp only
  constructor
  · intro h
    split at h
    · cases h
    · rename_i heven
      exact spells_of_decodeFrom s.toList (by omega) h
  · intro h
    obtain ⟨heven, hread⟩ := h.decodeFrom 0
    rw [if_neg (by omega)]
    exact hread

/-- What is written is read back. -/
theorem decode_encode (bytes : Bytes) : decode (encode bytes) = .ok bytes := by
  rw [decode_eq_ok, encode, String.toList_ofList]
  exact spells_encode bytes

/-! ## 3. Letter case -/

/-- The digits in lower case. -/
def digits : List Char := "0123456789abcdef".toList

/-- A text of digits in lower case. -/
def IsLower (s : String) : Prop := ∀ c ∈ s.toList, c ∈ digits

theorem digit_mem : ∀ n < 16, digit n ∈ digits := by decide

theorem toLower_digit : ∀ n < 16, (digit n).toLower = digit n := by decide

theorem toLower_upper : ∀ n < 16, 10 ≤ n → (Char.ofNat (55 + n)).toLower = digit n := by decide

/-- The digit of a number is written in lower case. -/
theorem IsDigit.toLower {c : Char} {n : Nat} (h : IsDigit c n) : c.toLower = digit n := by
  have hlt := h.lt.1
  rw [← Char.ofNat_toNat c]
  rcases h with ⟨hdecimal, hc⟩ | ⟨hletter, -, hc | hc⟩
  · have hdigit : digit n = Char.ofNat (48 + n) := if_pos hdecimal
    rw [hc, ← hdigit, toLower_digit n hlt]
  · have hdigit : digit n = Char.ofNat (87 + n) := if_neg (Nat.not_lt.mpr hletter)
    rw [hc, ← hdigit, toLower_digit n hlt]
  · rw [hc, toLower_upper n hlt hletter]

theorem Spells.toLower {cs : List Char} {bytes : Bytes} (h : Spells cs bytes) :
    cs.map Char.toLower = bytes.flatMap pair := by
  induction h with
  | nil => rfl
  | cons hhi hlo h ih =>
      rw [List.map_cons, List.map_cons, hhi.toLower, hlo.toLower, ih]
      rfl

/-- A character that is the same, or in upper case instead. -/
def Recased (c c' : Char) : Prop := c' = c ∨ c' = c.toUpper

theorem toUpper_decimal : ∀ n < 10, (Char.ofNat (48 + n)).toUpper = Char.ofNat (48 + n) := by decide

theorem toUpper_letter : ∀ n < 16, 10 ≤ n →
    (Char.ofNat (87 + n)).toUpper = Char.ofNat (55 + n)
    ∧ (Char.ofNat (55 + n)).toUpper = Char.ofNat (55 + n) := by decide

theorem IsDigit.recased {c c' : Char} {n : Nat} (h : IsDigit c n) (hcase : Recased c c') :
    IsDigit c' n := by
  rcases hcase with rfl | rfl
  · exact h
  have hlt := h.lt.1
  rw [← Char.ofNat_toNat c]
  rcases h with ⟨hdecimal, hc⟩ | ⟨hletter, -, hc⟩
  · rw [hc, toUpper_decimal n hdecimal]
    exact Or.inl ⟨hdecimal, toNat_ofNat (by omega)⟩
  · have hupper : (Char.ofNat c.toNat).toUpper = Char.ofNat (55 + n) := by
      rcases hc with hc | hc
      · rw [hc, (toUpper_letter n hlt hletter).1]
      · rw [hc, (toUpper_letter n hlt hletter).2]
    rw [hupper]
    exact Or.inr ⟨hletter, hlt, Or.inr (toNat_ofNat (by omega))⟩

/-- The case of a letter is of no account. -/
theorem Spells.recased {cs cs' : List Char} {bytes : Bytes} (h : Spells cs bytes)
    (hcase : List.Forall₂ Recased cs cs') : Spells cs' bytes := by
  induction h generalizing cs' with
  | nil =>
      cases hcase
      exact .nil
  | cons hhi hlo h ih =>
      cases hcase with
      | cons hhi' hcase =>
          cases hcase with
          | cons hlo' hcase => exact .cons (hhi.recased hhi') (hlo.recased hlo') (ih hcase)

theorem isLower_encode (bytes : Bytes) : IsLower (encode bytes) := by
  intro c hc
  rw [encode, String.toList_ofList, List.mem_flatMap] at hc
  obtain ⟨b, -, hpair⟩ := hc
  have hb := b.toNat_lt
  rw [pair, List.mem_cons, List.mem_singleton] at hpair
  rcases hpair with rfl | rfl
  · exact digit_mem _ (by omega)
  · exact digit_mem _ (by omega)

/-! ## 4. Digits in pairs -/

/-- The numbers of the digits: the decimal ones, and the letters in either case. -/
def IsCode (n : Nat) : Prop :=
  '0'.toNat ≤ n ∧ n ≤ '9'.toNat ∨ 'a'.toNat ≤ n ∧ n ≤ 'f'.toNat ∨ 'A'.toNat ≤ n ∧ n ≤ 'F'.toNat

theorem isCode_iff {code : Nat} :
    IsCode code
      ↔ ∃ n, n < 10 ∧ code = 48 + n ∨ 10 ≤ n ∧ n < 16 ∧ (code = 87 + n ∨ code = 55 + n) := by
  have hcode : IsCode code
      ↔ 48 ≤ code ∧ code ≤ 57 ∨ 97 ≤ code ∧ code ≤ 102 ∨ 65 ≤ code ∧ code ≤ 70 := Iff.rfl
  rw [hcode]
  constructor
  · rintro (h | h | h)
    · exact ⟨code - 48, by omega⟩
    · exact ⟨code - 87, by omega⟩
    · exact ⟨code - 55, by omega⟩
  · rintro ⟨n, h⟩
    omega

theorem isCode_char {c : Char} : IsCode c.toNat ↔ ∃ n, IsDigit c n := isCode_iff

theorem isCode_byte {b : UInt8} : IsCode b.toNat ↔ ∃ n, value? b = some n := by
  simp only [value?_eq_some]
  exact isCode_iff

theorem Spells.length {cs : List Char} {bytes : Bytes} (h : Spells cs bytes) :
    cs.length = 2 * bytes.length := by
  induction h with
  | nil => rfl
  | cons hhi hlo h ih =>
      simp only [List.length_cons, ih]
      omega

theorem Spells.isCode {cs : List Char} {bytes : Bytes} (h : Spells cs bytes) :
    ∀ c ∈ cs, IsCode c.toNat := by
  induction h with
  | nil => exact List.forall_mem_nil _
  | cons hhi hlo h ih =>
      have hhi := isCode_char.mpr ⟨_, hhi⟩
      have hlo := isCode_char.mpr ⟨_, hlo⟩
      exact List.forall_mem_cons.mpr ⟨hhi, List.forall_mem_cons.mpr ⟨hlo, ih⟩⟩

/-- Digits in pairs spell something. -/
theorem exists_spells : ∀ {cs : List Char}, cs.length % 2 = 0 → (∀ c ∈ cs, IsCode c.toNat) →
    ∃ bytes, Spells cs bytes
  | [], _, _ => ⟨[], .nil⟩
  | [_], heven, _ => absurd heven (by decide : ¬ 1 % 2 = 0)
  | hi :: lo :: cs, heven, hcodes => by
      obtain ⟨m, hm⟩ := isCode_char.mp (hcodes hi List.mem_cons_self)
      obtain ⟨n, hn⟩ := isCode_char.mp (hcodes lo (List.mem_cons_of_mem _ List.mem_cons_self))
      have hrest : cs.length % 2 = 0 := by
        simp only [List.length_cons] at heven
        omega
      obtain ⟨bytes, hbytes⟩ := exists_spells hrest fun c hc =>
        hcodes c (List.mem_cons_of_mem _ (List.mem_cons_of_mem _ hc))
      exact ⟨_, hbytes.cons_digits hm hn⟩

/-- A text is hex if it has an even number of characters and all of them are digits. -/
theorem exists_decode {s : String} :
    (∃ bytes, decode s = .ok bytes) ↔ s.length % 2 = 0 ∧ ∀ c ∈ s.toList, IsCode c.toNat := by
  simp only [decode_eq_ok, ← String.length_toList]
  constructor
  · rintro ⟨bytes, h⟩
    exact ⟨by rw [h.length, Nat.mul_mod_right], h.isCode⟩
  · rintro ⟨heven, hcodes⟩
    exact exists_spells heven hcodes

/-! ## 5. Refusals -/

/-- The first byte that is no digit, with its place. -/
structure FirstFault (bytes : Bytes) (index : Nat) (b : UInt8) : Prop where
  here : bytes[index]? = some b
  fault : ¬ IsCode b.toNat
  before : ∀ i < index, ∀ c, bytes[i]? = some c → IsCode c.toNat

theorem FirstFault.unique {bytes : Bytes} {i j : Nat} {b c : UInt8} (h : FirstFault bytes i b)
    (h' : FirstFault bytes j c) : i = j ∧ b = c := by
  rcases Nat.lt_trichotomy i j with hlt | rfl | hlt
  · exact absurd (h'.before i hlt b h.here) h.fault
  · exact ⟨rfl, Option.some.inj (h.here.symm.trans h'.here)⟩
  · exact absurd (h.before j hlt c h'.here) h'.fault

/-- A fault behind two digits. -/
theorem FirstFault.behind {hi lo b : UInt8} {rest : Bytes} {index : Nat} (hhi : IsCode hi.toNat)
    (hlo : IsCode lo.toNat) (h : FirstFault rest index b) :
    FirstFault (hi :: lo :: rest) (index + 2) b where
  here := h.here
  fault := h.fault
  before
    | 0, _, _, rfl => hhi
    | 1, _, _, rfl => hlo
    | i + 2, hlt, c, hc => h.before i (by omega) c hc

/-- Bytes in pairs are digits, or the first that is none is named. -/
theorem decodeFrom_cases : ∀ (bytes : Bytes) (index : Nat), bytes.length % 2 = 0 →
    (∃ read, decodeFrom index bytes = .ok read ∧ 2 * read.length = bytes.length)
      ∧ (∀ b ∈ bytes, IsCode b.toNat)
    ∨ ∃ i b, FirstFault bytes i b ∧ decodeFrom index bytes = .error (.badDigit b (index + i))
  | [], index, _ => Or.inl ⟨⟨[], rfl, rfl⟩, List.forall_mem_nil _⟩
  | [_], _, heven => absurd heven (by decide : ¬ 1 % 2 = 0)
  | hi :: lo :: rest, index, heven => by
      have hrest : rest.length % 2 = 0 := by
        simp only [List.length_cons] at heven
        omega
      rw [decodeFrom]
      cases hm : value? hi with
      | none =>
          have hfault : ¬ IsCode hi.toNat := by
            rw [isCode_byte, hm]
            exact nofun
          exact Or.inr ⟨0, hi, ⟨rfl, hfault, nofun⟩, rfl⟩
      | some m =>
          have hhi : IsCode hi.toNat := isCode_byte.mpr ⟨m, hm⟩
          cases hn : value? lo with
          | none =>
              have hfault : ¬ IsCode lo.toNat := by
                rw [isCode_byte, hn]
                exact nofun
              refine Or.inr ⟨1, lo, ⟨rfl, hfault, ?_⟩, rfl⟩
              -- the only byte before it is the first digit
              rintro i hlt c hc
              obtain rfl : i = 0 := by omega
              cases hc
              exact hhi
          | some n =>
              have hlo : IsCode lo.toNat := isCode_byte.mpr ⟨n, hn⟩
              rcases decodeFrom_cases rest (index + 2) hrest with
                ⟨⟨read, hread, hlength⟩, hcodes⟩ | ⟨i, b, hfault, herror⟩
              · refine Or.inl ⟨⟨UInt8.ofNat (16 * m + n) :: read, ?_, ?_⟩, ?_⟩
                · dsimp only
                  rw [hread]
                  rfl
                · simp only [List.length_cons]
                  omega
                exact List.forall_mem_cons.mpr ⟨hhi, List.forall_mem_cons.mpr ⟨hlo, hcodes⟩⟩
              · refine Or.inr ⟨i + 2, b, hfault.behind hhi hlo, ?_⟩
                dsimp only
                rw [herror, Nat.add_right_comm, Nat.add_assoc]
                rfl

/-- Why a text is refused. -/
inductive Refuses (s : String) : HexError → Prop where
  | oddLength (hodd : (utf8 s).length % 2 = 1) : Refuses s .oddLength
  | badDigit {b : UInt8} {index : Nat} (heven : (utf8 s).length % 2 = 0)
      (hfault : FirstFault (utf8 s) index b) : Refuses s (.badDigit b index)

/-- Which error a text is refused with. The length is looked at first. If it is even, reading comes
to its end, and then no byte is at fault, or it stops at the first byte that is, and there is only
one such. -/
theorem decode_eq_error {s : String} {e : HexError} : decode s = .error e ↔ Refuses s e := by
  unfold decode
  dsimp only
  split
  · rename_i hodd
    constructor
    · rintro h
      cases h
      exact .oddLength hodd
    · rintro (_ | ⟨heven, -⟩)
      · rfl
      · omega
  · rename_i hodd
    have heven : (utf8 s).length % 2 = 0 := by omega
    rcases decodeFrom_cases (utf8 s) 0 heven with
      ⟨⟨read, hread, -⟩, hcodes⟩ | ⟨i, b, hfault, herror⟩
    · rw [hread]
      constructor
      · exact nofun
      · rintro (hodd' | ⟨-, hfault⟩)
        · exact absurd hodd' hodd
        · exact absurd (hcodes _ (List.mem_of_getElem? hfault.here)) hfault.fault
    · rw [herror, Nat.zero_add]
      constructor
      · rintro h
        cases h
        exact .badDigit heven hfault
      · rintro (hodd' | ⟨-, hfault'⟩)
        · exact absurd hodd' hodd
        · obtain ⟨rfl, rfl⟩ := hfault.unique hfault'
          rfl

/-- All bytes of a text that is read are digits, two for each byte that they stand for. -/
theorem bytes_of_decode {s : String} {bytes : Bytes} (h : decode s = .ok bytes) :
    (∀ b ∈ utf8 s, IsCode b.toNat) ∧ 2 * bytes.length = (utf8 s).length := by
  unfold decode at h
  dsimp only at h
  split at h
  · cases h
  rename_i hodd
  rcases decodeFrom_cases (utf8 s) 0 (by omega) with
    ⟨⟨read, hread, hlength⟩, hcodes⟩ | ⟨i, b, -, herror⟩
  · cases hread.symm.trans h
    exact ⟨hcodes, hlength⟩
  · cases herror.symm.trans h

end ChainWatch.Hex
