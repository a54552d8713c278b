/-
Which credentials there are.

A credential stands for a byte string: it was made from the bytes, or from hex text that spells
them. Either way it is kept as the same text, the hex of the bytes in lower case (`Issued.hex_eq`),
so nothing of the way it was made is sent along, and credentials are the same if their bytes are
(`text_canonical`).
-/
import ChainWatch.Macaroon
import ChainWatch.Proofs.Hex

set_option autoImplicit false

namespace ChainWatch.Macaroon

/-! ## 1. Credentials -/

/-- The credentials there are, each with the bytes that it stands for. -/
inductive Issued : Macaroon → Bytes → Prop where
  | ofBytes (bytes : Bytes) : Issued (ofBytes bytes) bytes
  /-- The hex text may be in either case. -/
  | ofHex {s : String} {m : Macaroon} {bytes : Bytes} (hspells : Hex.Spells s.toList bytes)
      (h : ofHex? s = .ok m) : Issued m bytes

/-- A text that is hex makes the credential of the bytes that it spells. -/
theorem ofHex?_eq_ok {s : String} {m : Macaroon} :
    ofHex? s = .ok m ↔ ∃ bytes, Hex.Spells s.toList bytes ∧ m = ofBytes bytes := by
  unfold ofHex?
  constructor
  · intro h
    cases hdecode : Hex.decode s with
    | error e =>
        rw [hdecode] at h
        cases h
    | ok bytes =>
        rw [hdecode] at h
        cases h
        have hspells := Hex.decode_eq_ok.mp hdecode
        exact ⟨bytes, hspells, by rw [hspells.toLower]; rfl⟩
  · rintro ⟨bytes, hspells, rfl⟩
    rw [Hex.decode_eq_ok.mpr hspells]
    dsimp only
    rw [hspells.toLower]
    rfl

theorem ofBytes_injective {bytes bytes' : Bytes} (h : ofBytes bytes = ofBytes bytes') :
    bytes = bytes' := by
  have hhex : Hex.encode bytes = Hex.encode bytes' := congrArg hex h
  exact Except.ok.inj ((Hex.decode_encode bytes).symm.trans (hhex ▸ Hex.decode_encode bytes'))

/-- How a credential was made is forgotten. -/
theorem Issued.eq_ofBytes {m : Macaroon} {bytes : Bytes} (h : Issued m bytes) :
    m = Macaroon.ofBytes bytes := by
  cases h with
  | ofBytes => rfl
  | ofHex hspells h =>
      obtain ⟨bytes', hspells', rfl⟩ := ofHex?_eq_ok.mp h
      -- a text spells one byte string, the one that is read from it
      rw [Except.ok.inj ((Hex.decode_eq_ok.mpr hspells).symm.trans (Hex.decode_eq_ok.mpr hspells'))]

theorem Issued.hex_eq {m : Macaroon} {bytes : Bytes} (h : Issued m bytes) :
    m.hex = Hex.encode bytes :=
  congrArg hex h.eq_ofBytes

/-! ## 2. Their texts -/

/-- The text of a credential is canonical, whichever way it was made. The texts that make one are
those of an even number of digits, in either case, and each makes the credential of the bytes that
it spells. Credentials are in lower case, and two are the same if their bytes are. -/
theorem text_canonical :
    (∀ s : String, (∃ m, ofHex? s = .ok m)
      ↔ s.length % 2 = 0 ∧ ∀ c ∈ s.toList, Hex.IsCode c.toNat)
    ∧ (∀ s m, ofHex? s = .ok m → ∃ bytes, Hex.decode s = .ok bytes
      ∧ Hex.Spells s.toList bytes ∧ m = ofBytes bytes)
    ∧ (∀ bytes, ofHex? (ofBytes bytes).hex = .ok (ofBytes bytes))
    ∧ (∀ (bytes : Bytes) (s : String),
      List.Forall₂ Hex.Recased (ofBytes bytes).hex.toList s.toList →
      ofHex? s = .ok (ofBytes bytes))
    ∧ (∀ m bytes, Issued m bytes → m.hex.length = 2 * bytes.length ∧ Hex.IsLower m.hex)
    ∧ ∀ m m' bytes bytes', Issued m bytes → Issued m' bytes' → (m = m' ↔ bytes = bytes') := by
  have hwritten (bytes : Bytes) : Hex.Spells (ofBytes bytes).hex.toList bytes :=
    Hex.decode_eq_ok.mp (Hex.decode_encode bytes)
  refine ⟨?_, ?_, ?_, ?_, ?_, ?_⟩
  · intro s
    rw [← Hex.exists_decode]
    constructor
    · rintro ⟨m, h⟩
      obtain ⟨bytes, hspells, -⟩ := ofHex?_eq_ok.mp h
      exact ⟨bytes, Hex.decode_eq_ok.mpr hspells⟩
    · rintro ⟨bytes, h⟩
      exact ⟨_, ofHex?_eq_ok.mpr ⟨bytes, Hex.decode_eq_ok.mp h, rfl⟩⟩
  · intro s m h
    obtain ⟨bytes, hspells, hm⟩ := ofHex?_eq_ok.mp h
    exact ⟨bytes, Hex.decode_eq_ok.mpr hspells, hspells, hm⟩
  · intro bytes
    exact ofHex?_eq_ok.mpr ⟨bytes, hwritten bytes, rfl⟩
  · intro bytes s hcase
    exact ofHex?_eq_ok.mpr ⟨bytes, (hwritten bytes).recased hcase, rfl⟩
  · intro m bytes h
    rw [h.eq_ofBytes, ← String.length_toList, (hwritten bytes).length]
    exact ⟨rfl, Hex.isLower_encode bytes⟩
  · intro m m' bytes bytes' h h'
    rw [h.eq_ofBytes, h'.eq_ofBytes]
    exact ⟨ofBytes_injective, congrArg ofBytes⟩

end ChainWatch.Macaroon
