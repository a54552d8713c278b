/-
The text form of a digest.

A digest is written as 64 digits in lower case, which is one of the texts that it is read from. The
others have some of the letters in upper case, and there are no more. Every other text is refused
for one reason: its bytes are counted first, then looked at one after the other, and only where all
of them are digits is it the number of the digits that is at fault (`Refused`).
-/
import ChainWatch.Digest
import ChainWatch.Proofs.Hex

set_option autoImplicit false

namespace ChainWatch.Digest

/-! ## 1. Bytes -/

theorem bytes_of_ofBytes? {bytes : Bytes} {d : Digest} (h : ofBytes? bytes = .ok d) :
    d.bytes = bytes := by
  unfold ofBytes? at h
  split at h
  · cases h
    rfl
  · cases h

theorem error_of_ofBytes? {bytes : Bytes} {e : PayloadError} (h : ofBytes? bytes = .error e) :
    e = .hashLength bytes.length ∧ bytes.length ≠ 32 := by
  unfold ofBytes? at h
  split at h
  · cases h
  · rename_i hlength
    cases h
    exact ⟨rfl, hlength⟩

/-! ## 2. Texts -/

/-- What is read from a text is what the text spells, the other way round. -/
theorem ofText?_eq_ok {s : String} {d : Digest} :
    ofText? s = .ok d ↔ Hex.decode s = .ok d.bytes.reverse := by
  unfold ofText?
  cases Hex.decode s with
  | error e => exact ⟨nofun, nofun⟩
  | ok bytes =>
      dsimp only
      rw [Except.ok.injEq]
      constructor
      · intro h
        rw [bytes_of_ofBytes? h, List.reverse_reverse]
      · rintro rfl
        rw [List.reverse_reverse, ofBytes?_bytes]

/-- The text of a digest is the only one in lower case that it is read from. -/
theorem text_of_ofText? {s : String} {d : Digest} (h : ofText? s = .ok d) : d.text = s.toLower := by
  have hspells := Hex.decode_eq_ok.mp (ofText?_eq_ok.mp h)
  rw [text, Hex.encode, ← hspells.toLower, ← String.toList_map, String.ofList_toList]
  rfl

/-- The texts that are read have 64 characters, and all of them are digits. -/
theorem exists_ofText? {s : String} :
    (∃ d, ofText? s = .ok d) ↔ s.length = 64 ∧ ∀ c ∈ s.toList, Hex.IsCode c.toNat := by
  constructor
  · rintro ⟨d, h⟩
    have hspells := Hex.decode_eq_ok.mp (ofText?_eq_ok.mp h)
    refine ⟨?_, hspells.isCode⟩
    rw [← String.length_toList, hspells.length, List.length_reverse, d.length_bytes]
  · rintro ⟨hlength, hcodes⟩
    obtain ⟨bytes, hdecode⟩ := Hex.exists_decode.mpr ⟨by rw [hlength], hcodes⟩
    have hbytes : bytes.reverse.length = 32 := by
      have htwice := (Hex.decode_eq_ok.mp hdecode).length
      rw [String.length_toList, hlength] at htwice
      rw [List.length_reverse]
      omega
    refine ⟨⟨bytes.reverse, hbytes⟩, ofText?_eq_ok.mpr ?_⟩
    rw [List.reverse_reverse]
    exact hdecode

/-- Why a text is no digest. -/
inductive Refused (s : String) : PayloadError → Prop where
  | oddLength (hodd : (utf8 s).length % 2 = 1) : Refused s (.hex "Odd number of digits")
  /-- The byte at fault is shown as the character of the same number. -/
  | badDigit {b : UInt8} {index : Nat} (heven : (utf8 s).length % 2 = 0)
      (hfault : Hex.FirstFault (utf8 s) index b) :
      Refused s (.hex ("Invalid character " ++ Quoted.char (Char.ofNat b.toNat) ++ " at position "
        ++ toString index))
  | length (heven : (utf8 s).length % 2 = 0) (hcodes : ∀ b ∈ utf8 s, Hex.IsCode b.toNat)
      (hlength : (utf8 s).length ≠ 64) : Refused s (.hashLength ((utf8 s).length / 2))

theorem Refused.ofText?_eq {s : String} {e : PayloadError} (h : Refused s e) :
    ofText? s = .error e := by
  unfold ofText?
  cases h with
  | oddLength hodd =>
      rw [Hex.decode_eq_error.mpr (.oddLength hodd)]
      rfl
  | badDigit heven hfault =>
      rw [Hex.decode_eq_error.mpr (.badDigit heven hfault)]
      rfl
  | length heven hcodes hlength =>
      cases hdecode : Hex.decode s with
      | error fault =>
          -- there is no fault of the text that the decoder could have found
          cases Hex.decode_eq_error.mp hdecode with
          | oddLength hodd => omega
          | badDigit _ hfault =>
              exact absurd (hcodes _ (List.mem_of_getElem? hfault.here)) hfault.fault
      | ok bytes =>
          have htwice := (Hex.bytes_of_decode hdecode).2
          have hbytes : bytes.reverse.length = (utf8 s).length / 2 := by
            rw [List.length_reverse]
            omega
          dsimp only
          rw [ofBytes?, dif_neg (by omega), hbytes]

theorem refused_of_ofText? {s : String} {e : PayloadError} (h : ofText? s = .error e) :
    Refused s e := by
  unfold ofText? at h
  cases hdecode : Hex.decode s with
  | error fault =>
      rw [hdecode] at h
      cases h
      cases Hex.decode_eq_error.mp hdecode with
      | oddLength hodd => exact .oddLength hodd
      | badDigit heven hfault => exact .badDigit heven hfault
  | ok bytes =>
      rw [hdecode] at h
      obtain ⟨rfl, hbytes⟩ := error_of_ofBytes? h
      obtain ⟨hcodes, htwice⟩ := Hex.bytes_of_decode hdecode
      rw [List.length_reverse] at hbytes ⊢
      have hlength : bytes.length = (utf8 s).length / 2 := by omega
      rw [hlength]
      exact .length (by omega) hcodes (by omega)

/-- A digest is read back from its text. The texts that are read are those of 64 digits, of either
case; what is read is written in lower case, and its bytes are the spelt ones the other way round.
All others are refused, for the first of their faults. -/
theorem text_form_exact :
    (∀ d : Digest, ofText? d.text = .ok d)
    ∧ ∀ s : String,
      ((∃ d, ofText? s = .ok d) ↔ s.length = 64 ∧ ∀ c ∈ s.toList, Hex.IsCode c.toNat)
      ∧ (∀ d, ofText? s = .ok d → d.text = s.toLower
        ∧ ∃ bytes, Hex.Spells s.toList bytes ∧ d.bytes = bytes.reverse)
      ∧ ∀ e, ofText? s = .error e ↔ Refused s e := by
  refine ⟨?_, fun s => ⟨exists_ofText?, fun d h => ⟨text_of_ofText? h, ?_⟩, fun e =>
    ⟨refused_of_ofText?, Refused.ofText?_eq⟩⟩⟩
  · intro d
    rw [ofText?_eq_ok, text, Hex.decode_encode]
  · exact ⟨d.bytes.reverse, Hex.decode_eq_ok.mp (ofText?_eq_ok.mp h), d.bytes.reverse_reverse.symm⟩

/-- Two characters, but three bytes. -/
example : ofText? "0é" = .error (.hex "Odd number of digits") := by decide +kernel

end ChainWatch.Digest
