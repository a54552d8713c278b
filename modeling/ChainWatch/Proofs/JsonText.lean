/-
JSON text is read back as the value that was written.

Reading goes the way of writing backwards, and so does the proof. Each token is found again at the
front of its text (`next?_chars`), which for a number depends on what stands behind it (`Stops`);
hence the tokens of a value are (`ofChars?_tokens`), as the grammar puts a bracket or a comma behind
each number. The tokens of a value complete it whatever is still open around it (`run_tokens`).
Together that is `parse?_render`, for all values whose numbers have neither fraction nor exponent.
-/
import ChainWatch.Json.Text

set_option autoImplicit false

namespace ChainWatch.Json

/-! ## 1. Numbers -/

/-- What can stand behind a number without being read as more of it. -/
def Stops (rest : List Char) : Prop :=
  ∀ c, rest.head? = some c → c.isDigit = false ∧ c ≠ '.' ∧ c ≠ 'e' ∧ c ≠ 'E'

theorem stops_nil : Stops [] := nofun

theorem stops_cons {c : Char} (h : c.isDigit = false ∧ c ≠ '.' ∧ c ≠ 'e' ∧ c ≠ 'E')
    (rest : List Char) : Stops (c :: rest) := by
  rintro _ ⟨⟩
  exact h

theorem decimalValue_toDigits (n : Nat) : decimalValue (Nat.toDigits 10 n) = n :=
  Nat.ofDigitChars_ten_toDigits

theorem isDigit_of_mem_toDigits {n : Nat} {c : Char} (h : c ∈ Nat.toDigits 10 n) :
    c.isDigit = true := Nat.isDigit_of_mem_toDigits (by decide) (by decide) h

/-- Only the number zero is written with a zero in front. -/
theorem head?_toDigits (n : Nat) (h : 0 < n) : (Nat.toDigits 10 n).head? ≠ some '0' := by
  induction n using Nat.strongRecOn with
  | _ n ih =>
      rw [Nat.toDigits_eq_if (by decide)]
      split
      · intro hzero
        rw [List.head?_cons, Option.some.injEq, Nat.digitChar_eq_zero] at hzero
        omega
      · rw [List.head?_append, List.head?_eq_some_head Nat.toDigits_ne_nil, Option.some_or,
          ← List.head?_eq_some_head Nat.toDigits_ne_nil]
        exact ih (n / 10) (by omega) (by omega)

/-- The digits of a number are all that is taken. -/
theorem digits?_append {ds rest : List Char} (hne : ds ≠ []) (hds : ∀ c ∈ ds, c.isDigit = true)
    (hrest : Stops rest) : digits? (ds ++ rest) = some (ds, rest) := by
  have htake : rest.takeWhile Char.isDigit = [] ∧ rest.dropWhile Char.isDigit = rest := by
    cases rest with
    | nil => exact ⟨rfl, rfl⟩
    | cons c rest =>
        have hc := (hrest c rfl).1
        exact ⟨List.takeWhile_cons_of_neg (by simp [hc]), List.dropWhile_cons_of_neg (by simp [hc])⟩
  rw [digits?, List.takeWhile_append_of_pos hds, List.dropWhile_append_of_pos hds, htake.1, htake.2,
    List.append_nil, if_neg hne]

theorem wholeDigits?_toDigits (n : Nat) {rest : List Char} (hrest : Stops rest) :
    wholeDigits? (Nat.toDigits 10 n ++ rest) = some (Nat.toDigits 10 n, rest) := by
  have hdigits : ∀ c ∈ Nat.toDigits 10 n, c.isDigit = true := fun _ => isDigit_of_mem_toDigits
  have hfound := digits?_append Nat.toDigits_ne_nil hdigits hrest
  unfold wholeDigits?
  rw [hfound]
  split
  · rename_i c ds more heq
    -- digits behind a zero in front are refused, and no number is written like that
    rw [Option.some.injEq, Prod.mk.injEq] at heq
    cases n with
    | zero => cases heq.1
    | succ n =>
        have hhead := head?_toDigits (n + 1) (Nat.succ_pos n)
        rw [heq.1] at hhead
        exact absurd rfl hhead
  · rfl

theorem fraction?_of_stops {rest : List Char} (h : Stops rest) :
    fraction? rest = some ([], rest) := by
  unfold fraction?
  split
  · exact absurd rfl (h '.' rfl).2.1
  · rfl

theorem exponent?_of_stops {rest : List Char} (h : Stops rest) :
    exponent? rest = some ([], rest) := by
  unfold exponent?
  split
  · rename_i c rest
    obtain ⟨-, -, he, hE⟩ := h c rfl
    simp [he, hE]
  · rfl

theorem unsigned?_toDigits (negative : Bool) (n : Nat) {rest : List Char} (hrest : Stops rest) :
    unsigned? negative (Nat.toDigits 10 n ++ rest)
      = some (.leaf (.num ⟨negative, n, ""⟩), rest) := by
  simp only [unsigned?, wholeDigits?_toDigits n hrest, fraction?_of_stops hrest,
    exponent?_of_stops hrest, decimalValue_toDigits]
  rfl

/-- A number starts with a digit or its sign. -/
theorem numberChars_eq_cons (n : JsonNumber) :
    ∃ c cs, numberChars n = c :: cs ∧ (c.isDigit = true ∨ c = '-') := by
  unfold numberChars
  split
  · exact ⟨'-', _, rfl, Or.inr rfl⟩
  · cases hds : Nat.toDigits 10 n.whole with
    | nil => exact absurd hds Nat.toDigits_ne_nil
    | cons c ds =>
        refine ⟨c, ds ++ n.tail.toList, rfl, Or.inl ?_⟩
        apply isDigit_of_mem_toDigits (n := n.whole)
        rw [hds]
        exact List.mem_cons_self

theorem number?_of_isDigit {c : Char} (hc : c.isDigit = true) (cs : List Char) :
    number? (c :: cs) = unsigned? false (c :: cs) := by
  unfold number?
  split
  · rename_i heq
    cases heq
    cases hc
  · rfl

theorem number?_numberChars {n : JsonNumber} (htail : n.tail = "") {rest : List Char}
    (hrest : Stops rest) : number? (numberChars n ++ rest) = some (.leaf (.num n), rest) := by
  obtain ⟨negative, whole, tail⟩ := n
  cases htail
  cases negative with
  | true =>
      show unsigned? true (Nat.toDigits 10 whole ++ [] ++ rest) = _
      rw [List.append_nil]
      exact unsigned?_toDigits true whole hrest
  | false =>
      show number? (Nat.toDigits 10 whole ++ [] ++ rest) = _
      rw [List.append_nil, ← unsigned?_toDigits false whole hrest]
      cases hds : Nat.toDigits 10 whole with
      | nil => exact absurd hds Nat.toDigits_ne_nil
      | cons c ds =>
          apply number?_of_isDigit
          apply isDigit_of_mem_toDigits (n := whole)
          rw [hds]
          exact List.mem_cons_self

/-! ## 2. Strings -/

/-- The hex digits of a small number. -/
theorem hexValue?_digitChar : ∀ n < 16, hexValue? (Nat.digitChar n) = some n := by decide

/-- A backslash and one more character are one piece. -/
theorem pieces?_escape {e c : Char} (he : e ≠ 'u') (hc : unescape? e = some c) (rest : List Char) :
    pieces? ('\\' :: e :: rest)
      = (pieces? rest).map fun found => (.char c :: found.1, found.2) := by
  rw [pieces?.eq_def]
  split
  · rename_i heq
    cases heq
  · rename_i heq
    cases heq
    exact absurd rfl he
  · rename_i heq
    cases heq
    rw [hc]
    cases pieces? rest <;> rfl
  · rename_i hother heq
    cases heq
    exact (hother e rest rfl rfl).elim
  · rename_i heq
    cases heq

/-- A character that needs no escape is one piece. -/
theorem pieces?_plain {c : Char} (hquote : c ≠ '"') (hslash : c ≠ '\\') (hc : 0x20 ≤ c.toNat)
    (rest : List Char) :
    pieces? (c :: rest) = (pieces? rest).map fun found => (.char c :: found.1, found.2) := by
  rw [pieces?.eq_def]
  split
  · rename_i heq
    cases heq
    exact absurd rfl hquote
  · rename_i heq
    cases heq
    exact absurd rfl hslash
  · rename_i heq
    cases heq
    exact absurd rfl hslash
  · rename_i heq
    cases heq
    rw [if_neg (by simp [hslash]; omega)]
    cases pieces? rest <;> rfl
  · rename_i heq
    cases heq

/-- A control character is written by its number. -/
theorem pieces?_control {n : Nat} (h : n < 0x20) (rest : List Char) :
    pieces? ('\\' :: 'u' :: '0' :: '0' :: Nat.digitChar (n / 16) :: Nat.digitChar (n % 16) :: rest)
      = (pieces? rest).map fun found => (.unit n :: found.1, found.2) := by
  have hfour : hexFour? '0' '0' (Nat.digitChar (n / 16)) (Nat.digitChar (n % 16)) = some n := by
    have hzero : hexValue? '0' = some 0 := rfl
    simp only [hexFour?, hzero, hexValue?_digitChar (n / 16) (by omega),
      hexValue?_digitChar (n % 16) (by omega), Option.some.injEq]
    omega
  rw [pieces?.eq_2, hfour]
  cases pieces? rest <;> rfl

/-- A character is written as one piece: itself, or its number if it is a control character. -/
theorem pieces?_escapeChar (c : Char) :
    ∃ p, (p = .char c ∨ p = .unit c.toNat ∧ c.toNat < 0x20)
      ∧ ∀ rest, pieces? (escapeChar c ++ rest)
        = (pieces? rest).map fun found => (p :: found.1, found.2) := by
  have hshort {e : Char} (he : e ≠ 'u') (hc : unescape? e = some c) :
      ∃ p, (p = .char c ∨ p = .unit c.toNat ∧ c.toNat < 0x20)
        ∧ ∀ rest, pieces? (['\\', e] ++ rest)
          = (pieces? rest).map fun found => (p :: found.1, found.2) :=
    ⟨.char c, Or.inl rfl, pieces?_escape he hc⟩
  unfold escapeChar
  -- seven characters have an escape of their own
  iterate 7
    split
    · rename_i hc
      exact hshort (by decide) (by rw [hc]; rfl)
  split
  · rename_i hcontrol
    exact ⟨.unit c.toNat, Or.inr ⟨rfl, hcontrol⟩, pieces?_control hcontrol⟩
  · rename_i hlarge
    exact ⟨.char c, Or.inl rfl,
      pieces?_plain ‹c ≠ '"'› ‹c ≠ '\\'› (Nat.not_lt.mp hlarge)⟩

/-- A number below the halves of the pairs is a character by itself. -/
theorem joinPieces_unit {n : Nat} (h : n < 0x20) (ps : List Piece) :
    joinPieces (.unit n :: ps) = (joinPieces ps).map (Char.ofNat n :: ·) := by
  have hhigh : isHighHalf n = false := by
    simp only [isHighHalf, Bool.and_eq_false_iff, decide_eq_false_iff_not]
    omega
  have hlow : isLowHalf n = false := by
    simp only [isLowHalf, Bool.and_eq_false_iff, decide_eq_false_iff_not]
    omega
  cases ps with
  | nil => simp [joinPieces, hhigh, hlow]
  | cons p ps =>
      cases p with
      | char c => simp [joinPieces, hhigh, hlow]
      | unit m => simp [joinPieces, hhigh, hlow]

/-- The pieces of a text make that text. -/
theorem pieces?_escaped (s rest : List Char) :
    ∃ ps, pieces? (s.flatMap escapeChar ++ '"' :: rest) = some (ps, rest)
      ∧ joinPieces ps = some s := by
  induction s with
  | nil => exact ⟨[], by simp [pieces?], rfl⟩
  | cons c s ih =>
      obtain ⟨ps, hps, hjoin⟩ := ih
      obtain ⟨p, hp, hread⟩ := pieces?_escapeChar c
      refine ⟨p :: ps, ?_, ?_⟩
      · rw [List.flatMap_cons, List.append_assoc, hread, hps]
        rfl
      · rcases hp with rfl | ⟨rfl, hcontrol⟩
        · simp only [joinPieces, hjoin, Option.map_some]
        · rw [joinPieces_unit hcontrol, hjoin, Option.map_some, Char.ofNat_toNat]

theorem next?_stringChars (s : Option String) (rest : List Char) :
    Token.next? (stringChars s ++ rest) = some (.leaf (.str s), rest) := by
  cases s with
  | none =>
      show string? ('\\' :: 'u' :: 'd' :: '8' :: '0' :: '0' :: '"' :: rest) = _
      simp [string?, pieces?, hexFour?, hexValue?, joinPieces, isHighHalf]
  | some s =>
      obtain ⟨ps, hps, hjoin⟩ := pieces?_escaped s.toList rest
      show string? (s.toList.flatMap escapeChar ++ ['"'] ++ rest) = _
      rw [List.append_assoc, List.singleton_append, string?, hps]
      simp only [hjoin, Option.map_some, String.ofList_toList]

/-! ## 3. Tokens -/

/-- A token is read as it was written if this stands behind it. -/
def Token.Clear (rest : List Char) : Token → Prop
  | .leaf (.num n) => n.tail = "" ∧ Stops rest
  | .leaf (.list _) | .leaf (.record _) => False
  | _ => True

theorem next?_numberChars {n : JsonNumber} (htail : n.tail = "") {rest : List Char}
    (hrest : Stops rest) : Token.next? (numberChars n ++ rest) = some (.leaf (.num n), rest) := by
  have hnumber := number?_numberChars htail hrest
  obtain ⟨c, cs, hcons, hc⟩ := numberChars_eq_cons n
  rw [hcons, List.cons_append] at hnumber ⊢
  unfold Token.next?
  -- no other token starts with a digit or a sign
  split
  case h_11 => exact hnumber
  all_goals
    rename_i heq
    exact absurd hc (by rw [(List.cons.inj heq).1]; decide)

/-- A token that is clear of what stands behind it is found at the front of its text. -/
theorem next?_chars {t : Token} {rest : List Char} (h : t.Clear rest) :
    Token.next? (t.chars ++ rest) = some (t, rest) := by
  cases t with
  | leaf v =>
      cases v with
      | null => rfl
      | bool b => cases b <;> rfl
      | num n => exact next?_numberChars h.1 h.2
      | str s => exact next?_stringChars s rest
      | list items => exact h.elim
      | record members => exact h.elim
  | _ => rfl

/-- No token starts with a blank. -/
theorem chars_eq_cons {t : Token} {rest : List Char} (h : t.Clear rest) :
    ∃ c cs, t.chars = c :: cs ∧ isBlank c = false := by
  cases t with
  | leaf v =>
      cases v with
      | null => exact ⟨_, _, rfl, rfl⟩
      | bool b => cases b <;> exact ⟨_, _, rfl, rfl⟩
      | num n =>
          obtain ⟨c, cs, hcons, hc⟩ := numberChars_eq_cons n
          refine ⟨c, cs, hcons, ?_⟩
          rw [← Bool.not_eq_true]
          intro hblank
          simp only [isBlank, Bool.or_eq_true, decide_eq_true_eq] at hblank
          rcases hblank with ((rfl | rfl) | rfl) | rfl <;> revert hc <;> decide
      | str s => cases s <;> exact ⟨_, _, rfl, rfl⟩
      | list items => exact h.elim
      | record members => exact h.elim
  | _ => exact ⟨_, _, rfl, rfl⟩

/-- Tokens are read as they were written if this stands behind them. -/
def Reads (ts : List Token) (rest : List Char) : Prop :=
  Token.ofChars? (ts.flatMap Token.chars ++ rest) = (Token.ofChars? rest).map (ts ++ ·)

theorem reads_nil (rest : List Char) : Reads [] rest := Option.map_id'.symm

theorem reads_append {ts us : List Token} {rest : List Char}
    (hts : Reads ts (us.flatMap Token.chars ++ rest)) (hus : Reads us rest) :
    Reads (ts ++ us) rest := by
  unfold Reads at hts hus ⊢
  rw [List.flatMap_append, List.append_assoc, hts, hus, Option.map_map]
  simp only [Function.comp_def, List.append_assoc]

theorem reads_singleton {t : Token} {rest : List Char} (h : t.Clear rest) : Reads [t] rest := by
  obtain ⟨c, cs, hcons, hblank⟩ := chars_eq_cons h
  have hdrop : (t.chars ++ rest).dropWhile isBlank = t.chars ++ rest := by
    rw [hcons, List.cons_append]
    exact List.dropWhile_cons_of_neg (by simp [hblank])
  have hne : t.chars ++ rest ≠ [] := by
    rw [hcons]
    exact List.cons_ne_nil _ _
  rw [Reads, List.flatMap_singleton, Token.ofChars?]
  simp only [hdrop, if_neg hne]
  split
  · rename_i hnext
    rw [hdrop, next?_chars h] at hnext
    cases hnext
  · rename_i hnext
    rw [hdrop, next?_chars h] at hnext
    cases hnext
    rfl

/-- A token that is no value needs nothing of what stands behind it. -/
theorem reads_cons {t : Token} {ts : List Token} {rest : List Char}
    (ht : ∀ rest, t.Clear rest) (hts : Reads ts rest) : Reads (t :: ts) rest := by
  have hfirst : Reads [t] (ts.flatMap Token.chars ++ rest) := reads_singleton (ht _)
  exact reads_append hfirst hts

/-! ## 4. The tokens of a value -/

/-- Tokens among which no number has a fraction or an exponent. -/
def Unadorned (ts : List Token) : Prop := ∀ n, .leaf (.num n) ∈ ts → n.tail = ""

theorem unadorned_append {ts us : List Token} :
    Unadorned (ts ++ us) ↔ Unadorned ts ∧ Unadorned us := by
  simp only [Unadorned, List.mem_append, or_imp, forall_and]

theorem unadorned_cons {t : Token} {ts : List Token} (h : Unadorned (t :: ts)) : Unadorned ts :=
  fun n hn => h n (List.mem_cons_of_mem t hn)

theorem unadorned_nat (n : Nat) : Unadorned (tokens (.nat n)) := by
  intro m hm
  rw [nat, tokens, List.mem_singleton, Token.leaf.injEq, Json.num.injEq] at hm
  rw [hm]

theorem unadorned_str (s : Option String) : Unadorned (tokens (.str s)) := by
  intro m hm
  rw [tokens, List.mem_singleton, Token.leaf.injEq] at hm
  cases hm

theorem unadorned_null : Unadorned (tokens .null) := by
  intro m hm
  rw [tokens, List.mem_singleton, Token.leaf.injEq] at hm
  cases hm

theorem unadorned_bool (b : Bool) : Unadorned (tokens (.bool b)) := by
  intro m hm
  rw [tokens, List.mem_singleton, Token.leaf.injEq] at hm
  cases hm

/-- A comma or a bracket stands behind a value, which is where a number ends. -/
theorem stops_chars {t : Token} (ht : t = .comma ∨ t = .endList ∨ t = .endRecord)
    (ts : List Token) (rest : List Char) : Stops ((t :: ts).flatMap Token.chars ++ rest) := by
  rcases ht with rfl | rfl | rfl <;> exact stops_cons (by decide) _

theorem itemTokens_cons_cons (j j' : Json) (items : List Json) :
    itemTokens (j :: j' :: items) = tokens j ++ .comma :: itemTokens (j' :: items) := by
  rw [itemTokens]
  exact nofun

theorem memberTokens_cons_cons (k : Option String) (j : Json) (m : Option String × Json)
    (members : List (Option String × Json)) :
    memberTokens ((k, j) :: m :: members)
      = .leaf (.str k) :: .colon :: (tokens j ++ .comma :: memberTokens (m :: members)) := by
  rw [memberTokens]
  · rfl
  · exact nofun

theorem unadorned_memberTokens (members : List (Option String × Json))
    (h : ∀ m ∈ members, Unadorned (tokens m.2)) : Unadorned (memberTokens members) := by
  induction members with
  | nil =>
      rw [memberTokens]
      exact nofun
  | cons m members ih =>
      obtain ⟨k, j⟩ := m
      rw [List.forall_mem_cons] at h
      have hkey {ts : List Token} (hts : Unadorned ts) :
          Unadorned (.leaf (.str k) :: .colon :: ts) := by
        intro n hn
        apply hts n
        simpa using hn
      cases members with
      | nil =>
          rw [memberTokens]
          exact hkey h.1
      | cons m' members =>
          rw [memberTokens_cons_cons]
          apply hkey
          rw [unadorned_append]
          refine ⟨h.1, ?_⟩
          intro n hn
          apply ih h.2 n
          simpa using hn

/-- An object is without adornment if its members are. -/
theorem unadorned_object {ms : List (String × Json)} (h : ∀ m ∈ ms, Unadorned (tokens m.2)) :
    Unadorned (tokens (.object ms)) := by
  have hmembers := unadorned_memberTokens (ms.map fun m => (some m.1, m.2))
    (List.forall_mem_map.mpr h)
  intro n hn
  apply hmembers n
  simpa [object, tokens] using hn

-- Induction on the value. Only its last token meets what stands behind the whole; behind a value
-- inside it stands a comma or a closing bracket, and either ends a number.
mutual

theorem reads_tokens : ∀ (j : Json) (rest : List Char), Unadorned (tokens j) → Stops rest →
    Reads (tokens j) rest
  | .null, _, _, _ => reads_singleton trivial
  | .bool _, _, _, _ => reads_singleton trivial
  | .num n, _, hplain, hrest => reads_singleton ⟨hplain n List.mem_cons_self, hrest⟩
  | .str _, _, _, _ => reads_singleton trivial
  | .list items, rest, hplain, _ => by
      rw [tokens] at hplain ⊢
      have hitems := (unadorned_append.mp (unadorned_cons hplain)).1
      refine reads_cons (t := .beginList) (fun _ => trivial) ?_
      apply reads_append ?_ (reads_singleton (t := .endList) trivial)
      exact reads_itemTokens items _ hitems (stops_chars (Or.inr (Or.inl rfl)) [] rest)
  | .record members, rest, hplain, _ => by
      rw [tokens] at hplain ⊢
      have hmembers := (unadorned_append.mp (unadorned_cons hplain)).1
      refine reads_cons (t := .beginRecord) (fun _ => trivial) ?_
      apply reads_append ?_ (reads_singleton (t := .endRecord) trivial)
      exact reads_memberTokens members _ hmembers (stops_chars (Or.inr (Or.inr rfl)) [] rest)

theorem reads_itemTokens : ∀ (items : List Json) (rest : List Char),
    Unadorned (itemTokens items) → Stops rest → Reads (itemTokens items) rest
  | [], rest, _, _ => reads_nil rest
  | [j], rest, hplain, hrest => reads_tokens j rest hplain hrest
  | j :: j' :: items, rest, hplain, hrest => by
      rw [itemTokens_cons_cons] at hplain ⊢
      obtain ⟨hfirst, hothers⟩ := unadorned_append.mp hplain
      apply reads_append
      · exact reads_tokens j _ hfirst (stops_chars (Or.inl rfl) _ rest)
      refine reads_cons (t := .comma) (fun _ => trivial) ?_
      exact reads_itemTokens (j' :: items) rest (unadorned_cons hothers) hrest

theorem reads_memberTokens : ∀ (members : List (Option String × Json)) (rest : List Char),
    Unadorned (memberTokens members) → Stops rest → Reads (memberTokens members) rest
  | [], rest, _, _ => reads_nil rest
  | [(k, j)], rest, hplain, hrest => by
      rw [memberTokens] at hplain ⊢
      refine reads_cons (t := .leaf (.str k)) (fun _ => trivial) ?_
      refine reads_cons (t := .colon) (fun _ => trivial) ?_
      exact reads_tokens j rest (unadorned_cons (unadorned_cons hplain)) hrest
  | (k, j) :: m :: members, rest, hplain, hrest => by
      rw [memberTokens_cons_cons] at hplain ⊢
      obtain ⟨hfirst, hothers⟩ := unadorned_append.mp (unadorned_cons (unadorned_cons hplain))
      refine reads_cons (t := .leaf (.str k)) (fun _ => trivial) ?_
      refine reads_cons (t := .colon) (fun _ => trivial) ?_
      apply reads_append
      · exact reads_tokens j _ hfirst (stops_chars (Or.inl rfl) _ rest)
      refine reads_cons (t := .comma) (fun _ => trivial) ?_
      exact reads_memberTokens (m :: members) rest (unadorned_cons hothers) hrest

end

/-! ## 5. The value of the tokens -/

/-- A reading goes on through some tokens. -/
def run (p : Progress) (ts : List Token) : Option Progress := ts.foldlM Progress.step p

theorem run_step {p q : Progress} {t : Token} (h : p.step t = some q) (ts : List Token) :
    run p (t :: ts) = run q ts := by
  rw [run, List.foldlM_cons, h]
  rfl

theorem tokens_list (items : List Json) (ts : List Token) :
    tokens (.list items) ++ ts = .beginList :: (itemTokens items ++ .endList :: ts) := by
  rw [tokens, List.append_assoc]
  rfl

theorem tokens_record (members : List (Option String × Json)) (ts : List Token) :
    tokens (.record members) ++ ts
      = .beginRecord :: (memberTokens members ++ .endRecord :: ts) := by
  rw [tokens, List.append_assoc]
  rfl

/-- Where a first item may stand it is read as any item, as no value starts with the end of a
list. -/
theorem run_firstItem (j : Json) (items : List Json) (stack : List Frame) (ts : List Token) :
    run ⟨.firstItem, stack⟩ (itemTokens (j :: items) ++ ts)
      = run ⟨.value, .list [] :: stack⟩ (itemTokens (j :: items) ++ ts) := by
  have hvalue (more : List Token) :
      run ⟨.firstItem, stack⟩ (tokens j ++ more)
        = run ⟨.value, .list [] :: stack⟩ (tokens j ++ more) := by
    cases j <;> rfl
  cases items with
  | nil => exact hvalue ts
  | cons j' items =>
      rw [itemTokens_cons_cons, List.append_assoc]
      exact hvalue _

/-- Where a first key may stand it is read as any key. -/
theorem run_firstKey (m : Option String × Json) (members : List (Option String × Json))
    (stack : List Frame) (ts : List Token) :
    run ⟨.firstKey, stack⟩ (memberTokens (m :: members) ++ ts)
      = run ⟨.key [], stack⟩ (memberTokens (m :: members) ++ ts) := by
  cases members with
  | nil => rfl
  | cons m' members =>
      rw [memberTokens_cons_cons]
      rfl

-- Induction on the value, with the open containers and the tokens that follow left arbitrary: an
-- item is read with its own list open around it. What is done of a container is kept in reverse.
mutual

/-- The tokens of a value complete it, whatever is open around it. -/
theorem run_tokens : ∀ (j : Json) (stack : List Frame) (ts : List Token),
    run ⟨.value, stack⟩ (tokens j ++ ts) = run ⟨.after j, stack⟩ ts
  | .null, _, _ => rfl
  | .bool _, _, _ => rfl
  | .num _, _, _ => rfl
  | .str _, _, _ => rfl
  | .list [], _, _ => rfl
  | .list (j :: items), stack, ts => by
      rw [tokens_list, run_step (q := ⟨.firstItem, stack⟩) rfl, run_firstItem]
      exact run_itemTokens (j :: items) [] stack ts (List.cons_ne_nil j items)
  | .record [], _, _ => rfl
  | .record (m :: members), stack, ts => by
      rw [tokens_record, run_step (q := ⟨.firstKey, stack⟩) rfl, run_firstKey]
      exact run_memberTokens (m :: members) [] stack ts (List.cons_ne_nil m members)

/-- The tokens of items complete a list, behind those that it has. -/
theorem run_itemTokens : ∀ (items done : List Json) (stack : List Frame) (ts : List Token),
    items ≠ [] → run ⟨.value, .list done :: stack⟩ (itemTokens items ++ .endList :: ts)
      = run ⟨.after (.list (done.reverse ++ items)), stack⟩ ts
  | [], _, _, _, hne => absurd rfl hne
  | [j], done, stack, ts, _ => by
      rw [itemTokens, run_tokens j, run_step rfl, List.reverse_cons]
  | j :: j' :: items, done, stack, ts, _ => by
      rw [itemTokens_cons_cons, List.append_assoc, run_tokens j, List.cons_append, run_step rfl]
      refine (run_itemTokens (j' :: items) (j :: done) stack ts (List.cons_ne_nil _ _)).trans ?_
      rw [List.reverse_cons, List.append_assoc, List.singleton_append]

/-- The tokens of members complete an object, behind those that it has. -/
theorem run_memberTokens : ∀ (members done : List (Option String × Json)) (stack : List Frame)
    (ts : List Token),
    members ≠ [] → run ⟨.key done, stack⟩ (memberTokens members ++ .endRecord :: ts)
      = run ⟨.after (.record (done.reverse ++ members)), stack⟩ ts
  | [], _, _, _, hne => absurd rfl hne
  | [(k, j)], done, stack, ts, _ => by
      rw [memberTokens, List.cons_append, List.cons_append, run_step rfl, run_step rfl,
        run_tokens j, run_step rfl, List.reverse_cons]
  | (k, j) :: m :: members, done, stack, ts, _ => by
      rw [memberTokens_cons_cons, List.cons_append, List.cons_append, run_step rfl, run_step rfl,
        List.append_assoc, run_tokens j, List.cons_append, run_step rfl]
      refine (run_memberTokens (m :: members) ((k, j) :: done) stack ts
        (List.cons_ne_nil _ _)).trans ?_
      rw [List.reverse_cons, List.append_assoc, List.singleton_append]

end

theorem ofTokens?_tokens (j : Json) : ofTokens? (tokens j) = some j := by
  have hrun : (tokens j).foldlM Progress.step ⟨.value, []⟩ = some ⟨.after j, []⟩ := by
    have h := run_tokens j [] []
    rw [List.append_nil] at h
    exact h
  rw [ofTokens?, hrun]
  rfl

/-! ## 6. Whole texts -/

/-- What is written is read back. -/
theorem parse?_render {j : Json} (h : Unadorned (tokens j)) : parse? (render j) = some j := by
  have htext : Token.ofText? (render j) = some (tokens j) := by
    have hreads := reads_tokens j [] h stops_nil
    rw [Reads, List.append_nil] at hreads
    rw [Token.ofText?, render, String.toList_ofList, hreads, Token.ofChars?]
    simp
  rw [parse?, htext]
  exact ofTokens?_tokens j

end ChainWatch.Json
