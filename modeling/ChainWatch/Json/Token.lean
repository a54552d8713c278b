/-
JSON text as a list of tokens.

A token is a bracket, a separator, or a value that contains no other. `Token.chars` writes
one, `Token.ofText?` splits a text into them. Tokens need nothing between them: whatever
two neighbours run into each other (`nullnull`, `01`) is refused by the grammar, which
wants a separator there.

Which texts are tokens, and how one is written, is as `serde_json` (1.0) has it: the JSON
grammar to the letter when reading, and when writing the short escapes where there are any,
`\u00` and two digits for the other control characters, and everything else as it is.
-/
import ChainWatch.Json.Basic

set_option autoImplicit false

namespace ChainWatch.Json

inductive Token where
  | beginList
  | endList
  | beginRecord
  | endRecord
  | comma
  | colon
  /-- A value without parts. -/
  | leaf (value : Json)

/-! ## 1. Characters -/

/-- The blanks that may stand between tokens. -/
def isBlank (c : Char) : Bool := c = ' ' || c = '\t' || c = '\n' || c = '\r'

/-- The value of a hex digit of either case. -/
def hexValue? (c : Char) : Option Nat :=
  let n := c.toNat
  if 48 ≤ n ∧ n ≤ 57 then some (n - 48)
  else if 97 ≤ n ∧ n ≤ 102 then some (n - 87)
  else if 65 ≤ n ∧ n ≤ 70 then some (n - 55)
  else none

/-- The number written in four hex digits. -/
def hexFour? (a b c d : Char) : Option Nat :=
  match hexValue? a, hexValue? b, hexValue? c, hexValue? d with
  | some a, some b, some c, some d => some (((a * 16 + b) * 16 + c) * 16 + d)
  | _, _, _, _ => none

/-- The character that a backslash and one more character stand for. -/
def unescape? (c : Char) : Option Char :=
  if c = '"' then some '"'
  else if c = '\\' then some '\\'
  else if c = '/' then some '/'
  else if c = 'b' then some '\x08'
  else if c = 'f' then some '\x0c'
  else if c = 'n' then some '\n'
  else if c = 'r' then some '\r'
  else if c = 't' then some '\t'
  else none

/-! ## 2. Strings -/

/-- A piece of a string: a character, or a number given by an escape, which may be half
of a character. -/
inductive Piece where
  | char (c : Char)
  | unit (n : Nat)

/-- The pieces up to the closing quote, and what follows it. -/
def pieces? : List Char → Option (List Piece × List Char)
  | '"' :: rest => some ([], rest)
  | '\\' :: 'u' :: a :: b :: c :: d :: rest =>
      match hexFour? a b c d, pieces? rest with
      | some n, some (ps, rest) => some (.unit n :: ps, rest)
      | _, _ => none
  | '\\' :: e :: rest =>
      match unescape? e, pieces? rest with
      | some c, some (ps, rest) => some (.char c :: ps, rest)
      | _, _ => none
  | c :: rest =>
      if c = '\\' || c.toNat < 0x20 then none
      else match pieces? rest with
        | some (ps, rest) => some (.char c :: ps, rest)
        | none => none
  | [] => none

/-- Whether a number is the first half of a pair, or the second. -/
def isHighHalf (n : Nat) : Bool := 0xd800 ≤ n && n < 0xdc00

def isLowHalf (n : Nat) : Bool := 0xdc00 ≤ n && n < 0xe000

/-- The text of the pieces. Two halves that follow each other make one character; a half
without its partner makes the string one that no text equals. -/
def joinPieces : List Piece → Option (List Char)
  | [] => some []
  | .char c :: rest => (joinPieces rest).map (c :: ·)
  | .unit n :: .unit m :: rest =>
      if isHighHalf n && isLowHalf m then
        (joinPieces rest).map (Char.ofNat (0x10000 + (n - 0xd800) * 0x400 + (m - 0xdc00)) :: ·)
      else if isHighHalf n || isLowHalf n then none
      -- `m` is looked at again: it may be the first half of a pair
      else (joinPieces (.unit m :: rest)).map (Char.ofNat n :: ·)
  | .unit n :: rest =>
      if isHighHalf n || isLowHalf n then none
      else (joinPieces rest).map (Char.ofNat n :: ·)

/-- The string behind an opening quote. -/
def string? (cs : List Char) : Option (Token × List Char) :=
  match pieces? cs with
  | some (ps, rest) => some (.leaf (.str ((joinPieces ps).map String.ofList)), rest)
  | none => none

/-! ## 3. Numbers -/

/-- The digits at the front, which must be there, and what follows them. -/
def digits? (cs : List Char) : Option (List Char × List Char) :=
  if cs.takeWhile Char.isDigit = [] then none
  else some (cs.takeWhile Char.isDigit, cs.dropWhile Char.isDigit)

/-- The digits of the integer part: a zero is not followed by another digit. -/
def wholeDigits? (cs : List Char) : Option (List Char × List Char) :=
  match digits? cs with
  | some ('0' :: _ :: _, _) => none
  | found => found

/-- A fraction at the front, empty if there is none. -/
def fraction? : List Char → Option (List Char × List Char)
  | '.' :: rest => (digits? rest).map fun found => ('.' :: found.1, found.2)
  | cs => some ([], cs)

/-- An exponent at the front, empty if there is none. -/
def exponent? : List Char → Option (List Char × List Char)
  | c :: rest =>
      if c = 'e' || c = 'E' then
        match rest with
        | sign :: more =>
            if sign = '+' || sign = '-' then
              (digits? more).map fun found => (c :: sign :: found.1, found.2)
            else (digits? rest).map fun found => (c :: found.1, found.2)
        | [] => none
      else some ([], c :: rest)
  | [] => some ([], [])

/-- The number that a list of decimal digits stands for. -/
def decimalValue (ds : List Char) : Nat := ds.foldl (fun n c => 10 * n + (c.toNat - 48)) 0

/-- A number whose sign has been read. -/
def unsigned? (negative : Bool) (cs : List Char) : Option (Token × List Char) :=
  match wholeDigits? cs with
  | none => none
  | some (whole, rest) =>
      match fraction? rest with
      | none => none
      | some (fraction, rest) =>
          match exponent? rest with
          | none => none
          | some (exponent, rest) =>
              let tail := String.ofList (fraction ++ exponent)
              some (.leaf (.num ⟨negative, decimalValue whole, tail⟩), rest)

/-- The number at the front. -/
def number? : List Char → Option (Token × List Char)
  | '-' :: rest => unsigned? true rest
  | cs => unsigned? false cs

/-! ## 4. Splitting a text -/

/-- The token at the front of a text that starts with no blank. -/
def Token.next? : List Char → Option (Token × List Char)
  | '[' :: rest => some (.beginList, rest)
  | ']' :: rest => some (.endList, rest)
  | '{' :: rest => some (.beginRecord, rest)
  | '}' :: rest => some (.endRecord, rest)
  | ',' :: rest => some (.comma, rest)
  | ':' :: rest => some (.colon, rest)
  | '"' :: rest => string? rest
  | 'n' :: 'u' :: 'l' :: 'l' :: rest => some (.leaf .null, rest)
  | 't' :: 'r' :: 'u' :: 'e' :: rest => some (.leaf (.bool true), rest)
  | 'f' :: 'a' :: 'l' :: 's' :: 'e' :: rest => some (.leaf (.bool false), rest)
  | cs => number? cs

theorem pieces?_length {cs rest : List Char} {ps : List Piece} (h : pieces? cs = some (ps, rest)) :
    rest.length < cs.length := by
  fun_induction pieces? cs generalizing ps rest with
  | case1 => simp_all
  | case2 a b c d r n ps' r' hr hn ih =>
      have := ih hr
      simp only [Option.some.injEq, Prod.mk.injEq] at h
      obtain ⟨_, rfl⟩ := h
      simp only [List.length_cons]
      omega
  | case3 => simp at h
  | case4 e r _ c ps' r' hr hc ih =>
      have := ih hr
      simp only [Option.some.injEq, Prod.mk.injEq] at h
      obtain ⟨_, rfl⟩ := h
      simp only [List.length_cons]
      omega
  | case5 => simp at h
  | case6 => simp at h
  | case7 c r _ _ _ _ ps' r' hr ih =>
      have := ih hr
      simp only [Option.some.injEq, Prod.mk.injEq] at h
      obtain ⟨_, rfl⟩ := h
      simp only [List.length_cons]
      omega
  | case8 => simp at h
  | case9 => simp at h

theorem dropWhile_length_le (p : Char → Bool) (cs : List Char) :
    (cs.dropWhile p).length ≤ cs.length := (List.dropWhile_sublist p).length_le

theorem digits?_length {cs ds rest : List Char} (h : digits? cs = some (ds, rest)) :
    rest.length < cs.length := by
  unfold digits? at h
  split at h
  · simp at h
  · rename_i hne
    simp only [Option.some.injEq, Prod.mk.injEq] at h
    obtain ⟨_, rfl⟩ := h
    have hsplit :=
      congrArg List.length (List.takeWhile_append_dropWhile (p := Char.isDigit) (l := cs))
    have hpos := List.length_pos_iff.mpr hne
    rw [List.length_append] at hsplit
    omega

theorem wholeDigits?_length {cs ds rest : List Char} (h : wholeDigits? cs = some (ds, rest)) :
    rest.length < cs.length := by
  unfold wholeDigits? at h
  split at h
  · simp at h
  · exact digits?_length h

theorem fraction?_length {cs ds rest : List Char} (h : fraction? cs = some (ds, rest)) :
    rest.length ≤ cs.length := by
  unfold fraction? at h
  split at h
  · simp only [Option.map_eq_some_iff, Prod.mk.injEq, Prod.exists] at h
    obtain ⟨a, b, hd, _, rfl⟩ := h
    have := digits?_length hd
    simp only [List.length_cons]
    omega
  · simp only [Option.some.injEq, Prod.mk.injEq] at h
    exact Nat.le_of_eq (by rw [h.2])

theorem exponent?_length {cs ds rest : List Char} (h : exponent? cs = some (ds, rest)) :
    rest.length ≤ cs.length := by
  unfold exponent? at h
  split at h
  · split at h
    · split at h
      · split at h
        all_goals
          simp only [Option.map_eq_some_iff, Prod.mk.injEq, Prod.exists] at h
          obtain ⟨a, b, hd, _, rfl⟩ := h
          have := digits?_length hd
          simp only [List.length_cons] at this ⊢
          omega
      · simp at h
    · simp only [Option.some.injEq, Prod.mk.injEq] at h
      exact Nat.le_of_eq (by rw [← h.2])
  · simp only [Option.some.injEq, Prod.mk.injEq] at h
    exact Nat.le_of_eq (by rw [← h.2])

theorem unsigned?_length {negative : Bool} {cs rest : List Char} {t : Token}
    (h : unsigned? negative cs = some (t, rest)) : rest.length < cs.length := by
  unfold unsigned? at h
  split at h
  · simp at h
  · rename_i whole r₁ hw
    split at h
    · simp at h
    · rename_i fraction r₂ hf
      split at h
      · simp at h
      · rename_i exponent r₃ he
        simp only [Option.some.injEq, Prod.mk.injEq] at h
        obtain ⟨_, rfl⟩ := h
        have := wholeDigits?_length hw
        have := fraction?_length hf
        have := exponent?_length he
        omega

theorem number?_length {cs rest : List Char} {t : Token} (h : number? cs = some (t, rest)) :
    rest.length < cs.length := by
  unfold number? at h
  split at h
  · have := unsigned?_length h
    simp only [List.length_cons]
    omega
  · exact unsigned?_length h

/-- Every token takes at least one character. -/
theorem Token.next?_length {cs rest : List Char} {t : Token} (h : Token.next? cs = some (t, rest)) :
    rest.length < cs.length := by
  unfold Token.next? at h
  split at h
  case h_7 r =>
    unfold string? at h
    split at h
    · rename_i ps r' hp
      simp only [Option.some.injEq, Prod.mk.injEq] at h
      obtain ⟨_, rfl⟩ := h
      have := pieces?_length hp
      simp only [List.length_cons]
      omega
    · simp at h
  case h_11 => exact number?_length h
  all_goals
    simp only [Option.some.injEq, Prod.mk.injEq] at h
    obtain ⟨_, rfl⟩ := h
    simp only [List.length_cons]
    omega

/-- The tokens of a text, blanks between them dropped. -/
def Token.ofChars? (cs : List Char) : Option (List Token) :=
  if cs.dropWhile isBlank = [] then some []
  else match _h : Token.next? (cs.dropWhile isBlank) with
    | none => none
    | some (t, rest) => (Token.ofChars? rest).map (t :: ·)
termination_by cs.length
decreasing_by
  have := Token.next?_length _h
  have := dropWhile_length_le isBlank cs
  omega

def Token.ofText? (s : String) : Option (List Token) := Token.ofChars? s.toList

/-! ## 5. Writing tokens -/

/-- One character of a string. Only the quote, the backslash and the control characters
below U+0020 are escaped. -/
def escapeChar (c : Char) : List Char :=
  if c = '"' then ['\\', '"']
  else if c = '\\' then ['\\', '\\']
  else if c = '\x08' then ['\\', 'b']
  else if c = '\t' then ['\\', 't']
  else if c = '\n' then ['\\', 'n']
  else if c = '\x0c' then ['\\', 'f']
  else if c = '\r' then ['\\', 'r']
  else if c.toNat < 0x20 then
    ['\\', 'u', '0', '0', Nat.digitChar (c.toNat / 16), Nat.digitChar (c.toNat % 16)]
  else [c]

/-- A string in quotes. One that equals no text is written as a lone half, which is what
makes it so. -/
def stringChars : Option String → List Char
  | some s => '"' :: s.toList.flatMap escapeChar ++ ['"']
  | none => ['"', '\\', 'u', 'd', '8', '0', '0', '"']

def numberChars (n : JsonNumber) : List Char :=
  (if n.negative then ['-'] else []) ++ Nat.toDigits 10 n.whole ++ n.tail.toList

/-- The text of one token. A value with parts is no leaf and has no text here. -/
def Token.chars : Token → List Char
  | .beginList => ['[']
  | .endList => [']']
  | .beginRecord => ['{']
  | .endRecord => ['}']
  | .comma => [',']
  | .colon => [':']
  | .leaf .null => ['n', 'u', 'l', 'l']
  | .leaf (.bool true) => ['t', 'r', 'u', 'e']
  | .leaf (.bool false) => ['f', 'a', 'l', 's', 'e']
  | .leaf (.num n) => numberChars n
  | .leaf (.str s) => stringChars s
  | .leaf (.list _) | .leaf (.record _) => []

end ChainWatch.Json
