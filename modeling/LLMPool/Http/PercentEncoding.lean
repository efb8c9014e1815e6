import Mathlib.Data.List.Basic

/-! Percent-encoded texts: the characters they are made of, each of them raw or encoded, and
what encoding a text again makes of them. -/
namespace Http

abbrev Bytes := List UInt8

def byte (c : Char) : UInt8 := c.toUInt8

def hexDigit (n : Nat) : UInt8 := if n < 10 then UInt8.ofNat (48 + n) else UInt8.ofNat (55 + n)

def hexValue (b : UInt8) : Option Nat :=
  if 48 ≤ b ∧ b ≤ 57 then some (b.toNat - 48)
  else if 65 ≤ b ∧ b ≤ 70 then some (b.toNat - 55)
  else if 97 ≤ b ∧ b ≤ 102 then some (b.toNat - 87)
  else none

inductive Token where
  | raw (b : UInt8)
  | encoded (b : UInt8)
  deriving DecidableEq

def Token.byte : Token → UInt8
  | .raw b => b
  | .encoded b => b

/-- The byte that three others encode, where they do. -/
def triple (a b c : UInt8) : Option UInt8 :=
  if a = Http.byte '%' then do
    let high ← hexValue b
    let low ← hexValue c
    return UInt8.ofNat (high * 16 + low)
  else none

def tokens : Bytes → List Token
  | a :: b :: c :: rest =>
      match triple a b c with
      | some value => .encoded value :: tokens rest
      | none => .raw a :: tokens (b :: c :: rest)
  | a :: rest => .raw a :: tokens rest
  | [] => []

/-- What encodes nothing stands for itself. -/
def percentDecode (text : Bytes) : Bytes := (tokens text).map Token.byte

def percentEncodeByte (b : UInt8) : Bytes := [byte '%', hexDigit (b.toNat / 16), hexDigit (b.toNat % 16)]

def percentEncode (set : UInt8 → Bool) (text : Bytes) : Bytes :=
  text.flatMap (fun b => if set b then percentEncodeByte b else [b])

/-- What a byte is after it has been encoded where a set says so. -/
def encodedAs (set : UInt8 → Bool) (b : UInt8) : Token := if set b then .encoded b else .raw b

/-- The characters that may delimit parts of a URL. -/
def isReserved (b : UInt8) : Bool := (":/?#[]@!$&'()*+,;=".toList.map byte).contains b

/-- Whether it matters that a character is encoded. -/
def isSignificant (b : UInt8) : Bool := isReserved b || b = byte '%'

def Token.meaning : Token → Token
  | .raw b => .raw b
  | .encoded b => if isSignificant b then .encoded b else .raw b

/-- What a text says, whichever way the characters are written that may be written in two. -/
def meaning (text : Bytes) : List Token := (tokens text).map Token.meaning

def isUnreserved (b : UInt8) : Bool :=
  97 ≤ b && b ≤ 122 || 65 ≤ b && b ≤ 90 || 48 ≤ b && b ≤ 57 || ("-._~".toList.map byte).contains b

/-- The characters that stand for themselves in a path. -/
def isPathChar (b : UInt8) : Bool := isUnreserved b || ("!$&'()*+,;=:@/".toList.map byte).contains b

theorem forall_byte {P : UInt8 → Prop} (each : ∀ n < 256, P (UInt8.ofNat n)) (b : UInt8) : P b := by
  have this := each b.toNat (UInt8.toNat_lt b)
  rwa [UInt8.ofNat_toNat] at this

section Tokens
variable {set : UInt8 → Bool} {a b c d : UInt8} {left right text : Bytes}

theorem hexValue_hexDigit : ∀ n < 16, hexValue (hexDigit n) = some n := by decide

theorem triple_percentEncodeByte (b : UInt8) :
    triple (byte '%') (hexDigit (b.toNat / 16)) (hexDigit (b.toNat % 16)) = some b := by
  have small : b.toNat < 256 := UInt8.toNat_lt b
  rw [triple, if_pos rfl, hexValue_hexDigit _ (by omega), hexValue_hexDigit _ (by omega)]
  have whole : b.toNat / 16 * 16 + b.toNat % 16 = b.toNat := by omega
  change some (UInt8.ofNat (b.toNat / 16 * 16 + b.toNat % 16)) = some b
  rw [whole, UInt8.ofNat_toNat]

theorem triple_second (other : hexValue b = none) : triple a b c = none := by
  simp [triple, other]

theorem triple_third (other : hexValue c = none) : triple a b c = none := by
  rw [triple]
  split
  · cases hexValue b <;> simp [other]
  · rfl

theorem triple_first (other : a ≠ byte '%') : triple a b c = none := if_neg other

theorem tokens_raw (other : a ≠ byte '%') (rest : Bytes) : tokens (a :: rest) = .raw a :: tokens rest := by
  match rest with
  | [] => rfl
  | [_] => rfl
  | b :: c :: more => rw [tokens, triple_first other]

theorem tokens_short {rest : Bytes} (short : ∀ b c more, rest = b :: c :: more → False) :
    tokens (a :: rest) = .raw a :: tokens rest := by
  rcases rest with _ | ⟨b, _ | ⟨c, more⟩⟩
  · rfl
  · rfl
  · exact absurd rfl (short b c more)

theorem head?_of_tokens (first : (tokens text).head? = some (.raw b)) : text.head? = some b := by
  revert first
  fun_cases tokens text with
  | case1 a c d rest value encoded => nofun
  | case2 a c d rest plain =>
      intro first
      cases first
      rfl
  | case3 a rest =>
      intro first
      cases first
      rfl
  | case4 => nofun

theorem tokens_percentEncodeByte (b : UInt8) (rest : Bytes) :
    tokens (percentEncodeByte b ++ rest) = .encoded b :: tokens rest := by
  change tokens (byte '%' :: hexDigit (b.toNat / 16) :: hexDigit (b.toNat % 16) :: rest) = _
  rw [tokens, triple_percentEncodeByte]

/-- A character that is no hexadecimal digit begins a token. -/
theorem tokens_append_cons (other : hexValue d = none) (left right : Bytes) :
    tokens (left ++ d :: right) = tokens left ++ tokens (d :: right) := by
  induction left using tokens.induct with
  | case1 a b c rest value encoded ih =>
      change tokens (a :: b :: c :: (rest ++ d :: right)) = _
      rw [tokens, tokens, encoded]
      exact congrArg (List.cons _) ih
  | case2 a b c rest plain ih =>
      change tokens (a :: b :: c :: (rest ++ d :: right)) = _
      rw [tokens, tokens, plain]
      exact congrArg (List.cons _) ih
  | case3 a rest short ih =>
      match rest with
      | [] =>
          change tokens (a :: d :: right) = [.raw a] ++ tokens (d :: right)
          match right with
          | [] => rfl
          | c :: more => rw [tokens, triple_second other]; rfl
      | [b] =>
          change tokens (a :: b :: d :: right) = _
          rw [tokens, triple_third other]
          exact congrArg (List.cons _) ih
      | b :: c :: more => exact absurd rfl (short b c more)
  | case4 => rfl

theorem percentEncode_cons : percentEncode set (b :: text) =
    (if set b then percentEncodeByte b else [b]) ++ percentEncode set text := List.flatMap_cons ..

theorem percentEncode_cons_set (encoded : set b = true) :
    percentEncode set (b :: text) = percentEncodeByte b ++ percentEncode set text := by
  rw [percentEncode_cons, if_pos encoded]

theorem percentEncode_cons_raw (plain : set b = false) :
    percentEncode set (b :: text) = b :: percentEncode set text := by
  rw [percentEncode_cons, if_neg (by simp [plain])]
  rfl

theorem tokens_percentEncode_cons (other : b ≠ byte '%') (rest : Bytes) :
    tokens (percentEncode set (b :: rest)) = encodedAs set b :: tokens (percentEncode set rest) := by
  rw [encodedAs]
  cases encoded : set b with
  | true => rw [percentEncode_cons_set encoded, tokens_percentEncodeByte]; rfl
  | false => rw [percentEncode_cons_raw encoded, tokens_raw other]; rfl

/-- A `%` in front of a text that is encoded stands for itself, or takes two characters more. -/
theorem tokens_percent (set : UInt8 → Bool) (rest : Bytes) :
    tokens (byte '%' :: percentEncode set rest) = .raw (byte '%') :: tokens (percentEncode set rest) ∨
      ∃ c d rest' value, rest = c :: d :: rest' ∧ triple (byte '%') c d = some value ∧
        tokens (byte '%' :: percentEncode set rest) = .encoded value :: tokens (percentEncode set rest') := by
  have stands : ∀ {c d : UInt8} {more : Bytes}, triple (byte '%') c d = none →
      tokens (byte '%' :: c :: d :: more) = .raw (byte '%') :: tokens (c :: d :: more) := by
    intro c d more none
    rw [tokens, none]
  have percent : hexValue (byte '%') = none := by decide
  cases rest with
  | nil => exact .inl rfl
  | cons c rest =>
      cases first : set c with
      | true =>
          rw [percentEncode_cons_set first]
          exact .inl (stands (triple_second percent))
      | false =>
          rw [percentEncode_cons_raw first]
          cases rest with
          | nil => exact .inl rfl
          | cons d rest' =>
              cases second : set d with
              | true =>
                  rw [percentEncode_cons_set second]
                  exact .inl (stands (triple_third percent))
              | false =>
                  rw [percentEncode_cons_raw second]
                  cases encoded : triple (byte '%') c d with
                  | none => exact .inl (stands encoded)
                  | some value =>
                      refine .inr ⟨c, d, rest', value, rfl, encoded, ?_⟩
                      rw [tokens, encoded]

/-- A text that is encoded has the characters of the original, unless a `%` of it makes one
of several. -/
theorem tokens_percentEncode (set : UInt8 → Bool) (text : Bytes) :
    (tokens (percentEncode set text)).length < text.length ∨
      tokens (percentEncode set text) = text.map (encodedAs set) := by
  induction length : text.length using Nat.strongRecOn generalizing text with
  | ind n ih =>
      cases text with
      | nil => exact .inr rfl
      | cons b rest =>
          have short : rest.length < n := by
            rw [← length, List.length_cons]
            omega
          have next (first : tokens (percentEncode set (b :: rest)) = encodedAs set b :: tokens (percentEncode set rest)) :
              (tokens (percentEncode set (b :: rest))).length < n ∨
                tokens (percentEncode set (b :: rest)) = (b :: rest).map (encodedAs set) := by
            rw [first, List.map_cons]
            rcases ih rest.length short rest rfl with fewer | all
            · refine .inl ?_
              rw [List.length_cons]
              omega
            · exact .inr (congrArg (List.cons _) all)
          by_cases other : b = byte '%'
          · subst other
            cases encoded : set (byte '%') with
            | true =>
                refine next ?_
                rw [encodedAs, if_pos encoded, percentEncode_cons_set encoded, tokens_percentEncodeByte]
            | false =>
                rcases tokens_percent set rest with stands | ⟨c, d, rest', value, rfl, _, taken⟩
                · refine next ?_
                  rw [encodedAs, if_neg (by simp [encoded]), percentEncode_cons_raw encoded, stands]
                · refine .inl ?_
                  rw [percentEncode_cons_raw encoded, taken]
                  simp only [List.length_cons] at length short ⊢
                  have most : (tokens (percentEncode set rest')).length ≤ rest'.length := by
                    rcases ih rest'.length (by omega) rest' rfl with fewer | all
                    · exact Nat.le_of_lt fewer
                    · exact Nat.le_of_eq (by rw [all, List.length_map])
                  omega
          · exact next (tokens_percentEncode_cons other rest)

theorem tokens_percentEncode_plain (plain : byte '%' ∉ text) :
    tokens (percentEncode set text) = text.map (encodedAs set) := by
  induction text with
  | nil => rfl
  | cons b rest ih =>
      rw [List.mem_cons, not_or] at plain
      rw [List.map_cons, tokens_percentEncode_cons (Ne.symm plain.1), ih plain.2]

theorem triple_eq_some {value : UInt8} (encoded : triple a b c = some value) :
    a = byte '%' ∧ (hexValue b).isSome = true ∧ (hexValue c).isSome = true := by
  by_cases percent : a = byte '%'
  · rw [triple, if_pos percent] at encoded
    cases high : hexValue b with
    | none => simp [high] at encoded
    | some _ =>
        cases low : hexValue c with
        | none => simp [high, low] at encoded
        | some _ => exact ⟨percent, rfl, rfl⟩
  · rw [triple_first percent] at encoded
    cases encoded

/-- A byte that begins no triple is a character by itself. -/
theorem tokens_percentEncode_next {rest : Bytes} (percent : set (byte '%') = false)
    (begins : ∀ c d more, rest = c :: d :: more → triple a c d = none) :
    tokens (percentEncode set (a :: rest)) = encodedAs set a :: tokens (percentEncode set rest) := by
  by_cases other : a = byte '%'
  · subst other
    rw [percentEncode_cons_raw percent, encodedAs, if_neg (by simp [percent])]
    rcases tokens_percent set rest with stands | ⟨c, d, more, value, same, encoded, _⟩
    · exact stands
    · rw [begins c d more same] at encoded
      cases encoded
  · exact tokens_percentEncode_cons other rest

/-- Where no digit is encoded, the characters of a text are encoded one by one exactly where
none of them was encoded before. -/
theorem tokens_percentEncode_iff (percent : set (byte '%') = false)
    (digits : ∀ b, (hexValue b).isSome = true → set b = false) :
    tokens (percentEncode set text) = text.map (encodedAs set) ↔ tokens text = text.map Token.raw := by
  induction text using tokens.induct with
  | case1 a b c rest value encoded ih =>
      obtain ⟨rfl, high, low⟩ := triple_eq_some encoded
      rw [percentEncode_cons_raw percent, percentEncode_cons_raw (digits b high), percentEncode_cons_raw (digits c low),
        tokens, tokens, encoded]
      simp [encodedAs, percent]
  | case2 a b c rest plain ih =>
      rw [tokens_percentEncode_next percent (by rintro _ _ _ ⟨⟩; exact plain), tokens, plain]
      simpa only [List.map_cons, List.cons.injEq, true_and] using ih
  | case3 a rest short ih =>
      rw [tokens_percentEncode_next percent (fun b c more same => absurd same (short b c more))]
      rw [tokens_short short]
      simpa only [List.map_cons, List.cons.injEq, true_and] using ih
  | case4 => exact iff_of_true rfl rfl

theorem length_percentDecode (text : Bytes) : (percentDecode text).length = (tokens text).length :=
  List.length_map _

theorem byte_encodedAs (set : UInt8 → Bool) (b : UInt8) : (encodedAs set b).byte = b := by
  rw [encodedAs]
  split <;> rfl

theorem percentDecode_of_tokens (same : tokens left = right.map (encodedAs set)) : percentDecode left = right := by
  rw [percentDecode, same, List.map_map]
  refine (List.map_congr_left (fun b _ => byte_encodedAs set b)).trans ?_
  exact List.map_id _

end Tokens

end Http
