import LLMPool.Http.Urls

/-! What becomes of the characters of a path that is read: each of them is kept, unless the
path has a dot segment, ends early, or has a `%` of its own. -/
namespace Http

section Segments
variable {set : UInt8 → Bool} {slash : Bool} {path : List Bytes} {text segment : Bytes} {b : UInt8}

theorem tokens_append_slash (left right : Bytes) :
    tokens (left ++ byte '/' :: right) = tokens left ++ .raw (byte '/') :: tokens right := by
  rw [tokens_append_cons (by decide), tokens_raw (by decide)]

@[simp] theorem pathText_nil : pathText [] = [] := rfl

theorem pathText_append (left right : List Bytes) : pathText (left ++ right) = pathText left ++ pathText right :=
  List.flatMap_append ..

theorem pathText_push (path : List Bytes) (segment : Bytes) :
    pathText (path ++ [segment]) = pathText path ++ byte '/' :: segment := by
  rw [pathText_append]
  simp [pathText]

theorem tokens_push (path : List Bytes) (segment : Bytes) :
    tokens (pathText (path ++ [segment])) = tokens (pathText path) ++ .raw (byte '/') :: tokens segment := by
  rw [pathText_push, tokens_append_slash]

/-- How many characters the text of a path has. -/
def size (path : List Bytes) : Nat := (tokens (pathText path)).length

theorem size_push (path : List Bytes) (segment : Bytes) :
    size (path ++ [segment]) = size path + 1 + (tokens segment).length := by
  rw [size, tokens_push, List.length_append, List.length_cons, size]
  omega

theorem size_dropLast (path : List Bytes) : size path.dropLast ≤ size path := by
  induction path using List.reverseRecOn with
  | nil => exact Nat.le_refl _
  | append_singleton before last _ =>
      rw [List.dropLast_concat, size_push]
      omega

/-- A segment that is no dot segment and is read back as it was. -/
structure Kept (text : Bytes) : Prop where
  single : isSingleDot (percentEncode pathSet text) = false
  double : isDoubleDot (percentEncode pathSet text) = false
  tokens : tokens (percentEncode pathSet text) = text.map (encodedAs pathSet)

theorem Kept.push (kept : Kept text) (slash : Bool) (path : List Bytes) :
    Http.tokens (pathText (pushSegment slash path text)) =
      Http.tokens (pathText path) ++ .raw (byte '/') :: text.map (encodedAs pathSet) := by
  rw [pushSegment, if_neg (by simp [kept.double]), if_neg (by simp [kept.single]), tokens_push, kept.tokens]

theorem Kept.size (kept : Kept text) (slash : Bool) (path : List Bytes) :
    size (pushSegment slash path text) = Http.size path + 1 + text.length := by
  rw [Http.size, kept.push, List.length_append, List.length_cons, List.length_map, Http.size]
  omega

theorem isDot_ne_nil (dots : isSingleDot (percentEncode set text) = true ∨
    isDoubleDot (percentEncode set text) = true) : 0 < text.length := by
  cases text with
  | nil =>
      have none : percentEncode set [] = [] := rfl
      rw [none] at dots
      exact absurd dots (by decide)
  | cons => exact Nat.succ_pos _

/-- A segment that is not kept leaves fewer characters. -/
theorem size_push_lost (lost : ¬Kept text) (slash : Bool) (path : List Bytes) :
    size (pushSegment slash path text) < size path + 1 + text.length := by
  have empty : ∀ path : List Bytes, size (path ++ [[]]) = size path + 1 := fun path => size_push path []
  rw [pushSegment]
  by_cases double : isDoubleDot (percentEncode pathSet text) = true
  · have some := isDot_ne_nil (.inr double)
    have fewer := size_dropLast path
    rw [if_pos double]
    cases slash with
    | true =>
        rw [if_pos rfl]
        omega
    | false =>
        rw [if_neg nofun, empty]
        omega
  · rw [if_neg double]
    by_cases single : isSingleDot (percentEncode pathSet text) = true
    · have some := isDot_ne_nil (.inl single)
      rw [if_pos single]
      cases slash with
      | true =>
          rw [if_pos rfl]
          omega
      | false =>
          rw [if_neg nofun, empty]
          omega
    · rw [if_neg single, size_push]
      rcases tokens_percentEncode pathSet text with fewer | all
      · omega
      · exact absurd ⟨by simpa using single, by simpa using double, all⟩ lost

end Segments

section Paths
variable {path : List Bytes} {segment text left right : Bytes}

/-- What a byte of a path becomes that is kept. -/
def pathToken (b : UInt8) : Token := if isSlash b then .raw (byte '/') else encodedAs pathSet b

/-- A text that is read to its end, and each segment of it kept. -/
structure Regular (segment text : Bytes) : Prop where
  whole : ∀ b ∈ text, endsPath b = false
  kept : ∀ s ∈ segmentsFrom segment text, Kept s

theorem Regular.tokens (regular : Regular segment text) (path : List Bytes) :
    Http.tokens (pathText (readPath path segment text)) = Http.tokens (pathText path) ++
      .raw (byte '/') :: (segment.map (encodedAs pathSet) ++ text.map pathToken) := by
  induction text generalizing path segment with
  | nil =>
      rw [readPath, Kept.push (regular.kept segment (by simp [segmentsFrom])), List.map_nil, List.append_nil]
  | cons b rest ih =>
      obtain ⟨whole, kept⟩ := regular
      have goesOn : ¬(b = byte '?' ∨ b = byte '#') := by
        simpa [endsPath] using whole b List.mem_cons_self
      have whole' : ∀ c ∈ rest, endsPath c = false := fun c member => whole c (List.mem_cons_of_mem _ member)
      rw [readPath, List.map_cons]
      rw [segmentsFrom] at kept
      cases slash : isSlash b with
      | true =>
          simp only [slash, if_true] at kept ⊢
          have first := kept segment List.mem_cons_self
          rw [ih ⟨whole', fun s member => kept s (List.mem_cons_of_mem _ member)⟩, first.push, pathToken,
            if_pos slash]
          simp
      | false =>
          simp only [slash, Bool.false_eq_true, if_false, goesOn] at kept ⊢
          rw [ih ⟨whole', kept⟩, pathToken, if_neg (by simp [slash])]
          simp

theorem Regular.size (regular : Regular segment text) (path : List Bytes) :
    size (readPath path segment text) = Http.size path + 1 + segment.length + text.length := by
  rw [Http.size, regular.tokens]
  simp only [List.length_append, List.length_cons, List.length_map, Http.size]
  omega

/-- A text that is not regular leaves fewer characters than it has. -/
theorem size_readPath (path : List Bytes) (segment text : Bytes) :
    size (readPath path segment text) < size path + 1 + segment.length + text.length ∨ Regular segment text := by
  induction text generalizing path segment with
  | nil =>
      by_cases kept : Kept segment
      · refine .inr ⟨fun _ never => absurd never List.not_mem_nil, fun s member => ?_⟩
        rw [segmentsFrom, List.mem_singleton] at member
        exact member ▸ kept
      · exact .inl (size_push_lost kept false path)
  | cons b rest ih =>
      rw [readPath, List.length_cons]
      cases slash : isSlash b with
      | true =>
          simp only [if_true]
          have after := ih (pushSegment true path segment) []
          have most : size (readPath (pushSegment true path segment) [] rest) ≤
              size (pushSegment true path segment) + 1 + rest.length := by
            rcases after with fewer | regular
            · simp only [List.length_nil] at fewer
              omega
            · exact Nat.le_of_eq (regular.size _)
          by_cases kept : Kept segment
          · have pushed := kept.size true path
            rcases after with fewer | regular
            · refine .inl ?_
              simp only [List.length_nil] at fewer
              omega
            · refine .inr ⟨?_, ?_⟩
              · intro c member
                rcases List.mem_cons.mp member with rfl | member
                · have either : c = byte '/' ∨ c = byte '\\' := by simpa [isSlash] using slash
                  rcases either with rfl | rfl <;> decide
                · exact regular.whole c member
              · intro s member
                rw [segmentsFrom, if_pos slash] at member
                rcases List.mem_cons.mp member with rfl | member
                · exact kept
                · exact regular.kept s member
          · have lost := size_push_lost kept true path
            exact .inl (by omega)
      | false =>
          simp only [Bool.false_eq_true, if_false]
          split
          · have most : size (pushSegment false path segment) ≤ size path + 1 + segment.length := by
              by_cases kept : Kept segment
              · exact Nat.le_of_eq (kept.size false path)
              · exact Nat.le_of_lt (size_push_lost kept false path)
            exact .inl (by omega)
          · rename_i goesOn
            rcases ih path (segment ++ [b]) with fewer | regular
            · refine .inl ?_
              rw [List.length_append, List.length_singleton] at fewer
              omega
            · refine .inr ⟨?_, ?_⟩
              · intro c member
                rcases List.mem_cons.mp member with rfl | member
                · simpa [endsPath] using goesOn
                · exact regular.whole c member
              · intro s member
                rw [segmentsFrom, if_neg (by simp [slash])] at member
                exact regular.kept s member

theorem readPath_directory (whole : ∀ b ∈ left, endsPath b = false) (path : List Bytes) (segment right : Bytes) :
    readPath path segment (left ++ byte '/' :: right) = readPath (readDirectory path segment left) [] right := by
  induction left generalizing path segment with
  | nil => rfl
  | cons b rest ih =>
      have goesOn : ¬(b = byte '?' ∨ b = byte '#') := by
        simpa [endsPath] using whole b List.mem_cons_self
      have next := ih (fun c member => whole c (List.mem_cons_of_mem _ member))
      rw [List.cons_append, readPath, readDirectory]
      split
      · exact next _ _
      · exact next _ _

end Paths

section Dots
variable {set : UInt8 → Bool} {segment text : Bytes}

def Token.lower : Token → Token
  | .raw b => .raw (lowerByte b)
  | .encoded b => .encoded b

theorem triple_lowerByte : ∀ a b c, triple (lowerByte a) (lowerByte b) (lowerByte c) = triple a b c := by
  have percent : ∀ a, lowerByte a = byte '%' ↔ a = byte '%' := forall_byte (by decide +kernel)
  have digit : ∀ b, hexValue (lowerByte b) = hexValue b := forall_byte (by decide +kernel)
  intro a b c
  simp only [triple, percent, digit]

theorem tokens_lowerByte (text : Bytes) : tokens (text.map lowerByte) = (tokens text).map Token.lower := by
  induction text using tokens.induct with
  | case1 a b c rest value encoded ih =>
      rw [List.map_cons, List.map_cons, List.map_cons, tokens, tokens, triple_lowerByte, encoded]
      exact congrArg (List.cons _) ih
  | case2 a b c rest plain ih =>
      rw [List.map_cons, List.map_cons, List.map_cons, tokens, tokens, triple_lowerByte, plain]
      exact congrArg (List.cons _) ih
  | case3 a rest short ih =>
      rcases rest with _ | ⟨b, _ | ⟨c, more⟩⟩
      · rfl
      · rfl
      · exact absurd rfl (short b c more)
  | case4 => rfl

/-- A text that is made of dots but for the letter case of their encodings. -/
theorem percentDecode_dots {dots : Bytes} {n : Nat} (same : segment.map lowerByte = dots)
    (decoded : percentDecode dots = List.replicate n (byte '.')) : percentDecode segment = List.replicate n (byte '.') := by
  have lowered : ∀ token : Token, token.lower.byte = byte '.' → token.byte = byte '.' := by
    have dot : ∀ b, lowerByte b = byte '.' → b = byte '.' := forall_byte (by decide +kernel)
    intro token is
    cases token with
    | raw b => exact dot b is
    | encoded b => exact is
  rw [← same, percentDecode, tokens_lowerByte, List.map_map, List.eq_replicate_iff, List.length_map] at decoded
  rw [percentDecode, List.eq_replicate_iff, List.length_map]
  refine ⟨decoded.1, fun b member => ?_⟩
  obtain ⟨token, inside, rfl⟩ := List.mem_map.mp member
  exact lowered token (decoded.2 _ (List.mem_map_of_mem inside))

theorem percentDecode_of_isSingleDot (single : isSingleDot segment = true) :
    percentDecode segment = List.replicate 1 (byte '.') := by
  simp only [isSingleDot, Bool.or_eq_true, decide_eq_true_eq] at single
  rcases single with same | same
  · exact percentDecode_dots same (by decide)
  · exact percentDecode_dots same (by decide)

theorem percentDecode_of_isDoubleDot (double : isDoubleDot segment = true) :
    percentDecode segment = List.replicate 2 (byte '.') := by
  simp only [isDoubleDot, List.any_cons, List.any_nil, Bool.or_eq_true, decide_eq_true_eq, Bool.false_eq_true,
    or_false] at double
  rcases double with same | same | same | same
  all_goals exact percentDecode_dots same (by decide)

/-- A segment `.` or `..`. -/
def isDots (segment : Bytes) : Bool := segment = [byte '.'] || segment = [byte '.', byte '.']

theorem kept_of_tokens (same : tokens (percentEncode pathSet text) = text.map (encodedAs pathSet))
    (other : isDots text = false) : Kept text := by
  have decoded := percentDecode_of_tokens same
  refine ⟨?_, ?_, same⟩
  · by_contra single
    rw [Bool.not_eq_false] at single
    rw [percentDecode_of_isSingleDot single] at decoded
    subst decoded
    exact absurd other (by decide)
  · by_contra double
    rw [Bool.not_eq_false] at double
    rw [percentDecode_of_isDoubleDot double] at decoded
    subst decoded
    exact absurd other (by decide)

theorem kept_of_plain (plain : byte '%' ∉ text) (other : isDots text = false) : Kept text :=
  kept_of_tokens (tokens_percentEncode_plain plain) other

theorem Kept.not_dots (kept : Kept text) : isDots text = false := by
  by_contra dots
  simp only [Bool.not_eq_false, isDots, Bool.or_eq_true, decide_eq_true_eq] at dots
  rcases dots with rfl | rfl
  · exact absurd kept.single (by decide)
  · exact absurd kept.double (by decide)

theorem mem_of_mem_segmentsFrom {b : UInt8} {s : Bytes} (member : s ∈ segmentsFrom segment text) (inside : b ∈ s) :
    b ∈ segment ∨ b ∈ text := by
  induction text generalizing segment with
  | nil =>
      rw [segmentsFrom, List.mem_singleton] at member
      exact .inl (member ▸ inside)
  | cons c rest ih =>
      rw [segmentsFrom] at member
      split at member
      · rcases List.mem_cons.mp member with rfl | member
        · exact .inl inside
        · rcases ih member with never | later
          · exact absurd never List.not_mem_nil
          · exact .inr (List.mem_cons_of_mem _ later)
      · rcases ih member with here | later
        · rcases List.mem_append.mp here with here | here
          · exact .inl here
          · rw [List.mem_singleton] at here
            exact .inr (here ▸ List.mem_cons_self)
        · exact .inr (List.mem_cons_of_mem _ later)

end Dots

section ReadBack
variable {path : List Bytes} {rest text : Bytes} {b : UInt8}

theorem pathToken_raw : ∀ b, isPathChar b = true → pathToken b = .raw b ∧ endsPath b = false ∧ b ≠ byte '%' :=
  forall_byte (by decide +kernel)

/-- Only of the characters that nothing else depends on does reading keep the meaning. -/
theorem meaning_pathToken : ∀ b, endsPath b = false → ((pathToken b).meaning = (Token.encoded b).meaning ↔
    isSignificant b = false ∧ b ≠ byte '\\') := forall_byte (by decide +kernel)

theorem not_significant : ∀ b, isSignificant b = false → endsPath b = false ∧ b ≠ byte '%' :=
  forall_byte (by decide +kernel)

/-- A path that was decoded and is read again says what it said if and only if all of it is
read, none of its characters needed its encoding, and it has no dot segments. -/
theorem meaning_readPath_iff (path : List Bytes)
    (wellFormed : ∀ b, .raw b ∈ tokens rest → isPathChar b = true)
    (part : text.Sublist (percentDecode rest)) :
    meaning (pathText (readPath path [] text)) = meaning (pathText path ++ byte '/' :: rest) ↔
      text = percentDecode rest ∧
      (∀ b, .encoded b ∈ tokens rest → isSignificant b = false ∧ b ≠ byte '\\') ∧
      ∀ s ∈ segments text, isDots s = false := by
  have expected : meaning (pathText path ++ byte '/' :: rest) =
      (tokens (pathText path)).map Token.meaning ++ .raw (byte '/') :: (tokens rest).map Token.meaning := by
    rw [meaning, tokens_append_slash, List.map_append, List.map_cons]
    rfl
  have sent : Regular [] text → meaning (pathText (readPath path [] text)) =
      (tokens (pathText path)).map Token.meaning ++ .raw (byte '/') :: (text.map pathToken).map Token.meaning := by
    intro regular
    rw [meaning, regular.tokens, List.map_nil, List.nil_append, List.map_append, List.map_cons]
    rfl
  have back : text = percentDecode rest → text.map pathToken = (tokens rest).map (fun token => pathToken token.byte) := by
    intro same
    rw [same, percentDecode, List.map_map]
    rfl
  constructor
  · intro same
    have lengths := congrArg List.length (same.trans expected)
    simp only [meaning, List.length_append, List.length_cons, List.length_map] at lengths
    have most := part.length_le
    rw [length_percentDecode] at most
    have regular : Regular [] text := by
      rcases size_readPath path [] text with fewer | regular
      · simp only [size, List.length_nil] at fewer
        omega
      · exact regular
    have all : text = percentDecode rest := by
      have counted := regular.size path
      simp only [size, List.length_nil] at counted
      refine part.eq_of_length ?_
      rw [length_percentDecode]
      omega
    rw [expected, sent regular, back all, List.append_cancel_left_eq, List.cons.injEq, List.map_map] at same
    have each := List.map_inj_left.mp same.2
    refine ⟨all, fun b encoded => ?_, fun s member => (regular.kept s member).not_dots⟩
    have inside : b ∈ text := all ▸ List.mem_map_of_mem (f := Token.byte) encoded
    exact (meaning_pathToken b (regular.whole b inside)).mp (each _ encoded)
  · rintro ⟨all, safe, noDots⟩
    have plain : ∀ b ∈ text, endsPath b = false ∧ b ≠ byte '%' := by
      intro b inside
      rw [all] at inside
      obtain ⟨token, member, rfl⟩ := List.mem_map.mp inside
      cases token with
      | raw b => exact (pathToken_raw b (wellFormed b member)).2
      | encoded b => exact not_significant b (safe b member).1
    have regular : Regular [] text := by
      refine ⟨fun b inside => (plain b inside).1, fun s member => kept_of_plain (fun percent => ?_) (noDots s member)⟩
      rcases mem_of_mem_segmentsFrom member percent with never | inside
      · exact absurd never List.not_mem_nil
      · exact (plain _ inside).2 rfl
    rw [expected, sent regular, back all, List.map_map]
    refine congrArg (fun l => _ ++ _ :: l) (List.map_congr_left (fun token member => ?_))
    cases token with
    | raw b => exact congrArg Token.meaning (pathToken_raw b (wellFormed b member)).1
    | encoded b =>
        exact (meaning_pathToken b (not_significant b (safe b member).1).1).mpr (safe b member)

end ReadBack

end Http
