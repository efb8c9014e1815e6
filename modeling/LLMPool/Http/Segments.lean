import LLMPool.Http.UrlParsing

/-! One segment of a path: which texts a URL has as they are, where they stand behind a
directory and are not encoded first. -/
namespace Http

/-- A text of which nothing delimits, decodes or is left out. -/
structure IsSegment (text : Bytes) : Prop where
  characters : ∀ b ∈ text, isSlash b = false ∧ endsPath b = false ∧ isTabOrNewline b = false
  plain : tokens text = text.map Token.raw
  dots : isDots text = false
  trailing : ∀ b ∈ text.getLast?, isC0OrSpace b = false

section Segments
variable {set : UInt8 → Bool} {text : Bytes} {b : UInt8}

theorem mem_of_raw_mem_tokens (member : .raw b ∈ tokens text) : b ∈ text := by
  induction text using tokens.induct with
  | case1 a c d rest value encoded ih =>
      rw [tokens, encoded] at member
      simp only [List.mem_cons, reduceCtorEq, false_or] at member
      simp [ih member]
  | case2 a c d rest plain ih =>
      rw [tokens, plain] at member
      simp only [List.mem_cons, Token.raw.injEq] at member
      exact List.mem_cons.mpr (member.imp_right ih)
  | case3 a rest short ih =>
      rw [tokens_short short] at member
      simp only [List.mem_cons, Token.raw.injEq] at member
      exact List.mem_cons.mpr (member.imp_right ih)
  | case4 => cases member

theorem slash_not_mem_percentEncode (undelimited : byte '/' ∉ text) : byte '/' ∉ percentEncode set text := by
  have digits : ∀ b : UInt8, byte '/' ∉ percentEncodeByte b := forall_byte (by decide +kernel)
  intro member
  obtain ⟨b, inside, among⟩ := List.mem_flatMap.mp member
  split at among
  · exact digits b among
  · rw [List.mem_singleton] at among
    exact undelimited (among ▸ inside)

theorem pathToken_slash : ∀ b, isSlash b = true → pathToken b = .raw (byte '/') := forall_byte (by decide +kernel)

theorem segmentsFrom_undelimited (undelimited : ∀ b ∈ text, isSlash b = false) (segment : Bytes) :
    segmentsFrom segment text = [segment ++ text] := by
  induction text generalizing segment with
  | nil => rw [segmentsFrom, List.append_nil]
  | cons b rest ih =>
      rw [segmentsFrom, if_neg (by simp [undelimited b List.mem_cons_self]),
        ih (fun c member => undelimited c (List.mem_cons_of_mem _ member)), List.append_assoc, List.singleton_append]

theorem readPath_undelimited (undelimited : ∀ b ∈ text, isSlash b = false ∧ endsPath b = false)
    (path : List Bytes) (segment : Bytes) : readPath path segment text = pushSegment false path (segment ++ text) := by
  induction text generalizing segment with
  | nil => rw [readPath, List.append_nil]
  | cons b rest ih =>
      obtain ⟨slash, ends⟩ := undelimited b List.mem_cons_self
      rw [readPath, if_neg (by simp [slash]), if_neg (by simpa [endsPath] using ends),
        ih (fun c member => undelimited c (List.mem_cons_of_mem _ member)), List.append_assoc, List.singleton_append]

theorem Kept.pushSegment (kept : Kept text) (slash : Bool) (path : List Bytes) :
    pushSegment slash path text = path ++ [percentEncode pathSet text] := by
  rw [Http.pushSegment, if_neg (by simp [kept.double]), if_neg (by simp [kept.single])]

theorem tokens_percentEncode_pathSet : tokens (percentEncode pathSet text) = text.map (encodedAs pathSet) ↔
    tokens text = text.map Token.raw :=
  tokens_percentEncode_iff (by decide) (forall_byte (by decide +kernel))

theorem IsSegment.kept (segment : IsSegment text) : Kept text :=
  kept_of_tokens (tokens_percentEncode_pathSet.mpr segment.plain) segment.dots

/-- A text that is read behind a path is one segment more, and decodes to itself, exactly
where it is fit for that. -/
theorem reads_segment_iff (path : List Bytes) :
    (∃ raw, pathText (readPath path [] (cleanEnd text)) = pathText path ++ byte '/' :: raw ∧
      byte '/' ∉ raw ∧ percentDecode raw = text) ↔ IsSegment text := by
  constructor
  · rintro ⟨raw, read, single, decoded⟩
    have count : (tokens raw).length = text.length := by rw [← length_percentDecode, decoded]
    have sized : size (readPath path [] (cleanEnd text)) = size path + 1 + text.length := by
      rw [size, read, tokens_append_slash, List.length_append, List.length_cons, count, size]
      omega
    have most := (cleanEnd_sublist text).length_le
    have regular : Regular [] (cleanEnd text) := by
      rcases size_readPath path [] (cleanEnd text) with fewer | regular
      · simp only [List.length_nil] at fewer
        omega
      · exact regular
    have whole : cleanEnd text = text := by
      have counted := regular.size path
      simp only [List.length_nil] at counted
      exact (cleanEnd_sublist text).eq_of_length (by omega)
    rw [whole] at regular read
    have same : tokens raw = text.map pathToken := by
      have both := regular.tokens path
      rw [read, tokens_append_slash, List.append_cancel_left_eq, List.cons.injEq] at both
      exact both.2
    have undelimited : ∀ b ∈ text, isSlash b = false := by
      intro b member
      by_contra slash
      rw [Bool.not_eq_false] at slash
      refine single (mem_of_raw_mem_tokens ?_)
      rw [same, ← pathToken_slash b slash]
      exact List.mem_map_of_mem member
    have kept : Kept text := by
      refine regular.kept text ?_
      rw [segmentsFrom_undelimited undelimited]
      exact List.mem_singleton_self _
    obtain ⟨untabbed, trailing⟩ := cleanEnd_eq_self_iff.mp whole
    exact ⟨fun b member => ⟨undelimited b member, regular.whole b member, untabbed b member⟩,
      tokens_percentEncode_pathSet.mp kept.tokens, kept.not_dots, trailing⟩
  · intro segment
    have whole : cleanEnd text = text := cleanEnd_eq_self_iff.mpr
      ⟨fun b member => (segment.characters b member).2.2, segment.trailing⟩
    have undelimited : ∀ b ∈ text, isSlash b = false ∧ endsPath b = false :=
      fun b member => ⟨(segment.characters b member).1, (segment.characters b member).2.1⟩
    refine ⟨percentEncode pathSet text, ?_, slash_not_mem_percentEncode ?_, percentDecode_of_tokens segment.kept.tokens⟩
    · rw [whole, readPath_undelimited undelimited, List.nil_append, segment.kept.pushSegment, pathText_push]
    · intro slash
      exact absurd (undelimited _ slash).1 (by decide)

end Segments

section Bases
variable {left right other : Bytes} {host : Bytes → Option α}

/-- What follows the slash behind a host does not decide whether a text is a URL. -/
theorem isSome_parseUrl_append_slash (named : afterScheme (cleanStart left) ≠ []) (right other : Bytes) :
    (parseUrl host (left ++ byte '/' :: right)).isSome = (parseUrl host (left ++ byte '/' :: other)).isSome := by
  have colon : ∀ rest : Bytes, (cleanStart left ++ rest).takeWhile (fun b => b ≠ byte ':') =
      (cleanStart left).takeWhile (fun b => b ≠ byte ':') := by
    intro rest
    have some := List.length_pos_of_ne_nil (colon_of_named named)
    have parts := congrArg List.length (List.takeWhile_append_dropWhile (p := fun b => b ≠ byte ':') (l := cleanStart left))
    rw [List.length_append] at parts
    rw [List.takeWhile_append, if_neg (by omega)]
  have host : ∀ rest : Bytes, (afterScheme (cleanStart left ++ byte '/' :: rest)).takeWhile beforePath =
      (afterScheme (cleanStart left)).takeWhile beforePath := by
    intro rest
    rw [afterScheme_append named, takeWhile_append_cons (by decide)]
  rw [parseUrl, parseUrl, clean_append_slash, clean_append_slash, parseClean, parseClean, colon, colon, host, host]
  split
  · rw [Option.isSome_map, Option.isSome_map]
  · rfl

end Bases

end Http
