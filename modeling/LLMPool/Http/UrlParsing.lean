import LLMPool.Http.UrlPaths

/-! A URL that goes on behind a slash: what is read of it depends on the part in front of the
slash and on the part behind it, each by itself. -/
namespace Http

section Trimming
variable {p : UInt8 → Bool} {left right text slashes : Bytes} {b : UInt8}

theorem dropWhile_append_cons (stops : p b = false) (left right : Bytes) :
    (left ++ b :: right).dropWhile p = left.dropWhile p ++ b :: right := by
  induction left with
  | nil => simp [stops]
  | cons c rest ih =>
      rw [List.cons_append, List.dropWhile_cons, List.dropWhile_cons]
      split
      · exact ih
      · rfl

theorem takeWhile_append_cons (stops : p b = false) (left right : Bytes) :
    (left ++ b :: right).takeWhile p = left.takeWhile p := by
  induction left with
  | nil => simp [stops]
  | cons c rest ih =>
      rw [List.cons_append, List.takeWhile_cons, List.takeWhile_cons]
      split
      · exact congrArg (List.cons c) ih
      · rfl

theorem rdropWhile_append_cons (stops : p b = false) (left right : Bytes) :
    (left ++ b :: right).rdropWhile p = left ++ b :: right.rdropWhile p := by
  rw [List.rdropWhile, List.reverse_append, List.reverse_cons, List.append_assoc, List.singleton_append,
    dropWhile_append_cons stops]
  simp [List.rdropWhile]

/-- A text as it stands in front of another, with the start trimmed. -/
def cleanStart (text : Bytes) : Bytes := (text.dropWhile isC0OrSpace).filter (fun b => !isTabOrNewline b)

/-- A text as it stands behind another, with the end trimmed. -/
def cleanEnd (text : Bytes) : Bytes := (text.rdropWhile isC0OrSpace).filter (fun b => !isTabOrNewline b)

theorem clean_append_slash (left right : Bytes) :
    clean (left ++ byte '/' :: right) = cleanStart left ++ byte '/' :: cleanEnd right := by
  rw [clean, dropWhile_append_cons (by decide), rdropWhile_append_cons (by decide), List.filter_append,
    List.filter_cons_of_pos (by decide)]
  rfl

theorem cleanEnd_append_slash (left right : Bytes) :
    cleanEnd (left ++ byte '/' :: right) = left.filter (fun b => !isTabOrNewline b) ++ byte '/' :: cleanEnd right := by
  rw [cleanEnd, rdropWhile_append_cons (by decide), List.filter_append, List.filter_cons_of_pos (by decide)]
  rfl

theorem clean_prefix (text : Bytes) : clean text <+: cleanStart text := (List.rdropWhile_prefix _ _).filter _

theorem cleanEnd_sublist (text : Bytes) : (cleanEnd text).Sublist text :=
  List.filter_sublist.trans (List.rdropWhile_prefix _ _).sublist

/-- Nothing is trimmed at the end, and nothing removed. -/
theorem cleanEnd_eq_self_iff : cleanEnd text = text ↔
    (∀ b ∈ text, isTabOrNewline b = false) ∧ ∀ b ∈ text.getLast?, isC0OrSpace b = false := by
  have untabbed : text.filter (fun b => !isTabOrNewline b) = text ↔ ∀ b ∈ text, isTabOrNewline b = false := by
    simp [List.filter_eq_self]
  have untrimmed : text.rdropWhile isC0OrSpace = text ↔ ∀ b ∈ text.getLast?, isC0OrSpace b = false := by
    rw [List.rdropWhile_eq_self_iff]
    constructor
    · intro last b found
      obtain ⟨some, rfl⟩ := List.mem_getLast?_eq_getLast found
      simpa using last some
    · intro last some
      simpa using last _ (List.getLast?_eq_some_getLast some)
  rw [cleanEnd]
  constructor
  · intro same
    have trimmed : text.rdropWhile isC0OrSpace = text := by
      refine (List.rdropWhile_prefix _ _).sublist.eq_of_length_le ?_
      have shorter := (List.filter_sublist (p := fun b => !isTabOrNewline b)
        (l := text.rdropWhile isC0OrSpace)).length_le
      rwa [same] at shorter
    rw [trimmed] at same
    exact ⟨untabbed.mp same, untrimmed.mp trimmed⟩
  · rintro ⟨plain, last⟩
    rw [untrimmed.mpr last, untabbed.mpr plain]

/-- Slashes at the end of a text are not trimmed or removed. -/
theorem cleanStart_append_slashes (all : ∀ b ∈ slashes, b = byte '/') :
    cleanStart (left ++ slashes) = cleanStart left ++ slashes := by
  cases slashes with
  | nil => simp
  | cons b rest =>
      obtain rfl := all b List.mem_cons_self
      have kept : (byte '/' :: rest).filter (fun b => !isTabOrNewline b) = byte '/' :: rest := by
        refine List.filter_eq_self.mpr (fun c member => ?_)
        rw [all c member]
        decide
      rw [cleanStart, dropWhile_append_cons (by decide), List.filter_append, kept]
      rfl

end Trimming

section Base
variable {left right slashes : Bytes} {host : Bytes → Option α} {url : Url α}

theorem colon_of_named (some : afterScheme left ≠ []) : left.dropWhile (fun b => b ≠ byte ':') ≠ [] := by
  intro none
  rw [afterScheme, none] at some
  exact some rfl

theorem afterScheme_append (some : afterScheme left ≠ []) (right : Bytes) :
    afterScheme (left ++ right) = afterScheme left ++ right := by
  have colon := colon_of_named some
  rw [afterScheme] at some
  have first : (left ++ right).dropWhile (fun b => b ≠ byte ':') =
      left.dropWhile (fun b => b ≠ byte ':') ++ right := by
    rw [List.dropWhile_append, if_neg (by simpa using colon)]
  rw [afterScheme, afterScheme, first, List.drop_append_of_le_length (List.length_pos_iff.mpr colon),
    List.dropWhile_append, if_neg (by simpa using some)]

theorem afterScheme_slashes (all : ∀ b ∈ slashes, b = byte '/') (none : afterScheme left = []) :
    afterScheme (left ++ slashes) = [] := by
  have noColon : slashes.dropWhile (fun b => b ≠ byte ':') = [] := by
    refine List.dropWhile_eq_nil_iff.mpr (fun b member => ?_)
    rw [all b member]
    decide
  have skipped : ∀ b ∈ slashes, isSlash b = true := by
    intro b member
    rw [all b member]
    decide
  rw [afterScheme] at none ⊢
  rw [List.dropWhile_append]
  cases colon : left.dropWhile (fun b => b ≠ byte ':') with
  | nil =>
      rw [List.isEmpty_nil, if_pos rfl, noColon]
      rfl
  | cons c rest =>
      rw [colon] at none
      simp only [List.drop_succ_cons, List.drop_zero] at none
      simp only [List.isEmpty_cons, Bool.false_eq_true, if_false, List.cons_append, List.drop_succ_cons,
        List.drop_zero]
      refine List.dropWhile_eq_nil_iff.mpr (fun b member => ?_)
      rcases List.mem_append.mp member with inside | inside
      · exact List.dropWhile_eq_nil_iff.mp none b inside
      · exact skipped b inside

/-- A base that is a URL has a host, also without slashes at its end. -/
theorem named_of_parsed_append (empty : host [] = none) (all : ∀ b ∈ slashes, b = byte '/')
    (parsed : (parseUrl host (left ++ slashes)).isSome = true) : afterScheme (cleanStart left) ≠ [] := by
  intro none
  obtain ⟨trimmed, longer⟩ := clean_prefix (left ++ slashes)
  have nothing : afterScheme (clean (left ++ slashes)) = [] := by
    by_contra named
    have more := afterScheme_append named trimmed
    rw [longer, cleanStart_append_slashes all, afterScheme_slashes all none] at more
    exact named (List.append_eq_nil_iff.mp more.symm).1
  rw [parseUrl, parseClean, nothing] at parsed
  simp only [List.takeWhile_nil, empty, Option.map_none, ite_self] at parsed
  cases parsed

theorem named_of_parsed (empty : host [] = none) {base : Bytes} (parsed : (parseUrl host base).isSome = true) :
    afterScheme (cleanStart (base.rdropWhile (fun b => b = byte '/'))) ≠ [] := by
  have all : ∀ b ∈ base.rtakeWhile (fun b => b = byte '/'), b = byte '/' := by
    intro b member
    exact of_decide_eq_true (List.mem_rtakeWhile_imp (p := fun b => decide (b = byte '/')) member)
  refine named_of_parsed_append empty all ?_
  rwa [List.rdropWhile_append_rtakeWhile]

/-- The segments of the path of a base, read as a directory. -/
def basePath (base : Bytes) : List Bytes :=
  match (afterScheme (cleanStart base)).dropWhile beforePath with
  | [] => []
  | _ :: rest => readDirectory [] [] rest

example : pathText (basePath ("https://host:8080/a/../v1".toList.map byte)) = "/v1".toList.map byte := by decide +kernel

theorem mem_afterScheme {b : UInt8} (member : b ∈ afterScheme (cleanStart left)) : b ∈ left := by
  have dropped : ∀ {p : UInt8 → Bool} {text : Bytes}, b ∈ text.dropWhile p → b ∈ text :=
    fun inside => (List.dropWhile_sublist _).subset inside
  have inside : b ∈ cleanStart left := dropped (List.mem_of_mem_drop (dropped member))
  exact dropped (List.mem_filter.mp inside).1

theorem readQuery_append (whole : ∀ b ∈ left, endsPath b = false) (right : Bytes) :
    readQuery (left ++ right) = readQuery right := by
  have skipped : left.dropWhile (fun b => !endsPath b) = [] :=
    List.dropWhile_eq_nil_iff.mpr (fun b member => by simp [whole b member])
  rw [readQuery, readQuery, List.dropWhile_append, skipped]
  rfl

/-- What is read behind a base and a slash. -/
theorem parseUrl_append_slash (named : afterScheme (cleanStart left) ≠ [])
    (plain : ∀ b ∈ left, endsPath b = false) (parsed : parseUrl host (left ++ byte '/' :: right) = some url) :
    url.path = readPath (basePath left) [] (cleanEnd right) ∧ url.query = readQuery (cleanEnd right) := by
  rw [parseUrl, clean_append_slash, parseClean, afterScheme_append named,
    dropWhile_append_cons (by decide)] at parsed
  have plain' : ∀ b ∈ (afterScheme (cleanStart left)).dropWhile beforePath, endsPath b = false :=
    fun b member => plain b (mem_afterScheme ((List.dropWhile_sublist _).subset member))
  have read : readPath [] [] (withoutSlash ((afterScheme (cleanStart left)).dropWhile beforePath ++
        byte '/' :: cleanEnd right)) = readPath (basePath left) [] (cleanEnd right) := by
    rw [basePath]
    cases tail : (afterScheme (cleanStart left)).dropWhile beforePath with
    | nil => rfl
    | cons c rest =>
        rw [tail] at plain'
        have slash : isSlash c = true := by
          have stops : ¬beforePath c = true := by
            have first := List.head_dropWhile_not beforePath
              (l := afterScheme (cleanStart left)) (by simp [tail])
            simpa [tail] using first
          have goesOn := plain' c List.mem_cons_self
          simpa [beforePath, goesOn] using stops
        rw [List.cons_append, withoutSlash, if_pos slash]
        exact readPath_directory (fun b member => plain' b (List.mem_cons_of_mem _ member)) _ _ _
  have query : readQuery ((afterScheme (cleanStart left)).dropWhile beforePath ++ byte '/' :: cleanEnd right) =
      readQuery (cleanEnd right) := by
    have slash : readQuery ([byte '/'] ++ cleanEnd right) = readQuery (cleanEnd right) :=
      readQuery_append (List.forall_mem_singleton.mpr (by decide)) _
    rw [readQuery_append plain']
    exact slash
  split at parsed
  · obtain ⟨h, _, rfl⟩ := Option.map_eq_some_iff.mp parsed
    exact ⟨read, query⟩
  · cases parsed

/-- A query ends the path as the end of the text does. -/
theorem readPath_query (path : List Bytes) (segment text query : Bytes) :
    readPath path segment (text ++ byte '?' :: query) = readPath path segment text := by
  induction text generalizing path segment with
  | nil => rfl
  | cons b rest ih =>
      rw [List.cons_append, readPath, readPath, ih, ih]

theorem readQuery_query {text query : Bytes} (whole : ∀ b ∈ text, endsPath b = false)
    (noFragment : byte '#' ∉ query) :
    readQuery (text ++ byte '?' :: query) = some (percentEncode querySet query) := by
  have all : query.takeWhile (fun b => b ≠ byte '#') = query := by
    refine List.takeWhile_eq_self_iff.mpr (fun b member => decide_eq_true ?_)
    rintro rfl
    exact noFragment member
  rw [readQuery_append whole]
  change some (percentEncode querySet (query.takeWhile (fun b => b ≠ byte '#'))) = _
  rw [all]

theorem percentEncode_eq_self_iff {set : UInt8 → Bool} {text : Bytes} :
    percentEncode set text = text ↔ ∀ b ∈ text, set b = false := by
  have longer : ∀ text : Bytes, text.length ≤ (percentEncode set text).length := by
    intro text
    induction text with
    | nil => exact Nat.le_refl _
    | cons b rest ih =>
        rw [percentEncode_cons, List.length_append, List.length_cons]
        split
        · simp only [percentEncodeByte, List.length_cons]
          omega
        · simp only [List.length_cons, List.length_nil]
          omega
  induction text with
  | nil => exact iff_of_true rfl (fun _ never => absurd never List.not_mem_nil)
  | cons b rest ih =>
      cases encoded : set b with
      | true =>
          refine iff_of_false (fun same => ?_) (fun none => ?_)
          · have lengths := congrArg List.length same
            have most := longer rest
            rw [percentEncode_cons_set encoded, List.length_append] at lengths
            simp only [percentEncodeByte, List.length_cons, List.length_nil] at lengths
            omega
          · exact absurd (none b List.mem_cons_self) (by simp [encoded])
      | false =>
          rw [percentEncode_cons_raw encoded, List.cons.injEq, List.forall_mem_cons]
          exact and_congr (iff_of_true rfl encoded) ih

end Base

end Http
