import LLMPool.Http.Segments
import LLMPool.Passthrough.Headers

/-! Which URLs the passthrough leaves as they are: the path is decoded by the router and read
again by the client, so that an encoded character that delimits something is lost. -/
namespace LLMPool.Passthrough
open Http

/-- An address that is a URL, without a query or a fragment. -/
structure IsBase (net : Reqwest α) (base : Bytes) : Prop where
  url : (parseUrl net.host base).isSome = true
  plain : ∀ b ∈ base, endsPath b = false

def isPathToken : Token → Bool
  | .raw b => isPathChar b
  | .encoded _ => true

/-- A percent-encoded path, as it stands in a URI behind a slash. -/
structure IsUriPath (raw : Bytes) : Prop where
  characters : ∀ token ∈ tokens raw, isPathToken token = true
  relative : raw.head? ≠ some (byte '/')

/-- The characters of a query, none of which is a control character or a space. -/
def IsUriQuery (query : Option Bytes) : Prop := ∀ q ∈ query, ∀ b ∈ q, 0x20 < b ∧ b ≠ byte '#'

/-- A character that may be decoded and read again. -/
def survives : Token → Bool
  | .raw _ => true
  | .encoded b => !isSignificant b && b ≠ byte '\\' && !isTabOrNewline b

/-- The paths and queries that are sent as they came. -/
structure Unchanged (raw : Bytes) (query : Option Bytes) : Prop where
  characters : ∀ token ∈ tokens raw, survives token = true
  dots : ∀ segment ∈ segments (percentDecode raw), isDots segment = false
  trailing : query = none → ∀ b ∈ (percentDecode raw).getLast?, isC0OrSpace b = false
  query : ∀ q ∈ query, ∀ b ∈ q, querySet b = false

/-- What is to be sent: the path behind the address, with what is encoded in it still encoded
where that matters, and the query. -/
structure Preserved (base raw : Bytes) (query : Option Bytes) (url : Url α) : Prop where
  path : meaning (pathText url.path) = meaning (pathText (basePath (trimEndSlashes base)) ++ byte '/' :: raw)
  query : url.query = query

def Method.isSupported : Method → Bool
  | .other _ => false
  | _ => true

/-- A request to the upstream can be put together and sent, whatever its path and query. -/
structure CanBeSent (net : Reqwest α) (upstream : Secrets.LLMUpstream) (method : Method) : Prop where
  client : buildHttpClientForUpstream net upstream = some (.ok ())
  method : method.isSupported = true
  address : (parseUrl net.host (trimEndSlashes (utf8 upstream.apiBase) ++ [byte '/'])).isSome = true
  key : upstream.apiKey = "" ∨ (HeaderValue.fromBytes (utf8 ("Bearer " ++ upstream.apiKey))).isSome = true

/-- The request that goes to the upstream for the path that stands in the URI. -/
def passedOn (net : Reqwest α) (upstream : Secrets.LLMUpstream) (raw : Bytes) (req : Request) :
    Option (UpstreamRequest α) :=
  (pathParam raw).bind (fun rest => sentRequest net upstream rest req)

section Texts
variable {raw rest text query : Bytes} {b : UInt8}

/-- What is left of a decoded path, in front of a query or at the end of the URL. -/
def remaining (rest : Bytes) : Option Bytes → Bytes
  | none => cleanEnd (trimStartSlashes rest)
  | some _ => (trimStartSlashes rest).filter (fun b => !isTabOrNewline b)

theorem remaining_sublist (rest : Bytes) (query : Option Bytes) : (remaining rest query).Sublist rest := by
  cases query with
  | none => exact (cleanEnd_sublist _).trans (List.dropWhile_sublist _)
  | some _ => exact List.filter_sublist.trans (List.dropWhile_sublist _)

theorem cleanEnd_query (text : Bytes) (plain : ∀ b ∈ query, 0x20 < b ∧ b ≠ byte '#') :
    cleanEnd (text ++ byte '?' :: query) = text.filter (fun b => !isTabOrNewline b) ++ byte '?' :: query := by
  have untrimmed : query.rdropWhile isC0OrSpace = query := by
    refine List.rdropWhile_eq_self_iff.mpr (fun some last => ?_)
    have high := (plain _ (List.getLast_mem some)).1
    exact absurd high (UInt8.not_lt.mpr (of_decide_eq_true last))
  have kept : query.filter (fun b => !isTabOrNewline b) = query := by
    refine List.filter_eq_self.mpr (fun b member => ?_)
    have visible : ∀ b : UInt8, 0x20 < b → (!isTabOrNewline b) = true := forall_byte (by decide +kernel)
    exact visible b (plain b member).1
  rw [cleanEnd, rdropWhile_append_cons (by decide), untrimmed, List.filter_append,
    List.filter_cons_of_pos (by decide), kept]

/-- Nothing is trimmed or removed. -/
theorem remaining_eq_self_iff (relative : rest.head? ≠ some (byte '/')) (query : Option Bytes) :
    remaining rest query = rest ↔ (∀ b ∈ rest, isTabOrNewline b = false) ∧
      (query = none → ∀ b ∈ rest.getLast?, isC0OrSpace b = false) := by
  have start : trimStartSlashes rest = rest := by
    cases rest with
    | nil => rfl
    | cons b more =>
        have other : b ≠ byte '/' := fun same => relative (congrArg some same)
        rw [trimStartSlashes, List.dropWhile_cons_of_neg (by simpa using other)]
  cases query with
  | some q =>
      have untabbed : rest.filter (fun b => !isTabOrNewline b) = rest ↔ ∀ b ∈ rest, isTabOrNewline b = false := by
        simp [List.filter_eq_self]
      rw [remaining, start, untabbed]
      exact ⟨fun plain => ⟨plain, nofun⟩, fun both => both.1⟩
  | none =>
      rw [remaining, start, cleanEnd_eq_self_iff]
      exact and_congr_right (fun _ => ⟨fun last _ => last, fun last => last rfl⟩)

end Texts

section Urls
variable {net : Reqwest α} {upstream : Secrets.LLMUpstream} {raw rest : Bytes} {req : Request}
  {sent : UpstreamRequest α} {base : Bytes} {query : Option Bytes} {url : Url α}

theorem url_of_sent (built : upstreamRequest net upstream rest req = some sent) :
    parseUrl net.host (upstreamUrl (utf8 upstream.apiBase) rest req.query) = some sent.url := by
  rw [upstreamRequest, forwardHeaders_eq, RequestBuilder.request, Option.map_map] at built
  obtain ⟨request, authorized, rfl⟩ := Option.map_eq_some_iff.mp built
  rw [setAuthorization] at authorized
  split at authorized
  · obtain ⟨url, parsed, rfl⟩ := Option.map_eq_some_iff.mp authorized
    exact parsed
  · obtain ⟨request, made, authorized⟩ := Option.bind_eq_some_iff.mp authorized
    obtain ⟨url, parsed, rfl⟩ := Option.map_eq_some_iff.mp made
    obtain ⟨name, _, authorized⟩ := Option.bind_eq_some_iff.mp authorized
    obtain ⟨value, _, done⟩ := Option.bind_eq_some_iff.mp authorized
    cases done
    exact parsed

theorem upstreamUrl_eq (base rest : Bytes) (query : Option Bytes) : upstreamUrl base rest query =
    trimEndSlashes base ++ byte '/' :: (trimStartSlashes rest ++ query.elim [] (fun q => byte '?' :: q)) := by
  cases query with
  | none => simp [upstreamUrl]
  | some q => simp [upstreamUrl]

/-- What is read of the URL that is built for a decoded path. -/
theorem read_upstreamUrl (empty : net.host [] = none) (isBase : IsBase net base) (isQuery : IsUriQuery query)
    (parsed : parseUrl net.host (upstreamUrl base rest query) = some url) :
    url.path = readPath (basePath (trimEndSlashes base)) [] (remaining rest query) ∧
    ((∀ b ∈ remaining rest query, endsPath b = false) → url.query = query.map (percentEncode querySet)) := by
  have plain : ∀ b ∈ trimEndSlashes base, endsPath b = false :=
    fun b member => isBase.plain b ((List.rdropWhile_prefix _ _).subset member)
  rw [upstreamUrl_eq] at parsed
  obtain ⟨path, read⟩ := parseUrl_append_slash (named_of_parsed empty isBase.url) plain parsed
  cases query with
  | none =>
      rw [Option.elim_none, List.append_nil] at path read
      refine ⟨path, fun whole => read.trans ?_⟩
      have none := readQuery_append whole []
      rw [List.append_nil] at none
      exact none
  | some q =>
      have visible := isQuery q rfl
      rw [Option.elim_some, cleanEnd_query _ visible] at path read
      refine ⟨path.trans (readPath_query _ _ _ _), fun whole => read.trans ?_⟩
      exact readQuery_query whole (fun fragment => (visible _ fragment).2 rfl)

theorem pathChar_untabbed : ∀ b, isPathChar b = true → isTabOrNewline b = false := forall_byte (by decide +kernel)

theorem survives_encoded {b : UInt8} (survived : survives (.encoded b) = true) :
    (isSignificant b = false ∧ b ≠ byte '\\') ∧ isTabOrNewline b = false := by
  simp only [survives, Bool.and_eq_true, Bool.not_eq_true', decide_eq_true_eq] at survived
  exact survived

/-- A path that is well-formed begins with a slash that is decoded only where one is encoded. -/
theorem relative_percentDecode (isPath : IsUriPath raw)
    (safe : ∀ b, .encoded b ∈ tokens raw → isSignificant b = false ∧ b ≠ byte '\\') :
    (percentDecode raw).head? ≠ some (byte '/') := by
  rw [percentDecode, List.head?_map]
  intro slash
  obtain ⟨token, first, is⟩ := Option.map_eq_some_iff.mp slash
  have member := List.mem_of_mem_head? first
  cases token with
  | encoded b =>
      obtain rfl : b = byte '/' := is
      exact absurd (safe _ member).1 (by decide)
  | raw b =>
      obtain rfl : b = byte '/' := is
      exact isPath.relative (head?_of_tokens first)

theorem endsPath_percentDecode (isPath : IsUriPath raw)
    (safe : ∀ b, .encoded b ∈ tokens raw → isSignificant b = false ∧ b ≠ byte '\\') :
    ∀ b ∈ percentDecode raw, endsPath b = false := by
  intro b member
  obtain ⟨token, inside, rfl⟩ := List.mem_map.mp member
  cases token with
  | raw b => exact (pathToken_raw b (isPath.characters _ inside)).2.1
  | encoded b => exact (not_significant b (safe b inside).1).1

theorem upstreamRequest_isSome (empty : net.host [] = none) (isBase : IsBase net (utf8 upstream.apiBase)) :
    (upstreamRequest net upstream rest req).isSome = true ↔
      (parseUrl net.host (trimEndSlashes (utf8 upstream.apiBase) ++ [byte '/'])).isSome = true ∧
        (upstream.apiKey = "" ∨ (HeaderValue.fromBytes (utf8 ("Bearer " ++ upstream.apiKey))).isSome = true) := by
  have address : (parseUrl net.host (upstreamUrl (utf8 upstream.apiBase) rest req.query)).isSome =
      (parseUrl net.host (trimEndSlashes (utf8 upstream.apiBase) ++ [byte '/'])).isSome := by
    rw [upstreamUrl_eq]
    exact isSome_parseUrl_append_slash (named_of_parsed empty isBase.url) _ []
  rw [← address, upstreamRequest, RequestBuilder.body, Option.isSome_map, setAuthorization, forwardHeaders_eq,
    RequestBuilder.request, Option.map_map]
  split
  · rename_i keyless
    rw [Option.isSome_map]
    exact ⟨fun parsed => ⟨parsed, .inl keyless⟩, fun both => both.1⟩
  · rename_i some
    rw [RequestBuilder.header, fromText_authorization, or_iff_right some]
    cases parseUrl net.host (upstreamUrl (utf8 upstream.apiBase) rest req.query) <;>
      cases HeaderValue.fromBytes (utf8 ("Bearer " ++ upstream.apiKey)) <;> simp

theorem sentRequest_isSome (empty : net.host [] = none) (isBase : IsBase net (utf8 upstream.apiBase)) :
    (sentRequest net upstream rest req).isSome = true ↔ CanBeSent net upstream req.method := by
  have sends : (upstreamRequest net upstream rest req).isSome = true ↔ _ := upstreamRequest_isSome empty isBase
  unfold sentRequest
  split
  · rename_i unsupported
    exact iff_of_false nofun (fun can => absurd can.method (by simp [unsupported, Method.isSupported]))
  · rename_i built supported
    rw [sends]
    refine ⟨fun both => ⟨built, ?_, both.1, both.2⟩, fun can => ⟨can.address, can.key⟩⟩
    cases method : req.method with
    | other name => exact absurd method (supported name)
    | _ => rfl
  · rename_i unbuilt _
    exact iff_of_false nofun (fun can => unbuilt () can.client)

theorem sentRequest_eq_some (sends : sentRequest net upstream rest req = some sent) :
    upstreamRequest net upstream rest req = some sent := by
  unfold sentRequest at sends
  split at sends
  · cases sends
  · exact sends
  · cases sends

/-- A request that is sent has the URL that was asked for, if and only if the path and the query survive
being decoded and read again. -/
theorem preserved_of_sent (empty : net.host [] = none) (isBase : IsBase net (utf8 upstream.apiBase))
    (isPath : IsUriPath raw) (isQuery : IsUriQuery req.query)
    (built : upstreamRequest net upstream (percentDecode raw) req = some sent) :
    Preserved (utf8 upstream.apiBase) raw req.query sent.url ↔ Unchanged raw req.query := by
  obtain ⟨path, query⟩ := read_upstreamUrl empty isBase isQuery (url_of_sent built)
  have readBack := meaning_readPath_iff (basePath (trimEndSlashes (utf8 upstream.apiBase)))
    (fun b member => isPath.characters (.raw b) member) (remaining_sublist (percentDecode raw) req.query)
  constructor
  · rintro ⟨samePath, sameQuery⟩
    rw [path] at samePath
    obtain ⟨whole, safe, dots⟩ := readBack.mp samePath
    obtain ⟨untabbed, trailing⟩ := (remaining_eq_self_iff (relative_percentDecode isPath safe) req.query).mp whole
    rw [whole] at dots query
    refine ⟨?_, dots, trailing, ?_⟩
    · intro token member
      cases token with
      | raw b => rfl
      | encoded b =>
          have tab := untabbed b (List.mem_map_of_mem (f := Token.byte) member)
          simp [survives, safe b member, tab]
    · intro q found b member
      have kept := query (endsPath_percentDecode isPath safe)
      rw [sameQuery, found, Option.map_some, Option.some.injEq] at kept
      exact percentEncode_eq_self_iff.mp kept.symm b member
  · rintro ⟨characters, dots, trailing, unencoded⟩
    have safe : ∀ b, .encoded b ∈ tokens raw → isSignificant b = false ∧ b ≠ byte '\\' :=
      fun b member => (survives_encoded (characters _ member)).1
    have untabbed : ∀ b ∈ percentDecode raw, isTabOrNewline b = false := by
      intro b member
      obtain ⟨token, inside, rfl⟩ := List.mem_map.mp member
      cases token with
      | raw b => exact pathChar_untabbed b (isPath.characters _ inside)
      | encoded b => exact (survives_encoded (characters _ inside)).2
    have whole := (remaining_eq_self_iff (relative_percentDecode isPath safe) req.query).mpr ⟨untabbed, trailing⟩
    rw [whole] at readBack query
    refine ⟨?_, ?_⟩
    · rw [path, whole]
      exact readBack.mpr ⟨rfl, safe, dots⟩
    · rw [query (endsPath_percentDecode isPath safe)]
      cases found : req.query with
      | none => rfl
      | some q => exact congrArg some (percentEncode_eq_self_iff.mpr (unencoded q found))

end Urls

def ascii (text : String) : Bytes := text.toList.map byte

/-- A request for a path and a query, without headers. -/
def getRequest (query : Option Bytes) : Request := ⟨.get, query, [], []⟩

end LLMPool.Passthrough
