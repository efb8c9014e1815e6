import LLMPool.Passthrough.Proxy

/-! The headers that the passthrough sends on and sends back: an `Authorization` of the client
stays beside the upstream's, and of a name that is repeated only the last header comes back. -/
namespace LLMPool.Passthrough
open Http

def authorization : HeaderName := ⟨"authorization", by decide, by decide, by decide⟩

/-- A header that is sent on: it is not of one hop, and its value is text. -/
def isForwarded (header : Header) : Bool := !isHopByHop header.1.text && header.2.toText.isSome

section Requests
variable {net : Reqwest α} {upstream : Secrets.LLMUpstream} {rest : Bytes} {req : Request}
  {request sent : UpstreamRequest α} {builder : RequestBuilder α} {headers : List Header}

theorem header_of_value (builder : RequestBuilder α) (name : HeaderName) (value : HeaderValue) :
    builder.header name.text value.bytes =
      builder.map (fun request => { request with headers := request.headers ++ [(name, value)] }) := by
  rw [RequestBuilder.header, HeaderName.fromText_text, HeaderValue.fromBytes_bytes]
  cases builder <;> rfl

/-- The headers that are sent on, in the order of the client. -/
theorem forwardHeaders_eq (headers : List Header) (builder : RequestBuilder α) :
    forwardHeaders headers builder = builder.map (fun request =>
      { request with headers := request.headers ++ headers.filter isForwarded }) := by
  induction headers generalizing builder with
  | nil => cases builder <;> simp [forwardHeaders]
  | cons header rest ih =>
      rw [forwardHeaders, List.foldl_cons, ← forwardHeaders]
      by_cases hop : isHopByHop header.1.text = true
      · rw [if_pos hop, ih, List.filter_cons_of_neg (by simp [isForwarded, hop])]
      · rw [if_neg hop]
        cases text : header.2.toText with
        | none =>
            simp only
            rw [ih, List.filter_cons_of_neg (by simp [isForwarded, text])]
        | some bytes =>
            obtain rfl := HeaderValue.eq_bytes_of_toText text
            simp only
            rw [header_of_value, ih, List.filter_cons_of_pos (by simp [isForwarded, hop, text])]
            cases builder <;> simp

theorem fromText_authorization : HeaderName.fromText "Authorization" = some authorization := by decide +kernel

/-- The headers of a request that is sent. -/
theorem headers_of_sent (built : upstreamRequest net upstream rest req = some sent) :
    (upstream.apiKey = "" ∧ sent.headers = req.headers.filter isForwarded) ∨
    (upstream.apiKey ≠ "" ∧ ∃ bearer : HeaderValue, bearer.bytes = utf8 ("Bearer " ++ upstream.apiKey) ∧
      sent.headers = req.headers.filter isForwarded ++ [(authorization, bearer)]) := by
  rw [upstreamRequest, forwardHeaders_eq, RequestBuilder.request, Option.map_map] at built
  obtain ⟨request, authorized, rfl⟩ := Option.map_eq_some_iff.mp built
  rw [setAuthorization] at authorized
  split at authorized
  · rename_i empty
    obtain ⟨url, _, rfl⟩ := Option.map_eq_some_iff.mp authorized
    exact .inl ⟨empty, rfl⟩
  · rename_i some
    rw [RequestBuilder.header, fromText_authorization] at authorized
    obtain ⟨request, made, authorized⟩ := Option.bind_eq_some_iff.mp authorized
    obtain ⟨url, _, rfl⟩ := Option.map_eq_some_iff.mp made
    obtain ⟨name, read, authorized⟩ := Option.bind_eq_some_iff.mp authorized
    obtain ⟨bearer, valid, done⟩ := Option.bind_eq_some_iff.mp authorized
    cases read
    cases done
    exact .inr ⟨some, bearer, HeaderValue.bytes_of_fromBytes valid, rfl⟩

end Requests

/-- What the headers of a request that is sent are to be. -/
structure Authorized (headers : List Header) (apiKey : String) (sent : List Header) : Prop where
  unset : apiKey = "" → sent = headers.filter isForwarded
  others : apiKey ≠ "" → sent.filter (fun header => header.1 ≠ authorization) =
    (headers.filter isForwarded).filter (fun header => header.1 ≠ authorization)
  bearer : apiKey ≠ "" → (named authorization sent).map (fun header => header.2.bytes) = [utf8 ("Bearer " ++ apiKey)]

section Requests
variable {net : Reqwest α} {upstream : Secrets.LLMUpstream} {rest : Bytes} {req : Request}
  {sent : UpstreamRequest α}

/-- The headers that are sent on are those of the client with the key of the upstream for its
own `Authorization`, if and only if there is no key or the client's is not sent on. -/
theorem authorized_iff (built : upstreamRequest net upstream rest req = some sent) :
    Authorized req.headers upstream.apiKey sent.headers ↔
      upstream.apiKey = "" ∨ ∀ header ∈ req.headers, header.1 = authorization → isForwarded header = false := by
  rcases headers_of_sent built with ⟨empty, headers⟩ | ⟨some, bearer, bytes, headers⟩
  · rw [headers]
    exact iff_of_true ⟨fun _ => rfl, fun some => absurd empty some, fun some => absurd empty some⟩ (.inl empty)
  · have ours : named authorization [(authorization, bearer)] = [(authorization, bearer)] :=
      List.filter_cons_of_pos (by simp)
    have split : named authorization (req.headers.filter isForwarded ++ [(authorization, bearer)]) =
        named authorization (req.headers.filter isForwarded) ++ [(authorization, bearer)] := by
      rw [named, List.filter_append]
      exact congrArg _ ours
    rw [headers]
    constructor
    · intro authorized
      refine .inr (fun header member theirs => ?_)
      have one := congrArg List.length (authorized.bearer some)
      rw [split] at one
      simp only [List.length_map, List.length_append, List.length_singleton] at one
      have none : named authorization (req.headers.filter isForwarded) = [] :=
        List.length_eq_zero_iff.mp (by omega)
      by_contra forwarded
      rw [Bool.not_eq_false] at forwarded
      have inside : header ∈ named authorization (req.headers.filter isForwarded) :=
        List.mem_filter.mpr ⟨List.mem_filter.mpr ⟨member, forwarded⟩, decide_eq_true theirs⟩
      rw [none] at inside
      exact absurd inside List.not_mem_nil
    · rintro (empty | absent)
      · exact absurd empty some
      · have none : named authorization (req.headers.filter isForwarded) = [] := by
          refine List.filter_eq_nil_iff.mpr (fun header member theirs => ?_)
          obtain ⟨sent, forwarded⟩ := List.mem_filter.mp member
          rw [absent header sent (of_decide_eq_true theirs)] at forwarded
          cases forwarded
        refine ⟨fun empty => absurd empty some, fun _ => ?_, fun _ => ?_⟩
        · rw [List.filter_append]
          simp
        · rw [split, none]
          simp [bytes]

end Requests

/-- A client that reads any host but the empty one, and an upstream with a key. -/
def anyHost : Reqwest Bytes where
  host host := if host = [] then none else some host
  validProxy _ := true
  pick := 0
  build _ := .ok ()
  builderError := "builder error"
  send _ := .ok ⟨200, [], []⟩

def keyed : Secrets.LLMUpstream where
  id := 1
  name := "openai"
  apiBase := "https://api.openai.com/v1"
  encryptedApiKey := ""
  ellipsedApiKey := "sk-upstream"
  provider := "openai"
  tags := ["eu"]
  proxies := []
  status := "online"
  description := ""
  apiKey := "sk-upstream"

def models : Bytes := "models".toList.map byte

def bearerOf (key : String) (valid : (utf8 ("Bearer " ++ key)).all isValueByte = true) : Header :=
  (authorization, ⟨utf8 ("Bearer " ++ key), valid⟩)

def organization : Header :=
  (⟨"openai-organization", by decide, by decide, by decide⟩, ⟨utf8 "org-1", by decide +kernel⟩)

theorem authorized_organization : ∃ sent,
    upstreamRequest anyHost keyed models ⟨.get, none, [organization, organization], []⟩ = some sent ∧
    Authorized [organization, organization] "sk-upstream" sent.headers := by
  have built : (upstreamRequest anyHost keyed models ⟨.get, none, [organization, organization], []⟩).isSome = true := by
    decide +kernel
  obtain ⟨sent, built⟩ := Option.isSome_iff_exists.mp built
  refine ⟨sent, built, (authorized_iff built).mpr (.inr (fun header member theirs => ?_))⟩
  simp only [List.mem_cons, List.not_mem_nil, or_false, or_self] at member
  subst member
  exact absurd theirs (by decide)

/-- A client that presents a key of its own sends the upstream two. -/
theorem two_keys_are_sent : ∃ sent,
    upstreamRequest anyHost keyed models ⟨.get, none, [bearerOf "sk-client" (by decide +kernel)], []⟩ = some sent ∧
    ¬Authorized [bearerOf "sk-client" (by decide +kernel)] "sk-upstream" sent.headers := by
  have two : (upstreamRequest anyHost keyed models
      ⟨.get, none, [bearerOf "sk-client" (by decide +kernel)], []⟩).map (fun sent =>
        (named authorization sent.headers).length) = some 2 := by
    decide +kernel
  obtain ⟨sent, built, length⟩ := Option.map_eq_some_iff.mp two
  refine ⟨sent, built, fun authorized => ?_⟩
  have one := congrArg List.length (authorized.bearer (by decide))
  rw [List.length_map, length] at one
  cases one

section Responses
variable {headers : List Header} {name : HeaderName}

theorem responseHeaders_eq (headers : List Header) :
    responseHeaders headers = insertHeaders (headers.filter (fun header => !isHopByHop header.1.text)) := by
  rw [responseHeaders, insertHeaders]
  generalize ([] : List Header) = before
  induction headers generalizing before with
  | nil => rfl
  | cons header rest ih =>
      rw [List.foldl_cons, ih]
      by_cases hop : isHopByHop header.1.text = true
      · rw [if_pos hop, List.filter_cons_of_neg (by simp [hop])]
      · rw [if_neg hop, List.filter_cons_of_pos (by simpa using hop), List.foldl_cons, HeaderName.fromText_text,
          HeaderValue.fromBytes_bytes]

/-- What the headers of a response are to be: of every name the same headers in the same order,
and none of one hop. -/
def SentBack (headers response : List Header) : Prop :=
  ∀ name, named name response = if isHopByHop name.text then [] else named name headers

/-- The headers of a response come back if and only if, those of one hop aside, none of them has
the name of another. -/
theorem sentBack_iff (headers : List Header) :
    SentBack headers (responseHeaders headers) ↔
      ((headers.filter (fun header => !isHopByHop header.1.text)).map Prod.fst).Nodup := by
  have kept : ∀ name, named name (headers.filter (fun header => !isHopByHop header.1.text)) =
      if isHopByHop name.text then [] else named name headers := by
    intro name
    rw [named, named, List.filter_filter]
    split
    · rename_i hop
      refine List.filter_eq_nil_iff.mpr (fun header _ both => ?_)
      simp only [Bool.and_eq_true, decide_eq_true_eq, Bool.not_eq_true'] at both
      obtain ⟨rfl, other⟩ := both
      rw [hop] at other
      cases other
    · rename_i other
      refine List.filter_congr (fun header _ => ?_)
      by_cases same : header.1 = name
      · simp [same, other]
      · simp [same]
  rw [← named_insertHeaders_iff, responseHeaders_eq, SentBack]
  simp only [kept]

end Responses

def setCookie (value : String) (valid : (utf8 value).all isValueByte = true) : Header :=
  (⟨"set-cookie", by decide, by decide, by decide⟩, ⟨utf8 value, valid⟩)

/-- Of two cookies that the upstream sets, the second one is set. -/
theorem one_cookie_is_lost :
    ¬SentBack [setCookie "a=1" (by decide +kernel), setCookie "b=2" (by decide +kernel)]
      (responseHeaders [setCookie "a=1" (by decide +kernel), setCookie "b=2" (by decide +kernel)]) := by
  intro sentBack
  have both := congrArg List.length (sentBack ⟨"set-cookie", by decide, by decide, by decide⟩)
  exact absurd both (by decide +kernel)

end LLMPool.Passthrough
