import LLMPool.Http.Headers
import LLMPool.Http.UrlParsing
import LLMPool.Secrets.Upstreams

/-! The passthrough routes, which send a request on to an upstream, at the path that follows
in the URL, and send its response back. -/
namespace LLMPool.Passthrough
open Http

/-- The bytes of a text. -/
def utf8 (text : String) : Bytes := text.toUTF8.data.toList

inductive Method where
  | get
  | post
  | put
  | delete
  | patch
  | head
  | options
  | other (name : String)
  deriving DecidableEq

/-- A request as it arrives: the query of its URI as it is written there, and its headers as
the header map lists them. -/
structure Request where
  method : Method
  query : Option Bytes
  headers : List Header
  body : Bytes

structure UpstreamRequest (α : Type) where
  method : Method
  url : Url α
  headers : List Header
  body : Bytes

structure UpstreamResponse where
  status : Nat
  headers : List Header
  body : Bytes

inductive Response where
  | error (status : Nat) (message : String)
  | proxied (status : Nat) (headers : List Header) (body : Bytes)
  | panicked

def errorResponse (status : Nat) (message : String) : Response := .error status message

def hopByHopHeaders : List String :=
  ["connection", "keep-alive", "proxy-authenticate", "proxy-authorization", "te", "trailers", "transfer-encoding",
    "upgrade", "host", "x-admin-token"]

def isHopByHop (name : String) : Bool := hopByHopHeaders.any (fun h => eqIgnoreAsciiCase h name)

/-- The HTTP client: how it reads a host, what it sends where, the proxies that it takes and
the one that is drawn, and what it says of a request that could not be built. -/
structure Reqwest (α : Type) where
  host : Bytes → Option α
  validProxy : String → Bool
  pick : Nat
  build : Option String → Except String Unit
  builderError : String
  send : UpstreamRequest α → Except String UpstreamResponse

/-- A request that is being built, unless a part of it was invalid. -/
abbrev RequestBuilder (α : Type) := Option (UpstreamRequest α)

namespace RequestBuilder

def request (net : Reqwest α) (method : Method) (url : Bytes) : RequestBuilder α :=
  (parseUrl net.host url).map (fun url => ⟨method, url, [], []⟩)

/-- One header more. -/
def header (builder : RequestBuilder α) (name : String) (value : Bytes) : Option (UpstreamRequest α) := do
  let request ← builder
  let name ← HeaderName.fromText name
  let value ← HeaderValue.fromBytes value
  return { request with headers := request.headers ++ [(name, value)] }

def body (builder : RequestBuilder α) (bytes : Bytes) : RequestBuilder α :=
  builder.map (fun request => { request with body := bytes })

def send (net : Reqwest α) (builder : RequestBuilder α) : Except String UpstreamResponse :=
  match builder with
  | none => .error net.builderError
  | some request => net.send request

end RequestBuilder

/-- `none` is the panic on an invalid proxy. -/
def buildHttpClientForUpstream (net : Reqwest α) (upstream : Secrets.LLMUpstream) : Option (Except String Unit) :=
  match upstream.proxies[net.pick % upstream.proxies.length]? with
  | none => some (net.build none)
  | some proxy => if net.validProxy proxy then some (net.build (some proxy)) else none

def trimEndSlashes (text : Bytes) : Bytes := text.rdropWhile (fun b => b = byte '/')

def trimStartSlashes (text : Bytes) : Bytes := text.dropWhile (fun b => b = byte '/')

def upstreamUrl (apiBase rest : Bytes) (query : Option Bytes) : Bytes :=
  let url := trimEndSlashes apiBase ++ byte '/' :: trimStartSlashes rest
  match query with
  | none => url
  | some query => url ++ byte '?' :: query

/-- The headers of the client that are sent on. -/
def forwardHeaders (headers : List Header) (builder : RequestBuilder α) : RequestBuilder α :=
  headers.foldl (fun builder header =>
    if isHopByHop header.1.text then builder
    else
      match header.2.toText with
      | some text => builder.header header.1.text text
      | none => builder) builder

def setAuthorization (apiKey : String) (builder : RequestBuilder α) : RequestBuilder α :=
  if apiKey = "" then builder else builder.header "Authorization" (utf8 ("Bearer " ++ apiKey))

/-- The request to the upstream, for a method that is supported. -/
def upstreamRequest (net : Reqwest α) (upstream : Secrets.LLMUpstream) (rest : Bytes) (req : Request) :
    RequestBuilder α :=
  let builder := RequestBuilder.request net req.method (upstreamUrl (utf8 upstream.apiBase) rest req.query)
  (setAuthorization upstream.apiKey (forwardHeaders req.headers builder)).body req.body

/-- The headers of the upstream's response that are sent back. -/
def responseHeaders (headers : List Header) : List Header :=
  headers.foldl (fun response header =>
    if isHopByHop header.1.text then response
    else
      match HeaderName.fromText header.1.text, HeaderValue.fromBytes header.2.bytes with
      | some name, some value => insertHeader name value response
      | _, _ => response) []

def proxyToUpstream (net : Reqwest α) (upstream : Secrets.LLMUpstream) (rest : Bytes) (req : Request) : Response :=
  match buildHttpClientForUpstream net upstream with
  | none => .panicked
  | some (.error e) => errorResponse 500 ("Failed to build HTTP client: " ++ e)
  | some (.ok _) =>
      match req.method with
      | .other name => errorResponse 405 ("Unsupported HTTP method: " ++ name)
      | _ =>
          match (upstreamRequest net upstream rest req).send net with
          | .error e => errorResponse 502 ("Upstream request failed: " ++ e)
          | .ok response => .proxied response.status (responseHeaders response.headers) response.body

/-- The request that the upstream is sent, where it is sent one. -/
def sentRequest (net : Reqwest α) (upstream : Secrets.LLMUpstream) (rest : Bytes) (req : Request) :
    Option (UpstreamRequest α) :=
  match buildHttpClientForUpstream net upstream, req.method with
  | some (.ok _), .other _ => none
  | some (.ok _), _ => upstreamRequest net upstream rest req
  | _, _ => none

/-- A segment of the path, or the rest of it, decoded; the router answers 400 where that is
no text. -/
def pathParam (raw : Bytes) : Option Bytes :=
  if (String.fromUTF8? ⟨(percentDecode raw).toArray⟩).isSome then some (percentDecode raw) else none

def passthroughByTagHandler (net : Reqwest α) (choose : Nat) (tag : String)
    (found : Except Secrets.QueryError (List Secrets.LLMUpstream)) (rest : Bytes) (req : Request) : Response :=
  match found with
  | .error .panicked => .panicked
  | .error _ => errorResponse 500 "Failed to query upstreams."
  | .ok upstreams =>
      match upstreams[choose % upstreams.length]? with
      | none => errorResponse 404 ("No upstreams found for tag '" ++ (tag ++ "'"))
      | some upstream => proxyToUpstream net upstream rest req

def passthroughByUpstreamIdHandler (net : Reqwest α) (upstreamId : Int)
    (found : Except Secrets.QueryError Secrets.LLMUpstream) (rest : Bytes) (req : Request) : Response :=
  match found with
  | .error .panicked => .panicked
  | .error (.sqlx .rowNotFound) =>
      errorResponse 404 ("Upstream with id '" ++ (toString upstreamId ++ "' not found"))
  | .error _ => errorResponse 500 "Failed to query upstream."
  | .ok upstream => proxyToUpstream net upstream rest req

section Answers
variable {net : Reqwest α} {upstream : Secrets.LLMUpstream} {rest : Bytes} {req : Request}
  {status : Nat} {headers : List Header} {body : Bytes}

/-- A response comes back exactly where the upstream has answered the request that it was sent. -/
theorem proxyToUpstream_proxied : proxyToUpstream net upstream rest req = .proxied status headers body ↔
    ∃ sent response, sentRequest net upstream rest req = some sent ∧ net.send sent = .ok response ∧
      response.status = status ∧ responseHeaders response.headers = headers ∧ response.body = body := by
  have answered : ∀ builder : RequestBuilder α, (match builder.send net with
      | .error e => errorResponse 502 ("Upstream request failed: " ++ e)
      | .ok response => .proxied response.status (responseHeaders response.headers) response.body) =
        .proxied status headers body ↔ ∃ sent response, builder = some sent ∧ net.send sent = .ok response ∧
          response.status = status ∧ responseHeaders response.headers = headers ∧ response.body = body := by
    intro builder
    cases builder with
    | none => simp [RequestBuilder.send, errorResponse]
    | some sent =>
        rw [RequestBuilder.send]
        cases answer : net.send sent with
        | error e => simp [errorResponse, answer]
        | ok response => simp [answer]
  unfold proxyToUpstream sentRequest
  cases buildHttpClientForUpstream net upstream with
  | none => simp
  | some built =>
      cases built with
      | error e => simp [errorResponse]
      | ok built =>
          cases req.method with
          | other name => simp [errorResponse]
          | _ => exact answered _

theorem passthroughByTagHandler_proxied {choose : Nat} {tag : String}
    {found : Except Secrets.QueryError (List Secrets.LLMUpstream)} :
    passthroughByTagHandler net choose tag found rest req = .proxied status headers body ↔
      ∃ upstreams upstream, found = .ok upstreams ∧ upstreams[choose % upstreams.length]? = some upstream ∧
        proxyToUpstream net upstream rest req = .proxied status headers body := by
  unfold passthroughByTagHandler
  cases found with
  | error e => cases e <;> simp [errorResponse]
  | ok upstreams =>
      dsimp only
      cases chosen : upstreams[choose % upstreams.length]? with
      | none => simp [errorResponse, chosen]
      | some upstream => simp [chosen]

theorem passthroughByUpstreamIdHandler_proxied {upstreamId : Int}
    {found : Except Secrets.QueryError Secrets.LLMUpstream} :
    passthroughByUpstreamIdHandler net upstreamId found rest req = .proxied status headers body ↔
      ∃ upstream, found = .ok upstream ∧ proxyToUpstream net upstream rest req = .proxied status headers body := by
  unfold passthroughByUpstreamIdHandler
  split <;> simp [errorResponse]

end Answers

end LLMPool.Passthrough
