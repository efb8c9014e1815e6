import LLMPool.Query
import Mathlib.Data.List.DropRight
import Mathlib.Data.List.Sort

/-! What the proxies' handlers share: the wallet check, the choice of upstreams, the
tracer of a session, and the retries over the chosen clients. -/
namespace LLMPool.ProxyViews
open Transactions

/-- What a handler answers: a JSON body, a body that is streamed as the upstream sends
it, an event stream, a bare status, an upstream's own response, or an error whose
message is kept as its pieces; `sdkError` has the client library's text. `panicked` is
a `panic!`. -/
inductive Reply (α : Type) where
  | json (body : α)
  | streamed (body : α)
  | events
  | status (status : StatusCode)
  | raw (response : RawResponse)
  | error (status : StatusCode) (message : List Value) (type : String) (code : Option String)
  | sdkError (e : ClientError)
  | panicked

/-- The libraries that build the clients: the proxies' URLs that `reqwest` takes, what the
Anthropic SDK takes as an API key, a base URL and a proxy, and the draws among an
upstream's proxies, one for each client. -/
structure ClientLibraries where
  proxyAll : String → Bool
  withConfig : String → String → Option String → Bool
  choose : Nat → Nat

namespace ClientLibraries

def proxyUrl (libraries : ClientLibraries) (n : Nat) (upstream : LLMUpstream) : Option String :=
  upstream.proxies[libraries.choose n % upstream.proxies.length]?

/-- Only upstreams without a proxy are reached. -/
def direct : ClientLibraries := ⟨fun _ => false, fun _ _ proxy => proxy.isNone, fun _ => 0⟩

/-- `false` is the panic on an invalid proxy. -/
def buildsOpenAI (libraries : ClientLibraries) (n : Nat) (upstream : LLMUpstream) : Bool :=
  (libraries.proxyUrl n upstream).all libraries.proxyAll

/-- `false` is the panic on a configuration that the SDK refuses. -/
def buildsAnthropic (libraries : ClientLibraries) (n : Nat) (upstream : LLMUpstream) : Bool :=
  libraries.withConfig upstream.apiKey
    (String.ofList (upstream.apiBase.toList.rdropWhile (fun c => c = '/'))) (libraries.proxyUrl n upstream)

end ClientLibraries

/-- `ACCOUNT` and `API_CREDENTIAL` of a request, and the UUIDs that are drawn for it:
one for each session that it opens, others for the ids that it mints. -/
structure RequestContext where
  accountId : Int
  apiKeyId : Int
  sessions : Nat → String
  minted : Nat → String
  libraries : ClientLibraries

def getUpstream (upstreamId : Int) : Query LLMUpstream := do
  Query.fetchOne (← Query.auto (.getUpstream upstreamId))

def findModelsByNameAndCapacity (modelName provider feature : String) :
    Query (List (LLMModel × LLMUpstream)) :=
  Query.auto (.findModelsByNameAndCapacity modelName provider feature)

def findAccountWallet (accountId : Int) : Query (Option Wallet) :=
  Query.auto (.findAccountWallet accountId)

/-- The Redis cache first, the database on a miss. -/
def accountWallet (accountId : Int) : Action (Except SqlxError (Option Wallet)) := do
  match ← Prog.remote (E := engine) (.getWalletInfo accountId) with
  | .ok (some wallet) => return .ok (some wallet)
  | _ => (findAccountWallet accountId).run

/-- The two providers' checks differ in the message for an insufficient balance. -/
def checkWalletBalance (insufficient : String) (accountId : Int) (next : Action (Reply α)) :
    Action (Reply α) := do
  match ← accountWallet accountId with
  | .error _ =>
      return .error .internalServerError [.string "Internal server error during wallet lookup."]
        "server_error" (some "internal_error")
  | .ok none =>
      return .error .paymentRequired [.string "No wallet record found for this account."]
        "insufficient_wallets" (some "no_wallet_record")
  | .ok (some wallet) =>
      if wallet.balance ≤ 0 then
        return .error .paymentRequired [.string insufficient] "insufficient_wallets"
          (some "insufficient_wallets")
      else next

/-- A client of an upstream, for one of its models. -/
structure UpstreamClient where
  upstream : LLMUpstream
  modelDbId : Int
  fullname : String

def buildClient (candidate : LLMModel × LLMUpstream) : UpstreamClient :=
  ⟨candidate.2, candidate.1.id, candidate.1.fullname⟩

/-- The clients of the candidates, one after the other; `none` where one of them panics. -/
def buildClients (builds : Nat → LLMUpstream → Bool) (candidates : List (LLMModel × LLMUpstream)) :
    Option (List UpstreamClient) :=
  if candidates.zipIdx.all (fun (candidate, n) => builds n candidate.2) then some (candidates.map buildClient)
  else none

theorem buildClients_eq_some {builds : Nat → LLMUpstream → Bool} {candidates : List (LLMModel × LLMUpstream)}
    {clients : List UpstreamClient} :
    buildClients builds candidates = some clients ↔
      (∀ n candidate, candidates[n]? = some candidate → builds n candidate.2 = true) ∧
        candidates.map buildClient = clients := by
  rw [buildClients, Option.ite_none_right_eq_some, Option.some_inj, List.all_eq_true]
  refine and_congr_left (fun _ => ⟨fun all n candidate there => ?_, fun each => ?_⟩)
  · exact all (candidate, n) (List.mem_zipIdx_iff_getElem?.mpr there)
  · rintro ⟨candidate, n⟩ member
    exact each n candidate (List.mem_zipIdx_iff_getElem?.mp member)

theorem buildClients_eq {builds : Nat → LLMUpstream → Bool} {candidates : List (LLMModel × LLMUpstream)}
    {clients : List UpstreamClient} (built : buildClients builds candidates = some clients) :
    clients = candidates.map buildClient :=
  (buildClients_eq_some.mp built).2.symm

/-- A missing counter is 0, and so is every counter where Redis fails. -/
def getOutputTokenUsageBatch (modelIds : List Int) : Action (List Int) :=
  if modelIds = [] then return [] else do
    match ← Prog.remote (E := engine) (.getOutputTokenUsage modelIds) with
    | .ok values => return values.map (fun value => value.getD 0)
    | .error _ => return List.replicate modelIds.length 0

/-- The `zip`, the stable sort by usage and the `truncate`. -/
def leastLoaded (count : Nat) (usages : List Int) (models : List (LLMModel × LLMUpstream)) :
    List (LLMModel × LLMUpstream) :=
  (((usages.zip models).insertionSort (fun a b => a.1 ≤ b.1)).take count).map (fun entry => entry.2)

/-- A failed query is logged, and selects no client. -/
def selectModelClients (builds : Nat → LLMUpstream → Bool) (modelName provider feature : String)
    (count : Nat) : Action (Option (List UpstreamClient)) := do
  match ← (findModelsByNameAndCapacity modelName provider feature).run with
  | .error _ => return some []
  | .ok models =>
      if models = [] then return some [] else do
        let usages ← getOutputTokenUsageBatch (models.map (fun (m, _) => m.id))
        return buildClients builds (leastLoaded count usages models)

/-- Go on with the clients that were selected, unless one of them has panicked. -/
def withModelClients (builds : Nat → LLMUpstream → Bool) (modelName provider feature : String)
    (count : Nat) (next : List UpstreamClient → Action (Reply α)) : Action (Reply α) := do
  match ← selectModelClients builds modelName provider feature count with
  | none => return .panicked
  | some clients => next clients

/-- Go on with a client of an upstream. -/
def withClient (context : RequestContext) (upstream : LLMUpstream) (next : Action (Reply α)) : Action (Reply α) :=
  if context.libraries.buildsOpenAI 0 upstream then next else return .panicked

/-- A request that did not get through is a network error. -/
def callUpstream (upstream : LLMUpstream) (call : UpstreamCall) :
    Action (Except ClientError call.Answer) := do
  match ← Prog.remote (E := engine) (.upstream upstream call) with
  | .ok answer => return answer
  | .error _ => return .error .network

structure SessionTracer where
  sessionId : String
  sessionIndex : Int
  accountId : Int
  modelId : Int
  apiKeyId : Int

namespace SessionTracer

def new (context : RequestContext) (attempt : Nat) (modelId : Int) : SessionTracer :=
  ⟨context.sessions attempt, 0, context.accountId, modelId, context.apiKeyId⟩

def entry (tracer : SessionTracer) (data : EventData) : EventTask EventData :=
  ⟨tracer.sessionId, tracer.sessionIndex, tracer.accountId, tracer.modelId, tracer.apiKeyId, data⟩

def bump (tracer : SessionTracer) : SessionTracer :=
  { tracer with sessionIndex := tracer.sessionIndex + 1 }

/-- A failed push is only logged, and its index is not used again. -/
def add (tracer : SessionTracer) (data : EventData) : Action SessionTracer := do
  let _ ← Prog.remote (E := engine) (.pushEvent (tracer.entry data))
  return tracer.bump

end SessionTracer

/-- Network errors spawn a task that marks the upstream offline. -/
def reportNetworkError (client : UpstreamClient) (e : ClientError) : Action Unit :=
  if e = .network then do
    let _ ← Prog.remote (E := engine) (.spawnMarkOffline client.upstream.id)
  else return ()

/-- The spawned task. -/
def markUpstreamOffline : Action Unit := do
  match ← Prog.remote (E := engine) .fetchSpawned with
  | .ok (some upstreamId) => do
      let _ ← (Query.auto (.markUpstreamOffline upstreamId)).run
  | _ => return ()

/-- The loop over the selected clients: each attempt has a session of its own, and
the first that succeeds answers the request. -/
def tryClients (attempt : Nat → UpstreamClient → Action (Except ClientError (Reply α)))
    (failed : UpstreamClient → ClientError → Action Unit) (exhausted : Reply α) :
    Nat → List UpstreamClient → Action (Reply α)
  | _, [] => return .panicked
  | i, client :: rest => do
      match ← attempt i client with
      | .ok reply => return reply
      | .error e => do
          failed client e
          if rest = [] then return exhausted
          else tryClients attempt failed exhausted (i + 1) rest

end LLMPool.ProxyViews
