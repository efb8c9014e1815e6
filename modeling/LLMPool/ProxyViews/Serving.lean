import LLMPool.ProxyViews.Tracing
import LLMPool.ProxyViews.Untraced
import LLMPool.Upstreams.Reports

/-! What the handlers call. They look for money first: before a wallet with a positive balance has
been read, a handler calls nothing else. It contacts the upstreams whose rows it has read, and reports
those that it could not reach; it stores the objects that they have named. -/
namespace LLMPool.ProxyViews
open Transactions Upstreams
variable {context : RequestContext}

/-- The statements of a handler that has found money. -/
def ofHandler : Stmt → Bool
  | .listUpstreams | .getUpstream _ | .findModelsByNameAndCapacity _ _ _ => true
  | .getFileMetaByFileId _ | .getFileMetaByOriginalFileId _ _ | .markFileMetaDeleted _ => true
  | .getBatchMetaByBatchId _ | .updateBatchMetaStatus _ _ => true
  | .getResponseMetaByResponseId _ | .getResponseIdFromOriginalResponseId _ => true
  | _ => false

/-- Upstreams are contacted whose rows were read, and reported when they were not reached. Events go to
the account and the key of the request, in a session of its own. Objects are stored under the upstreams
that have named them. -/
def Serving (context : RequestContext) : Op engine → (Fact → Prop) → Prop
  | .remote (.upstream u call), K => K (.row u) ∧ Finds K u call
  | .remote (.spawnMarkOffline upstreamId), K => K (.unreachable upstreamId)
  | .remote (.getOutputTokenUsage _), _ => True
  | .remote (.pushEvent e), _ => (∃ attempt, e.sessionId = context.sessions attempt) ∧
      e.accountId = context.accountId ∧ e.apiKeyId = context.apiKeyId
  | .auto (.insertFileMeta _ originalFileId _ upstreamId), K => Gave K upstreamId .file originalFileId
  | .auto (.insertBatchMeta _ originalBatchId upstreamId _), K => Gave K upstreamId .batch originalBatchId
  | .auto (.insertResponseMeta _ originalResponseId upstreamId), K => Gave K upstreamId .response originalResponseId
  | .auto s, _ => ofHandler s = true
  | _, _ => False

def handling (context : RequestContext) : Knowledge engine Fact := ⟨Tells, Serving context⟩

/-- A tracer of the request. -/
structure SessionTracer.Serves (context : RequestContext) (tracer : SessionTracer) : Prop where
  session : ∃ attempt, tracer.sessionId = context.sessions attempt
  account : tracer.accountId = context.accountId
  apiKey : tracer.apiKeyId = context.apiKeyId

theorem SessionTracer.Serves.new (attempt : Nat) (modelId : Int) :
    (SessionTracer.new context attempt modelId).Serves context :=
  ⟨⟨attempt, rfl⟩, rfl, rfl⟩

theorem SessionTracer.Serves.bump {tracer : SessionTracer} (serves : tracer.Serves context) :
    tracer.bump.Serves context :=
  ⟨serves.session, serves.account, serves.apiKey⟩

section Helpers
variable {K : Fact → Prop} {Q : α → Prop} {tracer : SessionTracer} {client : UpstreamClient}

/-- An error of the network is known to have kept the client from its upstream. -/
def Blames (K : Fact → Prop) (client : UpstreamClient) (e : ClientError) : Prop :=
  e = .network → K (.unreachable client.upstream.id)

theorem serving_add {data : EventData} {f : SessionTracer → Action α} (serves : tracer.Serves context)
    (rest : (f tracer.bump).Within (handling context) K Q) : (tracer.add data >>= f).Within (handling context) K Q :=
  ⟨⟨serves.session, serves.account, serves.apiKey⟩, fun _ _ => rest⟩

theorem serving_callUpstream {u : LLMUpstream} {call : UpstreamCall} {f : Except ClientError call.Answer → Action α}
    (row : K (.row u)) (finds : Finds K u call)
    (rest : ∀ answer, (∀ fact, Tells ⟨.remote (.upstream u call), .ok answer⟩ fact → K fact) →
      (f answer).Within (handling context) K Q) : (callUpstream u call >>= f).Within (handling context) K Q :=
  within_bind (within_callUpstream ⟨row, finds⟩) rest

theorem serving_call {call : UpstreamCall} {f : Except ClientError call.Answer → Action α}
    (row : K (.row client.upstream)) (unnamed : named call = [])
    (failed : ∀ e, Blames K client e → (f (.error e)).Within (handling context) K Q)
    (succeeded : ∀ answer, (∀ kind originalId, (kind, originalId) ∈ given call answer →
      K (.given client.upstream kind originalId)) → (f (.ok answer)).Within (handling context) K Q) :
    (callUpstream client.upstream call >>= f).Within (handling context) K Q := by
  refine serving_callUpstream row (.unnamed unnamed) ?_
  rintro (e | answer) tells
  · refine failed e ?_
    rintro rfl
    exact tells _ (.unreached (.broken (.inl nofun)))
  · exact succeeded answer (fun kind originalId member => tells _ (.given member))

theorem serving_query {s : Stmt} {f : Except SqlxError s.Answer → Action α} (allowed : Serving context (.auto s) K)
    (rest : ∀ answer, (∀ value, answer = .ok value → ∀ fact, Tells ⟨.auto s, .ok value⟩ fact → K fact) →
      (f answer).Within (handling context) K Q) : ((Query.auto s).run >>= f).Within (handling context) K Q := by
  refine within_bind (within_queryAuto allowed ?_ (fun reason => nofun)) rest
  rintro _ tells value ⟨⟩
  exact tells

theorem serving_withModelClients {builds : Nat → LLMUpstream → Bool} {modelName provider feature : String}
    {count : Nat} {next : List UpstreamClient → Action (Reply α)}
    (rest : ∀ clients, (∀ client ∈ clients, K (.row client.upstream)) →
      (next clients).Within (handling context) K (fun _ => True)) :
    (withModelClients builds modelName provider feature count next).Within (handling context) K (fun _ => True) := by
  refine within_bind (M := fun selected => ∀ clients, selected = some clients →
    ∀ client ∈ clients, K (.row client.upstream)) ?_ ?_
  swap
  · rintro (_ | clients) known
    · trivial
    · exact rest clients (known clients rfl)
  refine serving_query (s := .findModelsByNameAndCapacity modelName provider feature) rfl ?_
  rintro (e | rows) tells
  · rintro _ ⟨⟩ client ⟨⟩
  · dsimp only
    split
    · rintro _ ⟨⟩ client ⟨⟩
    · refine within_bind (M := fun _ => True) ?_ ?_
      · unfold getOutputTokenUsageBatch
        split
        · trivial
        · refine within_bind (M := fun _ => True) (within_op trivial (fun _ _ => trivial)) ?_
          rintro (reason | values) _ <;> trivial
      · rintro usages _ clients built client member
        rw [buildClients_eq built] at member
        obtain ⟨⟨m, u⟩, inside, rfl⟩ := List.mem_map.mp member
        exact tells rows rfl _ (.candidate (mem_leastLoaded inside))

theorem serving_withClient {upstream : LLMUpstream} {next : Action (Reply α)}
    (rest : next.Within (handling context) K (fun _ => True)) :
    (withClient context upstream next).Within (handling context) K (fun _ => True) := by
  rw [withClient]
  split
  · exact rest
  · trivial

theorem serving_reportNetworkError {e : ClientError} (blames : Blames K client e) :
    (reportNetworkError client e).Within (handling context) K (fun _ => True) := by
  unfold reportNetworkError
  split
  · rename_i network
    exact within_bind (M := fun _ => True) (within_op (blames network) (fun _ _ => trivial)) (fun _ _ => trivial)
  · trivial

/-- An attempt with a client whose error is known to be the network's. -/
def Trying (context : RequestContext) (K : Fact → Prop) (client : UpstreamClient)
    (attempt : Action (Except ClientError α)) : Prop :=
  attempt.Within (handling context) K (fun result => ∀ e, result = .error e → Blames K client e)

theorem trying_error {e : ClientError} (blames : Blames K client e) :
    Trying context K client (return .error e : Action (Except ClientError α)) := by
  rintro _ ⟨⟩
  exact blames

theorem trying_ok (value : α) : Trying context K client (return .ok value : Action (Except ClientError α)) := by
  rintro _ ⟨⟩

theorem serving_tryClients {attempts : Nat → UpstreamClient → Action (Except ClientError (Reply α))}
    {failed : UpstreamClient → ClientError → Action Unit} {exhausted : Reply α} {clients : List UpstreamClient}
    {i : Nat} (each : ∀ i client, K (.row client.upstream) → Trying context K client (attempts i client))
    (failing : ∀ client e, Blames K client e → (failed client e).Within (handling context) K (fun _ => True))
    (known : ∀ client ∈ clients, K (.row client.upstream)) :
    (tryClients attempts failed exhausted i clients).Within (handling context) K (fun _ => True) := by
  induction clients generalizing i with
  | nil => trivial
  | cons client rest ih =>
      refine within_bind (each i client (known client List.mem_cons_self)) ?_
      rintro (e | reply) blames
      · refine within_bind (failing client e (blames e rfl)) (fun _ _ => ?_)
        split
        · trivial
        · exact ih (fun other member => known other (List.mem_cons_of_mem _ member))
      · trivial

theorem serving_routeRequest {modelName provider feature : String} {unavailable exhausted : Reply α}
    {attempts : Nat → UpstreamClient → Action (Except ClientError (Reply α))}
    {failed : UpstreamClient → ClientError → Action Unit}
    (each : ∀ i client, K (.row client.upstream) → Trying context K client (attempts i client))
    (failing : ∀ client e, Blames K client e → (failed client e).Within (handling context) K (fun _ => True)) :
    (routeRequest context modelName provider feature unavailable attempts failed exhausted).Within (handling context)
      K (fun _ => True) := by
  refine serving_withModelClients (fun clients known => ?_)
  split
  · trivial
  · exact serving_tryClients each failing known

theorem serving_withUpstream {upstreamId : Int} {next : LLMUpstream → Action (Reply α)}
    (rest : ∀ upstream, K (.row upstream) → K (.found upstreamId upstream) →
      (next upstream).Within (handling context) K (fun _ => True)) :
    (withUpstream upstreamId next).Within (handling context) K (fun _ => True) := by
  refine within_bind (within_getUpstream rfl) ?_
  rintro ((reason | _) | upstream) known
  · trivial
  · trivial
  · exact rest upstream (known upstream rfl).1 (known upstream rfl).2

end Helpers

section OpenAI
variable {K : Fact → Prop} {tracer : SessionTracer} {client : UpstreamClient}

theorem serving_transformStream (items : StreamItems CreateChatCompletionStreamResponse)
    (serves : tracer.Serves context) :
    (transformStreamWithLogging items tracer).Within (handling context) K (fun _ => True) := by
  induction items generalizing tracer with
  | nil => exact serving_add serves trivial
  | cons item rest ih =>
      cases item with
      | error e => exact serving_add serves trivial
      | ok response => exact serving_add serves (ih serves.bump)

theorem trying_chatCompletions (row : K (.row client.upstream)) (payload : CreateChatCompletionRequest)
    (serves : tracer.Serves context) : Trying context K client (chatCompletionsWithClient client tracer payload) := by
  refine serving_add serves ?_
  split
  · refine serving_call row rfl (fun _ => trying_error) (fun stream _ => ?_)
    exact within_bind (serving_transformStream stream serves.bump) (fun _ _ => trying_ok _)
  · exact serving_call row rfl (fun _ => trying_error) (fun _ _ => serving_add serves.bump (trying_ok _))

theorem trying_createEmbeddings (row : K (.row client.upstream)) (payload : CreateEmbeddingRequest)
    (serves : tracer.Serves context) : Trying context K client (createEmbeddingsWithClient client tracer payload) :=
  serving_add serves (serving_call row rfl (fun _ => trying_error)
    (fun _ _ => serving_add serves.bump (trying_ok _)))

theorem trying_generateImages (row : K (.row client.upstream)) (payload : CreateImageRequest)
    (serves : tracer.Serves context) : Trying context K client (generateImagesWithClient client tracer payload) :=
  serving_add serves (serving_call row rfl (fun _ => trying_error)
    (fun _ _ => serving_add serves.bump (trying_ok _)))

theorem serving_createResponseWithClient (row : K (.row client.upstream)) (payload : CreateResponse)
    (serves : tracer.Serves context) : (createResponseWithClient client tracer payload).Within (handling context) K
      (fun result => (∀ e, result = .error e → Blames K client e) ∧
        ∀ response, result = .ok response → K (.given client.upstream .response response.id)) := by
  refine serving_add serves (serving_call row rfl (fun e blames => ?_) (fun response given => ?_))
  · refine ⟨?_, nofun⟩
    rintro _ ⟨⟩
    exact blames
  · refine serving_add serves.bump ⟨nofun, ?_⟩
    rintro _ ⟨⟩
    exact given _ _ List.mem_cons_self

theorem serving_storeResponse {upstreamId : Int} {response : Response} (previous : Option String)
    (gave : Gave K upstreamId .response response.id) :
    (storeResponse context upstreamId previous response).Within (handling context) K (fun _ => True) := by
  refine serving_query gave ?_
  rintro (e | stored) _ <;> trivial

theorem serving_withPreviousResponse {previousResponseId : Option String}
    {next : Option String → Action (Reply Response)}
    (rest : ∀ originalId, (next originalId).Within (handling context) K (fun _ => True)) :
    (withPreviousResponse previousResponseId next).Within (handling context) K (fun _ => True) := by
  unfold withPreviousResponse
  split
  · exact rest none
  · refine within_bind (M := fun _ => True) (within_run_bind (M := fun _ => True)
      (within_queryAuto rfl (fun _ _ => trivial) (fun _ => trivial)) (fun _ _ => trivial) (fun _ _ => trivial)) ?_
    rintro (e | (_ | originalId)) _
    · trivial
    · trivial
    · exact rest (some originalId)

theorem serving_answerBatch {upstreamId : Int} {batch : Batch} (serves : tracer.Serves context)
    (gave : ∀ originalFileId ∈ batch.outputFileId, Gave K upstreamId .file originalFileId) :
    (answerBatch context tracer upstreamId batch).Within (handling context) K (fun _ => True) := by
  refine within_bind (M := fun _ => True) ?_ ?_
  · unfold wrapFile
    split
    · trivial
    · refine within_run_bind (M := fun _ => True) (within_queryAuto rfl (fun _ _ => trivial) (fun _ => trivial)) ?_
        (fun _ _ => trivial)
      rintro (_ | existing) _
      · exact within_run_bind (M := fun _ => True) (within_queryAuto (gave _ ‹_›) (fun _ _ => trivial)
          (fun _ => trivial)) (fun _ _ => trivial) (fun _ _ => trivial)
      · trivial
  · rintro (e | fileMeta) _
    · trivial
    · exact serving_add serves trivial

theorem serving_syncBatchStatus (batchId : String) (batch : Batch) :
    (syncBatchStatus batchId batch).Within (handling context) K (fun _ => True) :=
  serving_query rfl (fun _ _ => trivial)

theorem serving_markFileMetaDeleted (fileId : String) :
    (markFileMetaDeleted fileId).Within (handling context) K (fun _ => True) :=
  serving_query rfl (fun _ _ => trivial)

theorem serving_ourPreviousResponse (response : Response) :
    (ourPreviousResponse response).run.Within (handling context) K (fun _ => True) := by
  unfold ourPreviousResponse
  split
  · trivial
  · refine within_run_bind (M := fun _ => True) (within_queryAuto rfl (fun _ _ => trivial) (fun _ => trivial)) ?_
      (fun _ _ => trivial)
    rintro (_ | ourPrevId) _ <;> trivial

end OpenAI

section Anthropic
variable {K : Fact → Prop} {Q : α → Prop} {tracer : SessionTracer} {client : UpstreamClient}

theorem serving_transformSdkStream (inputTokens outputTokens : Nat) (items : StreamItems MessageStreamEvent)
    (serves : tracer.Serves context) :
    (transformSdkStream inputTokens outputTokens items tracer).Within (handling context) K (fun _ => True) := by
  induction items generalizing inputTokens outputTokens tracer with
  | nil => trivial
  | cons item rest ih =>
      cases item with
      | error e => trivial
      | ok event =>
          cases event with
          | messageStop => exact serving_add serves (ih _ _ serves.bump)
          | _ => exact ih _ _ serves

theorem trying_createMessage (row : K (.row client.upstream)) (isStream : Bool) (payload : CreateMessageParams)
    (serves : tracer.Serves context) :
    Trying context K client (createMessageWithClient client tracer isStream payload) := by
  rw [createMessageWithClient]
  split
  · refine serving_add serves (serving_call row rfl (fun _ => trying_error) (fun stream _ => ?_))
    exact within_bind (serving_transformSdkStream 0 0 stream serves.bump) (fun _ _ => trying_ok _)
  · exact serving_add serves (serving_call row rfl (fun _ => trying_error)
      (fun _ _ => serving_add serves.bump (trying_ok _)))

theorem serving_withAnthropicClient {modelName unavailable : String} {next : UpstreamClient → Action (Reply α)}
    (rest : ∀ client, K (.row client.upstream) → (next client).Within (handling context) K (fun _ => True)) :
    (withAnthropicClient context modelName unavailable next).Within (handling context) K (fun _ => True) := by
  refine serving_withModelClients ?_
  rintro (_ | ⟨client, others⟩) known
  · trivial
  · exact rest client (known client List.mem_cons_self)

theorem serving_anthropicSdkRequest {call : UpstreamCall} {f : Except ClientError call.Answer → Action α}
    (row : K (.row client.upstream)) (unnamed : named call = [])
    (failed : ∀ e, Blames K client e → (f (.error e)).Within (handling context) K Q)
    (succeeded : ∀ answer, (∀ kind originalId, (kind, originalId) ∈ given call answer →
      K (.given client.upstream kind originalId)) → (f (.ok answer)).Within (handling context) K Q) :
    (anthropicSdkRequest client call >>= f).Within (handling context) K Q := by
  refine within_bind (M := fun answer => (∀ e, answer = .error e → Blames K client e) ∧
    ∀ value, answer = .ok value → ∀ kind originalId, (kind, originalId) ∈ given call value →
      K (.given client.upstream kind originalId)) ?_ ?_
  · refine serving_callUpstream row (.unnamed unnamed) ?_
    rintro (e | answer) tells
    · have network : e ≠ .api → K (.unreachable client.upstream.id) :=
        fun read => tells _ (.unreached (.broken (.inl read)))
      cases e with
      | network | deserialize =>
          refine ⟨?_, nofun⟩
          rintro _ ⟨⟩ _
          exact network nofun
      | api =>
          refine ⟨?_, nofun⟩
          rintro _ ⟨⟩ ⟨⟩
    · refine ⟨nofun, ?_⟩
      rintro _ ⟨⟩ kind originalId member
      exact tells _ (.given member)
  · rintro (e | answer) ⟨blames, given⟩
    · exact failed e (blames e rfl)
    · exact succeeded answer (given answer rfl)

theorem serving_answerSdkError {e : ClientError} (blames : Blames K client e) :
    (answerSdkError client e : Action (Reply α)).Within (handling context) K (fun _ => True) :=
  within_bind (serving_reportNetworkError blames) (fun _ _ => trivial)

theorem serving_sendFileRequest {request : AnthropicFileRequest} {next : RawResponse → Action (Reply Value)}
    (row : K (.row client.upstream)) (rest : ∀ response, (request ≠ .list → ∀ file ∈ response.json,
      Gave K client.upstream.id .file (idOf file)) → (next response).Within (handling context) K (fun _ => True)) :
    (sendFileRequest client request next).Within (handling context) K (fun _ => True) := by
  refine serving_callUpstream row (.unnamed rfl) ?_
  rintro (e | response) tells
  · have blames : Blames K client .network := fun _ => tells _ (.unreached (.broken (.inr ⟨request, rfl⟩)))
    exact within_bind (serving_reportNetworkError blames) (fun _ _ => trivial)
  · dsimp only
    split
    · refine rest response (fun one file read => ⟨client.upstream, .inl rfl, tells _ (.given ?_)⟩)
      cases request with
      | list => exact absurd rfl one
      | _ => exact List.mem_map.mpr ⟨file, Option.mem_toList.mpr read, rfl⟩
    · trivial

theorem serving_withForm {code : Option String} {body : List MultipartField}
    {next : UploadedForm → List UInt8 → Action (Reply α)}
    (rest : ∀ form bytes, (next form bytes).Within (handling context) K (fun _ => True)) :
    (withForm code body next).Within (handling context) K (fun _ => True) := by
  rw [withForm]
  split
  · trivial
  · split
    · trivial
    · exact rest _ _

theorem serving_storeUpload {file : Value} (purpose : String)
    (gave : Gave K client.upstream.id .file (idOf file)) :
    (storeUpload context client purpose file).Within (handling context) K (fun _ => True) := by
  rw [storeUpload]
  split
  · trivial
  · refine serving_query gave ?_
    rintro (e | stored) _
    · trivial
    · dsimp only
      split <;> trivial

theorem serving_syncMessageBatchStatus (batchId : String) (batch : MessageBatch) :
    (syncMessageBatchStatus batchId batch).Within (handling context) K (fun _ => True) :=
  serving_query rfl (fun _ _ => trivial)

end Anthropic

section Money

/-- The account's wallet has been read, and there is money in it. -/
def Affords (accountId : Int) (calls : List (Call engine)) : Prop :=
  ∃ wallet : Wallet, 0 < wallet.balance ∧
    ((⟨.remote (.getWalletInfo accountId), .ok (some wallet)⟩ : Call engine) ∈ calls ∨
      (⟨.auto (.findAccountWallet accountId), .ok (some wallet)⟩ : Call engine) ∈ calls)

theorem Affords.later {calls older : List (Call engine)} (affords : Affords accountId older)
    (reached : older <:+ calls) : Affords accountId calls := by
  obtain ⟨wallet, positive, read⟩ := affords
  exact ⟨wallet, positive, read.imp (fun member => reached.subset member) (fun member => reached.subset member)⟩

/-- The calls of a handler: it reads the wallet, and whatever else it calls is paid for. -/
inductive Serves (context : RequestContext) (calls : List (Call engine)) : Op engine → Prop
  | cached : Serves context calls (.remote (.getWalletInfo context.accountId))
  | stored : Serves context calls (.auto (.findAccountWallet context.accountId))
  | paid {op : Op engine} (affords : Affords context.accountId calls)
      (serving : Serving context op (told calls)) : Serves context calls op

theorem serves_of_affords {p : Action α} {calls : List (Call engine)} (affords : Affords context.accountId calls)
    (within : ∀ K, p.Within (handling context) K (fun _ => True)) :
    p.path (Serves context) (fun _ _ => True) calls := by
  refine path_mono ?_ (fun _ _ _ => trivial) (path_extends (path_of_within within))
  exact fun later op ⟨reached, needs⟩ => .paid (affords.later reached) needs

theorem serves_accountWallet {calls : List (Call engine)} :
    (accountWallet context.accountId).path (Serves context) (fun result calls =>
      ∀ wallet : Wallet, result = .ok (some wallet) → 0 < wallet.balance → Affords context.accountId calls) calls := by
  have stored : ∀ calls, (findAccountWallet context.accountId).run.path (Serves context) (fun result calls =>
      ∀ wallet : Wallet, result = .ok (some wallet) → 0 < wallet.balance → Affords context.accountId calls) calls := by
    intro calls
    refine path_queryAuto .stored ?_ (fun reason wallet failed => by cases failed)
    rintro found _ wallet ⟨⟩ positive
    exact ⟨wallet, positive, .inr List.mem_cons_self⟩
  refine path_bind.mpr (path_op .cached ?_)
  rintro (reason | _ | cached) _
  · exact stored _
  · exact stored _
  · rintro wallet ⟨⟩ positive
    exact ⟨cached, positive, .inl List.mem_cons_self⟩

theorem serves_checkWalletBalance {insufficient : String} {next : Action (Reply α)} {calls : List (Call engine)}
    (within : ∀ K, next.Within (handling context) K (fun _ => True)) :
    (discard (checkWalletBalance insufficient context.accountId next)).path (Serves context)
      (fun _ _ => True) calls := by
  refine path_bind.mpr (path_bind.mpr (path_mono (fun _ _ made => made) ?_ serves_accountWallet))
  rintro (e | (_ | wallet)) later affords
  · trivial
  · trivial
  · dsimp only
    split
    · trivial
    · rename_i positive
      exact serves_of_affords (affords wallet rfl (lt_of_not_ge positive)) within

theorem serves_withFile {fileId : String} {next : FileMeta → LLMUpstream → Action (Reply α)}
    {calls : List (Call engine)} (rest : ∀ K fileMeta upstream, K (.row upstream) →
      (∀ call, named call = [(.file, fileMeta.originalFileId)] → Finds K upstream call) →
      (next fileMeta upstream).Within (handling context) K (fun _ => True)) :
    (discard (withFile context fileId next)).path (Serves context) (fun _ _ => True) calls := by
  refine serves_checkWalletBalance (fun K => serving_query (s := .getFileMetaByFileId fileId) rfl ?_)
  rintro (e | (_ | fileMeta)) tells
  · trivial
  · trivial
  · exact serving_withUpstream (fun upstream row found => serving_withClient (rest K fileMeta upstream row
      (fun call names => .single names found (tells _ rfl _ .file))))

/-- The row of a batch, and the upstream that it names. -/
structure FoundBatch (K : Fact → Prop) (batchMeta : BatchMeta) (upstream : LLMUpstream) : Prop where
  row : K (.row upstream)
  found : K (.found batchMeta.upstreamId upstream)
  stored : K (.stored .batch batchMeta.upstreamId batchMeta.originalBatchId)

theorem FoundBatch.finds {K : Fact → Prop} {batchMeta : BatchMeta} {upstream : LLMUpstream} {call : UpstreamCall}
    (found : FoundBatch K batchMeta upstream) (names : named call = [(.batch, batchMeta.originalBatchId)]) :
    Finds K upstream call :=
  .single names found.found found.stored

theorem serves_withBatch {batchId : String} {next : BatchMeta → LLMUpstream → SessionTracer → Action (Reply Batch)}
    {calls : List (Call engine)}
    (rest : ∀ K batchMeta upstream (tracer : SessionTracer), FoundBatch K batchMeta upstream →
      tracer.Serves context → (next batchMeta upstream tracer).Within (handling context) K (fun _ => True)) :
    (discard (withBatch context batchId next)).path (Serves context) (fun _ _ => True) calls := by
  refine serves_checkWalletBalance (fun K => serving_query (s := .getBatchMetaByBatchId batchId) rfl ?_)
  rintro (e | (_ | batchMeta)) tells
  · trivial
  · trivial
  · exact serving_withUpstream (fun upstream row found => serving_withClient (rest K batchMeta upstream _
      ⟨row, found, tells _ rfl _ .batch⟩ (.new _ _)))

theorem serves_withStored {kind objectId : String} {resolve : Query (Option β)}
    {next : β → UpstreamClient → Action (Reply α)} {calls : List (Call engine)}
    (resolves : ∀ K, resolve.run.Within (handling context) K (fun _ => True))
    (rest : ∀ K found client, K (.row client.upstream) →
      (next found client).Within (handling context) K (fun _ => True)) :
    (discard (withStored context kind objectId resolve next)).path (Serves context) (fun _ _ => True) calls := by
  refine serves_checkWalletBalance (fun K => within_bind (resolves K) ?_)
  rintro (e | (_ | found)) _
  · trivial
  · trivial
  · exact serving_withAnthropicClient (rest K found)

theorem serves_createSpeech {calls : List (Call engine)} (payload : CreateSpeechRequest) :
    (discard (createSpeech context payload)).path (Serves context) (fun _ _ => True) calls := by
  refine serves_checkWalletBalance (fun K => serving_withModelClients ?_)
  rintro (_ | ⟨client, rest⟩) known
  · trivial
  · exact serving_call (known client List.mem_cons_self) rfl
      (fun e blames => within_bind (serving_reportNetworkError blames) (fun _ _ => trivial)) (fun _ _ => trivial)

theorem serves_createResponse {calls : List (Call engine)} (payload : CreateResponse) :
    (discard (createResponse context payload)).path (Serves context) (fun _ _ => True) calls := by
  refine serves_checkWalletBalance (fun K => ?_)
  cases payload.model with
  | none => trivial
  | some modelName =>
      refine serving_withModelClients (fun clients known => ?_)
      split
      · trivial
      refine serving_withPreviousResponse (fun originalId => serving_tryClients (fun i client row =>
        within_bind (serving_createResponseWithClient row _ (.new _ _)) ?_)
        (fun _ _ blames => serving_reportNetworkError blames) known)
      rintro (e | response) ⟨blames, given⟩
      · exact trying_error (blames e rfl)
      · exact within_bind (serving_storeResponse _ ⟨client.upstream, .inl rfl, given response rfl⟩)
          (fun _ _ => trying_ok _)

theorem output_given {batch : Batch} {originalFileId : String} (output : originalFileId ∈ batch.outputFileId) :
    (ObjectKind.file, originalFileId) ∈ (ObjectKind.batch, batch.id) ::
      batch.outputFileId.toList.map (fun originalFileId => (ObjectKind.file, originalFileId)) :=
  List.mem_cons_of_mem _ (List.mem_map.mpr ⟨originalFileId, Option.mem_toList.mpr output, rfl⟩)

theorem serves_createBatch {calls : List (Call engine)} (payload : BatchRequest) :
    (discard (createBatch context payload)).path (Serves context) (fun _ _ => True) calls := by
  refine serves_checkWalletBalance (fun K => serving_query (s := .getFileMetaByFileId payload.inputFileId) rfl ?_)
  rintro (e | (_ | fileMeta)) read
  · trivial
  · trivial
  refine serving_withUpstream (fun upstream row found => serving_add (.new _ _) (serving_withClient
    (serving_callUpstream row (.single rfl found (read _ rfl _ .file)) ?_)))
  rintro (e | batch) tells
  · trivial
  refine serving_query ⟨upstream, .inl rfl, tells _ (.given List.mem_cons_self)⟩ ?_
  rintro (e | stored) _
  · trivial
  · exact within_bind (serving_syncBatchStatus _ _) (fun _ _ => serving_answerBatch (SessionTracer.Serves.new _ _).bump
      (fun _ output => ⟨upstream, .inl rfl, tells _ (.given (output_given output))⟩))

theorem serves_retrieveBatch {calls : List (Call engine)} (batchId : String) :
    (discard (retrieveBatch context batchId)).path (Serves context) (fun _ _ => True) calls := by
  refine serves_withBatch (fun K batchMeta upstream tracer found serves =>
    serving_callUpstream found.row (found.finds rfl) ?_)
  rintro (e | batch) tells
  · trivial
  · exact within_bind (serving_syncBatchStatus _ _) (fun _ _ => serving_answerBatch serves
      (fun _ output => ⟨upstream, .inr found.found, tells _ (.given (output_given output))⟩))

theorem serves_cancelBatch {calls : List (Call engine)} (batchId : String) :
    (discard (cancelBatch context batchId)).path (Serves context) (fun _ _ => True) calls := by
  refine serves_withBatch (fun K batchMeta upstream tracer found serves =>
    serving_callUpstream found.row (found.finds rfl) ?_)
  rintro (e | batch) tells
  · trivial
  · exact serving_answerBatch serves
      (fun _ output => ⟨upstream, .inr found.found, tells _ (.given (output_given output))⟩)

theorem serves_retrieveResponse {calls : List (Call engine)} (responseId : String) :
    (discard (retrieveResponse context responseId)).path (Serves context) (fun _ _ => True) calls := by
  refine serves_checkWalletBalance (fun K => serving_query (s := .getResponseMetaByResponseId responseId) rfl ?_)
  rintro (e | (_ | responseMeta)) read
  · trivial
  · trivial
  refine serving_withUpstream (fun upstream row found => serving_callUpstream row
    (.single rfl found (read _ rfl _ .response)) ?_)
  rintro (e | response) _
  · trivial
  refine serving_add (.new _ _) (within_bind (serving_ourPreviousResponse response) ?_)
  rintro (e | previous) _ <;> trivial

theorem serving_selectFirstUpstream {K : Fact → Prop} {next : LLMUpstream → Action (Reply α)}
    (rest : ∀ upstream, K (.row upstream) → (next upstream).Within (handling context) K (fun _ => True)) :
    (selectFirstUpstream next).Within (handling context) K (fun _ => True) := by
  refine serving_query (s := .listUpstreams) rfl ?_
  rintro (e | (_ | ⟨first, others⟩)) listed
  · trivial
  · trivial
  · exact rest first (listed _ rfl _ (.listed List.mem_cons_self))

theorem serves_createFileHandler {calls : List (Call engine)} (body : List MultipartField) :
    (discard (createFileHandler context body)).path (Serves context) (fun _ _ => True) calls := by
  refine serves_checkWalletBalance (fun K => serving_selectFirstUpstream (fun upstream row =>
    serving_withForm (fun form bytes => serving_withClient (serving_callUpstream row (.unnamed rfl) ?_))))
  rintro (e | file) tells
  · trivial
  refine serving_query ⟨upstream, .inl rfl, tells _ (.given List.mem_cons_self)⟩ ?_
  rintro (e | stored) _ <;> trivial

theorem serves_listFilesHandler {calls : List (Call engine)} :
    (discard (listFilesHandler context)).path (Serves context) (fun _ _ => True) calls := by
  refine serves_checkWalletBalance (fun K => serving_selectFirstUpstream (fun upstream row =>
    serving_withClient (serving_callUpstream row (.unnamed rfl) ?_)))
  rintro (e | files) _ <;> trivial

theorem serves_listBatchesHandler {calls : List (Call engine)} :
    (discard (listBatchesHandler context)).path (Serves context) (fun _ _ => True) calls := by
  refine serves_checkWalletBalance (fun K => serving_query (s := .listUpstreams) rfl ?_)
  rintro (e | (_ | ⟨first, others⟩)) listed
  · trivial
  · trivial
  refine serving_withClient (serving_callUpstream (listed _ rfl _ (.listed List.mem_cons_self)) (.unnamed rfl) ?_)
  rintro (e | batches) _ <;> trivial

theorem serves_uploadFile {calls : List (Call engine)} (body : List MultipartField) :
    (discard (uploadFile context body)).path (Serves context) (fun _ _ => True) calls := by
  refine serves_checkWalletBalance (fun K => serving_withAnthropicClient (fun client row =>
    serving_withForm (fun form bytes => ?_)))
  dsimp only
  split
  · trivial
  · refine serving_sendFileRequest row (fun response gave => ?_)
    split
    · trivial
    · exact serving_storeUpload _ (gave nofun _ ‹_›)

theorem serves_createMessageBatch {calls : List (Call engine)} (payload : CreateMessageBatchParams) :
    (discard (createMessageBatch context payload)).path (Serves context) (fun _ _ => True) calls := by
  refine serves_checkWalletBalance (fun K => serving_withAnthropicClient (fun client row =>
    serving_anthropicSdkRequest row rfl (fun _ => serving_answerSdkError) (fun batch given => ?_)))
  refine serving_query ⟨client.upstream, .inl rfl, given _ _ List.mem_cons_self⟩ ?_
  rintro (e | stored) _
  · trivial
  · exact within_bind (serving_syncMessageBatchStatus _ _) (fun _ _ => trivial)

theorem resolves_query {s : Stmt} (K : Fact → Prop) (allowed : Serving context (.auto s) K) :
    (Query.auto s).run.Within (handling context) K (fun _ => True) :=
  within_queryAuto allowed (fun _ _ => trivial) (fun _ => trivial)

theorem serves_onMessageBatch {calls : List (Call engine)} (batchId : String) (request : String → MessageBatchRequest) :
    (discard (onMessageBatch context batchId request)).path (Serves context) (fun _ _ => True) calls :=
  serves_withStored (fun K => resolves_query K rfl) (fun _ _ _ row => serving_anthropicSdkRequest row rfl
    (fun _ => serving_answerSdkError)
    (fun _ _ => within_bind (serving_syncMessageBatchStatus _ _) (fun _ _ => trivial)))

/-- Whatever a request asks of an upstream, traces or stores, its account had money for it. -/
theorem ProxyRequest.serves {calls : List (Call engine)} (request : ProxyRequest) :
    (request.handle context).path (Serves context) (fun _ _ => True) calls := by
  cases request with
  | chatCompletions payload =>
      exact serves_checkWalletBalance (fun K => serving_routeRequest
        (fun i client row => trying_chatCompletions row _ (.new _ _)) (fun _ _ => serving_reportNetworkError))
  | createEmbeddings payload =>
      exact serves_checkWalletBalance (fun K => serving_routeRequest
        (fun i client row => trying_createEmbeddings row _ (.new _ _)) (fun _ _ => serving_reportNetworkError))
  | generateImages payload =>
      exact serves_checkWalletBalance (fun K => serving_routeRequest
        (fun i client row => trying_generateImages row _ (.new _ _)) (fun _ _ _ => trivial))
  | createSpeech payload => exact serves_createSpeech payload
  | createResponse payload => exact serves_createResponse payload
  | retrieveResponse responseId => exact serves_retrieveResponse responseId
  | createBatch payload => exact serves_createBatch payload
  | retrieveBatch batchId => exact serves_retrieveBatch batchId
  | cancelBatch batchId => exact serves_cancelBatch batchId
  | retrieveFileHandler fileId =>
      refine serves_withFile (fun K fileMeta upstream row finds => serving_callUpstream row (finds _ rfl) ?_)
      rintro (e | file) _ <;> trivial
  | deleteFileHandler fileId =>
      refine serves_withFile (fun K fileMeta upstream row finds => serving_callUpstream row (finds _ rfl) ?_)
      rintro (e | file) _
      · trivial
      · exact within_bind (serving_markFileMetaDeleted fileId) (fun _ _ => trivial)
  | fileContentHandler fileId =>
      refine serves_withFile (fun K fileMeta upstream row finds => serving_callUpstream row (finds _ rfl) ?_)
      rintro (e | bytes) _ <;> trivial
  | createFileHandler body => exact serves_createFileHandler body
  | createMessage payload =>
      refine serves_checkWalletBalance (fun K => serving_withModelClients (fun clients known => ?_))
      split
      · trivial
      · exact serving_tryClients (fun i client row => trying_createMessage row _ _ (.new _ _))
          (fun _ _ => serving_reportNetworkError) known
  | countMessageTokens payload =>
      exact serves_checkWalletBalance (fun K => serving_withAnthropicClient (fun client row =>
        serving_anthropicSdkRequest row rfl
          (fun e blames => within_bind (serving_reportNetworkError blames) (fun _ _ => trivial)) (fun _ _ => trivial)))
  | createMessageBatch payload => exact serves_createMessageBatch payload
  | retrieveMessageBatch batchId => exact serves_onMessageBatch batchId .retrieve
  | cancelMessageBatch batchId => exact serves_onMessageBatch batchId .cancel
  | retrieveMessageBatchResults batchId =>
      exact serves_withStored (fun K => resolves_query K rfl) (fun K batchMeta client row => serving_call row rfl
        (fun _ => serving_answerSdkError) (fun _ _ => trivial))
  | retrieveFile fileId =>
      exact serves_withStored (fun K => resolves_query K rfl)
        (fun K _ _ row => serving_sendFileRequest row (fun _ _ => trivial))
  | deleteFile fileId =>
      exact serves_withStored (fun K => resolves_query K rfl) (fun K _ _ row => serving_sendFileRequest row
        (fun _ _ => within_bind (serving_markFileMetaDeleted fileId) (fun _ _ => trivial)))
  | fileContent fileId =>
      exact serves_withStored (fun K => resolves_query K rfl)
        (fun K _ _ row => serving_sendFileRequest row (fun _ _ => trivial))
  | uploadFile body => exact serves_uploadFile body
  | listFilesHandler => exact serves_listFilesHandler
  | listBatchesHandler => exact serves_listBatchesHandler
  | listFiles =>
      exact serves_checkWalletBalance (fun K => serving_withAnthropicClient (fun client row =>
        serving_sendFileRequest row (fun _ _ => trivial)))
  | listMessageBatches =>
      exact serves_checkWalletBalance (fun K => serving_withAnthropicClient (fun client row =>
        serving_anthropicSdkRequest row rfl (fun _ => serving_answerSdkError) (fun _ _ => trivial)))

end Money

end LLMPool.ProxyViews
