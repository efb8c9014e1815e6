import LLMPool.ProxyViews.Untraced

/-! The sessions of a request: its attempts make their tracers one after another, and whatever
a handler traces is the next event of the tracer that it has. So every event is stamped with
one of the UUIDs that were drawn for its own request. -/
namespace LLMPool.ProxyViews
open Transactions
variable {context : RequestContext}

/-- How far a request is: some attempts are over, or one has a tracer. -/
inductive Stage where
  | between (attempts : Nat)
  | tracing (attempt : Nat) (tracer : SessionTracer)

/-- The events that a program pushes are the next ones of its tracer, and every tracer is that
of the next attempt. -/
inductive Traces (context : RequestContext) (Q : α → Stage → Prop) : Stage → Action α → Prop
  | done {stage : Stage} {value : α} (result : Q value stage) : Traces context Q stage (.done value)
  | untraced {stage : Stage} {op : Op engine} {next : Except Failure op.Reply → Action α} (made : Untraced op)
      (rest : ∀ reply, Traces context Q stage (next reply)) : Traces context Q stage (.call op next)
  | push {attempt : Nat} {tracer : SessionTracer} {next : Except Failure Unit → Action α} (data : EventData)
      (rest : ∀ reply, Traces context Q (.tracing attempt tracer.bump) (next reply)) :
      Traces context Q (.tracing attempt tracer) (.call (.remote (.pushEvent (tracer.entry data))) next)
  | new {attempts : Nat} {p : Action α} (modelId : Int)
      (rest : Traces context Q (.tracing attempts (.new context attempts modelId)) p) :
      Traces context Q (.between attempts) p
  | left {attempt : Nat} {tracer : SessionTracer} {p : Action α} (rest : Traces context Q (.between (attempt + 1)) p) :
      Traces context Q (.tracing attempt tracer) p

section Rules
variable {Q : α → Stage → Prop} {stage : Stage} {attempt : Nat} {tracer : SessionTracer}

theorem Traces.bind {M : β → Stage → Prop} {p : Action β} {f : β → Action α} (first : Traces context M stage p)
    (rest : ∀ value stage, M value stage → Traces context Q stage (f value)) : Traces context Q stage (p >>= f) := by
  change Traces context Q stage (p.bind f)
  induction first with
  | done result => exact rest _ _ result
  | untraced made _ ih => exact .untraced made ih
  | push data _ ih => exact .push data ih
  | new modelId _ ih => exact .new modelId ih
  | left _ ih => exact .left ih

/-- A part that traces nothing leaves the tracer as it is. -/
theorem Traces.after {p : Action β} {f : β → Action α} (untraced : p.Only Untraced)
    (rest : ∀ value, Traces context Q stage (f value)) : Traces context Q stage (p >>= f) := by
  change Traces context Q stage (p.bind f)
  induction p with
  | done value => exact rest value
  | call op next ih => exact .untraced untraced.1 (fun reply => ih reply (untraced.2 reply))

theorem Traces.quiet {p : Action β} {f : β → Action α} (quiet : p.Only Quiet)
    (rest : ∀ value, Traces context Q stage (f value)) : Traces context Q stage (p >>= f) :=
  .after (untraced_of_quiet quiet) rest

theorem Traces.of_untraced {p : Action α} (untraced : p.Only Untraced) (result : ∀ value, Q value stage) :
    Traces context Q stage p := by
  induction p with
  | done value => exact .done (result value)
  | call op next ih => exact .untraced untraced.1 (fun reply => ih reply (untraced.2 reply))

theorem Traces.add {data : EventData} {f : SessionTracer → Action α}
    (rest : Traces context Q (.tracing attempt tracer.bump) (f tracer.bump)) :
    Traces context Q (.tracing attempt tracer) (tracer.add data >>= f) :=
  .push data (fun _ => rest)

theorem Traces.call {u : LLMUpstream} {call : UpstreamCall} {f : Except ClientError call.Answer → Action α}
    (rest : ∀ answer, Traces context Q stage (f answer)) : Traces context Q stage (callUpstream u call >>= f) :=
  .after (untraced_callUpstream u call) rest

/-- An attempt that returns is over. -/
theorem Traces.ends {value : α} (result : Q value (.between (attempt + 1))) :
    Traces context Q (.tracing attempt tracer) (pure value) :=
  .left (.done result)

end Rules

/-- A program that ends the attempt it is in. -/
abbrev Finishes (context : RequestContext) (attempt : Nat) (stage : Stage) (p : Action α) : Prop :=
  Traces context (fun _ last => last = .between (attempt + 1)) stage p

/-- A program that ends anywhere. -/
abbrev Settles (context : RequestContext) (stage : Stage) (p : Action α) : Prop :=
  Traces context (fun _ _ => True) stage p

section Handlers
variable {stage : Stage} {attempt : Nat} {tracer : SessionTracer}

theorem traces_discard {p : Action α} (settles : Settles context stage p) : Settles context stage (discard p) :=
  settles.bind (fun _ _ _ => .done trivial)

theorem traces_tryClients {attempts : Nat → UpstreamClient → Action (Except ClientError (Reply α))}
    {failed : UpstreamClient → ClientError → Action Unit} {exhausted : Reply α}
    {clients : List UpstreamClient} {i : Nat}
    (each : ∀ i client, Finishes context i (.between i) (attempts i client))
    (failing : ∀ client e, (failed client e).Only Quiet) :
    Settles context (.between i) (tryClients attempts failed exhausted i clients) := by
  induction clients generalizing i with
  | nil => exact .done trivial
  | cons client rest ih =>
      refine (each i client).bind ?_
      rintro (e | reply) _ rfl
      · refine .quiet (failing client e) (fun _ => ?_)
        split
        · exact .done trivial
        · exact ih
      · exact .done trivial

theorem traces_checkWalletBalance {insufficient : String} {accountId : Int} {next : Action (Reply α)}
    (rest : Settles context stage next) : Settles context stage (checkWalletBalance insufficient accountId next) := by
  refine .quiet (quiet_accountWallet accountId) ?_
  rintro (e | (_ | wallet))
  · exact .done trivial
  · exact .done trivial
  · dsimp only
    split
    · exact .done trivial
    · exact rest

theorem traces_withModelClients {builds : Nat → LLMUpstream → Bool} {modelName provider feature : String}
    {count : Nat} {next : List UpstreamClient → Action (Reply α)}
    (rest : ∀ clients, Settles context stage (next clients)) :
    Settles context stage (withModelClients builds modelName provider feature count next) := by
  refine .after (untraced_selectModelClients _ _ _ _ _) ?_
  rintro (_ | clients)
  · exact .done trivial
  · exact rest clients

theorem traces_withClient {upstream : LLMUpstream} {next : Action (Reply α)}
    (rest : Settles context stage next) : Settles context stage (withClient context upstream next) := by
  rw [withClient]
  split
  · exact rest
  · exact .done trivial

theorem traces_routeRequest {modelName provider feature : String} {unavailable exhausted : Reply α}
    {attempts : Nat → UpstreamClient → Action (Except ClientError (Reply α))}
    {failed : UpstreamClient → ClientError → Action Unit}
    (each : ∀ i client, Finishes context i (.between i) (attempts i client))
    (failing : ∀ client e, (failed client e).Only Quiet) :
    Settles context (.between 0)
      (routeRequest context modelName provider feature unavailable attempts failed exhausted) := by
  refine traces_withModelClients (fun clients => ?_)
  split
  · exact .done trivial
  · exact traces_tryClients each failing

/-- Each item of a stream is traced by the clone of the tracer, and its end too. -/
theorem traces_transformStream (items : StreamItems CreateChatCompletionStreamResponse) :
    Finishes context attempt (.tracing attempt tracer) (transformStreamWithLogging items tracer) := by
  induction items generalizing tracer with
  | nil => exact .add (.ends rfl)
  | cons item rest ih =>
      cases item with
      | error e => exact .add (.ends rfl)
      | ok response => exact .add ih

theorem traces_chatCompletions (client : UpstreamClient) (payload : CreateChatCompletionRequest) :
    Finishes context attempt (.tracing attempt tracer) (chatCompletionsWithClient client tracer payload) := by
  refine .add ?_
  split
  · refine .call ?_
    rintro (e | stream)
    · exact .ends rfl
    · exact (traces_transformStream stream).bind (fun _ _ same => .done same)
  · refine .call ?_
    rintro (e | response)
    · exact .ends rfl
    · exact .add (.ends rfl)

theorem traces_createEmbeddings (client : UpstreamClient) (payload : CreateEmbeddingRequest) :
    Finishes context attempt (.tracing attempt tracer) (createEmbeddingsWithClient client tracer payload) := by
  refine .add (.call ?_)
  rintro (e | response)
  · exact .ends rfl
  · exact .add (.ends rfl)

theorem traces_generateImages (client : UpstreamClient) (payload : CreateImageRequest) :
    Finishes context attempt (.tracing attempt tracer) (generateImagesWithClient client tracer payload) := by
  refine .add (.call ?_)
  rintro (e | response)
  · exact .ends rfl
  · exact .add (.ends rfl)

theorem traces_createResponseWithClient (client : UpstreamClient) (payload : CreateResponse) :
    Finishes context attempt (.tracing attempt tracer) (createResponseWithClient client tracer payload) := by
  refine .add (.call ?_)
  rintro (e | response)
  · exact .ends rfl
  · exact .add (.ends rfl)

theorem traces_transformSdkStream (inputTokens outputTokens : Nat) (items : StreamItems MessageStreamEvent) :
    Finishes context attempt (.tracing attempt tracer)
      (transformSdkStream inputTokens outputTokens items tracer) := by
  induction items generalizing inputTokens outputTokens tracer with
  | nil => exact .ends rfl
  | cons item rest ih =>
      cases item with
      | error e => exact .ends rfl
      | ok event =>
          cases event with
          | messageStop => exact .add (ih _ _)
          | _ => exact ih _ _

theorem traces_createMessage (client : UpstreamClient) (isStream : Bool) (payload : CreateMessageParams) :
    Finishes context attempt (.tracing attempt tracer) (createMessageWithClient client tracer isStream payload) := by
  rw [createMessageWithClient]
  split
  · refine .add (.call ?_)
    rintro (e | stream)
    · exact .ends rfl
    · exact (traces_transformSdkStream 0 0 stream).bind (fun _ _ same => .done same)
  · refine .add (.call ?_)
    rintro (e | message)
    · exact .ends rfl
    · exact .add (.ends rfl)

theorem traces_tryResponses (payload : CreateResponse) (previous : Option String)
    (clients : List UpstreamClient) : Settles context (.between 0)
      (tryClients (fun i client => do
          match ← createResponseWithClient client (.new context i client.modelDbId)
            { payload with
              model := some client.fullname
              previousResponseId := previous } with
          | .error e => return .error e
          | .ok response =>
              return .ok (← storeResponse context client.upstream.id payload.previousResponseId
                response))
        reportNetworkError (.status .internalServerError) 0 clients) := by
  refine traces_tryClients (fun i client => .new client.modelDbId
    ((traces_createResponseWithClient client _).bind ?_)) quiet_reportNetworkError
  rintro (e | response) _ rfl
  · exact .done rfl
  · exact .quiet (quiet_storeResponse _ _ _ _) (fun _ => .done rfl)

theorem traces_createResponse (payload : CreateResponse) :
    Settles context (.between 0) (createResponse context payload) := by
  refine traces_checkWalletBalance ?_
  cases payload.model with
  | none => exact .done trivial
  | some modelName =>
      refine traces_withModelClients (fun clients => ?_)
      split
      · exact .done trivial
      unfold withPreviousResponse
      split
      · exact traces_tryResponses payload none clients
      · refine .quiet (only_run_bind (quiet_auto rfl) (fun _ => trivial)) ?_
        rintro (e | (_ | originalId))
        · exact .done trivial
        · exact .done trivial
        · exact traces_tryResponses payload (some originalId) clients

theorem traces_withUpstream {upstreamId : Int} {next : LLMUpstream → Action (Reply α)}
    (rest : ∀ upstream, Settles context stage (next upstream)) :
    Settles context stage (withUpstream upstreamId next) := by
  refine .quiet (quiet_getUpstream upstreamId) ?_
  rintro ((reason | _) | upstream)
  · exact .done trivial
  · exact .done trivial
  · exact rest upstream

theorem traces_retrieveResponse (responseId : String) :
    Settles context (.between 0) (retrieveResponse context responseId) := by
  refine traces_checkWalletBalance (.quiet (quiet_auto (s := .getResponseMetaByResponseId responseId) rfl) ?_)
  rintro (e | (_ | responseMeta))
  · exact .done trivial
  · exact .done trivial
  refine traces_withUpstream (fun upstream => .call ?_)
  rintro (e | response)
  · exact .done trivial
  refine .new upstream.id (.add (.quiet (quiet_ourPreviousResponse response) ?_))
  rintro (e | previous) <;> exact .done trivial

theorem traces_answerBatch (upstreamId : Int) (batch : Batch) :
    Settles context (.tracing attempt tracer) (answerBatch context tracer upstreamId batch) := by
  refine .quiet (quiet_wrapFile context batch.outputFileId upstreamId) ?_
  rintro (e | fileMeta)
  · exact .done trivial
  · exact .add (.done trivial)

theorem traces_createBatch (payload : BatchRequest) :
    Settles context (.between 0) (createBatch context payload) := by
  refine traces_checkWalletBalance (.quiet (quiet_auto (s := .getFileMetaByFileId payload.inputFileId) rfl) ?_)
  rintro (e | (_ | fileMeta))
  · exact .done trivial
  · exact .done trivial
  refine traces_withUpstream (fun upstream => .new upstream.id (.add (traces_withClient (.call ?_))))
  rintro (e | batch)
  · exact .done trivial
  refine .quiet (quiet_auto rfl) ?_
  rintro (e | stored)
  · exact .done trivial
  · exact .quiet (quiet_syncBatchStatus _ _) (fun _ => traces_answerBatch _ _)

theorem traces_withBatch {batchId : String}
    {next : BatchMeta → LLMUpstream → SessionTracer → Action (Reply Batch)}
    (rest : ∀ batchMeta upstream tracer, Settles context (.tracing 0 tracer) (next batchMeta upstream tracer)) :
    Settles context (.between 0) (withBatch context batchId next) := by
  refine traces_checkWalletBalance (.quiet (quiet_auto (s := .getBatchMetaByBatchId batchId) rfl) ?_)
  rintro (e | (_ | batchMeta))
  · exact .done trivial
  · exact .done trivial
  · exact traces_withUpstream (fun upstream => .new upstream.id (traces_withClient (rest batchMeta upstream _)))

theorem traces_retrieveBatch (batchId : String) :
    Settles context (.between 0) (retrieveBatch context batchId) := by
  refine traces_withBatch (fun batchMeta upstream tracer => .call ?_)
  rintro (e | batch)
  · exact .done trivial
  · exact .quiet (quiet_syncBatchStatus _ _) (fun _ => traces_answerBatch _ _)

theorem traces_cancelBatch (batchId : String) :
    Settles context (.between 0) (cancelBatch context batchId) := by
  refine traces_withBatch (fun batchMeta upstream tracer => .call ?_)
  rintro (e | batch)
  · exact .done trivial
  · exact traces_answerBatch _ _

theorem traces_createMessageHandler (payload : CreateMessageParams) :
    Settles context (.between 0) (createMessage context payload) := by
  refine traces_checkWalletBalance (traces_withModelClients (fun clients => ?_))
  split
  · exact .done trivial
  · exact traces_tryClients (fun i client => .new client.modelDbId (traces_createMessage client _ _))
      quiet_reportNetworkError

/-- Every handler traces as it should. -/
theorem ProxyRequest.traces (request : ProxyRequest) : Settles context (.between 0) (request.handle context) := by
  by_cases silent : request.untraced = true
  · exact .of_untraced (request.only_untraced silent) (fun _ => trivial)
  · cases request with
    | chatCompletions payload =>
        exact traces_discard (traces_checkWalletBalance (traces_routeRequest
          (fun i client => .new client.modelDbId (traces_chatCompletions client _)) quiet_reportNetworkError))
    | createEmbeddings payload =>
        exact traces_discard (traces_checkWalletBalance (traces_routeRequest
          (fun i client => .new client.modelDbId (traces_createEmbeddings client _)) quiet_reportNetworkError))
    | generateImages payload =>
        exact traces_discard (traces_checkWalletBalance (traces_routeRequest
          (fun i client => .new client.modelDbId (traces_generateImages client _)) (fun _ _ => trivial)))
    | createResponse payload => exact traces_discard (traces_createResponse payload)
    | retrieveResponse responseId => exact traces_discard (traces_retrieveResponse responseId)
    | createBatch payload => exact traces_discard (traces_createBatch payload)
    | retrieveBatch batchId => exact traces_discard (traces_retrieveBatch batchId)
    | cancelBatch batchId => exact traces_discard (traces_cancelBatch batchId)
    | createMessage payload => exact traces_discard (traces_createMessageHandler payload)
    | _ => exact absurd rfl silent

end Handlers

section Stamps

def Stamped (context : RequestContext) : Op engine → Prop
  | .remote (.pushEvent e) => (∃ attempt, e.sessionId = context.sessions attempt) ∧ 0 ≤ e.sessionIndex
  | op => Untraced op

theorem Untraced.stamped {op : Op engine} (untraced : Untraced op) : Stamped context op := by
  cases op with
  | remote c =>
      cases c with
      | pushEvent e => exact absurd untraced id
      | _ => exact untraced
  | begin | sql | commit | auto => exact untraced

def SessionTracer.Of (context : RequestContext) (tracer : SessionTracer) : Prop :=
  (∃ attempt, tracer.sessionId = context.sessions attempt) ∧ 0 ≤ tracer.sessionIndex

theorem SessionTracer.Of.bump {tracer : SessionTracer} (of : tracer.Of context) : tracer.bump.Of context :=
  ⟨of.1, of.2.trans (Int.le_add_one (Int.le_refl _))⟩

theorem SessionTracer.of_new (attempt : Nat) (modelId : Int) :
    (SessionTracer.new context attempt modelId).Of context :=
  ⟨⟨attempt, rfl⟩, Int.le_refl 0⟩

theorem Traces.stamped {Q : α → Stage → Prop} {stage : Stage} {p : Action α} (traces : Traces context Q stage p)
    (of : ∀ attempt tracer, stage = .tracing attempt tracer → tracer.Of context) : p.Only (Stamped context) := by
  induction traces with
  | done result => trivial
  | untraced made _ ih => exact ⟨made.stamped, fun reply => ih reply of⟩
  | @push attempt tracer next data _ ih =>
      refine ⟨of attempt tracer rfl, fun reply => ih reply ?_⟩
      rintro _ _ ⟨⟩
      exact (of attempt tracer rfl).bump
  | new modelId _ ih =>
      refine ih ?_
      rintro _ _ ⟨⟩
      exact SessionTracer.of_new _ modelId
  | left _ ih =>
      refine ih ?_
      rintro _ _ ⟨⟩

/-- Every event that a request's handler traces is stamped with a session of its own. -/
theorem ProxyRequest.stamped (request : ProxyRequest) : (request.handle context).Only (Stamped context) := by
  refine request.traces.stamped ?_
  rintro _ _ ⟨⟩

end Stamps

end LLMPool.ProxyViews
