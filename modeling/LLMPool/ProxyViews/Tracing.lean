import LLMPool.ProxyViews.Requests

/-! What the handlers call: which upstream was contacted before an event was traced,
under which model id, and that they change no upstream themselves. -/
namespace LLMPool.ProxyViews
open Transactions

/-- The upstream that the calls so far have contacted last. -/
def contacted : List (Call engine) → Option LLMUpstream
  | [] => none
  | ⟨.remote (.upstream u _), _⟩ :: _ => some u
  | _ :: older => contacted older

/-- Statements that change an upstream or record a balance change, which no handler
makes. -/
def foreign : Stmt → Bool
  | .markUpstreamOffline _ | .markUpstreamOnline _ | .updateUpstream _ _ => true
  | .addUpstreamTag _ _ | .removeUpstreamTag _ _ => true
  | .insertBalanceChange _ => true
  | _ => false

/-- An event with a usage carries a model id that `served` ties to the upstream that
was contacted. The handlers open no transaction and change no upstream. -/
def Traced (served : List (Call engine) → Int → LLMUpstream → Prop) (calls : List (Call engine)) :
    Op engine → Prop
  | .remote (.pushEvent e) => e.eventData.extractUsage.isSome →
      ∃ u, contacted calls = some u ∧ served calls e.modelId u
  | .remote (.ackEvent _) => False
  | .remote _ => True
  | .auto s => foreign s = false
  | _ => False

/-- Calls that trace nothing. -/
def Untraced : Op engine → Prop
  | .remote (.pushEvent _) | .remote (.ackEvent _) => False
  | .remote _ => True
  | .auto s => foreign s = false
  | _ => False

/-- Calls that trace nothing and contact no upstream. -/
def Quiet : Op engine → Prop
  | .remote (.pushEvent _) | .remote (.ackEvent _) | .remote (.upstream _ _) => False
  | .remote _ => True
  | .auto s => foreign s = false
  | _ => False

variable {served : List (Call engine) → Int → LLMUpstream → Prop} {calls : List (Call engine)}

theorem Untraced.traced {op : Op engine} (untraced : Untraced op) : Traced served calls op := by
  cases op with
  | remote c =>
      cases c with
      | pushEvent e => exact absurd untraced id
      | ackEvent e => exact untraced
      | _ => trivial
  | auto s => exact untraced
  | begin | sql | commit => exact untraced

theorem Quiet.untraced {op : Op engine} (quiet : Quiet op) : Untraced op := by
  cases op with
  | remote c =>
      cases c with
      | pushEvent e | ackEvent e => exact quiet
      | _ => trivial
  | auto s => exact quiet
  | begin | sql | commit => exact quiet

theorem Quiet.contacted {op : Op engine} {reply : Except Failure op.Reply} (quiet : Quiet op) :
    contacted (⟨op, reply⟩ :: calls) = contacted calls := by
  cases op with
  | remote c =>
      cases c with
      | upstream u call => exact absurd quiet id
      | _ => rfl
  | _ => rfl

theorem path_quiet {p : Action α} (quiet : p.Only Quiet) :
    p.path (Traced served) (fun _ later => contacted later = contacted calls) calls := by
  have from_here : ∀ later, contacted later = contacted calls →
      p.path (Traced served) (fun _ later => contacted later = contacted calls) later := by
    induction p with
    | done value => exact fun _ same => same
    | call op next ih =>
        exact fun later same => ⟨quiet.1.untraced.traced, fun reply _ =>
          ih reply (quiet.2 reply) _ (quiet.1.contacted.trans same)⟩
  exact from_here calls rfl

/-- After a part that is quiet, whatever came before it is still known. -/
theorem path_after_quiet {p : Action α} {f : α → Action β} (quiet : p.Only Quiet)
    (rest : ∀ value later, calls <:+ later →
      (f value).path (Traced served) (fun _ _ => True) later) :
    (p >>= f).path (Traced served) (fun _ _ => True) calls :=
  path_bind_later (path_quiet quiet) (fun value later reached _ => rest value later reached)

section Attempts
variable {u : LLMUpstream} {modelId : Int}

/-- The usage that an attempt traces is the upstream's, under the model's id. -/
abbrev TracedTo (u : LLMUpstream) (modelId : Int) :=
  Traced (fun _ id upstream => id = modelId ∧ upstream = u)

/-- A part of an attempt, once its upstream has been contacted. -/
def Answering (u : LLMUpstream) (modelId : Int) (p : Action α) : Prop :=
  ∀ calls, contacted calls = some u →
    p.path (TracedTo u modelId) (fun _ later => contacted later = some u) calls

def Attempts (u : LLMUpstream) (modelId : Int) (p : Action α) : Prop :=
  ∀ calls, p.path (TracedTo u modelId) (fun _ _ => True) calls

theorem Answering.pure (value : α) : Answering u modelId (pure value : Action α) :=
  fun _ here => here

theorem Answering.bind {p : Action α} {f : α → Action β} (first : Answering u modelId p)
    (rest : ∀ value, Answering u modelId (f value)) : Answering u modelId (p >>= f) :=
  fun calls here => path_bind.mpr (path_mono (fun _ _ made => made)
    (fun value later there => rest value later there) (first calls here))

theorem Answering.quiet {p : Action α} (quiet : p.Only Quiet) : Answering u modelId p :=
  fun _ here => path_mono (fun _ _ made => made) (fun _ _ same => same.trans here) (path_quiet quiet)

theorem Answering.add {f : SessionTracer → Action β} (tracer : SessionTracer) (data : EventData)
    (rest : Answering u tracer.modelId (f tracer.bump)) :
    Answering u tracer.modelId (tracer.add data >>= f) := by
  intro calls here
  refine path_bind.mpr (path_bind.mpr (path_op (P := TracedTo u tracer.modelId) ?_ ?_))
  · exact fun _ => ⟨u, here, rfl, rfl⟩
  · exact fun reply _ => rest _ here

/-- An event without a usage, before the upstream is contacted. -/
theorem Attempts.add {f : SessionTracer → Action β} (tracer : SessionTracer) (data : EventData)
    (bare : data.extractUsage = none) (rest : Attempts u tracer.modelId (f tracer.bump)) :
    Attempts u tracer.modelId (tracer.add data >>= f) := by
  intro calls
  refine path_bind.mpr (path_bind.mpr (path_op (P := TracedTo u tracer.modelId) ?_ ?_))
  · intro bears
    simp only [SessionTracer.entry, bare, Option.isSome_none, Bool.false_eq_true] at bears
  · exact fun reply _ => rest _

theorem Attempts.call {call : UpstreamCall} {f : Except ClientError call.Answer → Action β}
    (rest : ∀ answer, Answering u modelId (f answer)) :
    Attempts u modelId (callUpstream u call >>= f) := by
  intro calls
  have answered : ∀ answer reply, (f answer).path (TracedTo u modelId) (fun _ _ => True)
      (⟨.remote (.upstream u call), reply⟩ :: calls) :=
    fun answer reply => path_mono (fun _ _ made => made) (fun _ _ _ => trivial) (rest answer _ rfl)
  refine path_bind.mpr (path_bind.mpr (path_op (P := TracedTo u modelId) trivial ?_))
  rintro (reason | answer) _ <;> exact answered _ _

/-- An attempt traces what is known of its upstream and its model id from then on. -/
theorem Attempts.path {p : Action α} (attempts : Attempts u modelId p)
    (known : ∀ later, calls <:+ later → served later modelId u) :
    p.path (Traced served) (fun _ later => calls <:+ later) calls := by
  refine path_mono ?_ (fun _ _ reached => reached.1) (path_extends (attempts calls))
  rintro later op ⟨reached, made⟩
  cases op with
  | remote c =>
      cases c with
      | pushEvent e =>
          intro bears
          obtain ⟨upstream, there, same, rfl⟩ := made bears
          exact ⟨_, there, same ▸ known later reached⟩
      | ackEvent e => exact made
      | _ => trivial
  | auto s => exact made
  | begin | sql | commit => exact made

theorem Attempts.client {context : RequestContext} {upstream : LLMUpstream} {p : Action (Reply α)}
    (attempts : Attempts u modelId p) : Attempts u modelId (withClient context upstream p) := by
  rw [withClient]
  split
  · exact attempts
  · exact fun calls => trivial

theorem Attempts.bind_quiet {p : Action α} {f : α → Action β} (first : Attempts u modelId p)
    (rest : ∀ value, (f value).Only Quiet) : Attempts u modelId (p >>= f) :=
  fun calls => path_bind.mpr (path_mono (fun _ _ made => made)
    (fun value _ _ => path_mono (fun _ _ made => made) (fun _ _ _ => trivial)
      (path_quiet (rest value))) (first calls))

end Attempts

section Only

theorem quiet_auto {s : Stmt} (other : foreign s = false) : (Query.auto s).run.Only Quiet :=
  only_queryAuto other

theorem quiet_remote {c : Remote} {f : Except Failure c.Reply → Action α} (made : Quiet (.remote c))
    (rest : ∀ reply, (f reply).Only Quiet) : (Prog.remote (E := engine) c >>= f).Only Quiet :=
  only_bind (only_op made) rest

theorem quiet_accountWallet (accountId : Int) : (accountWallet accountId).Only Quiet := by
  refine quiet_remote trivial ?_
  rintro (reason | (_ | wallet))
  · exact quiet_auto rfl
  · exact quiet_auto rfl
  · trivial

theorem quiet_getUpstream (upstreamId : Int) : (getUpstream upstreamId).run.Only Quiet :=
  only_run_bind (quiet_auto rfl) (fun _ => only_fetchOne _)

theorem quiet_reportNetworkError (client : UpstreamClient) (e : ClientError) :
    (reportNetworkError client e).Only Quiet := by
  rw [reportNetworkError]
  split
  · exact quiet_remote trivial (fun _ => trivial)
  · trivial

theorem quiet_wrapFile (context : RequestContext) (fileId : Option String) (upstreamId : Int) :
    (wrapFile context fileId upstreamId).run.Only Quiet := by
  cases fileId with
  | none => trivial
  | some originalFileId =>
      refine only_run_bind (quiet_auto rfl) ?_
      rintro (_ | existing)
      · exact only_run_bind (quiet_auto rfl) (fun _ => trivial)
      · trivial

theorem quiet_syncBatchStatus (batchId : String) (batch : Batch) :
    (syncBatchStatus batchId batch).Only Quiet :=
  only_bind (quiet_auto rfl) (fun _ => trivial)

theorem quiet_storeResponse (context : RequestContext) (upstreamId : Int)
    (ourPreviousResponseId : Option String) (response : Response) :
    (storeResponse context upstreamId ourPreviousResponseId response).Only Quiet := by
  refine only_bind (quiet_auto rfl) ?_
  rintro (e | stored) <;> trivial

theorem quiet_ourPreviousResponse (response : Response) :
    (ourPreviousResponse response).run.Only Quiet := by
  rw [ourPreviousResponse]
  split
  · trivial
  · refine only_run_bind (quiet_auto rfl) ?_
    rintro (_ | ourPrevId) <;> trivial

end Only

section Clients

/-- The client was made of a row that the routing query has answered. -/
def Chosen (calls : List (Call engine)) (client : UpstreamClient) : Prop :=
  ∃ name provider feature rows m,
    (⟨.auto (.findModelsByNameAndCapacity name provider feature), .ok rows⟩ : Call engine) ∈ calls ∧
    (m, client.upstream) ∈ rows ∧ client.modelDbId = m.id

theorem Chosen.later {later : List (Call engine)} {client : UpstreamClient}
    (chosen : Chosen calls client) (reached : calls <:+ later) : Chosen later client := by
  obtain ⟨name, provider, feature, rows, m, asked, inside, same⟩ := chosen
  exact ⟨name, provider, feature, rows, m, reached.subset asked, inside, same⟩

/-- The model id is that of a client that was chosen for the upstream. -/
def Routed (calls : List (Call engine)) (modelId : Int) (u : LLMUpstream) : Prop :=
  ∃ client, Chosen calls client ∧ modelId = client.modelDbId ∧ u = client.upstream

theorem mem_leastLoaded {count : Nat} {usages : List Int} {models : List (LLMModel × LLMUpstream)}
    (member : candidate ∈ leastLoaded count usages models) : candidate ∈ models := by
  obtain ⟨entry, inside, rfl⟩ := List.mem_map.mp member
  have zipped := (List.mem_insertionSort _).mp (List.mem_of_mem_take inside)
  exact (List.of_mem_zip zipped).2

theorem quiet_getOutputTokenUsageBatch (modelIds : List Int) :
    (getOutputTokenUsageBatch modelIds).Only Quiet := by
  rw [getOutputTokenUsageBatch]
  split
  · trivial
  · refine quiet_remote trivial ?_
    rintro (reason | values) <;> trivial

theorem path_selectModelClients (builds : Nat → LLMUpstream → Bool) (modelName provider feature : String) (count : Nat) :
    (selectModelClients builds modelName provider feature count).path (Traced served)
      (fun selected later => ∀ clients, selected = some clients → ∀ client ∈ clients, Chosen later client) calls := by
  refine path_bind.mpr (path_queryAuto (P := Traced served)
    (s := .findModelsByNameAndCapacity modelName provider feature) rfl ?_ ?_)
  · rintro rows -
    dsimp only
    split
    · rintro _ ⟨⟩ client ⟨⟩
    · refine path_bind_later (path_quiet (quiet_getOutputTokenUsageBatch _)) ?_
      rintro usages later reached - clients built client member
      rw [buildClients_eq built] at member
      obtain ⟨⟨m, u⟩, inside, rfl⟩ := List.mem_map.mp member
      exact ⟨_, _, _, rows, m, reached.subset List.mem_cons_self, mem_leastLoaded inside, rfl⟩
  · rintro reason _ ⟨⟩ client ⟨⟩

theorem path_withModelClients {builds : Nat → LLMUpstream → Bool} {modelName provider feature : String} {count : Nat}
    {next : List UpstreamClient → Action (Reply α)}
    (rest : ∀ clients later, (∀ client ∈ clients, Chosen later client) →
      (next clients).path (Traced served) (fun _ _ => True) later) :
    (withModelClients builds modelName provider feature count next).path (Traced served) (fun _ _ => True) calls := by
  refine path_bind.mpr (path_mono (fun _ _ made => made) ?_
    (path_selectModelClients builds modelName provider feature count))
  rintro (_ | clients) later chosen
  · trivial
  · exact rest clients later (chosen clients rfl)

theorem path_tryClients {attempt : Nat → UpstreamClient → Action (Except ClientError (Reply α))}
    {failed : UpstreamClient → ClientError → Action Unit} {exhausted : Reply α}
    {clients : List UpstreamClient} {i : Nat}
    (attempts : ∀ i client, Attempts client.upstream client.modelDbId (attempt i client))
    (failing : ∀ client e, (failed client e).Only Quiet)
    (chosen : ∀ client ∈ clients, Chosen calls client) :
    (tryClients attempt failed exhausted i clients).path (Traced Routed) (fun _ _ => True) calls := by
  induction clients generalizing i calls with
  | nil => trivial
  | cons client rest ih =>
      have here := chosen client List.mem_cons_self
      have attempted : (attempt i client).path (Traced Routed) (fun _ later => calls <:+ later) calls :=
        (attempts i client).path (fun later reached => ⟨client, here.later reached, rfl, rfl⟩)
      refine path_bind.mpr (path_mono (fun _ _ made => made) ?_ attempted)
      rintro (e | reply) later reached
      · refine path_after_quiet (failing client e) (fun _ last further => ?_)
        split
        · trivial
        · exact ih (fun other member =>
            (chosen other (List.mem_cons_of_mem _ member)).later (reached.trans further))
      · trivial

end Clients

/-- What follows the wallet check. -/
theorem path_checkWalletBalance {insufficient : String} {accountId : Int} {next : Action (Reply α)}
    (rest : ∀ later, next.path (Traced served) (fun _ _ => True) later) :
    (checkWalletBalance insufficient accountId next).path (Traced served) (fun _ _ => True) calls := by
  refine path_after_quiet (quiet_accountWallet accountId) ?_
  rintro (e | (_ | wallet)) later -
  · trivial
  · trivial
  · dsimp only
    split
    · trivial
    · exact rest later

theorem path_discard {p : Action α} (path : p.path (Traced served) (fun _ _ => True) calls) :
    (discard p).path (Traced served) (fun _ _ => True) calls :=
  path_bind.mpr (path_mono (fun _ _ made => made) (fun _ _ _ => trivial) path)

section Routed

theorem path_routeRequest {context : RequestContext} {modelName provider feature : String}
    {unavailable exhausted : Reply α}
    {attempt : Nat → UpstreamClient → Action (Except ClientError (Reply α))}
    {failed : UpstreamClient → ClientError → Action Unit}
    (attempts : ∀ i client, Attempts client.upstream client.modelDbId (attempt i client))
    (failing : ∀ client e, (failed client e).Only Quiet) :
    (routeRequest context modelName provider feature unavailable attempt failed exhausted).path
      (Traced Routed) (fun _ _ => True) calls := by
  refine path_withModelClients (fun clients later chosen => ?_)
  split
  · trivial
  · exact path_tryClients attempts failing chosen

theorem answering_transformStream (items : StreamItems CreateChatCompletionStreamResponse)
    (tracer : SessionTracer) {u : LLMUpstream} :
    Answering u tracer.modelId (transformStreamWithLogging items tracer) := by
  induction items generalizing tracer with
  | nil => exact .add _ _ (.pure _)
  | cons item rest ih =>
      cases item with
      | error e => exact .add _ _ (.pure _)
      | ok response => exact .add _ _ (ih tracer.bump)

theorem attempts_chatCompletions (client : UpstreamClient) (tracer : SessionTracer)
    (payload : CreateChatCompletionRequest) :
    Attempts client.upstream tracer.modelId (chatCompletionsWithClient client tracer payload) := by
  refine .add _ _ rfl ?_
  split
  · refine .call ?_
    rintro (e | stream)
    · exact .pure _
    · exact (answering_transformStream stream tracer.bump).bind (fun _ => .pure _)
  · refine .call ?_
    rintro (e | response)
    · exact .pure _
    · exact .add _ _ (.pure _)

theorem attempts_createEmbeddings (client : UpstreamClient) (tracer : SessionTracer)
    (payload : CreateEmbeddingRequest) :
    Attempts client.upstream tracer.modelId (createEmbeddingsWithClient client tracer payload) := by
  refine .add _ _ rfl (.call ?_)
  rintro (e | response)
  · exact .pure _
  · exact .add _ _ (.pure _)

theorem attempts_generateImages (client : UpstreamClient) (tracer : SessionTracer)
    (payload : CreateImageRequest) :
    Attempts client.upstream tracer.modelId (generateImagesWithClient client tracer payload) := by
  refine .add _ _ rfl (.call ?_)
  rintro (e | response)
  · exact .pure _
  · exact .add _ _ (.pure _)

theorem attempts_createResponse (client : UpstreamClient) (tracer : SessionTracer)
    (payload : CreateResponse) :
    Attempts client.upstream tracer.modelId (createResponseWithClient client tracer payload) := by
  refine .add _ _ rfl (.call ?_)
  rintro (e | response)
  · exact .pure _
  · exact .add _ _ (.pure _)

theorem answering_transformSdkStream (inputTokens outputTokens : Nat)
    (items : StreamItems MessageStreamEvent) (tracer : SessionTracer) {u : LLMUpstream} :
    Answering u tracer.modelId (transformSdkStream inputTokens outputTokens items tracer) := by
  induction items generalizing inputTokens outputTokens tracer with
  | nil => exact .pure _
  | cons item rest ih =>
      cases item with
      | error e => exact .pure _
      | ok event =>
          cases event with
          | messageStop => exact .add _ _ (ih _ _ tracer.bump)
          | _ => exact ih _ _ tracer

theorem attempts_createMessage (client : UpstreamClient) (tracer : SessionTracer) (isStream : Bool)
    (payload : CreateMessageParams) :
    Attempts client.upstream tracer.modelId (createMessageWithClient client tracer isStream payload) := by
  rw [createMessageWithClient]
  split
  · refine .add _ _ rfl (.call ?_)
    rintro (e | stream)
    · exact .pure _
    · exact (answering_transformSdkStream 0 0 stream tracer.bump).bind (fun _ => .pure _)
  · refine .add _ _ rfl (.call ?_)
    rintro (e | message)
    · exact .pure _
    · exact .add _ _ (.pure _)

theorem path_tryResponses {clients : List UpstreamClient} (context : RequestContext)
    (payload : CreateResponse) (previous : Option String)
    (chosen : ∀ client ∈ clients, Chosen calls client) :
    (tryClients (fun i client => do
        match ← createResponseWithClient client (.new context i client.modelDbId)
          { payload with
            model := some client.fullname
            previousResponseId := previous } with
        | .error e => return .error e
        | .ok response =>
            return .ok (← storeResponse context client.upstream.id payload.previousResponseId
              response))
      reportNetworkError (.status .internalServerError) 0 clients).path
      (Traced Routed) (fun _ _ => True) calls := by
  refine path_tryClients (fun i client => ?_) quiet_reportNetworkError chosen
  refine (attempts_createResponse client (.new context i client.modelDbId) _).bind_quiet ?_
  rintro (e | response)
  · trivial
  · exact only_bind (quiet_storeResponse _ _ _ _) (fun _ => trivial)

theorem path_createResponse (context : RequestContext) (payload : CreateResponse) :
    (createResponse context payload).path (Traced Routed) (fun _ _ => True) calls := by
  refine path_checkWalletBalance (fun later => ?_)
  cases payload.model with
  | none => trivial
  | some modelName =>
      refine path_withModelClients (fun clients later chosen => ?_)
      split
      · trivial
      unfold withPreviousResponse
      split
      · exact path_tryResponses context payload none chosen
      · refine path_after_quiet (only_run_bind (quiet_auto rfl) (fun _ => trivial)) ?_
        rintro (e | (_ | originalId)) last reached
        · trivial
        · trivial
        · exact path_tryResponses context payload (some originalId)
            (fun client member => (chosen client member).later reached)

theorem path_createMessage (context : RequestContext) (payload : CreateMessageParams) :
    (createMessage context payload).path (Traced Routed) (fun _ _ => True) calls := by
  refine path_checkWalletBalance (fun later => ?_)
  refine path_withModelClients (fun clients later chosen => ?_)
  split
  · trivial
  · exact path_tryClients (fun i client => attempts_createMessage client (.new context i client.modelDbId) _ _)
      quiet_reportNetworkError chosen

end Routed

section Owned

def FileRead (calls : List (Call engine)) (fileId : String) (ownerId : Int) : Prop :=
  ∃ f, (⟨.auto (.getFileMetaByFileId fileId), .ok (some f)⟩ : Call engine) ∈ calls ∧
    f.upstreamId = ownerId

def BatchRead (calls : List (Call engine)) (batchId : String) (ownerId : Int) : Prop :=
  ∃ b, (⟨.auto (.getBatchMetaByBatchId batchId), .ok (some b)⟩ : Call engine) ∈ calls ∧
    b.upstreamId = ownerId

def ResponseRead (calls : List (Call engine)) (responseId : String) (ownerId : Int) : Prop :=
  ∃ r, (⟨.auto (.getResponseMetaByResponseId responseId), .ok (some r)⟩ : Call engine) ∈ calls ∧
    r.upstreamId = ownerId

/-- The model id is the id of the upstream, which a stored row names. -/
def Owned (read : List (Call engine) → Int → Prop) (calls : List (Call engine)) (modelId : Int)
    (u : LLMUpstream) : Prop :=
  modelId = u.id ∧ read calls u.id

theorem path_withUpstream {upstreamId : Int} {next : LLMUpstream → Action (Reply α)}
    (rest : ∀ upstream later, upstream.id = upstreamId → calls <:+ later →
      (next upstream).path (Traced served) (fun _ _ => True) later) :
    (withUpstream upstreamId next).path (Traced served) (fun _ _ => True) calls := by
  have found : (getUpstream upstreamId).run.path (Traced served)
      (fun result _ => ∀ upstream, result = .ok upstream → upstream.id = upstreamId) calls := by
    rw [getUpstream, path_run_bind]
    refine path_queryAuto (P := Traced served) rfl ?_ (fun _ => nofun)
    rintro answer ⟨env, db, executed⟩
    cases answer with
    | none => exact nofun
    | some upstream =>
        rintro _ ⟨⟩
        exact (Relational.Table.find_iff.mp (Option.some.inj executed)).2
  refine path_bind_later found ?_
  rintro ((reason | _) | upstream) later reached same
  · trivial
  · trivial
  · exact rest upstream later (same upstream rfl) reached

theorem answering_answerBatch (context : RequestContext) (tracer : SessionTracer) (upstreamId : Int)
    (batch : Batch) {u : LLMUpstream} :
    Answering u tracer.modelId (answerBatch context tracer upstreamId batch) := by
  refine (Answering.quiet (quiet_wrapFile context batch.outputFileId upstreamId)).bind ?_
  rintro (e | fileMeta)
  · exact .pure _
  · exact .add _ _ (.pure _)

theorem attempts_retrieveResponse (context : RequestContext) (responseId : String)
    (responseMeta : ResponseMeta) (upstream : LLMUpstream) :
    Attempts upstream upstream.id (do
      match ← callUpstream upstream (.retrieveResponse responseMeta.originalResponseId) with
      | .error _ => return Reply.status .internalServerError
      | .ok response =>
          let _ ← (SessionTracer.new context 0 upstream.id).add (.openai (.responsesResponse response))
          match ← (ourPreviousResponse response).run with
          | .error _ => return .status .internalServerError
          | .ok previousResponseId =>
              return .json { response with id := responseId, previousResponseId }) := by
  refine .call ?_
  rintro (e | response)
  · exact .pure _
  · refine .add (.new context 0 upstream.id) _ (.quiet ?_)
    refine only_bind (quiet_ourPreviousResponse response) ?_
    rintro (e | previous) <;> trivial

theorem path_retrieveResponse (context : RequestContext) (responseId : String) :
    (retrieveResponse context responseId).path
      (Traced (Owned (fun calls => ResponseRead calls responseId))) (fun _ _ => True) calls := by
  refine path_checkWalletBalance (fun later => path_bind.mpr (path_queryAuto
    (P := Traced (Owned (fun calls => ResponseRead calls responseId)))
    (s := .getResponseMetaByResponseId responseId) rfl ?_ (fun _ => trivial)))
  rintro (_ | responseMeta) -
  · trivial
  refine path_withUpstream (fun upstream last same reached => ?_)
  have attempts := attempts_retrieveResponse context responseId responseMeta upstream
  refine path_mono (fun _ _ made => made) (fun _ _ _ => trivial) (attempts.path (fun further beyond => ?_))
  exact ⟨rfl, responseMeta, (reached.trans beyond).subset List.mem_cons_self, same.symm⟩

theorem path_withBatch {context : RequestContext} {batchId : String}
    {next : BatchMeta → LLMUpstream → SessionTracer → Action (Reply Batch)}
    (attempts : ∀ batchMeta upstream,
      Attempts upstream upstream.id (next batchMeta upstream (.new context 0 upstream.id))) :
    (withBatch context batchId next).path
      (Traced (Owned (fun calls => BatchRead calls batchId))) (fun _ _ => True) calls := by
  refine path_checkWalletBalance (fun later => path_bind.mpr (path_queryAuto
    (P := Traced (Owned (fun calls => BatchRead calls batchId)))
    (s := .getBatchMetaByBatchId batchId) rfl ?_ (fun _ => trivial)))
  rintro (_ | batchMeta) -
  · trivial
  refine path_withUpstream (fun upstream last same reached => ?_)
  refine path_mono (fun _ _ made => made) (fun _ _ _ => trivial)
    ((attempts batchMeta upstream).client.path (fun further beyond => ?_))
  exact ⟨rfl, batchMeta, (reached.trans beyond).subset List.mem_cons_self, same.symm⟩

theorem path_retrieveBatch (context : RequestContext) (batchId : String) :
    (retrieveBatch context batchId).path
      (Traced (Owned (fun calls => BatchRead calls batchId))) (fun _ _ => True) calls := by
  refine path_withBatch (fun batchMeta upstream => .call ?_)
  rintro (e | batch)
  · exact .pure _
  · exact (Answering.quiet (quiet_syncBatchStatus _ _)).bind
      (fun _ => answering_answerBatch context (.new context 0 upstream.id) _ _)

theorem path_cancelBatch (context : RequestContext) (batchId : String) :
    (cancelBatch context batchId).path
      (Traced (Owned (fun calls => BatchRead calls batchId))) (fun _ _ => True) calls := by
  refine path_withBatch (fun batchMeta upstream => .call ?_)
  rintro (e | batch)
  · exact .pure _
  · exact answering_answerBatch context (.new context 0 upstream.id) _ _

theorem attempts_createBatch (context : RequestContext) (payload : BatchRequest)
    (fileMeta : FileMeta) (upstream : LLMUpstream) :
    Attempts upstream upstream.id (do
      let tracer ← (SessionTracer.new context 0 upstream.id).add (.openai (.batchRequest payload))
      withClient context upstream (do
        match ← callUpstream upstream (.createBatch ⟨fileMeta.originalFileId⟩) with
        | .error _ => return .status .internalServerError
        | .ok batch =>
            let ourBatchId := mintedId "batch-" (context.minted 0)
            match ← (Query.auto (.insertBatchMeta ourBatchId batch.id upstream.id "openai")).run with
            | .error _ => return .status .internalServerError
            | .ok _ =>
                let batch := { batch with id := ourBatchId }
                syncBatchStatus ourBatchId batch
                answerBatch context tracer upstream.id batch)) := by
  refine .add (.new context 0 upstream.id) _ rfl (.client (.call ?_))
  rintro (e | batch)
  · exact .pure _
  · refine (Answering.quiet (quiet_auto rfl)).bind ?_
    rintro (e | stored)
    · exact .pure _
    · exact (Answering.quiet (quiet_syncBatchStatus _ _)).bind
        (fun _ => answering_answerBatch context (SessionTracer.new context 0 upstream.id).bump _ _)

theorem path_createBatch (context : RequestContext) (payload : BatchRequest) :
    (createBatch context payload).path
      (Traced (Owned (fun calls => FileRead calls payload.inputFileId))) (fun _ _ => True) calls := by
  refine path_checkWalletBalance (fun later => path_bind.mpr (path_queryAuto
    (P := Traced (Owned (fun calls => FileRead calls payload.inputFileId)))
    (s := .getFileMetaByFileId payload.inputFileId) rfl ?_ (fun _ => trivial)))
  rintro (_ | fileMeta) -
  · trivial
  refine path_withUpstream (fun upstream last same reached => ?_)
  have attempts := attempts_createBatch context payload fileMeta upstream
  refine path_mono (fun _ _ made => made) (fun _ _ _ => trivial) (attempts.path (fun further beyond => ?_))
  exact ⟨rfl, fileMeta, (reached.trans beyond).subset List.mem_cons_self, same.symm⟩

end Owned

end LLMPool.ProxyViews
