import LLMPool.ProxyViews.Endpoints
import LLMPool.ProxyViews.Routing

/-! The retries of a request: which candidates are tried, what is traced of each, and what
the client is answered, whatever the candidates answer. -/
namespace LLMPool.ProxyViews
open Transactions

/-- The events that the calls so far have pushed, newest first. -/
def pushes : List (Call engine) → List (EventTask EventData)
  | [] => []
  | ⟨.remote (.pushEvent event), _⟩ :: older => event :: pushes older
  | _ :: older => pushes older

/-- The last call was to store the row of a response, and was refused. -/
def refusedWrite : List (Call engine) → Bool
  | ⟨.auto (.insertResponseMeta _ _ _), .error _⟩ :: _ => true
  | _ => false

/-- The events of a session, one index after another. -/
def SessionTracer.entries (tracer : SessionTracer) : List EventData → List (EventTask EventData)
  | [] => []
  | data :: rest => tracer.entry data :: entries tracer.bump rest

/-- A candidate that was tried, and how it answered. -/
structure Trial (endpoint : Endpoint α) where
  client : UpstreamClient
  answer : Except ClientError (endpoint.call client).Answer

namespace Trial
variable {endpoint : Endpoint α}

def failed (trial : Trial endpoint) : Bool := (errorOf trial.answer).isSome

def contact (trial : Trial endpoint) : Contact :=
  ⟨trial.client.upstream, endpoint.call trial.client, errorOf trial.answer⟩

/-- The request, and the answer where there is one. -/
def data (trial : Trial endpoint) : List EventData :=
  endpoint.request trial.client ::
    match trial.answer with
    | .ok answer => endpoint.responses trial.client answer
    | .error _ => []

/-- The events of each trial, in a session of its own. -/
def events (context : RequestContext) : Nat → List (Trial endpoint) → List (EventTask EventData)
  | _, [] => []
  | i, trial :: rest =>
      (SessionTracer.new context i trial.client.modelDbId).entries trial.data ++ events context (i + 1) rest

end Trial

/-- The answer is served, unless its row could not be stored. -/
inductive Replied (endpoint : Endpoint α) (client : UpstreamClient) (answer : (endpoint.call client).Answer) :
    Reply α → Bool → Prop
  | served : Replied endpoint client answer (endpoint.served client answer) false
  | unstored (stores : (endpoint.stores client answer).isSome = true) :
      Replied endpoint client answer (.status .internalServerError) true

inductive Attempted (endpoint : Endpoint α) (client : UpstreamClient) :
    Except ClientError (endpoint.call client).Answer → Except ClientError (Reply α) → Bool → Prop
  | failed (e : ClientError) : Attempted endpoint client (.error e) (.error e) false
  | answered {answer : (endpoint.call client).Answer} {reply : Reply α} {refused : Bool}
      (replied : Replied endpoint client answer reply refused) :
      Attempted endpoint client (.ok answer) (.ok reply) refused

/-- How a request ends: every candidate has failed, or the first that has not is the last tried. -/
inductive Ended (endpoint : Endpoint α) (exhausted : Reply α) (clients : List UpstreamClient) :
    List (Trial endpoint) → Reply α → Bool → Prop
  | exhausted {trials : List (Trial endpoint)} (all : trials.map Trial.client = clients)
      (failed : ∀ trial ∈ trials, trial.failed = true) :
      Ended endpoint exhausted clients trials exhausted false
  | answered (failures : List (Trial endpoint)) {client : UpstreamClient} {answer : (endpoint.call client).Answer}
      {reply : Reply α} {refused : Bool} (failed : ∀ trial ∈ failures, trial.failed = true)
      (replied : Replied endpoint client answer reply refused) :
      Ended endpoint exhausted clients (failures ++ [⟨client, .ok answer⟩]) reply refused

/-- The candidates are tried in their order, each is contacted once, and each traces its own
events and no others. -/
structure Exact (endpoint : Endpoint α) (context : RequestContext) (exhausted : Reply α) (i : Nat)
    (clients : List UpstreamClient) (m : Solo engine) (trials : List (Trial endpoint)) (reply : Reply α)
    (m' : Solo engine) : Prop where
  inOrder : trials.map Trial.client <+: clients
  contacted : contacts m'.calls = (trials.map Trial.contact).reverse ++ contacts m.calls
  traced : pushes m'.calls = (Trial.events context i trials).reverse ++ pushes m.calls
  ended : Ended endpoint exhausted clients trials reply (refusedWrite m'.calls)

section Attempts
variable {endpoint : Endpoint α} {context : RequestContext} {faults : Op engine → Prop} {m : Solo engine}

theorem yields_traceAll (tracer : SessionTracer) (data : List EventData) :
    (traceAll tracer data).yields faults (fun _ m' => contacts m'.calls = contacts m.calls ∧
      pushes m'.calls = (tracer.entries data).reverse ++ pushes m.calls ∧
      (refusedWrite m.calls = false → refusedWrite m'.calls = false)) m := by
  induction data generalizing tracer m with
  | nil => exact ⟨rfl, rfl, id⟩
  | cons first rest ih =>
      refine yields_bind.mpr (yields_bind.mpr (yields_remote (fun reply world => ?_)))
      change (traceAll tracer.bump rest).yields faults _ _
      refine yields_mono ?_ (ih tracer.bump)
      rintro _ m' ⟨contacted, pushed, refused⟩
      refine ⟨contacted, ?_, fun _ => refused rfl⟩
      rw [pushed, SessionTracer.entries, List.reverse_cons, List.append_assoc]
      rfl

theorem yields_conclude (client : UpstreamClient) (answer : (endpoint.call client).Answer)
    (unrefused : refusedWrite m.calls = false) :
    (endpoint.conclude client answer).yields faults (fun reply m' => contacts m'.calls = contacts m.calls ∧
      pushes m'.calls = pushes m.calls ∧
      Replied endpoint client answer reply (refusedWrite m'.calls)) m := by
  rw [Endpoint.conclude]
  cases stores : endpoint.stores client answer with
  | none =>
      refine ⟨rfl, rfl, ?_⟩
      rw [unrefused]
      exact .served
  | some row =>
      have unstored : Replied endpoint client answer (.status .internalServerError) true :=
        .unstored (stores ▸ rfl)
      exact yields_bind.mpr (yields_pooled (E := engine) (fun _ _ _ _ => ⟨rfl, rfl, .served⟩)
        (fun _ => ⟨rfl, rfl, unstored⟩) (fun _ => ⟨rfl, rfl, unstored⟩))

/-- An attempt contacts its client once, and traces its own events. -/
theorem yields_attempt (i : Nat) (client : UpstreamClient) :
    (endpoint.attempt context i client).yields faults (fun result m' =>
      ∃ answer, contacts m'.calls = (Trial.mk client answer).contact :: contacts m.calls ∧
        pushes m'.calls = ((SessionTracer.new context i client.modelDbId).entries
          (Trial.mk client answer).data).reverse ++ pushes m.calls ∧
        Attempted endpoint client answer result (refusedWrite m'.calls)) m := by
  refine yields_bind.mpr (yields_bind.mpr (yields_remote (fun reply world => ?_)))
  change (callUpstream _ _ >>= _).yields faults _ _
  refine yields_bind.mpr (yields_bind.mpr (yields_remote ?_))
  rintro (reason | e | answer) after
  · exact ⟨.error .network, rfl, rfl, .failed .network⟩
  · exact ⟨.error e, rfl, rfl, .failed e⟩
  · refine yields_bind.mpr (yields_mono ?_ (yields_traceAll _ (endpoint.responses client answer)))
    rintro _ traced ⟨contacted, pushed, unrefused⟩
    refine yields_bind.mpr (yields_mono ?_ (yields_conclude client answer (unrefused rfl)))
    rintro reply m' ⟨contacted', pushed', replied⟩
    refine ⟨.ok answer, contacted'.trans contacted, ?_, .answered replied⟩
    rw [pushed', pushed, Trial.data, SessionTracer.entries, List.reverse_cons, List.append_assoc]
    rfl

end Attempts

section Loop
variable {endpoint : Endpoint α} {context : RequestContext} {exhausted : Reply α} {faults : Op engine → Prop}
  {clients : List UpstreamClient} {failed : UpstreamClient → ClientError → Action Unit}

/-- What follows a failure. -/
theorem Ended.cons (trial : Trial endpoint) {trials : List (Trial endpoint)} {reply : Reply α} {refused : Bool}
    (failure : trial.failed = true) (ended : Ended endpoint exhausted clients trials reply refused) :
    Ended endpoint exhausted (trial.client :: clients) (trial :: trials) reply refused := by
  cases ended with
  | exhausted all failed => exact .exhausted (congrArg _ all) (List.forall_mem_cons.mpr ⟨failure, failed⟩)
  | answered failures failed replied =>
      exact .answered (trial :: failures) (List.forall_mem_cons.mpr ⟨failure, failed⟩) replied

/-- What is done on a failure is not part of the trial. -/
def Aside (op : Op engine) : Prop :=
  ∀ calls reply, contacts (⟨op, reply⟩ :: calls) = contacts calls ∧
    pushes (⟨op, reply⟩ :: calls) = pushes calls ∧ refusedWrite (⟨op, reply⟩ :: calls) = false

theorem yields_aside {p : Action β} {m : Solo engine} (aside : p.Only Aside)
    (unrefused : refusedWrite m.calls = false) :
    p.yields faults (fun _ m' => contacts m'.calls = contacts m.calls ∧ pushes m'.calls = pushes m.calls ∧
      refusedWrite m'.calls = false) m := by
  induction p generalizing m with
  | done value => exact ⟨rfl, rfl, unrefused⟩
  | call op next ih =>
      have later : ∀ reply world, (next reply).yields faults (fun _ m' => contacts m'.calls = contacts m.calls ∧
          pushes m'.calls = pushes m.calls ∧ refusedWrite m'.calls = false) (m.after op reply world) := by
        intro reply world
        obtain ⟨contacted, pushed, unrefused⟩ := aside.1 m.calls reply
        refine yields_mono ?_ (ih reply (aside.2 reply) unrefused)
        exact fun _ _ kept => ⟨kept.1.trans contacted, kept.2.1.trans pushed, kept.2.2⟩
      exact ⟨fun _ reply _ => later reply _, fun _ => later _ _⟩

/-- The loop by induction on the candidates that are left. -/
theorem yields_tryClients (aside : ∀ client e, (failed client e).Only Aside) (nonempty : clients ≠ []) (i : Nat)
    (m : Solo engine) :
    (tryClients (endpoint.attempt context) failed exhausted i clients).yields faults
      (fun reply m' => ∃ trials, Exact endpoint context exhausted i clients m trials reply m') m := by
  induction clients generalizing i m with
  | nil => exact absurd rfl nonempty
  | cons client rest ih =>
      refine yields_bind.mpr (yields_mono ?_ (yields_attempt i client))
      rintro result attempted ⟨answer, contacted, pushed, came⟩
      generalize unrefused : refusedWrite attempted.calls = refused at came
      cases came with
      | answered replied =>
          refine ⟨[⟨client, .ok _⟩], List.prefix_append [client] rest, contacted, ?_, ?_⟩
          · simpa only [Trial.events, List.append_nil] using pushed
          · exact unrefused ▸ .answered [] (List.forall_mem_nil _) replied
      | failed e =>
          refine yields_bind.mpr (yields_mono ?_ (yields_aside (aside client e) unrefused))
          rintro _ after ⟨contacted', pushed', unrefused⟩
          have tried := contacted'.trans contacted
          have traced := pushed'.trans pushed
          split
          · rename_i last
            refine ⟨[⟨client, .error e⟩], List.prefix_append [client] rest, tried, ?_, ?_⟩
            · simpa only [Trial.events, List.append_nil] using traced
            · exact unrefused ▸ .exhausted (congrArg _ last.symm) (List.forall_mem_singleton.mpr rfl)
          · rename_i more
            refine yields_mono ?_ (ih more (i + 1) after)
            rintro reply m' ⟨trials, exact⟩
            refine ⟨⟨client, .error e⟩ :: trials, (List.prefix_cons_inj client).mpr exact.inOrder, ?_, ?_,
              exact.ended.cons ⟨client, .error e⟩ rfl⟩
            · rw [exact.contacted, tried, List.map_cons, List.reverse_cons, List.append_assoc]
              rfl
            · rw [exact.traced, traced, Trial.events, List.reverse_append, List.append_assoc]

end Loop

/-- The requests that are retried. -/
inductive RetriedRequest where
  | chatCompletions (payload : CreateChatCompletionRequest)
  | createEmbeddings (payload : CreateEmbeddingRequest)
  | generateImages (payload : CreateImageRequest)
  | createMessage (payload : CreateMessageParams)
  | createResponse (payload : CreateResponse)

namespace RetriedRequest

@[reducible] def Body : RetriedRequest → Type
  | chatCompletions _ => CreateChatCompletionResponse
  | createEmbeddings _ => CreateEmbeddingResponse
  | generateImages _ => ImagesResponse
  | createMessage _ => Message
  | createResponse _ => Response

def handle (context : RequestContext) : (request : RetriedRequest) → Action (Reply request.Body)
  | chatCompletions payload => ProxyViews.chatCompletions context payload
  | createEmbeddings payload => ProxyViews.createEmbeddings context payload
  | generateImages payload => ProxyViews.generateImages context payload
  | createMessage payload => ProxyViews.createMessage context payload
  | createResponse payload => ProxyViews.createResponse context payload

/-- The handlers' loops; a response is created with its upstream's id of the previous one. -/
def loop (context : RequestContext) (originalPreviousResponseId : Option String)
    (clients : List UpstreamClient) : (request : RetriedRequest) → Action (Reply request.Body)
  | chatCompletions payload =>
      tryClients (fun i client => chatCompletionsWithClient client (.new context i client.modelDbId)
          { payload with model := client.fullname })
        reportNetworkError (.status .internalServerError) 0 clients
  | createEmbeddings payload =>
      tryClients (fun i client => createEmbeddingsWithClient client (.new context i client.modelDbId)
          { payload with model := client.fullname })
        reportNetworkError (.status .internalServerError) 0 clients
  | generateImages payload =>
      tryClients (fun i client => generateImagesWithClient client (.new context i client.modelDbId) payload)
        (fun _ _ => return ()) (.status .internalServerError) 0 clients
  | createMessage payload =>
      tryClients (fun i client => createMessageWithClient client (.new context i client.modelDbId)
          (payload.stream.getD false) { payload with model := client.fullname })
        reportNetworkError
        (.error .internalServerError
          [.string "Internal server error while proxying to upstream."] "api_error" none)
        0 clients
  | createResponse payload =>
      tryClients (fun i client => do
          match ← createResponseWithClient client (.new context i client.modelDbId)
            { payload with
              model := some client.fullname
              previousResponseId := originalPreviousResponseId } with
          | .error e => return .error e
          | .ok response =>
              return .ok (← storeResponse context client.upstream.id payload.previousResponseId response))
        reportNetworkError (.status .internalServerError) 0 clients

/-- What the handlers do before their loops. -/
def route (context : RequestContext) : (request : RetriedRequest) →
    (Option String → List UpstreamClient → Action (Reply request.Body)) → Action (Reply request.Body)
  | chatCompletions payload, next => withWalletBalance context (
      withModelClients context.libraries.buildsOpenAI payload.model "openai" featureChatCompletions 2 (fun clients =>
        if clients = [] then return .status .internalServerError else next none clients))
  | createEmbeddings payload, next => withWalletBalance context (
      withModelClients context.libraries.buildsOpenAI payload.model "openai" featureEmbeddings 2 (fun clients =>
        if clients = [] then return .status .internalServerError else next none clients))
  | generateImages payload, next => withWalletBalance context (
      withModelClients context.libraries.buildsOpenAI (imageModelToString payload.model) "openai" featureImages 2
        (fun clients =>
          if clients = [] then return .status .internalServerError else next none clients))
  | createMessage payload, next => checkWalletBalance insufficientBalance context.accountId (
      withAnthropicClients context payload.model 2 (fun clients =>
        if clients = [] then
          return .error .serviceUnavailable
            [.string "No upstream available for the requested model."] "overloaded_error" none
        else next none clients))
  | createResponse payload, next => withWalletBalance context (
      match payload.model with
      | none =>
          return .error .badRequest [.string "model is required"] "invalid_request_error"
            (some "missing_model")
      | some modelName =>
          withModelClients context.libraries.buildsOpenAI modelName "openai" featureResponses 2 (fun clients =>
            if clients = [] then return .status .internalServerError
            else withPreviousResponse payload.previousResponseId (fun original => next original clients)))

/-- The loop of a handler is over the clients that were selected, where there are any. -/
theorem handle_eq (request : RetriedRequest) (context : RequestContext) :
    request.handle context =
      request.route context (fun original clients => request.loop context original clients) := by
  cases request <;> rfl

def endpoint (context : RequestContext) (originalPreviousResponseId : Option String) :
    (request : RetriedRequest) → Endpoint request.Body
  | chatCompletions payload => chatEndpoint payload
  | createEmbeddings payload => embeddingsEndpoint payload
  | generateImages payload => imagesEndpoint payload
  | createMessage payload => messageEndpoint payload
  | createResponse payload => responseEndpoint context payload originalPreviousResponseId

def failed : RetriedRequest → UpstreamClient → ClientError → Action Unit
  | generateImages _ => fun _ _ => return ()
  | _ => reportNetworkError

def exhausted : (request : RetriedRequest) → Reply request.Body
  | createMessage _ => .error .internalServerError
      [.string "Internal server error while proxying to upstream."] "api_error" none
  | chatCompletions _ | createEmbeddings _ | generateImages _ | createResponse _ =>
      .status .internalServerError

section Attempts
variable {context : RequestContext}

theorem attempt_chatCompletions (payload : CreateChatCompletionRequest) (i : Nat) (client : UpstreamClient) :
    chatCompletionsWithClient client (.new context i client.modelDbId)
      { payload with model := client.fullname } = (chatEndpoint payload).attempt context i client := by
  unfold chatCompletionsWithClient chatEndpoint
  by_cases streams : payload.stream.getD false = true
  · simp only [streams, if_true]
    refine bind_congr (fun tracer => bind_congr ?_)
    rintro (e | stream)
    · rfl
    · dsimp only
      rw [transformStreamWithLogging_eq]
      rfl
  · simp only [streams]
    refine bind_congr (fun tracer => bind_congr ?_)
    rintro (e | response) <;> rfl

theorem attempt_createEmbeddings (payload : CreateEmbeddingRequest) (i : Nat) (client : UpstreamClient) :
    createEmbeddingsWithClient client (.new context i client.modelDbId)
      { payload with model := client.fullname } = (embeddingsEndpoint payload).attempt context i client := by
  refine bind_congr (fun tracer => bind_congr ?_)
  rintro (e | response) <;> rfl

theorem attempt_generateImages (payload : CreateImageRequest) (i : Nat) (client : UpstreamClient) :
    generateImagesWithClient client (.new context i client.modelDbId) payload =
      (imagesEndpoint payload).attempt context i client := by
  refine bind_congr (fun tracer => bind_congr ?_)
  rintro (e | response) <;> rfl

theorem attempt_createMessage (payload : CreateMessageParams) (i : Nat) (client : UpstreamClient) :
    createMessageWithClient client (.new context i client.modelDbId) (payload.stream.getD false)
      { payload with model := client.fullname } = (messageEndpoint payload).attempt context i client := by
  unfold createMessageWithClient messageEndpoint
  by_cases streams : payload.stream.getD false = true
  · simp only [streams, if_true]
    refine bind_congr (fun tracer => bind_congr ?_)
    rintro (e | stream)
    · rfl
    · dsimp only
      rw [transformSdkStream_eq (0, 0)]
      rfl
  · simp only [streams]
    refine bind_congr (fun tracer => bind_congr ?_)
    rintro (e | message) <;> rfl

theorem attempt_createResponse (payload : CreateResponse) (originalPreviousResponseId : Option String) (i : Nat)
    (client : UpstreamClient) :
    (do
      match ← createResponseWithClient client (.new context i client.modelDbId)
        { payload with
          model := some client.fullname
          previousResponseId := originalPreviousResponseId } with
      | .error e => return .error e
      | .ok response =>
          return .ok (← storeResponse context client.upstream.id payload.previousResponseId response)) =
      (responseEndpoint context payload originalPreviousResponseId).attempt context i client := by
  unfold createResponseWithClient
  simp only [bind_assoc]
  refine bind_congr (fun tracer => bind_congr ?_)
  rintro (e | response) <;> rfl

end Attempts

/-- The five loops are one. -/
theorem loop_eq (request : RetriedRequest) (context : RequestContext) (originalPreviousResponseId : Option String)
    (clients : List UpstreamClient) : request.loop context originalPreviousResponseId clients =
      tryClients ((request.endpoint context originalPreviousResponseId).attempt context)
        request.failed request.exhausted 0 clients := by
  cases request with
  | chatCompletions payload =>
      exact congrArg (fun attempt => tryClients attempt _ _ 0 clients)
        (funext₂ (attempt_chatCompletions payload))
  | createEmbeddings payload =>
      exact congrArg (fun attempt => tryClients attempt _ _ 0 clients)
        (funext₂ (attempt_createEmbeddings payload))
  | generateImages payload =>
      exact congrArg (fun attempt => tryClients attempt _ _ 0 clients)
        (funext₂ (attempt_generateImages payload))
  | createMessage payload =>
      exact congrArg (fun attempt => tryClients attempt _ _ 0 clients)
        (funext₂ (attempt_createMessage payload))
  | createResponse payload =>
      exact congrArg (fun attempt => tryClients attempt _ _ 0 clients)
        (funext₂ (attempt_createResponse payload originalPreviousResponseId))

theorem only_failed {P : Op engine → Prop} (request : RetriedRequest)
    (spawns : ∀ upstreamId, P (.remote (.spawnMarkOffline upstreamId))) (client : UpstreamClient) (e : ClientError) :
    (request.failed client e).Only P := by
  have reported : (reportNetworkError client e).Only P := by
    rw [reportNetworkError]
    split
    · exact only_bind (only_op (spawns client.upstream.id)) (fun _ => trivial)
    · trivial
  cases request with
  | generateImages payload => trivial
  | _ => exact reported

end RetriedRequest

/-- A reply that is an error. -/
def Reply.isError : Reply α → Bool
  | .status _ | .error _ _ _ _ | .sdkError _ => true
  | _ => false

/-- An endpoint serves a body or a stream, and stores rows only where `storing`. -/
structure Endpoint.Serves (endpoint : Endpoint α) (storing : Prop) : Prop where
  success : ∀ client answer, (∃ body, endpoint.served client answer = .json body) ∨
    endpoint.served client answer = .events
  rows : ∀ client answer, (endpoint.stores client answer).isSome = true → storing

theorem serves_chatEndpoint (payload : CreateChatCompletionRequest) : (chatEndpoint payload).Serves False := by
  unfold chatEndpoint
  split
  · exact ⟨fun _ _ => .inr rfl, fun _ _ => by rintro ⟨⟩⟩
  · exact ⟨fun _ response => .inl ⟨response, rfl⟩, fun _ _ => by rintro ⟨⟩⟩

theorem serves_messageEndpoint (payload : CreateMessageParams) : (messageEndpoint payload).Serves False := by
  unfold messageEndpoint
  split
  · exact ⟨fun _ _ => .inr rfl, fun _ _ => by rintro ⟨⟩⟩
  · exact ⟨fun _ message => .inl ⟨message, rfl⟩, fun _ _ => by rintro ⟨⟩⟩

theorem Endpoint.Serves.mono {endpoint : Endpoint α} {storing storing' : Prop} (serves : endpoint.Serves storing)
    (weaker : storing → storing') : endpoint.Serves storing' :=
  ⟨serves.success, fun client answer stores => weaker (serves.rows client answer stores)⟩

theorem Endpoint.Serves.reply {endpoint : Endpoint α} {storing : Prop} (serves : endpoint.Serves storing)
    (client : UpstreamClient) (answer : (endpoint.call client).Answer) :
    (endpoint.served client answer).isError = false ∧ endpoint.served client answer ≠ .panicked := by
  rcases serves.success client answer with ⟨body, served⟩ | served
  · rw [served]
    exact ⟨rfl, by rintro ⟨⟩⟩
  · rw [served]
    exact ⟨rfl, by rintro ⟨⟩⟩

namespace RetriedRequest

def storesRows : RetriedRequest → Bool
  | createResponse _ => true
  | _ => false

theorem serves (request : RetriedRequest) (context : RequestContext) (originalPreviousResponseId : Option String) :
    (request.endpoint context originalPreviousResponseId).Serves (request.storesRows = true) := by
  cases request with
  | chatCompletions payload => exact (serves_chatEndpoint payload).mono False.elim
  | createMessage payload => exact (serves_messageEndpoint payload).mono False.elim
  | createEmbeddings payload => exact ⟨fun _ response => .inl ⟨response, rfl⟩, fun _ _ => by rintro ⟨⟩⟩
  | generateImages payload => exact ⟨fun _ response => .inl ⟨response, rfl⟩, fun _ _ => by rintro ⟨⟩⟩
  | createResponse payload => exact ⟨fun _ _ => .inl ⟨_, rfl⟩, fun _ _ _ => rfl⟩

end RetriedRequest

section Replies
variable {endpoint : Endpoint α} {context : RequestContext} {exhausted reply : Reply α} {i : Nat}
  {clients : List UpstreamClient} {m m' : Solo engine} {trials : List (Trial endpoint)} {storing : Prop}

theorem Ended.reply_cases {refused : Bool} (ended : Ended endpoint exhausted clients trials reply refused)
    (serves : endpoint.Serves storing) (error : exhausted.isError = true) :
    reply ≠ .panicked ∧ (refused = true → storing) ∧
      (reply.isError = true ↔ (trials.map Trial.client = clients ∧ ∀ trial ∈ trials, trial.failed = true) ∨
        refused = true) := by
  cases ended with
  | exhausted all failed =>
      refine ⟨?_, by rintro ⟨⟩, fun _ => .inl ⟨all, failed⟩, fun _ => error⟩
      rintro rfl
      cases error
  | @answered failures client answer _ _ failed replied =>
      cases replied with
      | served =>
          obtain ⟨success, returned⟩ := serves.reply client answer
          refine ⟨returned, by rintro ⟨⟩, fun fails => absurd (success.symm.trans fails) Bool.false_ne_true, ?_⟩
          rintro (⟨_, all⟩ | never)
          · exact absurd (all _ (List.mem_append_right _ List.mem_cons_self)) Bool.false_ne_true
          · exact absurd never Bool.false_ne_true
      | unstored stores =>
          exact ⟨by rintro ⟨⟩, fun _ => serves.rows client answer stores, fun _ => .inr rfl, fun _ => rfl⟩

end Replies

section Events
variable {faults : Op engine → Prop} {m m' : Solo engine}

/-- Calls that take no event from the queue. -/
def KeepsEvents : Op engine → Prop
  | .remote (.ackEvent _) => False
  | _ => True

/-- What a call pushes is appended to the queue. -/
theorem KeepsEvents.after {op : Op engine} {reply : Except Failure op.Reply} {env : Env}
    (keeps : KeepsEvents op) (performed : op.perform (E := engine) env (session m.calls) m.db m.world = some reply) :
    ∃ newer, pushes (⟨op, reply⟩ :: m.calls) = newer ++ pushes m.calls ∧
      (op.moves (E := engine) env m.world).events = m.world.events ++ newer.reverse := by
  have same : ∀ world : World, world.events = m.world.events → world.events = m.world.events ++ [].reverse :=
    fun world same => same.trans (List.append_nil _).symm
  cases op with
  | remote c =>
      cases c with
      | pushEvent event => exact ⟨[event], rfl, rfl⟩
      | ackEvent event => exact absurd keeps id
      | fetchBalanceChange | fetchSpawned | fetchHealthCheck | getWalletInfo | getApiKeyInfo =>
          refine ⟨[], rfl, same _ ?_⟩
          simp only [Op.moves, remote]
          split <;> rfl
      | _ => exact ⟨[], rfl, same _ rfl⟩
  | _ => exact ⟨[], rfl, same _ rfl⟩

/-- The queue grows by what is pushed. -/
theorem Runs.events {p : Action α} (keeps : p.Only KeepsEvents)
    (accepted : ∀ event, ¬faults (.remote (.pushEvent event))) (ran : p.Runs faults m value m') :
    ∃ newer, pushes m'.calls = newer ++ pushes m.calls ∧ m'.world.events = m.world.events ++ newer.reverse := by
  induction ran with
  | done => exact ⟨[], rfl, (List.append_nil _).symm⟩
  | @call op next reply value m m' env performed rest ih =>
      obtain ⟨first, pushed, queued⟩ := keeps.1.after performed
      obtain ⟨later, pushed', queued'⟩ := ih (keeps.2 reply)
      refine ⟨later ++ first, ?_, ?_⟩
      · rw [List.append_assoc, ← pushed]
        exact pushed'
      · rw [List.reverse_append, ← List.append_assoc, ← queued]
        exact queued'
  | @fault op next value m m' faulty rest ih =>
      obtain ⟨later, pushed, queued⟩ := ih (keeps.2 _)
      refine ⟨later, pushed.trans (congrArg _ ?_), queued⟩
      cases op with
      | remote c =>
          cases c with
          | pushEvent event => exact absurd faulty (accepted event)
          | _ => rfl
      | _ => rfl

theorem keepsEvents_traceAll (tracer : SessionTracer) (data : List EventData) :
    (traceAll tracer data).Only KeepsEvents := by
  induction data generalizing tracer with
  | nil => trivial
  | cons first rest ih => exact only_bind (only_bind (only_op trivial) (fun _ => trivial)) (fun tracer => ih tracer)

theorem keepsEvents_attempt (endpoint : Endpoint α) (context : RequestContext) (i : Nat) (client : UpstreamClient) :
    (endpoint.attempt context i client).Only KeepsEvents := by
  refine only_bind (only_bind (only_op trivial) (fun _ => trivial)) (fun tracer => ?_)
  refine only_bind (only_bind (only_op trivial) (fun reply => by cases reply <;> trivial)) ?_
  rintro (e | answer)
  · trivial
  · refine only_bind (keepsEvents_traceAll _ _) (fun _ => only_bind ?_ (fun _ => trivial))
    rw [Endpoint.conclude]
    split
    · trivial
    · refine only_bind (only_queryAuto trivial) ?_
      rintro (e | stored) <;> trivial

theorem only_tryClients {P : Op engine → Prop}
    {attempt : Nat → UpstreamClient → Action (Except ClientError (Reply α))}
    {failed : UpstreamClient → ClientError → Action Unit} {exhausted : Reply α} {clients : List UpstreamClient}
    {i : Nat} (attempts : ∀ i client, (attempt i client).Only P) (failing : ∀ client e, (failed client e).Only P) :
    (tryClients attempt failed exhausted i clients).Only P := by
  induction clients generalizing i with
  | nil => trivial
  | cons client rest ih =>
      refine only_bind (attempts i client) ?_
      rintro (e | reply)
      · refine only_bind (failing client e) (fun _ => ?_)
        split
        · trivial
        · exact ih
      · trivial

end Events

namespace RetriedRequest

/-- Whatever the candidates answer, they are tried in their order, each in a session of its own,
until one succeeds: that is what is answered, and an error only where none has. -/
theorem loop_exact (request : RetriedRequest) (context : RequestContext)
    (originalPreviousResponseId : Option String) (clients : List UpstreamClient) (faults : Op engine → Prop)
    (m m' : Solo engine) (reply : Reply request.Body) (nonempty : clients ≠ [])
    (ran : (request.loop context originalPreviousResponseId clients).Runs faults m reply m') :
    ∃ trials : List (Trial (request.endpoint context originalPreviousResponseId)),
      Exact (request.endpoint context originalPreviousResponseId) context request.exhausted 0 clients m
        trials reply m' ∧
      reply ≠ .panicked ∧ (refusedWrite m'.calls = true → request.storesRows = true) ∧
      (reply.isError = true ↔ (trials.map Trial.client = clients ∧ ∀ trial ∈ trials, trial.failed = true) ∨
        refusedWrite m'.calls = true) ∧
      ((∀ event, ¬faults (.remote (.pushEvent event))) →
        m'.world.events = m.world.events ++ Trial.events context 0 trials) := by
  rw [loop_eq] at ran
  have aside : ∀ client e, (request.failed client e).Only Aside :=
    request.only_failed (fun _ _ _ => ⟨rfl, rfl, rfl⟩)
  obtain ⟨trials, exact⟩ := ran.yields (yields_tryClients aside nonempty 0 m)
  have error : request.exhausted.isError = true := by cases request <;> rfl
  obtain ⟨returned, stored, fails⟩ := exact.ended.reply_cases (request.serves _ _) error
  refine ⟨trials, exact, returned, stored, fails, fun accepted => ?_⟩
  have keeps : (tryClients ((request.endpoint context originalPreviousResponseId).attempt context)
      request.failed request.exhausted 0 clients).Only KeepsEvents :=
    only_tryClients (keepsEvents_attempt _ context) (request.only_failed (fun _ => trivial))
  obtain ⟨newer, pushed, queued⟩ := Runs.events keeps accepted ran
  rw [queued, List.append_cancel_right (pushed.symm.trans exact.traced), List.reverse_reverse]

def firstCandidate : UpstreamClient :=
  ⟨⟨1, "first", "https://a", "", "openai", [], [], "online", ""⟩, 1, "a/embed"⟩

def secondCandidate : UpstreamClient :=
  ⟨⟨2, "second", "https://b", "", "openai", [], [], "online", ""⟩, 2, "b/embed"⟩

/-- Only the model of the second candidate is answered. -/
def secondAnswers : Env := { Env.plain 0 1 with
  answers := fun
    | .createEmbedding request => if request.model = "b/embed" then .ok ⟨⟨10, 10⟩⟩ else .error .network
    | _ => .error .network }

/-- Each attempt draws a session of its own. -/
def twoSessions : RequestContext :=
  ⟨1, 1, fun attempt => if attempt = 0 then "s-1" else "s-2", fun _ => "u", .direct⟩

theorem loop_exact_second : ∃ reply m',
    ((createEmbeddings ⟨"embed"⟩).loop twoSessions none [firstCandidate, secondCandidate]).Runs (fun _ => False)
      ⟨[], Db.empty, World.empty⟩ reply m' ∧
    reply.isError = false ∧ (pushes m'.calls).map (fun e => e.sessionId) = ["s-2", "s-2", "s-1"] ∧
    ∃ trials, Exact ((createEmbeddings ⟨"embed"⟩).endpoint twoSessions none) twoSessions
      (createEmbeddings ⟨"embed"⟩).exhausted 0 [firstCandidate, secondCandidate]
      ⟨[], Db.empty, World.empty⟩ trials reply m' := by
  have ran : ∃ reply m', reply.isError = false ∧
      (pushes m'.calls).map (fun e => e.sessionId) = ["s-2", "s-2", "s-1"] ∧
      ((createEmbeddings ⟨"embed"⟩).loop twoSessions none [firstCandidate, secondCandidate]).alone secondAnswers
        ⟨[], Db.empty, World.empty⟩ = some (reply, m') :=
    ⟨.json ⟨⟨10, 10⟩⟩, _, rfl, rfl, rfl⟩
  obtain ⟨reply, m', success, sessions, ran⟩ := ran
  have runs : ((createEmbeddings ⟨"embed"⟩).loop twoSessions none [firstCandidate, secondCandidate]).Runs
      (fun _ => False) ⟨[], Db.empty, World.empty⟩ reply m' := runs_of_alone ran
  obtain ⟨trials, exact, _⟩ := loop_exact (createEmbeddings ⟨"embed"⟩) twoSessions none
    [firstCandidate, secondCandidate] (fun _ => False) ⟨[], Db.empty, World.empty⟩ m' reply (List.cons_ne_nil _ _)
    runs
  exact ⟨reply, m', runs, success, sessions, trials, exact⟩

end RetriedRequest

end LLMPool.ProxyViews
