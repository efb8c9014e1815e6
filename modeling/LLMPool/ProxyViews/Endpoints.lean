import LLMPool.ProxyViews.MessageStreams
import LLMPool.ProxyViews.OpenAI

/-! What one attempt at a client does, for each handler that retries: the event of the
request, the call, the events of the answer, and the reply that is made of it. -/
namespace LLMPool.ProxyViews
open Transactions Snapshots

/-- `served` is the reply to an answer, and `stores` the row that has to be stored before it:
the pool's id, the upstream's and the upstream. -/
structure Endpoint (α : Type) where
  call : UpstreamClient → UpstreamCall
  request : UpstreamClient → EventData
  responses : (client : UpstreamClient) → (call client).Answer → List EventData
  served : (client : UpstreamClient) → (call client).Answer → Reply α
  stores : (client : UpstreamClient) → (call client).Answer → Option (String × String × Int)

def traceAll (tracer : SessionTracer) : List EventData → Action Unit
  | [] => return ()
  | data :: rest => do
      let tracer ← tracer.add data
      traceAll tracer rest

def Endpoint.conclude (endpoint : Endpoint α) (client : UpstreamClient)
    (answer : (endpoint.call client).Answer) : Action (Reply α) :=
  match endpoint.stores client answer with
  | none => return endpoint.served client answer
  | some (responseId, originalResponseId, upstreamId) => do
      match ← (createResponseMeta responseId originalResponseId upstreamId).run with
      | .error _ => return .status .internalServerError
      | .ok _ => return endpoint.served client answer

/-- Every attempt opens a session of its own. -/
def Endpoint.attempt (endpoint : Endpoint α) (context : RequestContext) (i : Nat) (client : UpstreamClient) :
    Action (Except ClientError (Reply α)) := do
  let tracer ← (SessionTracer.new context i client.modelDbId).add (endpoint.request client)
  match ← callUpstream client.upstream (endpoint.call client) with
  | .error e => return .error e
  | .ok answer => do
      traceAll tracer (endpoint.responses client answer)
      return .ok (← endpoint.conclude client answer)

section Streams

theorem transformStreamWithLogging_eq (items : StreamItems CreateChatCompletionStreamResponse)
    (tracer : SessionTracer) : transformStreamWithLogging items tracer =
      traceAll tracer ((consumed items).map (fun chunk => .openai (.createChatCompletionStreamResponse chunk)) ++
        [.openai .createChatCompletionStreamResponseDone]) := by
  induction items generalizing tracer with
  | nil => rfl
  | cons item rest ih =>
      cases item with
      | error e => rfl
      | ok chunk => exact congrArg (fun f => tracer.add _ >>= f) (funext (fun tracer => ih tracer))

theorem transformSdkStream_eq (counters : Nat × Nat) (items : StreamItems MessageStreamEvent)
    (tracer : SessionTracer) : transformSdkStream counters.1 counters.2 items tracer =
      traceAll tracer ((snapshots metered isStop counters (consumed items)).map streamDone) := by
  induction items generalizing tracer counters with
  | nil => rfl
  | cons item rest ih =>
      cases item with
      | error e => rfl
      | ok event =>
          cases event with
          | messageStop =>
              exact congrArg (fun f => tracer.add _ >>= f) (funext (fun tracer => ih counters tracer))
          | messageStart message => exact ih (metered counters (.messageStart message)) tracer
          | messageDelta outputTokens => exact ih (metered counters (.messageDelta outputTokens)) tracer
          | contentBlockStart => exact ih counters tracer
          | contentBlockDelta => exact ih counters tracer
          | contentBlockStop => exact ih counters tracer

end Streams

/-- An endpoint whose answer is the reply's body. -/
def Endpoint.answering {α : Type} (call : UpstreamClient → UpstreamCall) (request : UpstreamClient → EventData)
    (response : (client : UpstreamClient) → (call client).Answer → EventData)
    (body : (client : UpstreamClient) → (call client).Answer → α) : Endpoint α where
  call := call
  request := request
  responses client answer := [response client answer]
  served client answer := .json (body client answer)
  stores _ _ := none

section Handlers

def chatEndpoint (payload : CreateChatCompletionRequest) : Endpoint CreateChatCompletionResponse :=
  if payload.stream.getD false then {
    call client := .createChatStream { payload with model := client.fullname }
    request client := .openai (.createChatCompletionRequest { payload with model := client.fullname })
    responses _ stream :=
      (consumed stream).map (fun chunk => .openai (.createChatCompletionStreamResponse chunk)) ++
        [.openai .createChatCompletionStreamResponseDone]
    served _ _ := .events
    stores _ _ := none }
  else .answering (fun client => .createChat { payload with model := client.fullname })
    (fun client => .openai (.createChatCompletionRequest { payload with model := client.fullname }))
    (fun _ response => .openai (.createChatCompletionResponse response)) (fun _ response => response)

def embeddingsEndpoint (payload : CreateEmbeddingRequest) : Endpoint CreateEmbeddingResponse :=
  .answering (fun client => .createEmbedding { payload with model := client.fullname })
    (fun client => .openai (.createEmbeddingRequest { payload with model := client.fullname }))
    (fun _ response => .openai (.createEmbeddingResponse response)) (fun _ response => response)

/-- The model that the client named is forwarded. -/
def imagesEndpoint (payload : CreateImageRequest) : Endpoint ImagesResponse :=
  .answering (fun _ => .generateImages payload) (fun _ => .openai (.createImageRequest payload))
    (fun _ response => .openai (.imagesResponse response)) (fun _ response => response)

/-- A stream is traced at each stop that it receives. -/
def messageEndpoint (payload : CreateMessageParams) : Endpoint Message :=
  if payload.stream.getD false then {
    call client := .createMessageStream { payload with model := client.fullname }
    request client := .anthropic (.createMessageStreamRequest { payload with model := client.fullname })
    responses _ stream := (snapshots metered isStop (0, 0) (consumed stream)).map streamDone
    served _ _ := .events
    stores _ _ := none }
  else .answering (fun client => .createMessage { payload with model := client.fullname })
    (fun client => .anthropic (.createMessageRequest { payload with model := client.fullname }))
    (fun _ message => .anthropic (.createMessageResponse message)) (fun _ message => message)

/-- The mapping of a response is stored before it is answered. -/
def responseEndpoint (context : RequestContext) (payload : CreateResponse)
    (originalPreviousResponseId : Option String) : Endpoint Response where
  call client := .createResponse { payload with
    model := some client.fullname, previousResponseId := originalPreviousResponseId }
  request client := .openai (.responsesRequest { payload with
    model := some client.fullname, previousResponseId := originalPreviousResponseId })
  responses _ response := [.openai (.responsesResponse response)]
  served _ response := .json { response with
    id := mintedId "resp-" (context.minted 0)
    previousResponseId := payload.previousResponseId.orElse (fun _ => response.previousResponseId) }
  stores client response := some (mintedId "resp-" (context.minted 0), response.id, client.upstream.id)

end Handlers

end LLMPool.ProxyViews
