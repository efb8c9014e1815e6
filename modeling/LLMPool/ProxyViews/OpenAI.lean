import LLMPool.ProxyViews.Helpers

/-! The handlers of the OpenAI API that trace events: chat completions, embeddings,
images, responses and batches. -/
namespace LLMPool.ProxyViews
open Transactions

def featureChatCompletions : String := "chat/completions"
def featureImages : String := "images"
def featureEmbeddings : String := "embeddings"
def featureResponses : String := "responses"
def featureAudioSpeech : String := "audio/speech"

def withWalletBalance (context : RequestContext) (next : Action (Reply α)) : Action (Reply α) :=
  checkWalletBalance "账户余额不够，请充值后继续使用。" context.accountId next

/-- Choose at most two clients and try them. -/
def routeRequest (context : RequestContext) (modelName provider feature : String) (unavailable : Reply α)
    (attempt : Nat → UpstreamClient → Action (Except ClientError (Reply α)))
    (failed : UpstreamClient → ClientError → Action Unit) (exhausted : Reply α) :
    Action (Reply α) :=
  withModelClients context.libraries.buildsOpenAI modelName provider feature 2 (fun clients =>
    if clients = [] then return unavailable
    else tryClients attempt failed exhausted 0 clients)

/-- The event stream of a chat completion: every chunk is an event of its own, and an
error ends the stream. -/
def transformStreamWithLogging :
    StreamItems CreateChatCompletionStreamResponse → SessionTracer → Action Unit
  | .ok response :: rest, tracer => do
      let tracer ← tracer.add (.openai (.createChatCompletionStreamResponse response))
      transformStreamWithLogging rest tracer
  | _, tracer => do
      let _ ← tracer.add (.openai .createChatCompletionStreamResponseDone)

def chatCompletionsWithClient (client : UpstreamClient) (tracer : SessionTracer)
    (payload : CreateChatCompletionRequest) :
    Action (Except ClientError (Reply CreateChatCompletionResponse)) := do
  let tracer ← tracer.add (.openai (.createChatCompletionRequest payload))
  if payload.stream.getD false then
    match ← callUpstream client.upstream (.createChatStream payload) with
    | .error e => return .error e
    | .ok stream =>
        transformStreamWithLogging stream tracer
        return .ok .events
  else
    match ← callUpstream client.upstream (.createChat payload) with
    | .error e => return .error e
    | .ok response =>
        let _ ← tracer.add (.openai (.createChatCompletionResponse response))
        return .ok (.json response)

def chatCompletions (context : RequestContext) (payload : CreateChatCompletionRequest) :
    Action (Reply CreateChatCompletionResponse) :=
  withWalletBalance context
    (routeRequest context payload.model "openai" featureChatCompletions (.status .internalServerError)
      (fun i client => chatCompletionsWithClient client (.new context i client.modelDbId)
        { payload with model := client.fullname })
      reportNetworkError (.status .internalServerError))

def createEmbeddingsWithClient (client : UpstreamClient) (tracer : SessionTracer)
    (payload : CreateEmbeddingRequest) :
    Action (Except ClientError (Reply CreateEmbeddingResponse)) := do
  let tracer ← tracer.add (.openai (.createEmbeddingRequest payload))
  match ← callUpstream client.upstream (.createEmbedding payload) with
  | .error e => return .error e
  | .ok response =>
      let _ ← tracer.add (.openai (.createEmbeddingResponse response))
      return .ok (.json response)

def createEmbeddings (context : RequestContext) (payload : CreateEmbeddingRequest) :
    Action (Reply CreateEmbeddingResponse) :=
  withWalletBalance context
    (routeRequest context payload.model "openai" featureEmbeddings (.status .internalServerError)
      (fun i client => createEmbeddingsWithClient client (.new context i client.modelDbId)
        { payload with model := client.fullname })
      reportNetworkError (.status .internalServerError))

def generateImagesWithClient (client : UpstreamClient) (tracer : SessionTracer)
    (payload : CreateImageRequest) : Action (Except ClientError (Reply ImagesResponse)) := do
  let tracer ← tracer.add (.openai (.createImageRequest payload))
  match ← callUpstream client.upstream (.generateImages payload) with
  | .error e => return .error e
  | .ok response =>
      let _ ← tracer.add (.openai (.imagesResponse response))
      return .ok (.json response)

def imageModelToString : Option ImageModel → String
  | some .gptImage1 => "gpt-image-1"
  | some .gptImage1dot5 => "gpt-image-1.5"
  | some .gptImage1Mini => "gpt-image-1-mini"
  | some .dallE2 => "dall-e-2"
  | some .dallE3 => "dall-e-3"
  | some (.other name) => name
  | none => "dall-e-2"

/-- The request is forwarded with the model that the client named, and no upstream is
marked offline. -/
def generateImages (context : RequestContext) (payload : CreateImageRequest) :
    Action (Reply ImagesResponse) :=
  withWalletBalance context
    (routeRequest context (imageModelToString payload.model) "openai" featureImages
      (.status .internalServerError)
      (fun i client => generateImagesWithClient client (.new context i client.modelDbId) payload)
      (fun _ _ => return ()) (.status .internalServerError))

def speechModelToString : SpeechModel → String
  | .tts1 => "tts-1"
  | .tts1Hd => "tts-1-hd"
  | .gpt4oMiniTts => "gpt-4o-mini-tts"
  | .other name => name

/-- One client is tried, and nothing is traced. -/
def createSpeech (context : RequestContext) (payload : CreateSpeechRequest) :
    Action (Reply (List UInt8)) :=
  withWalletBalance context (withModelClients context.libraries.buildsOpenAI
    (speechModelToString payload.model) "openai" featureAudioSpeech 1 (fun clients =>
      match clients with
      | [] => return .status .internalServerError
      | client :: _ => do
          match ← callUpstream client.upstream (.createSpeech payload) with
          | .ok bytes => return .streamed bytes
          | .error e => do
              reportNetworkError client e
              return .status .internalServerError))

/-- An id of the pool: a UUID without its hyphens. -/
def mintedId (kind uuid : String) : String :=
  kind ++ String.ofList (uuid.toList.filter (fun c => c ≠ '-'))

def getResponseMetaByResponseId (responseId : String) : Query (Option ResponseMeta) :=
  Query.auto (.getResponseMetaByResponseId responseId)

def getOriginalResponseId (responseId : String) : Query (Option String) := do
  return (← getResponseMetaByResponseId responseId).map (fun r => r.originalResponseId)

def createResponseMeta (responseId originalResponseId : String) (upstreamId : Int) :
    Query ResponseMeta :=
  Query.auto (.insertResponseMeta responseId originalResponseId upstreamId)

def createResponseWithClient (client : UpstreamClient) (tracer : SessionTracer)
    (payload : CreateResponse) : Action (Except ClientError Response) := do
  let tracer ← tracer.add (.openai (.responsesRequest payload))
  match ← callUpstream client.upstream (.createResponse payload) with
  | .error e => return .error e
  | .ok response =>
      let _ ← tracer.add (.openai (.responsesResponse response))
      return .ok response

/-- Store the mapping of a new response, and answer with the pool's own ids. -/
def storeResponse (context : RequestContext) (upstreamId : Int)
    (ourPreviousResponseId : Option String) (response : Response) : Action (Reply Response) := do
  let ourResponseId := mintedId "resp-" (context.minted 0)
  match ← (createResponseMeta ourResponseId response.id upstreamId).run with
  | .error _ => return .status .internalServerError
  | .ok _ =>
      return .json { response with
        id := ourResponseId
        previousResponseId := ourPreviousResponseId.orElse (fun _ => response.previousResponseId) }

/-- The id that the upstream knows a previous response by. -/
def withPreviousResponse (previousResponseId : Option String)
    (next : Option String → Action (Reply Response)) : Action (Reply Response) :=
  match previousResponseId with
  | none => next none
  | some prevId => do
      match ← (getOriginalResponseId prevId).run with
      | .ok (some originalId) => next (some originalId)
      | .ok none =>
          return .error .notFound
            [.string "Previous response '", .string prevId, .string "' not found."]
            "invalid_request_error" (some "response_not_found")
      | .error _ => return .status .internalServerError

def createResponse (context : RequestContext) (payload : CreateResponse) :
    Action (Reply Response) :=
  withWalletBalance context (
    match payload.model with
    | none =>
        return .error .badRequest [.string "model is required"] "invalid_request_error"
          (some "missing_model")
    | some modelName => withModelClients context.libraries.buildsOpenAI modelName "openai" featureResponses 2
        (fun clients =>
        if clients = [] then return .status .internalServerError
        else withPreviousResponse payload.previousResponseId (fun originalPreviousResponseId =>
          tryClients (fun i client => do
              match ← createResponseWithClient client (.new context i client.modelDbId)
                { payload with
                  model := some client.fullname
                  previousResponseId := originalPreviousResponseId } with
              | .error e => return .error e
              | .ok response =>
                  return .ok (← storeResponse context client.upstream.id payload.previousResponseId
                    response))
            reportNetworkError (.status .internalServerError) 0 clients)))

/-- Look up an upstream by the id that an object's row names. -/
def withUpstream (upstreamId : Int) (next : LLMUpstream → Action (Reply α)) :
    Action (Reply α) := do
  match ← (getUpstream upstreamId).run with
  | .ok upstream => next upstream
  | .error .rowNotFound =>
      return .error .serviceUnavailable
        [.string "Upstream ", .integer upstreamId, .string " not found."]
        "server_error" (some "upstream_not_found")
  | .error (.database _) => return .status .internalServerError

/-- The pool's id of a previous response, where there is one. -/
def ourPreviousResponse (response : Response) : Query (Option String) :=
  match response.previousResponseId with
  | none => return none
  | some upstreamPrevId => do
      match ← Query.auto (.getResponseIdFromOriginalResponseId upstreamPrevId) with
      | some ourPrevId => return some ourPrevId
      | none => return some upstreamPrevId

def retrieveResponse (context : RequestContext) (responseId : String) : Action (Reply Response) :=
  withWalletBalance context (do
    match ← (getResponseMetaByResponseId responseId).run with
    | .ok none =>
        return .error .notFound [.string "Response '", .string responseId, .string "' not found."]
          "invalid_request_error" (some "response_not_found")
    | .error _ => return .status .internalServerError
    | .ok (some responseMeta) => withUpstream responseMeta.upstreamId (fun upstream => do
        let tracer := SessionTracer.new context 0 upstream.id
        match ← callUpstream upstream (.retrieveResponse responseMeta.originalResponseId) with
        | .error _ => return .status .internalServerError
        | .ok response =>
            let _ ← tracer.add (.openai (.responsesResponse response))
            match ← (ourPreviousResponse response).run with
            | .error _ => return .status .internalServerError
            | .ok previousResponseId =>
                return .json { response with id := responseId, previousResponseId }))

/-- No balance is needed, and nothing is traced. -/
def deleteResponse (responseId : String) : Action (Reply DeleteResponse) := do
  match ← (getResponseMetaByResponseId responseId).run with
  | .ok none =>
      return .error .notFound [.string "Response '", .string responseId, .string "' not found."]
        "invalid_request_error" (some "response_not_found")
  | .error _ => return .status .internalServerError
  | .ok (some responseMeta) => withUpstream responseMeta.upstreamId (fun upstream => do
      match ← callUpstream upstream (.deleteResponse responseMeta.originalResponseId) with
      | .error _ => return .status .internalServerError
      | .ok deleted =>
          match ← (Query.auto (.markResponseMetaDeleted responseId)).run with
          | .error _ => return .status .internalServerError
          | .ok _ => return .json deleted)

def BatchStatus.asStr : BatchStatus → String
  | .validating => "validating"
  | .failed => "failed"
  | .inProgress => "in_progress"
  | .finalizing => "finalizing"
  | .completed => "completed"
  | .expired => "expired"
  | .cancelling => "cancelling"
  | .cancelled => "cancelled"

/-- A failure is only logged. -/
def syncBatchStatus (batchId : String) (batch : Batch) : Action Unit := do
  let _ ← (Query.auto (.updateBatchMetaStatus batchId (BatchStatus.asStr batch.status))).run

/-- `wrap_file`: reuse the mapping of an upstream's file, or store a new one. -/
def wrapFile (context : RequestContext) (fileId : Option String) (upstreamId : Int) :
    Query (Option FileMeta) :=
  match fileId with
  | none => return none
  | some originalFileId => do
      match ← Query.auto (.getFileMetaByOriginalFileId originalFileId upstreamId) with
      | some existing => return some existing
      | none =>
          return some (← Query.auto (.insertFileMeta (mintedId "file-" (context.minted 1))
            originalFileId "batch_output" upstreamId))

/-- Wrap the output file of a batch, trace the batch and answer with it. -/
def answerBatch (context : RequestContext) (tracer : SessionTracer) (upstreamId : Int)
    (batch : Batch) : Action (Reply Batch) := do
  match ← (wrapFile context batch.outputFileId upstreamId).run with
  | .error _ => return .status .internalServerError
  | .ok fileMeta =>
      let batch := { batch with outputFileId := fileMeta.map (fun f => f.fileId) }
      let _ ← tracer.add (.openai (.batch batch))
      return .json batch

def createBatch (context : RequestContext) (payload : BatchRequest) : Action (Reply Batch) :=
  withWalletBalance context (do
    match ← (Query.auto (.getFileMetaByFileId payload.inputFileId)).run with
    | .ok none =>
        return .error .notFound
          [.string "File '", .string payload.inputFileId, .string "' not found."]
          "invalid_request_error" (some "file_not_found")
    | .error _ => return .status .internalServerError
    | .ok (some fileMeta) => withUpstream fileMeta.upstreamId (fun upstream => do
        let tracer ← (SessionTracer.new context 0 upstream.id).add (.openai (.batchRequest payload))
        withClient context upstream (do
          match ← callUpstream upstream (.createBatch ⟨fileMeta.originalFileId⟩) with
          | .error _ => return .status .internalServerError
          | .ok batch =>
              let ourBatchId := mintedId "batch-" (context.minted 0)
              match ← (Query.auto (.insertBatchMeta ourBatchId batch.id upstream.id "openai")).run with
              | .error _ => return .status .internalServerError
              | .ok _ =>
                  let batch := { batch with id := ourBatchId }
                  syncBatchStatus ourBatchId batch
                  answerBatch context tracer upstream.id batch)))

/-- What the handlers on one batch share: its row, its upstream and a session. -/
def withBatch (context : RequestContext) (batchId : String)
    (next : BatchMeta → LLMUpstream → SessionTracer → Action (Reply Batch)) :
    Action (Reply Batch) :=
  withWalletBalance context (do
    match ← (Query.auto (.getBatchMetaByBatchId batchId)).run with
    | .ok none =>
        return .error .notFound [.string "Batch '", .string batchId, .string "' not found."]
          "invalid_request_error" (some "batch_not_found")
    | .error _ => return .status .internalServerError
    | .ok (some batchMeta) => withUpstream batchMeta.upstreamId (fun upstream =>
        withClient context upstream (next batchMeta upstream (.new context 0 upstream.id))))

def retrieveBatch (context : RequestContext) (batchId : String) : Action (Reply Batch) :=
  withBatch context batchId (fun batchMeta upstream tracer => do
    match ← callUpstream upstream (.retrieveBatch batchMeta.originalBatchId) with
    | .error _ => return .status .internalServerError
    | .ok batch =>
        let batch := { batch with id := batchId }
        syncBatchStatus batchId batch
        answerBatch context tracer batchMeta.upstreamId batch)

/-- The status of the row is not synced. -/
def cancelBatch (context : RequestContext) (batchId : String) : Action (Reply Batch) :=
  withBatch context batchId (fun batchMeta upstream tracer => do
    match ← callUpstream upstream (.cancelBatch batchMeta.originalBatchId) with
    | .error _ => return .status .internalServerError
    | .ok batch =>
        answerBatch context tracer batchMeta.upstreamId { batch with id := batchId })

end LLMPool.ProxyViews
