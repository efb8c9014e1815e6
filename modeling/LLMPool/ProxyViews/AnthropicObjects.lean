import LLMPool.ProxyViews.Anthropic
import LLMPool.ProxyViews.Files

/-! The handlers of the Anthropic API that trace nothing: token counts, stored files
and message batches. A stored object is looked for at the client that the load-based
selection gives for no model. -/
namespace LLMPool.ProxyViews
open Transactions

/-- The first client for a model name, or an `overloaded_error`. -/
def withAnthropicClient (context : RequestContext) (modelName unavailable : String)
    (next : UpstreamClient → Action (Reply α)) : Action (Reply α) :=
  withAnthropicClients context modelName 1 (fun clients =>
    match clients with
    | [] => return .error .serviceUnavailable [.string unavailable] "overloaded_error" none
    | client :: _ => next client)

/-- `anthropic_sdk_request` and its siblings take an answer that cannot be read for an
error of the connection. -/
def anthropicSdkRequest (client : UpstreamClient) (call : UpstreamCall) :
    Action (Except ClientError call.Answer) := do
  match ← callUpstream client.upstream call with
  | .error .deserialize => return .error .network
  | answer => return answer

def countMessageTokens (context : RequestContext) (payload : CountMessageTokensParams) :
    Action (Reply CountMessageTokensResponse) :=
  checkWalletBalance insufficientBalance context.accountId (
    withAnthropicClient context payload.model "No upstream available for the requested model."
      (fun client => do
        match ← anthropicSdkRequest client (.countMessageTokens payload) with
        | .ok result => return .json result
        | .error e => do
            reportNetworkError client e
            return .error .internalServerError
              [.string "Internal server error while counting tokens."] "api_error" none))

/-- An object's row and a client; `kind` names the object in the message. -/
def withStored (context : RequestContext) (kind objectId : String) (resolve : Query (Option β))
    (next : β → UpstreamClient → Action (Reply α)) : Action (Reply α) :=
  checkWalletBalance insufficientBalance context.accountId (do
    match ← resolve.run with
    | .ok none =>
        return .error .notFound
          [.string kind, .string " '", .string objectId, .string "' not found."]
          "not_found_error" none
    | .error _ => return .status .internalServerError
    | .ok (some row) => withAnthropicClient context "" "No upstream available." (next row))

/-- The body with another id; `none` where indexing a body that is no object panics. -/
def withId (id : String) : Value → Option Value
  | .object fields => some (.object (("id", .string id) :: fields.filter (fun f => f.1 ≠ "id")))
  | .null => some (.object [("id", .string id)])
  | _ => none

/-- Send a file request; every failure to send counts as one of the connection, and an
error of the upstream is passed on as it is. -/
def sendFileRequest (client : UpstreamClient) (request : AnthropicFileRequest)
    (next : RawResponse → Action (Reply Value)) : Action (Reply Value) := do
  match ← callUpstream client.upstream (.anthropicFile request) with
  | .error _ => do
      reportNetworkError client .network
      return .sdkError .network
  | .ok response => if response.isSuccess then next response else return .raw response

/-- The `id` of a JSON object, where it is a string. -/
def idOf : Value → String
  | .object fields =>
      match fields.lookup "id" with
      | some (.string id) => id
      | _ => ""
  | _ => ""

/-- Store the mapping of an uploaded file; a body without an id is passed on as it is. -/
def storeUpload (context : RequestContext) (client : UpstreamClient) (purpose : String)
    (file : Value) : Action (Reply Value) :=
  if idOf file = "" then return .json file
  else do
    let ourFileId := mintedId "anthropic-file-" (context.minted 0)
    match ← (createFileMeta ourFileId (idOf file) purpose client.upstream.id).run with
    | .error _ => return .status .internalServerError
    | .ok _ =>
        match withId ourFileId file with
        | none => return .panicked
        | some file => return .json file

def uploadFile (context : RequestContext) (body : List MultipartField) : Action (Reply Value) :=
  checkWalletBalance insufficientBalance context.accountId (
    withAnthropicClient context "" "No upstream available." (fun client =>
      withForm none body (fun form bytes =>
        let purpose := form.purpose.getD "batch_input"
        let mime := form.contentType.getD ⟨"application/octet-stream", true⟩
        if mime.parses = false then return .status .internalServerError
        else
          sendFileRequest client
            (.upload ⟨form.filename.getD "upload.bin", mime.text, bytes, purpose⟩)
            (fun response =>
              match response.json with
              | none => return .status .internalServerError
              | some file => storeUpload context client purpose file))))

/-- Answer with the upstream's file under the pool's id. -/
def answerFile (fileId : String) (response : RawResponse) : Reply Value :=
  match response.json with
  | none => .status .internalServerError
  | some file =>
      match withId fileId file with
      | none => .panicked
      | some file => .json file

def retrieveFile (context : RequestContext) (fileId : String) : Action (Reply Value) :=
  withStored context "File" fileId (getFileMetaByFileId fileId) (fun fileMeta client =>
    sendFileRequest client (.retrieve fileMeta.originalFileId) (fun response =>
      return answerFile fileId response))

def deleteFile (context : RequestContext) (fileId : String) : Action (Reply Value) :=
  withStored context "File" fileId (getFileMetaByFileId fileId) (fun fileMeta client =>
    sendFileRequest client (.delete fileMeta.originalFileId) (fun response => do
      markFileMetaDeleted fileId
      return answerFile fileId response))

def fileContent (context : RequestContext) (fileId : String) : Action (Reply Value) :=
  withStored context "File" fileId (getFileMetaByFileId fileId) (fun fileMeta client =>
    sendFileRequest client (.content fileMeta.originalFileId) (fun response =>
      return .raw response))

/-- Whatever the upstream answers is passed on. -/
def listFiles (context : RequestContext) : Action (Reply Value) :=
  checkWalletBalance insufficientBalance context.accountId (
    withAnthropicClient context "" "No upstream available." (fun client =>
      sendFileRequest client .list (fun response => return .raw response)))

def answerSdkError (client : UpstreamClient) (e : ClientError) : Action (Reply α) := do
  reportNetworkError client e
  return .sdkError e

/-- A failure is only logged. -/
def syncMessageBatchStatus (batchId : String) (batch : MessageBatch) : Action Unit := do
  let _ ← (Query.auto (.updateBatchMetaStatus batchId batch.processingStatus)).run

/-- The client is chosen by the model of the first request. -/
def createMessageBatch (context : RequestContext) (payload : CreateMessageBatchParams) :
    Action (Reply MessageBatch) :=
  let modelName := (payload.requests.head?.map (fun r => r.params.model)).getD ""
  checkWalletBalance insufficientBalance context.accountId (
    withAnthropicClient context modelName "No upstream available for the requested model." (fun client => do
      match ← anthropicSdkRequest client (.createMessageBatch payload) with
      | .error e => answerSdkError client e
      | .ok batch =>
          let ourBatchId := mintedId "msgbatch-" (context.minted 0)
          match ← (Query.auto
              (.insertBatchMeta ourBatchId batch.id client.upstream.id "anthropic")).run with
          | .error _ => return .status .internalServerError
          | .ok _ =>
              let batch := { batch with id := ourBatchId }
              syncMessageBatchStatus ourBatchId batch
              return .json batch))

def listMessageBatches (context : RequestContext) : Action (Reply (List MessageBatch)) :=
  checkWalletBalance insufficientBalance context.accountId (
    withAnthropicClient context "" "No upstream available." (fun client => do
      match ← anthropicSdkRequest client .listMessageBatches with
      | .ok batches => return .json batches
      | .error e => answerSdkError client e))

def resolveBatchMeta (batchId : String) : Query (Option BatchMeta) :=
  Query.auto (.getBatchMetaByBatchId batchId)

/-- What retrieving and cancelling a message batch share. -/
def onMessageBatch (context : RequestContext) (batchId : String)
    (request : String → MessageBatchRequest) : Action (Reply MessageBatch) :=
  withStored context "Message batch" batchId (resolveBatchMeta batchId) (fun batchMeta client => do
    match ← anthropicSdkRequest client (.messageBatch (request batchMeta.originalBatchId)) with
    | .error e => answerSdkError client e
    | .ok batch =>
        let batch := { batch with id := batchId }
        syncMessageBatchStatus batchId batch
        return .json batch)

def retrieveMessageBatch (context : RequestContext) (batchId : String) :
    Action (Reply MessageBatch) :=
  onMessageBatch context batchId .retrieve

def cancelMessageBatch (context : RequestContext) (batchId : String) :
    Action (Reply MessageBatch) :=
  onMessageBatch context batchId .cancel

/-- The lines of the results are passed on unread. -/
def retrieveMessageBatchResults (context : RequestContext) (batchId : String) :
    Action (Reply (List MessageBatchIndividualResponse)) :=
  withStored context "Message batch" batchId (resolveBatchMeta batchId) (fun batchMeta client => do
    match ← callUpstream client.upstream (.messageBatchResults batchMeta.originalBatchId) with
    | .error e => answerSdkError client e
    | .ok items => return .streamed items)

end LLMPool.ProxyViews
