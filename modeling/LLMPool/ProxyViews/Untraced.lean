import LLMPool.ProxyViews.Tracing

/-! The handlers that trace nothing: speech, token counts, files and message batches. -/
namespace LLMPool.ProxyViews
open Transactions

variable {served : List (Call engine) → Int → LLMUpstream → Prop} {calls : List (Call engine)}

theorem path_untraced {p : Action α} (untraced : p.Only Untraced) :
    p.path (Traced served) (fun _ _ => True) calls := by
  induction p generalizing calls with
  | done value => trivial
  | call op next ih => exact ⟨untraced.1.traced, fun reply _ => ih reply (untraced.2 reply)⟩

theorem untraced_of_quiet {p : Action α} (quiet : p.Only Quiet) : p.Only Untraced :=
  quiet.mono (fun _ made => made.untraced)

theorem untraced_callUpstream (u : LLMUpstream) (call : UpstreamCall) :
    (callUpstream u call).Only Untraced := by
  refine only_bind (only_op trivial) ?_
  rintro (reason | answer) <;> trivial

theorem untraced_checkWalletBalance {insufficient : String} {accountId : Int} {next : Action (Reply α)}
    (rest : next.Only Untraced) : (checkWalletBalance insufficient accountId next).Only Untraced := by
  refine only_bind (untraced_of_quiet (quiet_accountWallet accountId)) ?_
  rintro (e | (_ | wallet))
  · trivial
  · trivial
  · dsimp only
    split
    · trivial
    · exact rest

theorem untraced_selectModelClients (builds : Nat → LLMUpstream → Bool)
    (modelName provider feature : String) (count : Nat) :
    (selectModelClients builds modelName provider feature count).Only Untraced := by
  refine only_bind (only_queryAuto (s := .findModelsByNameAndCapacity modelName provider feature) rfl) ?_
  rintro (e | rows)
  · trivial
  · dsimp only
    split
    · trivial
    · exact only_bind (untraced_of_quiet (quiet_getOutputTokenUsageBatch _)) (fun _ => trivial)

/-- A selection that panics calls nothing more. -/
theorem untraced_withModelClients {builds : Nat → LLMUpstream → Bool}
    {modelName provider feature : String} {count : Nat} {next : List UpstreamClient → Action (Reply α)}
    (rest : ∀ clients, (next clients).Only Untraced) :
    (withModelClients builds modelName provider feature count next).Only Untraced := by
  refine only_bind (untraced_selectModelClients _ _ _ _ _) ?_
  rintro (_ | clients)
  · trivial
  · exact rest clients

theorem untraced_withClient {context : RequestContext} {upstream : LLMUpstream}
    {next : Action (Reply α)} (rest : next.Only Untraced) :
    (withClient context upstream next).Only Untraced := by
  rw [withClient]
  split
  · exact rest
  · trivial

theorem untraced_reportNetworkError (client : UpstreamClient) (e : ClientError) :
    (reportNetworkError client e).Only Untraced :=
  untraced_of_quiet (quiet_reportNetworkError client e)

theorem untraced_createSpeech (context : RequestContext) (payload : CreateSpeechRequest) :
    (createSpeech context payload).Only Untraced := by
  refine untraced_checkWalletBalance (untraced_withModelClients ?_)
  rintro (_ | ⟨client, rest⟩)
  · trivial
  refine only_bind (untraced_callUpstream _ _) ?_
  rintro (e | bytes)
  · exact only_bind (untraced_reportNetworkError client e) (fun _ => trivial)
  · trivial

/-- What the handlers of the OpenAI API on one stored file share. -/
theorem untraced_withFile {context : RequestContext} {fileId : String}
    {next : FileMeta → LLMUpstream → Action (Reply α)}
    (rest : ∀ fileMeta upstream, (next fileMeta upstream).Only Untraced) :
    (withFile context fileId next).Only Untraced := by
  refine untraced_checkWalletBalance
    (only_bind (only_queryAuto (s := .getFileMetaByFileId fileId) rfl) ?_)
  rintro (e | (_ | fileMeta))
  · trivial
  · trivial
  refine only_bind (untraced_of_quiet (quiet_getUpstream fileMeta.upstreamId)) ?_
  rintro ((reason | _) | upstream)
  · trivial
  · trivial
  · exact untraced_withClient (rest fileMeta upstream)

theorem untraced_markFileMetaDeleted (fileId : String) : (markFileMetaDeleted fileId).Only Untraced :=
  only_bind (only_queryAuto rfl) (fun _ => trivial)

theorem untraced_retrieveFileHandler (context : RequestContext) (fileId : String) :
    (retrieveFileHandler context fileId).Only Untraced := by
  refine untraced_withFile (fun fileMeta upstream => only_bind (untraced_callUpstream _ _) ?_)
  rintro (e | file) <;> trivial

theorem untraced_deleteFileHandler (context : RequestContext) (fileId : String) :
    (deleteFileHandler context fileId).Only Untraced := by
  refine untraced_withFile (fun fileMeta upstream => only_bind (untraced_callUpstream _ _) ?_)
  rintro (e | file)
  · trivial
  · exact only_bind (untraced_markFileMetaDeleted fileId) (fun _ => trivial)

theorem untraced_fileContentHandler (context : RequestContext) (fileId : String) :
    (fileContentHandler context fileId).Only Untraced := by
  refine untraced_withFile (fun fileMeta upstream => only_bind (untraced_callUpstream _ _) ?_)
  rintro (e | bytes) <;> trivial

theorem untraced_withAnthropicClient {context : RequestContext} {modelName unavailable : String}
    {next : UpstreamClient → Action (Reply α)} (rest : ∀ client, (next client).Only Untraced) :
    (withAnthropicClient context modelName unavailable next).Only Untraced := by
  refine untraced_withModelClients ?_
  rintro (_ | ⟨client, others⟩)
  · trivial
  · exact rest client

theorem untraced_anthropicSdkRequest (client : UpstreamClient) (call : UpstreamCall) :
    (anthropicSdkRequest client call).Only Untraced := by
  refine only_bind (untraced_callUpstream _ _) ?_
  rintro ((_ | _ | _) | answer) <;> trivial

theorem untraced_answerSdkError (client : UpstreamClient) (e : ClientError) :
    (answerSdkError client e : Action (Reply α)).Only Untraced :=
  only_bind (untraced_reportNetworkError client e) (fun _ => trivial)

theorem untraced_countMessageTokens (context : RequestContext) (payload : CountMessageTokensParams) :
    (countMessageTokens context payload).Only Untraced := by
  refine untraced_checkWalletBalance (untraced_withAnthropicClient (fun client => ?_))
  refine only_bind (untraced_anthropicSdkRequest client _) ?_
  rintro (e | result)
  · exact only_bind (untraced_reportNetworkError client e) (fun _ => trivial)
  · trivial

/-- What the handlers of the Anthropic API on one stored object share: the query for its row
traces nothing either. -/
theorem untraced_withStored {context : RequestContext} {kind objectId : String}
    {resolve : Query (Option β)} {next : β → UpstreamClient → Action (Reply α)}
    (resolves : resolve.run.Only Untraced) (rest : ∀ row client, (next row client).Only Untraced) :
    (withStored context kind objectId resolve next).Only Untraced := by
  refine untraced_checkWalletBalance (only_bind resolves ?_)
  rintro (e | (_ | row))
  · trivial
  · trivial
  · exact untraced_withAnthropicClient (rest row)

/-- A network error is reported, which only spawns a task. -/
theorem untraced_sendFileRequest {client : UpstreamClient} {request : AnthropicFileRequest}
    {next : RawResponse → Action (Reply Value)} (rest : ∀ response, (next response).Only Untraced) :
    (sendFileRequest client request next).Only Untraced := by
  refine only_bind (untraced_callUpstream _ _) ?_
  rintro (e | response)
  · exact only_bind (untraced_reportNetworkError client .network) (fun _ => trivial)
  · dsimp only
    split
    · exact rest response
    · trivial

theorem untraced_retrieveFile (context : RequestContext) (fileId : String) :
    (retrieveFile context fileId).Only Untraced :=
  untraced_withStored (only_queryAuto rfl)
    (fun _ _ => untraced_sendFileRequest (fun _ => trivial))

theorem untraced_deleteFile (context : RequestContext) (fileId : String) :
    (deleteFile context fileId).Only Untraced :=
  untraced_withStored (only_queryAuto rfl) (fun _ _ => untraced_sendFileRequest
    (fun _ => only_bind (untraced_markFileMetaDeleted fileId) (fun _ => trivial)))

theorem untraced_fileContent (context : RequestContext) (fileId : String) :
    (fileContent context fileId).Only Untraced :=
  untraced_withStored (only_queryAuto rfl)
    (fun _ _ => untraced_sendFileRequest (fun _ => trivial))

/-- A form that cannot be read is refused before anything is called. -/
theorem untraced_withForm {code : Option String} {body : List MultipartField}
    {next : UploadedForm → List UInt8 → Action (Reply α)}
    (rest : ∀ form bytes, (next form bytes).Only Untraced) : (withForm code body next).Only Untraced := by
  rw [withForm]
  split
  · trivial
  · split
    · trivial
    · exact rest _ _

theorem untraced_selectFirstUpstream {next : LLMUpstream → Action (Reply α)}
    (rest : ∀ upstream, (next upstream).Only Untraced) :
    (selectFirstUpstream next).Only Untraced := by
  refine only_bind (only_queryAuto (s := .listUpstreams) rfl) ?_
  rintro (e | (_ | ⟨first, others⟩))
  · trivial
  · trivial
  · exact rest first

theorem untraced_createFileHandler (context : RequestContext) (body : List MultipartField) :
    (createFileHandler context body).Only Untraced := by
  refine untraced_checkWalletBalance (untraced_selectFirstUpstream (fun upstream =>
    untraced_withForm (fun form bytes =>
      untraced_withClient (only_bind (untraced_callUpstream _ _) ?_))))
  rintro (e | file)
  · trivial
  refine only_bind (only_queryAuto rfl) ?_
  rintro (e | stored) <;> trivial

theorem untraced_listFilesHandler (context : RequestContext) :
    (listFilesHandler context).Only Untraced := by
  refine untraced_checkWalletBalance (untraced_selectFirstUpstream (fun upstream =>
    untraced_withClient (only_bind (untraced_callUpstream _ _) ?_)))
  rintro (e | files) <;> trivial

theorem untraced_listBatchesHandler (context : RequestContext) :
    (listBatchesHandler context).Only Untraced := by
  refine untraced_checkWalletBalance (only_bind (only_queryAuto (s := .listUpstreams) rfl) ?_)
  rintro (e | (_ | ⟨first, others⟩))
  · trivial
  · trivial
  refine untraced_withClient (only_bind (untraced_callUpstream _ _) ?_)
  rintro (e | batches) <;> trivial

theorem untraced_listFiles (context : RequestContext) : (listFiles context).Only Untraced :=
  untraced_checkWalletBalance (untraced_withAnthropicClient (fun _ =>
    untraced_sendFileRequest (fun _ => trivial)))

/-- The insert of the mapping is the only statement. -/
theorem untraced_storeUpload (context : RequestContext) (client : UpstreamClient) (purpose : String)
    (file : Value) : (storeUpload context client purpose file).Only Untraced := by
  rw [storeUpload]
  split
  · trivial
  · refine only_bind (only_queryAuto rfl) ?_
    rintro (e | stored)
    · trivial
    · dsimp only
      split <;> trivial

theorem untraced_uploadFile (context : RequestContext) (body : List MultipartField) :
    (uploadFile context body).Only Untraced := by
  refine untraced_checkWalletBalance (untraced_withAnthropicClient (fun client =>
    untraced_withForm (fun form bytes => ?_)))
  dsimp only
  split
  · trivial
  · refine untraced_sendFileRequest (fun response => ?_)
    split
    · trivial
    · exact untraced_storeUpload context client _ _

theorem untraced_syncMessageBatchStatus (batchId : String) (batch : MessageBatch) :
    (syncMessageBatchStatus batchId batch).Only Untraced :=
  only_bind (only_queryAuto rfl) (fun _ => trivial)

theorem untraced_createMessageBatch (context : RequestContext) (payload : CreateMessageBatchParams) :
    (createMessageBatch context payload).Only Untraced := by
  refine untraced_checkWalletBalance (untraced_withAnthropicClient (fun client => ?_))
  refine only_bind (untraced_anthropicSdkRequest client _) ?_
  rintro (e | batch)
  · exact untraced_answerSdkError client e
  refine only_bind (only_queryAuto rfl) ?_
  rintro (e | stored)
  · trivial
  · exact only_bind (untraced_syncMessageBatchStatus _ _) (fun _ => trivial)

theorem untraced_onMessageBatch (context : RequestContext) (batchId : String)
    (request : String → MessageBatchRequest) :
    (onMessageBatch context batchId request).Only Untraced := by
  refine untraced_withStored (only_queryAuto rfl)
    (fun batchMeta client => only_bind (untraced_anthropicSdkRequest client _) ?_)
  rintro (e | batch)
  · exact untraced_answerSdkError client e
  · exact only_bind (untraced_syncMessageBatchStatus _ _) (fun _ => trivial)

theorem untraced_retrieveMessageBatchResults (context : RequestContext) (batchId : String) :
    (retrieveMessageBatchResults context batchId).Only Untraced := by
  refine untraced_withStored (only_queryAuto rfl)
    (fun batchMeta client => only_bind (untraced_callUpstream _ _) ?_)
  rintro (e | items)
  · exact untraced_answerSdkError client e
  · trivial

theorem untraced_listMessageBatches (context : RequestContext) :
    (listMessageBatches context).Only Untraced := by
  refine untraced_checkWalletBalance (untraced_withAnthropicClient (fun client =>
    only_bind (untraced_anthropicSdkRequest client _) ?_))
  rintro (e | batches)
  · exact untraced_answerSdkError client e
  · trivial

/-- The requests whose handlers trace nothing. -/
def ProxyRequest.untraced : ProxyRequest → Bool
  | createSpeech _ | retrieveFileHandler _ | deleteFileHandler _ | fileContentHandler _ => true
  | countMessageTokens _ | createMessageBatch _ | retrieveMessageBatch _ | cancelMessageBatch _ => true
  | retrieveMessageBatchResults _ | retrieveFile _ | deleteFile _ | fileContent _ => true
  | createFileHandler _ | uploadFile _ => true
  | listFilesHandler | listBatchesHandler | listFiles | listMessageBatches => true
  | _ => false

/-- Whatever such a request runs into, no event of it reaches the queue. -/
theorem ProxyRequest.only_untraced {context : RequestContext} (request : ProxyRequest) (silent : request.untraced = true) :
    (request.handle context).Only Untraced := by
  have discard : ∀ {α : Type} {p : Action α}, p.Only Untraced → (discard p).Only Untraced :=
    fun only => only_bind only (fun _ => trivial)
  cases request with
  | createSpeech payload => exact discard (untraced_createSpeech context payload)
  | retrieveFileHandler fileId => exact discard (untraced_retrieveFileHandler context fileId)
  | deleteFileHandler fileId => exact discard (untraced_deleteFileHandler context fileId)
  | fileContentHandler fileId => exact discard (untraced_fileContentHandler context fileId)
  | countMessageTokens payload => exact discard (untraced_countMessageTokens context payload)
  | createMessageBatch payload => exact discard (untraced_createMessageBatch context payload)
  | retrieveMessageBatch batchId => exact discard (untraced_onMessageBatch context batchId .retrieve)
  | cancelMessageBatch batchId => exact discard (untraced_onMessageBatch context batchId .cancel)
  | retrieveMessageBatchResults batchId =>
      exact discard (untraced_retrieveMessageBatchResults context batchId)
  | retrieveFile fileId => exact discard (untraced_retrieveFile context fileId)
  | deleteFile fileId => exact discard (untraced_deleteFile context fileId)
  | fileContent fileId => exact discard (untraced_fileContent context fileId)
  | createFileHandler body => exact discard (untraced_createFileHandler context body)
  | uploadFile body => exact discard (untraced_uploadFile context body)
  | listFilesHandler => exact discard (untraced_listFilesHandler context)
  | listBatchesHandler => exact discard (untraced_listBatchesHandler context)
  | listFiles => exact discard (untraced_listFiles context)
  | listMessageBatches => exact discard (untraced_listMessageBatches context)
  | _ => cases silent

end LLMPool.ProxyViews
