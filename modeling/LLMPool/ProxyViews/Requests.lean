import LLMPool.ProxyViews.AnthropicObjects

/-! The requests that reach the proxies' handlers. -/
namespace LLMPool.ProxyViews
open Transactions

inductive ProxyRequest where
  | chatCompletions (payload : CreateChatCompletionRequest)
  | createEmbeddings (payload : CreateEmbeddingRequest)
  | generateImages (payload : CreateImageRequest)
  | createSpeech (payload : CreateSpeechRequest)
  | createResponse (payload : CreateResponse)
  | retrieveResponse (responseId : String)
  | createBatch (payload : BatchRequest)
  | retrieveBatch (batchId : String)
  | cancelBatch (batchId : String)
  | retrieveFileHandler (fileId : String)
  | deleteFileHandler (fileId : String)
  | createFileHandler (body : List MultipartField)
  | fileContentHandler (fileId : String)
  | listFilesHandler
  | listBatchesHandler
  | createMessage (payload : CreateMessageParams)
  | countMessageTokens (payload : CountMessageTokensParams)
  | createMessageBatch (payload : CreateMessageBatchParams)
  | retrieveMessageBatch (batchId : String)
  | cancelMessageBatch (batchId : String)
  | retrieveMessageBatchResults (batchId : String)
  | retrieveFile (fileId : String)
  | deleteFile (fileId : String)
  | uploadFile (body : List MultipartField)
  | fileContent (fileId : String)
  | listFiles
  | listMessageBatches
  deriving DecidableEq

def discard (p : Action α) : Action Unit := do
  let _ ← p

def ProxyRequest.handle (context : RequestContext) : ProxyRequest → Action Unit
  | chatCompletions payload => discard (ProxyViews.chatCompletions context payload)
  | createEmbeddings payload => discard (ProxyViews.createEmbeddings context payload)
  | generateImages payload => discard (ProxyViews.generateImages context payload)
  | createSpeech payload => discard (ProxyViews.createSpeech context payload)
  | createResponse payload => discard (ProxyViews.createResponse context payload)
  | retrieveResponse responseId => discard (ProxyViews.retrieveResponse context responseId)
  | createBatch payload => discard (ProxyViews.createBatch context payload)
  | retrieveBatch batchId => discard (ProxyViews.retrieveBatch context batchId)
  | cancelBatch batchId => discard (ProxyViews.cancelBatch context batchId)
  | retrieveFileHandler fileId => discard (ProxyViews.retrieveFileHandler context fileId)
  | deleteFileHandler fileId => discard (ProxyViews.deleteFileHandler context fileId)
  | fileContentHandler fileId => discard (ProxyViews.fileContentHandler context fileId)
  | createFileHandler body => discard (ProxyViews.createFileHandler context body)
  | listFilesHandler => discard (ProxyViews.listFilesHandler context)
  | listBatchesHandler => discard (ProxyViews.listBatchesHandler context)
  | createMessage payload => discard (ProxyViews.createMessage context payload)
  | countMessageTokens payload => discard (ProxyViews.countMessageTokens context payload)
  | createMessageBatch payload => discard (ProxyViews.createMessageBatch context payload)
  | retrieveMessageBatch batchId => discard (ProxyViews.retrieveMessageBatch context batchId)
  | cancelMessageBatch batchId => discard (ProxyViews.cancelMessageBatch context batchId)
  | retrieveMessageBatchResults batchId =>
      discard (ProxyViews.retrieveMessageBatchResults context batchId)
  | retrieveFile fileId => discard (ProxyViews.retrieveFile context fileId)
  | deleteFile fileId => discard (ProxyViews.deleteFile context fileId)
  | fileContent fileId => discard (ProxyViews.fileContent context fileId)
  | uploadFile body => discard (ProxyViews.uploadFile context body)
  | listFiles => discard (ProxyViews.listFiles context)
  | listMessageBatches => discard (ProxyViews.listMessageBatches context)

end LLMPool.ProxyViews
