import LLMPool.Models

/-! The upstreams' APIs: the calls that the pool's clients make, what each is
answered, and the usage that an answer reports. -/
namespace LLMPool

/-- The HTTP statuses that the pool answers with. -/
inductive StatusCode where
  | ok
  | created
  | badRequest
  | unauthorized
  | paymentRequired
  | notFound
  | conflict
  | tooManyRequests
  | internalServerError
  | badGateway
  | serviceUnavailable
  deriving DecidableEq

/-- Errors of a client: no connection, an error that the upstream answered, or an
answer that could not be read. -/
inductive ClientError where
  | network
  | api
  | deserialize
  deriving DecidableEq

/-- The events of a message stream, with the usage that they carry. -/
inductive MessageStreamEvent where
  | messageStart (message : Message)
  | messageDelta (outputTokens : Nat)
  | messageStop
  | contentBlockStart
  | contentBlockDelta
  | contentBlockStop
  deriving DecidableEq

inductive SpeechModel where
  | tts1
  | tts1Hd
  | gpt4oMiniTts
  | other (name : String)
  deriving DecidableEq

structure CreateSpeechRequest where
  model : SpeechModel
  deriving DecidableEq

structure CountMessageTokensParams where
  model : String
  deriving DecidableEq

structure CountMessageTokensResponse where
  inputTokens : Nat
  deriving DecidableEq

/-- A file as OpenAI describes it, and its answer to a deletion. -/
structure OpenAIFile where
  id : String
  deriving DecidableEq

/-- The answer to the deletion of a response. -/
structure DeleteResponse where
  id : String
  deleted : Bool
  deriving DecidableEq

/-- One line of the results of a message batch: only a request that succeeded has a
message, and with it a usage. -/
inductive MessageBatchResult where
  | succeeded (message : Message)
  | errored
  | canceled
  | expired
  deriving DecidableEq

structure MessageBatchIndividualResponse where
  customId : String
  result : MessageBatchResult
  deriving DecidableEq

/-- An HTTP response that the pool reads itself: its body, and what the body parses to
as JSON. -/
structure RawResponse where
  status : Nat
  text : String
  json : Option Value

def RawResponse.isSuccess (response : RawResponse) : Bool :=
  200 ≤ response.status ∧ response.status < 300

inductive FilePurpose where
  | assistants
  | batch
  | vision
  | userData
  | evals
  | fineTune
  deriving DecidableEq

structure CreateFileRequest where
  filename : String
  bytes : List UInt8
  purpose : FilePurpose
  deriving DecidableEq

/-- The form that an Anthropic upstream is sent. -/
structure UploadForm where
  filename : String
  mime : String
  bytes : List UInt8
  purpose : String
  deriving DecidableEq

inductive AnthropicFileRequest where
  | upload (form : UploadForm)
  | retrieve (originalFileId : String)
  | delete (originalFileId : String)
  | content (originalFileId : String)
  | list
  deriving DecidableEq

inductive MessageBatchRequest where
  | retrieve (originalBatchId : String)
  | cancel (originalBatchId : String)
  deriving DecidableEq

/-- What a stream yields up to its end. -/
abbrev StreamItems (α : Type) := List (Except ClientError α)

inductive UpstreamCall where
  | createChat (request : CreateChatCompletionRequest)
  | createChatStream (request : CreateChatCompletionRequest)
  | createEmbedding (request : CreateEmbeddingRequest)
  | generateImages (request : CreateImageRequest)
  | createResponse (request : CreateResponse)
  | retrieveResponse (originalResponseId : String)
  | deleteResponse (originalResponseId : String)
  | createBatch (request : BatchRequest)
  | retrieveBatch (originalBatchId : String)
  | cancelBatch (originalBatchId : String)
  | createMessage (request : CreateMessageParams)
  | createMessageStream (request : CreateMessageParams)
  | retrieveFile (originalFileId : String)
  | deleteFile (originalFileId : String)
  | fileContent (originalFileId : String)
  | createFile (request : CreateFileRequest)
  | listFiles
  | listBatches
  | anthropicFile (request : AnthropicFileRequest)
  | createMessageBatch (request : CreateMessageBatchParams)
  | messageBatch (request : MessageBatchRequest)
  | messageBatchResults (originalBatchId : String)
  | listMessageBatches
  | createSpeech (request : CreateSpeechRequest)
  | countMessageTokens (request : CountMessageTokensParams)
  | getModels
  deriving DecidableEq

namespace UpstreamCall

@[reducible] def Answer : UpstreamCall → Type
  | createChat _ => CreateChatCompletionResponse
  | createChatStream _ => StreamItems CreateChatCompletionStreamResponse
  | createEmbedding _ => CreateEmbeddingResponse
  | generateImages _ => ImagesResponse
  | createResponse _ | retrieveResponse _ => Response
  | deleteResponse _ => DeleteResponse
  | createBatch _ | retrieveBatch _ | cancelBatch _ => Batch
  | createMessage _ => Message
  | createMessageStream _ => StreamItems MessageStreamEvent
  | retrieveFile _ | deleteFile _ | createFile _ => OpenAIFile
  | fileContent _ => List UInt8
  | anthropicFile _ => RawResponse
  | createMessageBatch _ | messageBatch _ => MessageBatch
  | messageBatchResults _ => List MessageBatchIndividualResponse
  | listFiles => List OpenAIFile
  | listBatches => List Batch
  | listMessageBatches => List MessageBatch
  | createSpeech _ => List UInt8
  | countMessageTokens _ => CountMessageTokensResponse
  | getModels => RawResponse

end UpstreamCall

/-- The items that a consumer sees: an error ends the stream. -/
def consumed : StreamItems α → List α
  | .ok item :: rest => item :: consumed rest
  | _ => []

end LLMPool
