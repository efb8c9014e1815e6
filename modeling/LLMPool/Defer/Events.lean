import Mathlib.Algebra.Group.Nat.Defs
import Mathlib.Data.Int.Notation

/-! The events that the proxies enqueue, the usage that an answer carries, and the
tasks of the deferred worker. Payloads keep the fields that the pool reads. -/
namespace LLMPool

structure CompletionUsage where
  promptTokens : Nat
  completionTokens : Nat
  totalTokens : Nat
  deriving DecidableEq

structure ChatCompletionStreamOptions where
  includeUsage : Option Bool
  deriving DecidableEq

structure CreateChatCompletionRequest where
  model : String
  stream : Option Bool
  streamOptions : Option ChatCompletionStreamOptions
  deriving DecidableEq

structure CreateChatCompletionResponse where
  usage : Option CompletionUsage
  deriving DecidableEq

structure CreateChatCompletionStreamResponse where
  usage : Option CompletionUsage
  deriving DecidableEq

inductive ImageModel where
  | gptImage1
  | gptImage1dot5
  | gptImage1Mini
  | dallE2
  | dallE3
  | other (name : String)
  deriving DecidableEq

structure CreateImageRequest where
  model : Option ImageModel
  deriving DecidableEq

/-- The usage of an images, batch or responses answer. -/
structure ResponseUsage where
  inputTokens : Nat
  outputTokens : Nat
  totalTokens : Nat
  deriving DecidableEq

structure ImagesResponse where
  usage : Option ResponseUsage
  deriving DecidableEq

structure CreateEmbeddingRequest where
  model : String
  deriving DecidableEq

structure EmbeddingUsage where
  promptTokens : Nat
  totalTokens : Nat
  deriving DecidableEq

structure CreateEmbeddingResponse where
  usage : EmbeddingUsage
  deriving DecidableEq

structure BatchRequest where
  inputFileId : String
  deriving DecidableEq

inductive BatchStatus where
  | validating
  | failed
  | inProgress
  | finalizing
  | completed
  | expired
  | cancelling
  | cancelled
  deriving DecidableEq

structure Batch where
  id : String
  inputFileId : String
  outputFileId : Option String
  errorFileId : Option String
  status : BatchStatus
  usage : Option ResponseUsage
  deriving DecidableEq

structure CreateResponse where
  model : Option String
  previousResponseId : Option String
  deriving DecidableEq

structure Response where
  id : String
  previousResponseId : Option String
  usage : Option ResponseUsage
  deriving DecidableEq

inductive OpenAIEventData where
  | createChatCompletionRequest (body : CreateChatCompletionRequest)
  | createChatCompletionStreamResponse (body : CreateChatCompletionStreamResponse)
  | createChatCompletionResponse (body : CreateChatCompletionResponse)
  | createChatCompletionStreamResponseDone
  | createImageRequest (body : CreateImageRequest)
  | imagesResponse (body : ImagesResponse)
  | createEmbeddingRequest (body : CreateEmbeddingRequest)
  | createEmbeddingResponse (body : CreateEmbeddingResponse)
  | batchRequest (body : BatchRequest)
  | batch (body : Batch)
  | responsesRequest (body : CreateResponse)
  | responsesResponse (body : Response)
  | responsesStreamDone
  deriving DecidableEq

structure Usage where
  inputTokens : Nat
  outputTokens : Nat
  deriving DecidableEq

structure CreateMessageParams where
  model : String
  stream : Option Bool
  deriving DecidableEq

structure Message where
  usage : Usage
  deriving DecidableEq

structure BatchRequestItem where
  customId : String
  params : CreateMessageParams
  deriving DecidableEq

structure CreateMessageBatchParams where
  requests : List BatchRequestItem
  deriving DecidableEq

structure MessageBatch where
  id : String
  processingStatus : String
  deriving DecidableEq

inductive AnthropicEventData where
  | createMessageRequest (body : CreateMessageParams)
  | createMessageResponse (body : Message)
  | createMessageStreamRequest (body : CreateMessageParams)
  | createMessageStreamResponseDone (inputTokens outputTokens : Nat)
  | createMessageBatchRequest (body : CreateMessageBatchParams)
  | createMessageBatchResponse (body : MessageBatch)
  deriving DecidableEq

/-- Either provider's event, as the `event_data` column keeps it. -/
inductive EventData where
  | openai (data : OpenAIEventData)
  | anthropic (data : AnthropicEventData)
  deriving DecidableEq

/-- `OpenAIEventTask` and `AnthropicEventTask` differ in their data only. -/
structure EventTask (δ : Type) where
  sessionId : String
  sessionIndex : Int
  accountId : Int
  modelId : Int
  apiKeyId : Int
  eventData : δ
  deriving DecidableEq

def EventTask.map (f : δ → ε) (event : EventTask δ) : EventTask ε :=
  { event with eventData := f event.eventData }

abbrev OpenAIEventTask := EventTask OpenAIEventData
abbrev AnthropicEventTask := EventTask AnthropicEventData

structure BalanceChangeTask where
  balanceChangeId : Int
  deriving DecidableEq

structure UsageInfo where
  inputTokens : Int
  outputTokens : Int
  totalTokens : Int
  isBatch : Bool
  deriving DecidableEq

def CompletionUsage.info (u : CompletionUsage) : UsageInfo :=
  ⟨u.promptTokens, u.completionTokens, u.totalTokens, false⟩

def ResponseUsage.info (u : ResponseUsage) (isBatch : Bool) : UsageInfo :=
  ⟨u.inputTokens, u.outputTokens, u.totalTokens, isBatch⟩

namespace OpenAIEventData

def extractUsage : OpenAIEventData → Option UsageInfo
  | createChatCompletionResponse body => body.usage.map (·.info)
  | createChatCompletionStreamResponse body => body.usage.map (·.info)
  | createEmbeddingResponse body => some ⟨body.usage.promptTokens, 0, body.usage.totalTokens, false⟩
  | imagesResponse body => body.usage.map (·.info false)
  | batch body => body.usage.map (·.info true)
  | responsesResponse body => body.usage.map (·.info false)
  | _ => none

end OpenAIEventData

namespace AnthropicEventData

def extractUsage : AnthropicEventData → Option UsageInfo
  | createMessageResponse body =>
      some ⟨body.usage.inputTokens, body.usage.outputTokens,
        (body.usage.inputTokens + body.usage.outputTokens : Nat), false⟩
  | createMessageStreamResponseDone inputTokens outputTokens =>
      some ⟨inputTokens, outputTokens, (inputTokens + outputTokens : Nat), false⟩
  | _ => none

end AnthropicEventData

inductive Provider where
  | openai
  | anthropic
  deriving DecidableEq

namespace EventData

def provider : EventData → Provider
  | openai _ => .openai
  | anthropic _ => .anthropic

def extractUsage : EventData → Option UsageInfo
  | openai data => data.extractUsage
  | anthropic data => data.extractUsage

end EventData

end LLMPool
