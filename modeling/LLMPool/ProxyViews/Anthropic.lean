import LLMPool.ProxyViews.Helpers

/-! The handler of the Anthropic API that traces events: messages, answered at once
or as a stream. -/
namespace LLMPool.ProxyViews
open Transactions

def featureMessages : String := "messages"

def insufficientBalance : String := "Balance is insufficient, please fund your wallet"

def selectAnthropicClients (libraries : ClientLibraries) (modelName : String) (count : Nat) :
    Action (Option (List UpstreamClient)) :=
  selectModelClients libraries.buildsAnthropic modelName "anthropic" featureMessages count

def withAnthropicClients (context : RequestContext) (modelName : String) (count : Nat)
    (next : List UpstreamClient → Action (Reply α)) : Action (Reply α) :=
  withModelClients context.libraries.buildsAnthropic modelName "anthropic" featureMessages count next

/-- The event stream of a message. The counters are read off the events, and the usage
is traced at each `MessageStop`. -/
def transformSdkStream (inputTokens outputTokens : Nat) :
    StreamItems MessageStreamEvent → SessionTracer → Action Unit
  | .ok (.messageStart message) :: rest, tracer =>
      transformSdkStream message.usage.inputTokens outputTokens rest tracer
  | .ok (.messageDelta delta) :: rest, tracer => transformSdkStream inputTokens delta rest tracer
  | .ok .messageStop :: rest, tracer => do
      let tracer ← tracer.add
        (.anthropic (.createMessageStreamResponseDone inputTokens outputTokens))
      transformSdkStream inputTokens outputTokens rest tracer
  | .ok _ :: rest, tracer => transformSdkStream inputTokens outputTokens rest tracer
  | _, _ => return ()

def createMessageWithClient (client : UpstreamClient) (tracer : SessionTracer) (isStream : Bool)
    (payload : CreateMessageParams) : Action (Except ClientError (Reply Message)) := do
  if isStream then
    let tracer ← tracer.add (.anthropic (.createMessageStreamRequest payload))
    match ← callUpstream client.upstream (.createMessageStream payload) with
    | .error e => return .error e
    | .ok stream =>
        transformSdkStream 0 0 stream tracer
        return .ok .events
  else
    let tracer ← tracer.add (.anthropic (.createMessageRequest payload))
    match ← callUpstream client.upstream (.createMessage payload) with
    | .error e => return .error e
    | .ok message =>
        let _ ← tracer.add (.anthropic (.createMessageResponse message))
        return .ok (.json message)

def createMessage (context : RequestContext) (payload : CreateMessageParams) :
    Action (Reply Message) :=
  checkWalletBalance insufficientBalance context.accountId (
    withAnthropicClients context payload.model 2 (fun clients =>
      if clients = [] then
        return .error .serviceUnavailable
          [.string "No upstream available for the requested model."] "overloaded_error" none
      else
        tryClients (fun i client => createMessageWithClient client (.new context i client.modelDbId)
            (payload.stream.getD false) { payload with model := client.fullname })
          reportNetworkError
          (.error .internalServerError
            [.string "Internal server error while proxying to upstream."] "api_error" none)
          0 clients))

end LLMPool.ProxyViews
