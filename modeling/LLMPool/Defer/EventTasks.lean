import LLMPool.Billing.Settle

/-! The handlers of the event tasks. The two providers' handlers are one program:
they differ in the usage that an event carries and in the request id. -/
namespace LLMPool.Billing
open Transactions

def requestPrefix : Provider → String
  | .openai => "spendtoken-"
  | .anthropic => "anthropic-spendtoken-"

/-- `unique_request_id` of the balance change for an event. -/
def spendRequestId (provider : Provider) (sessionId : String) (sessionIndex : Int) : String :=
  requestPrefix provider ++ (sessionId ++ ("-" ++ toString sessionIndex))

/-- The session event takes the regular prices of a known model, and no tokens
where the event carries no usage. -/
def newSessionEvent (event : EventTask EventData) (usage : Option UsageInfo)
    (model : Option LLMModel) : NewSessionEvent where
  sessionId := event.sessionId
  sessionIndex := event.sessionIndex
  accountId := event.accountId
  modelId := event.modelId
  apiKeyId := event.apiKeyId
  inputTokenPrice := match model with
    | some m => m.inputTokenPrice
    | none => 0
  inputTokens := match usage with
    | some u => u.inputTokens
    | none => 0
  outputTokenPrice := match model with
    | some m => m.outputTokenPrice
    | none => 0
  outputTokens := match usage with
    | some u => u.outputTokens
    | none => 0
  eventData := event.eventData

/-- Batch prices for the usage of a batch, regular prices for any other. -/
def spendTokenOf (usage : UsageInfo) (model : LLMModel) (eventId : Int) : SpendToken :=
  let inputTokenPrice := if usage.isBatch then model.batchInputTokenPrice else model.inputTokenPrice
  let outputTokenPrice :=
    if usage.isBatch then model.batchOutputTokenPrice else model.outputTokenPrice
  { inputTokens := usage.inputTokens
    inputTokenPrice := inputTokenPrice
    inputSpendAmount := inputTokenPrice * usage.inputTokens
    outputTokens := usage.outputTokens
    outputTokenPrice := outputTokenPrice
    outputSpendAmount := outputTokenPrice * usage.outputTokens
    totalTokens := usage.totalTokens
    eventId := eventId }

/-- The `increment_token_usage` step; its failures are only logged. -/
def countUsage (modelId : Int) (usage : Option UsageInfo) : Action Unit :=
  match usage with
  | none => return ()
  | some u => do
      let _ ← Prog.remote (E := engine) (.incrementTokenUsage modelId u.inputTokens u.outputTokens)

/-- Commit a balance change, then enqueue the task that settles it. -/
def forwardBalanceChange (balanceChange : BalanceChange) : Action Unit := do
  match ← Prog.commit with
  | .error _ => return ()
  | .ok _ =>
      let _ ← Prog.remote (E := engine) (.pushBalanceChange ⟨balanceChange.id⟩)

/-- Bill the usage of a stored session event, in the transaction that stored it. -/
def billUsage (provider : Provider) (accountId : Int) (event : SessionEvent) (usage : UsageInfo)
    (model : LLMModel) : Action Unit :=
  let content := BalanceChangeContent.spendToken (spendTokenOf usage model event.id)
  let uniqueRequestId := spendRequestId provider event.sessionId event.sessionIndex
  match NewBalanceChange.fromContent accountId uniqueRequestId content with
  | .error _ => return ()
  | .ok newChange => do
      match ← (createBalanceChangeWithTx newChange).run with
      | .error _ => return ()
      | .ok balanceChange => forwardBalanceChange balanceChange

def handleEvent (event : EventTask EventData) : Action Unit := do
  let usage := event.eventData.extractUsage
  countUsage event.modelId usage
  match ← Prog.begin with
  | .error _ => return ()
  | .ok _ =>
      let model := (← (getModelWithTx event.modelId).run).toOption
      match ← (createSessionEventWithTx (newSessionEvent event usage model)).run with
      | .error _ => return ()
      | .ok sessionEvent =>
          match usage, model with
          | some usage, some model =>
              billUsage event.eventData.provider event.accountId sessionEvent usage model
          | _, _ => do
              let _ ← Prog.commit (E := engine)

def handleOpenAIEvent (event : OpenAIEventTask) : Action Unit := handleEvent (event.map .openai)

def handleAnthropicEvent (event : AnthropicEventTask) : Action Unit :=
  handleEvent (event.map .anthropic)

end LLMPool.Billing
