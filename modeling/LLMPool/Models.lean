import LLMPool.Defer.Events
import LLMPool.Relational.Table
import Mathlib.Algebra.Order.Ring.Rat

/-! The rows of the tables, and the JSON content of a balance change. -/
namespace LLMPool
open Relational

/-- Addition, subtraction, multiplication and comparison are exact. -/
abbrev BigDecimal := ℚ

/-- JSON values; a `BigDecimal` is written as the string of its digits. -/
inductive Value where
  | null
  | bool (b : Bool)
  | integer (n : Int)
  | float (q : ℚ)
  | string (s : String)
  | decimal (q : BigDecimal)
  | array (items : List Value)
  | object (fields : List (String × Value))

inductive SerdeError where
  | invalidType
  | missingField (field : String)
  | unknownVariant (variant : String)
  deriving DecidableEq

namespace Value

def fields : Value → Except SerdeError (List (String × Value))
  | object fields => .ok fields
  | _ => .error .invalidType

def field (fields : List (String × Value)) (name : String) : Except SerdeError Value :=
  match fields.lookup name with
  | some value => .ok value
  | none => .error (.missingField name)

def asString : Value → Except SerdeError String
  | string s => .ok s
  | _ => .error .invalidType

def asI64 : Value → Except SerdeError Int
  | integer n => .ok n
  | _ => .error .invalidType

/-- A `BigDecimal` is read from its digits or from any JSON number. -/
def asBigDecimal : Value → Except SerdeError BigDecimal
  | decimal q => .ok q
  | float q => .ok q
  | integer n => .ok n
  | _ => .error .invalidType

end Value

structure SpendToken where
  inputTokens : Int
  inputTokenPrice : BigDecimal
  inputSpendAmount : BigDecimal
  outputTokens : Int
  outputTokenPrice : BigDecimal
  outputSpendAmount : BigDecimal
  totalTokens : Int
  eventId : Int
  deriving DecidableEq

inductive BalanceChangeContent where
  | spendToken (spend : SpendToken)
  | deposit (amount : BigDecimal)
  | withdraw (amount : BigDecimal)
  | addCredit (amount : BigDecimal)
  deriving DecidableEq

namespace SpendToken

def toFields (spend : SpendToken) : List (String × Value) :=
  [("input_tokens", .integer spend.inputTokens),
    ("input_token_price", .decimal spend.inputTokenPrice),
    ("input_spend_amount", .decimal spend.inputSpendAmount),
    ("output_tokens", .integer spend.outputTokens),
    ("output_token_price", .decimal spend.outputTokenPrice),
    ("output_spend_amount", .decimal spend.outputSpendAmount),
    ("total_tokens", .integer spend.totalTokens),
    ("event_id", .integer spend.eventId)]

def fromFields (fields : List (String × Value)) : Except SerdeError SpendToken := do
  return {
    inputTokens := ← (← Value.field fields "input_tokens").asI64
    inputTokenPrice := ← (← Value.field fields "input_token_price").asBigDecimal
    inputSpendAmount := ← (← Value.field fields "input_spend_amount").asBigDecimal
    outputTokens := ← (← Value.field fields "output_tokens").asI64
    outputTokenPrice := ← (← Value.field fields "output_token_price").asBigDecimal
    outputSpendAmount := ← (← Value.field fields "output_spend_amount").asBigDecimal
    totalTokens := ← (← Value.field fields "total_tokens").asI64
    eventId := ← (← Value.field fields "event_id").asI64 }

def consumedTokens (spend : SpendToken) : Int := spend.inputTokens + spend.outputTokens

def spendAmount (spend : SpendToken) : BigDecimal := spend.inputSpendAmount + spend.outputSpendAmount

end SpendToken

namespace BalanceChangeContent

/-- `serde(tag = "type")`: the variant's name stands among its fields. -/
def toValue : BalanceChangeContent → Value
  | spendToken spend => .object (("type", .string "SpendToken") :: spend.toFields)
  | deposit amount => .object [("type", .string "Deposit"), ("amount", .decimal amount)]
  | withdraw amount => .object [("type", .string "Withdraw"), ("amount", .decimal amount)]
  | addCredit amount => .object [("type", .string "AddCredit"), ("amount", .decimal amount)]

def fromValue (value : Value) : Except SerdeError BalanceChangeContent := do
  let fields ← value.fields
  let variant ← (← Value.field fields "type").asString
  match variant with
  | "SpendToken" => return spendToken (← SpendToken.fromFields fields)
  | "Deposit" => return deposit (← (← Value.field fields "amount").asBigDecimal)
  | "Withdraw" => return withdraw (← (← Value.field fields "amount").asBigDecimal)
  | "AddCredit" => return addCredit (← (← Value.field fields "amount").asBigDecimal)
  | other => throw (.unknownVariant other)

/-- What is written as a balance change's content is read back as it was. -/
theorem fromValue_toValue (content : BalanceChangeContent) :
    fromValue content.toValue = .ok content := by
  cases content <;> rfl

end BalanceChangeContent

structure Account where
  id : Int
  name : String
  isActive : Bool
  deriving DecidableEq

structure UpdateAccount where
  name : Option String
  isActive : Option Bool

/-- Only the provided fields are updated. -/
def UpdateAccount.over (update : UpdateAccount) (current : Account) : Account where
  id := current.id
  name := update.name.getD current.name
  isActive := update.isActive.getD current.isActive

structure ApiCredential where
  id : Int
  accountId : Option Int
  apiKeyHash : String
  label : String
  isActive : Bool
  deriving DecidableEq

/-- What Redis keeps of a key and its account. -/
structure ApiKeyInfo where
  id : Int
  accountId : Option Int
  apiKeyHash : String
  label : String
  isActive : Bool
  accountIsActive : Bool
  deriving DecidableEq

structure Wallet where
  id : Int
  accountId : Int
  balance : BigDecimal
  deriving DecidableEq

structure BalanceChange where
  id : Int
  accountId : Int
  uniqueRequestId : String
  content : Value
  isApplied : Bool
  subscriptionId : Int

structure NewBalanceChange where
  accountId : Int
  uniqueRequestId : String
  content : Value

/-- Serialising this content has no failing case. -/
def NewBalanceChange.fromContent (accountId : Int) (uniqueRequestId : String)
    (content : BalanceChangeContent) : Except SerdeError NewBalanceChange :=
  return { accountId, uniqueRequestId, content := content.toValue }

inductive SubscriptionPlanStatus where
  | active
  | deactive
  deriving DecidableEq

structure SubscriptionPlan where
  id : Int
  status : SubscriptionPlanStatus
  totalTokenLimit : Int
  timeSpan : Int
  moneyLimit : BigDecimal
  sortOrder : Int
  deriving DecidableEq

inductive SubscriptionStatus where
  | pending
  | active
  | deactive
  deriving DecidableEq

/-- Serial ids start at 1: a balance change's `subscription_id` of 0 names none. -/
structure Subscription where
  id : Int
  accountId : Int
  planId : Int
  status : SubscriptionStatus
  startAt : Option Int
  endAt : Option Int
  usedTotalTokens : Int
  totalTokenLimit : Int
  sortOrder : Int
  usedMoney : BigDecimal
  id_pos : 0 < id
  deriving DecidableEq

structure SessionEvent where
  id : Int
  sessionId : String
  sessionIndex : Int
  accountId : Int
  modelId : Int
  apiKeyId : Int
  inputTokenPrice : BigDecimal
  inputTokens : Int
  outputTokenPrice : BigDecimal
  outputTokens : Int
  eventData : EventData

structure NewSessionEvent where
  sessionId : String
  sessionIndex : Int
  accountId : Int
  modelId : Int
  apiKeyId : Int
  inputTokenPrice : BigDecimal
  inputTokens : Int
  outputTokenPrice : BigDecimal
  outputTokens : Int
  eventData : EventData

structure LLMModel where
  id : Int
  upstreamId : Int
  fullname : String
  cname : String
  isActive : Bool
  features : List String
  maxTokens : Int
  inputTokenPrice : BigDecimal
  outputTokenPrice : BigDecimal
  batchInputTokenPrice : BigDecimal
  batchOutputTokenPrice : BigDecimal
  description : String
  deriving DecidableEq

structure UpdateLLMModel where
  fullname : Option String
  isActive : Option Bool
  features : Option (List String)
  maxTokens : Option Int
  inputTokenPrice : Option BigDecimal
  outputTokenPrice : Option BigDecimal
  batchInputTokenPrice : Option BigDecimal
  batchOutputTokenPrice : Option BigDecimal
  description : Option String
  deriving DecidableEq

/-- The part after the first `/`, or the whole name where there is none. -/
def deriveCname (fullname : String) : String :=
  match fullname.toList.dropWhile (fun c => c ≠ '/') with
  | [] => fullname
  | _ :: rest => String.ofList rest

/-- Each column is the one provided, else the current one; a new `fullname` brings its
`cname` along. -/
def UpdateLLMModel.over (update : UpdateLLMModel) (current : LLMModel) : LLMModel where
  id := current.id
  upstreamId := current.upstreamId
  fullname := update.fullname.getD current.fullname
  cname := (update.fullname.map deriveCname).getD current.cname
  isActive := update.isActive.getD current.isActive
  features := update.features.getD current.features
  maxTokens := update.maxTokens.getD current.maxTokens
  inputTokenPrice := update.inputTokenPrice.getD current.inputTokenPrice
  outputTokenPrice := update.outputTokenPrice.getD current.outputTokenPrice
  batchInputTokenPrice := update.batchInputTokenPrice.getD current.batchInputTokenPrice
  batchOutputTokenPrice := update.batchOutputTokenPrice.getD current.batchOutputTokenPrice
  description := update.description.getD current.description

structure LLMUpstream where
  id : Int
  name : String
  apiBase : String
  apiKey : String
  provider : String
  tags : List String
  proxies : List String
  status : String
  description : String
  deriving DecidableEq

structure UpdateLLMUpstream where
  name : Option String
  apiBase : Option String
  apiKey : Option String
  provider : Option String
  tags : Option (List String)
  proxies : Option (List String)
  status : Option String
  description : Option String
  deriving DecidableEq

/-- Each column is the one provided, else the current one. -/
def UpdateLLMUpstream.over (update : UpdateLLMUpstream) (current : LLMUpstream) : LLMUpstream where
  id := current.id
  name := update.name.getD current.name
  apiBase := update.apiBase.getD current.apiBase
  apiKey := update.apiKey.getD current.apiKey
  provider := update.provider.getD current.provider
  tags := update.tags.getD current.tags
  proxies := update.proxies.getD current.proxies
  status := update.status.getD current.status
  description := update.description.getD current.description

structure FileMeta where
  id : Int
  fileId : String
  originalFileId : String
  purpose : String
  upstreamId : Int
  deleted : Bool
  deriving DecidableEq

structure BatchMeta where
  id : Int
  batchId : String
  originalBatchId : String
  upstreamId : Int
  status : String
  provider : String
  deriving DecidableEq

structure ResponseMeta where
  id : Int
  responseId : String
  originalResponseId : String
  upstreamId : Int
  deleted : Bool
  deriving DecidableEq

instance : Row Account Int String := ⟨Account.id, Account.name⟩
instance : Row ApiCredential Int String := ⟨ApiCredential.id, ApiCredential.apiKeyHash⟩
instance : Row Wallet Int Int := ⟨Wallet.id, Wallet.accountId⟩
instance : Row BalanceChange Int String := ⟨BalanceChange.id, BalanceChange.uniqueRequestId⟩
instance : Row SubscriptionPlan Int Int := ⟨SubscriptionPlan.id, SubscriptionPlan.id⟩
instance : Row Subscription Int Int := ⟨Subscription.id, Subscription.id⟩
instance : Row SessionEvent Int (String × Int) :=
  ⟨SessionEvent.id, fun e => (e.sessionId, e.sessionIndex)⟩
instance : Row LLMModel Int (Int × String) := ⟨LLMModel.id, fun m => (m.upstreamId, m.fullname)⟩
instance : Row LLMUpstream Int Int := ⟨LLMUpstream.id, LLMUpstream.id⟩
instance : Row FileMeta Int String := ⟨FileMeta.id, FileMeta.fileId⟩
instance : Row BatchMeta Int String := ⟨BatchMeta.id, BatchMeta.batchId⟩
instance : Row ResponseMeta Int String := ⟨ResponseMeta.id, ResponseMeta.responseId⟩

end LLMPool
