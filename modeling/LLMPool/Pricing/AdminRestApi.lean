import LLMPool.Pricing.Tables
import LLMPool.Views.Accounts

/-! The admin endpoints that list the models of an upstream, test a model and update one. -/
namespace LLMPool.Pricing
open Transactions

inductive SaveError where
  | client (e : ClientError)
  | sqlx (e : SqlxError)

abbrev Saving := ExceptT SaveError Action

def fromSqlx (x : Query α) : Saving α :=
  ExceptT.mk (do
    match ← x.run with
    | .ok value => return .ok value
    | .error e => return .error (.sqlx e))

def listModels (apiKey apiBase : String) : Saving (List String) :=
  ExceptT.mk (do
    match ← Prog.remote (E := engine) (.listModels apiKey apiBase) with
    | .ok (.ok ids) => return .ok ids
    | .ok (.error e) => return .error (.client e)
    | .error _ => return .error (.client .network))

/-- The upstream at an address takes the name and the key, or it is created. -/
def saveUpstream (name apiKey apiBase : String) : Query LLMUpstream :=
  ExceptT.mk (do
    match ← (getUpstreamByApiBase apiBase).run with
    | .ok existing =>
        (updateUpstream existing.id ⟨some name, none, some apiKey, none, none, none, none, none⟩).run
    | .error .rowNotFound =>
        (createUpstream {
          name := name
          apiBase := apiBase
          apiKey := apiKey
          provider := "openai"
          tags := []
          proxies := []
          status := "online"
          description := "" }).run
    | .error e => return .error e)

def defaultTokenPrice : BigDecimal := 1 / 1000000

/-- A model that is there already is left untouched. -/
def saveModel (upstreamId : Int) (id : String) : Query Unit :=
  ExceptT.mk (do
    match ← (findModelByUpstreamAndModelId upstreamId id).run with
    | .ok _ => return .ok ()
    | .error .rowNotFound =>
        let created ← (createModel {
          upstreamId := upstreamId
          fullname := id
          features := []
          maxTokens := 100000
          inputTokenPrice := defaultTokenPrice
          outputTokenPrice := defaultTokenPrice
          batchInputTokenPrice := defaultTokenPrice
          batchOutputTokenPrice := defaultTokenPrice }).run
        return created.map (fun _ => ())
    | .error e => return .error e)

def saveModels (upstreamId : Int) : List String → Query Unit
  | [] => return ()
  | id :: rest => do
      saveModel upstreamId id
      saveModels upstreamId rest

/-- The models of the upstream are taken in the order of their ids. -/
def listAndSaveWithoutDetect (name apiKey apiBase : String) : Saving Unit := do
  let ids ← listModels apiKey apiBase
  let upstream ← fromSqlx (saveUpstream name apiKey apiBase)
  fromSqlx (saveModels upstream.id (ids.insertionSort (fun a b => a ≤ b)))

namespace AdminRestApi
open Billing.AdminRestApi (databaseError)

structure CreateUpstreamRequest where
  name : String
  apiKey : String
  apiBase : String
  provider : String := "openai"
  tags : List String := []
  proxies : List String := []

structure UpstreamWithModelsResponse where
  upstream : LLMUpstream
  models : List LLMModel

structure ModelTestResult where
  modelId : Int
  model : Option LLMModel
  error : Option String

structure UpdateModelRequest where
  isActive : Option Bool
  description : Option String
  inputTokenPrice : Option BigDecimal
  outputTokenPrice : Option BigDecimal
  batchInputTokenPrice : Option BigDecimal
  batchOutputTokenPrice : Option BigDecimal

def emptyField (field : String) : Billing.AdminRestApi.Response α :=
  .error .badRequest "validation_error" [.string (field ++ " cannot be empty")]

/-- What of the request an upstream takes that was saved with the defaults; a failure to
take it is only logged. -/
def completeUpstream (payload : CreateUpstreamRequest) (upstream : LLMUpstream) : Action LLMUpstream :=
  if payload.provider ≠ "openai" ∨ payload.tags ≠ [] ∨ payload.proxies ≠ [] then do
    let update : UpdateLLMUpstream := {
      name := none
      apiBase := none
      apiKey := none
      provider := some payload.provider
      tags := if payload.tags = [] then none else some payload.tags
      proxies := if payload.proxies = [] then none else some payload.proxies
      status := none
      description := none }
    match ← (updateUpstream upstream.id update).run with
    | .ok updated => return updated
    | .error _ => return upstream
  else return upstream

section Endpoints
variable (display : SaveError → String)

/-- `display` is how the libraries print their errors. -/
def createUpstream (payload : CreateUpstreamRequest) :
    Action (Billing.AdminRestApi.Response UpstreamWithModelsResponse) :=
  if Auth.trim payload.name = "" then return emptyField "name"
  else if Auth.trim payload.apiKey = "" then return emptyField "api_key"
  else if Auth.trim payload.apiBase = "" then return emptyField "api_base"
  else do
    match ← (listAndSaveWithoutDetect (Auth.trim payload.name) (Auth.trim payload.apiKey)
        (Auth.trim payload.apiBase)).run with
    | .error e =>
        return .error .badGateway "upstream_error" [.string "Failed to save upstream: ", .string (display e)]
    | .ok () =>
        match ← (getUpstreamByApiBase (Auth.trim payload.apiBase)).run with
        | .error _ => return databaseError "Upstream created but failed to retrieve it"
        | .ok saved =>
            let upstream ← completeUpstream payload saved
            match ← (listModelsByUpstream upstream.id).run with
            | .error _ => return databaseError "Upstream created but failed to retrieve models"
            | .ok models => return .success .created ⟨upstream, models⟩

def notFound (what : String) (id : Int) : Billing.AdminRestApi.Response α :=
  .error .notFound "not_found" [.string (what ++ " with id "), .integer id, .string " not found"]

def getProvider : String → Option Provider
  | "openai" => some .openai
  | "anthropic" => some .anthropic
  | _ => none

/-- The probes whose outcome is not known have found no feature. -/
def detectFeatures (provider : Provider) (model : LLMModel) (upstream : LLMUpstream) : Action (List String) := do
  match ← Prog.remote (E := engine) (.detectFeatures provider model upstream) with
  | .ok features => return features
  | .error _ => return []

def testModel (modelId : Int) : Action (Billing.AdminRestApi.Response ModelTestResult) := do
  match ← (getModel modelId).run with
  | .error .rowNotFound => return notFound "Model" modelId
  | .error (.database _) => return databaseError "Failed to fetch model"
  | .ok model =>
      match ← (getUpstream model.upstreamId).run with
      | .error .rowNotFound => return notFound "Upstream" model.upstreamId
      | .error (.database _) => return databaseError "Failed to fetch upstream"
      | .ok upstream =>
          match getProvider upstream.provider with
          | none =>
              return .error .badRequest "invalid_provider"
                [.string "Unsupported provider '", .string upstream.provider, .string "'"]
          | some provider =>
              let features ← detectFeatures provider model upstream
              match ← (updateModelFeatures modelId features).run with
              | .ok updated => return .success .ok ⟨modelId, some updated, none⟩
              | .error e => return .success .ok ⟨modelId, none, some (display (.sqlx e))⟩

/-- The prices that are provided, in the order in which they are checked. -/
def UpdateModelRequest.prices (payload : UpdateModelRequest) : List (String × BigDecimal) :=
  [("input_token_price", payload.inputTokenPrice), ("output_token_price", payload.outputTokenPrice),
    ("batch_input_token_price", payload.batchInputTokenPrice),
    ("batch_output_token_price", payload.batchOutputTokenPrice)].filterMap
      (fun (field, price) => price.map (fun price => (field, price)))

def UpdateModelRequest.update (payload : UpdateModelRequest) : UpdateLLMModel where
  fullname := none
  isActive := payload.isActive
  features := none
  maxTokens := none
  inputTokenPrice := payload.inputTokenPrice
  outputTokenPrice := payload.outputTokenPrice
  batchInputTokenPrice := payload.batchInputTokenPrice
  batchOutputTokenPrice := payload.batchOutputTokenPrice
  description := payload.description

def updateModelById (modelId : Int) (payload : UpdateModelRequest) : Action (Billing.AdminRestApi.Response LLMModel) :=
  match payload.prices.find? (fun (_, price) => price < 0) with
  | some (field, _) =>
      return .error .badRequest "validation_error" [.string (field ++ " must not be negative")]
  | none => do
      match ← (updateModel modelId payload.update).run with
      | .ok model => return .success .ok model
      | .error .rowNotFound => return notFound "Model" modelId
      | .error (.database _) => return databaseError "Failed to update model"

end Endpoints
end AdminRestApi

end LLMPool.Pricing
