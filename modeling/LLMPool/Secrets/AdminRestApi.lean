import LLMPool.Pricing.AdminRestApi
import LLMPool.Secrets.Upstreams

/-! The registration of an upstream where its key is stored encrypted. A slice that would
split a character unwinds the whole request. -/
namespace LLMPool.Secrets
open Transactions

inductive SaveError where
  | client (e : ClientError)
  | query (e : QueryError)

abbrev Saving := ExceptT SaveError (Prog engine)

def fromQuery (x : Query α) : Saving α :=
  ExceptT.mk (do
    match ← x.run with
    | .ok value => return .ok value
    | .error e => return .error (.query e))

def listModels (apiKey apiBase : String) : Saving (List String) :=
  ExceptT.mk (do
    match ← Prog.remote (E := engine) (.listModels apiKey apiBase) with
    | .ok (.ok ids) => return .ok ids
    | .ok (.error e) => return .error (.client e)
    | .error _ => return .error (.client .network))

def findModelByUpstreamAndModelId (upstreamId : Int) (modelId : String) : Query LLMModel := do
  fetchOne (← query (.findModelByUpstreamAndModelId upstreamId modelId))

def createModel (new : Pricing.NewLLMModel) : Query LLMModel := query (.insertModel new)

def listModelsByUpstream (upstreamId : Int) : Query (List LLMModel) := query (.listModelsByUpstream upstreamId)

/-- A model that is there already is left untouched. -/
def saveModel (upstreamId : Int) (id : String) : Query Unit :=
  ExceptT.mk (do
    match ← (findModelByUpstreamAndModelId upstreamId id).run with
    | .ok _ => return .ok ()
    | .error (.sqlx .rowNotFound) =>
        let created ← (createModel {
          upstreamId := upstreamId
          fullname := id
          features := []
          maxTokens := 100000
          inputTokenPrice := Pricing.defaultTokenPrice
          outputTokenPrice := Pricing.defaultTokenPrice
          batchInputTokenPrice := Pricing.defaultTokenPrice
          batchOutputTokenPrice := Pricing.defaultTokenPrice }).run
        return created.map (fun _ => ())
    | .error e => return .error e)

def saveModels (upstreamId : Int) : List String → Query Unit
  | [] => return ()
  | id :: rest => do
      saveModel upstreamId id
      saveModels upstreamId rest

section Functions
variable (p : Primitives) (encryptionKey : String)

/-- The upstream at an address takes the name and the key, or it is created. -/
def saveUpstream (nonce : Nonce) (name apiKey apiBase : String) : Query LLMUpstream :=
  ExceptT.mk (do
    match ← (getUpstreamByApiBase p encryptionKey apiBase).run with
    | .ok existing =>
        (updateUpstream p encryptionKey nonce existing.id
          ⟨some name, none, some apiKey, none, none, none, none, none⟩).run
    | .error (.sqlx .rowNotFound) =>
        (createUpstream p encryptionKey nonce {
          name := name
          apiBase := apiBase
          apiKey := apiKey
          provider := "openai"
          tags := []
          proxies := []
          status := "online"
          description := "" }).run
    | .error e => return .error e)

/-- The models of the upstream are taken in the order of their ids. -/
def listAndSaveWithoutDetect (nonce : Nonce) (name apiKey apiBase : String) : Saving Unit := do
  let ids ← listModels apiKey apiBase
  let upstream ← fromQuery (saveUpstream p encryptionKey nonce name apiKey apiBase)
  fromQuery (saveModels upstream.id (ids.insertionSort (fun a b => a ≤ b)))

namespace AdminRestApi
open Billing.AdminRestApi (databaseError)
open Pricing.AdminRestApi (CreateUpstreamRequest emptyField)

structure UpstreamWithModelsResponse where
  upstream : LLMUpstream
  models : List LLMModel

/-- The request passes the checks of its fields. -/
def Accepted (payload : CreateUpstreamRequest) : Prop :=
  Auth.trim payload.name ≠ "" ∧ Auth.trim payload.apiKey ≠ "" ∧ Auth.trim payload.apiBase ≠ ""

/-- What of the request an upstream takes that was saved with the defaults; a failure to
take it is only logged. There is none where a slice panics. -/
def completeUpstream (nonce : Nonce) (payload : CreateUpstreamRequest) (upstream : LLMUpstream) :
    Prog engine (Option LLMUpstream) :=
  if payload.provider ≠ "openai" ∨ payload.tags ≠ [] ∨ payload.proxies ≠ [] then do
    let update : UpdateLLMUpstream := {
      name := none
      apiBase := none
      apiKey := none
      provider := some payload.provider
      tags := if payload.tags = [] then none else some payload.tags
      proxies := if payload.proxies = [] then none else some payload.proxies
      status := none
      description := none }
    match ← (updateUpstream p encryptionKey nonce upstream.id update).run with
    | .ok updated => return some updated
    | .error .panicked => return none
    | .error _ => return some upstream
  else return some upstream

variable (display : SaveError → String)

/-- `display` is how the libraries print their errors; the two updates draw a nonce each.
There is no response where a slice panics. -/
def createUpstream (nonces : Nonce × Nonce) (payload : CreateUpstreamRequest) :
    Prog engine (Option (Billing.AdminRestApi.Response UpstreamWithModelsResponse)) :=
  if Auth.trim payload.name = "" then return some (emptyField "name")
  else if Auth.trim payload.apiKey = "" then return some (emptyField "api_key")
  else if Auth.trim payload.apiBase = "" then return some (emptyField "api_base")
  else do
    match ← (listAndSaveWithoutDetect p encryptionKey nonces.1 (Auth.trim payload.name)
        (Auth.trim payload.apiKey) (Auth.trim payload.apiBase)).run with
    | .error (.query .panicked) => return none
    | .error e =>
        return some (.error .badGateway "upstream_error"
          [.string "Failed to save upstream: ", .string (display e)])
    | .ok () =>
        match ← (getUpstreamByApiBase p encryptionKey (Auth.trim payload.apiBase)).run with
        | .error .panicked => return none
        | .error _ => return some (databaseError "Upstream created but failed to retrieve it")
        | .ok saved =>
            match ← completeUpstream p encryptionKey nonces.2 payload saved with
            | none => return none
            | some upstream =>
                match ← (listModelsByUpstream upstream.id).run with
                | .error _ => return some (databaseError "Upstream created but failed to retrieve models")
                | .ok models => return some (.success .created ⟨upstream, models⟩)

end AdminRestApi
end Functions

end LLMPool.Secrets
