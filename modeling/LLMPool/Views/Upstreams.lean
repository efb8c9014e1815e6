import LLMPool.ProxyViews.Helpers
import LLMPool.Views.Accounts

/-! The admin endpoints that update an upstream and edit its tags, with the database
functions they call. -/
namespace LLMPool.Upstreams
open Transactions Billing

/-- The row is read, and every column of it is written back. -/
def updateUpstream (upstreamId : Int) (update : UpdateLLMUpstream) : Query LLMUpstream := do
  let current ← ProxyViews.getUpstream upstreamId
  Query.fetchOne (← Query.auto (.updateUpstream current update))

def markUpstreamOffline (upstreamId : Int) : Query Unit := Query.auto (.markUpstreamOffline upstreamId)

def markUpstreamOnline (upstreamId : Int) : Query Unit := Query.auto (.markUpstreamOnline upstreamId)

def addUpstreamTag (upstreamId : Int) (tag : String) : Query LLMUpstream := do
  Query.fetchOne (← Query.auto (.addUpstreamTag upstreamId tag))

def removeUpstreamTag (upstreamId : Int) (tag : String) : Query LLMUpstream := do
  Query.fetchOne (← Query.auto (.removeUpstreamTag upstreamId tag))

namespace AdminRestApi

structure UpdateUpstreamRequest where
  name : Option String
  provider : Option String
  tags : Option (List String)
  proxies : Option (List String)
  description : Option String
  status : Option String

def validEndpointStatuses : List String := ["online", "offline", "maintenance"]

/-- The address and the key are not updated here. -/
def UpdateUpstreamRequest.update (payload : UpdateUpstreamRequest) : UpdateLLMUpstream where
  name := payload.name
  apiBase := none
  apiKey := none
  provider := payload.provider
  tags := payload.tags
  proxies := payload.proxies
  status := payload.status
  description := payload.description

def invalidStatus (status : String) : Billing.AdminRestApi.Response α :=
  .error .badRequest "validation_error" [.string "Invalid status '", .string status,
    .string "'. Must be one of: ", .string (String.intercalate ", " validEndpointStatuses)]

/-- How the three endpoints answer what the database function returns. -/
def respond (upstreamId : Int) (failure : String) :
    Except SqlxError LLMUpstream → Billing.AdminRestApi.Response LLMUpstream
  | .ok upstream => .success .ok upstream
  | .error .rowNotFound => .error .notFound "not_found"
      [.string "Upstream with id ", .integer upstreamId, .string " not found"]
  | .error (.database _) => Billing.AdminRestApi.databaseError failure

def updateUpstreamById (upstreamId : Int) (payload : UpdateUpstreamRequest) :
    Action (Billing.AdminRestApi.Response LLMUpstream) :=
  match payload.status.filter (fun status => status ∉ validEndpointStatuses) with
  | some status => return invalidStatus status
  | none =>
      if payload.name.any (fun name => Auth.trim name = "") then
        return .error .badRequest "validation_error" [.string "name cannot be empty"]
      else
        return respond upstreamId "Failed to update upstream"
          (← (updateUpstream upstreamId payload.update).run)

def addUpstreamTag (upstreamId : Int) (tag : String) :
    Action (Billing.AdminRestApi.Response LLMUpstream) :=
  if Auth.trim tag = "" then
    return .error .badRequest "validation_error" [.string "Tag cannot be empty"]
  else
    return respond upstreamId "Failed to add tag to upstream"
      (← (Upstreams.addUpstreamTag upstreamId (Auth.trim tag)).run)

def removeUpstreamTag (upstreamId : Int) (tag : String) :
    Action (Billing.AdminRestApi.Response LLMUpstream) := do
  return respond upstreamId "Failed to remove tag from upstream"
    (← (Upstreams.removeUpstreamTag upstreamId tag).run)

end AdminRestApi
end LLMPool.Upstreams
