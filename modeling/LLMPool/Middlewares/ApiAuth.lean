import LLMPool.Query

/-! The middlewares that authenticate a request by its API key: Redis first, the
database on a miss. The two providers' middlewares differ in the header they read. -/
namespace LLMPool.Middlewares
open Transactions

/-- `passed` is the response of the handler behind the middleware. -/
inductive Response (α : Type) where
  | passed (response : α)
  | error (status : StatusCode) (message type code : String)
  deriving DecidableEq

def authErrorResponse (status : StatusCode) (message code : String) : Response α :=
  let type := if status = .unauthorized then "authentication_error" else "server_error"
  .error status message type code

def invalidCredential (message : String) : Response α :=
  authErrorResponse .unauthorized message "invalid_api_credential"

def internalError : Response α :=
  authErrorResponse .internalServerError "Internal server error during authentication."
    "internal_error"

section Steps
variable (tokenHash : String) (next : Int → Int → Action α)

/-- The hash is compared again, as a guard against collisions of the cache's keys. -/
def passCached (info : ApiKeyInfo) : Action (Response α) :=
  if info.apiKeyHash ≠ tokenHash ∨ info.isActive = false then
    return invalidCredential "Invalid API key."
  else
    match info.accountId with
    | none => return invalidCredential "API key is not associated with an account."
    | some accountId =>
        if info.accountIsActive = false then
          return invalidCredential "Account is inactive."
        else do
          return .passed (← next accountId info.id)

/-- A failure of the cache write is only logged. -/
def passActive (accessKey : ApiCredential) (account : Account) : Action (Response α) :=
  if account.isActive = false then
    return invalidCredential "Account is inactive."
  else do
    let _ ← Prog.remote (E := engine) (.setApiKeyInfo tokenHash {
      id := accessKey.id
      accountId := accessKey.accountId
      apiKeyHash := tokenHash
      label := accessKey.label
      isActive := accessKey.isActive
      accountIsActive := account.isActive })
    return .passed (← next account.id accessKey.id)

def lookUpCredential : Action (Response α) := do
  match ← (Query.auto (.findActiveApiCredentialByApiKeyHash tokenHash)).run with
  | .error _ => return internalError
  | .ok none => return invalidCredential "Invalid API key."
  | .ok (some accessKey) =>
      match accessKey.accountId with
      | none => return invalidCredential "API key is not associated with an account."
      | some accountId =>
          match ← (Query.auto (.getAccountById accountId)).run with
          | .error _ => return internalError
          | .ok none => return invalidCredential "Account not found for this API key."
          | .ok (some account) => passActive tokenHash next accessKey account

/-- A failure of the cache read is only logged, and counts as a miss. -/
def authenticate : Action (Response α) := do
  match ← Prog.remote (E := engine) (.getApiKeyInfo tokenHash) with
  | .ok (some info) => passCached tokenHash next info
  | _ => lookUpCredential tokenHash next

end Steps

def bearerToken (header : String) : Option String :=
  if "Bearer ".toList <+: header.toList then some (String.ofList (header.toList.drop 7)) else none

/-- A header is `none` where it is missing or is not text; `hashToken` is SHA-256. -/
def authOpenAIApi (hashToken : String → String) (authorization : Option String)
    (next : Int → Int → Action α) : Action (Response α) :=
  match authorization.bind bearerToken with
  | some token => authenticate (hashToken token) next
  | none =>
      return authErrorResponse .unauthorized
        "Missing or invalid Authorization header. Expected: Bearer <apikey>" "invalid_api_key"

def authAnthropicApi (hashToken : String → String) (xApiKey : Option String)
    (next : Int → Int → Action α) : Action (Response α) :=
  match xApiKey.filter (fun token => token ≠ "") with
  | some token => authenticate (hashToken token) next
  | none =>
      return authErrorResponse .unauthorized "Missing or invalid x-api-key header." "invalid_api_key"

end LLMPool.Middlewares
