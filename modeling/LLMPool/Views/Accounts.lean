import LLMPool.Views.AdminRestApi
import Mathlib.Data.List.DropRight

/-! The admin endpoints that update accounts, and that create and delete API keys. -/
namespace LLMPool.Auth
open Transactions Billing

/-- The characters with the Unicode property White_Space. -/
def isWhitespace (c : Char) : Bool :=
  let n := c.toNat
  (9 ≤ n ∧ n ≤ 13) ∨ n = 0x20 ∨ n = 0x85 ∨ n = 0xA0 ∨ n = 0x1680 ∨ (0x2000 ≤ n ∧ n ≤ 0x200A) ∨
    n = 0x2028 ∨ n = 0x2029 ∨ n = 0x202F ∨ n = 0x205F ∨ n = 0x3000

def trim (s : String) : String :=
  String.ofList ((s.toList.dropWhile isWhitespace).rdropWhile isWhitespace)

def updateAccount (accountId : Int) (update : UpdateAccount) : Query Account := do
  Query.fetchOne (← Query.auto (.updateAccount accountId update))

/-- A new key is `lpx-` and a UUID without its hyphens. -/
def generateApiCredential (uuid : String) : String :=
  "lpx-" ++ String.ofList (uuid.toList.filter (fun c => c ≠ '-'))

def createApiCredentialForAccount (hashApiKey : String → String) (accountId : Int)
    (label uuid : String) : Query ApiCredential :=
  Query.auto (.insertApiCredential (some accountId) (hashApiKey (generateApiCredential uuid)) label)

def deactivateApiCredential (hashApiKey : String → String) (apikey : String) :
    Query ApiCredential := do
  Query.fetchOne (← Query.auto (.deactivateApiCredential (hashApiKey apikey)))

def accountNotFound (accountId : Int) : AdminRestApi.Response α :=
  .error .notFound "not_found"
    [.string "Account with id ", .integer accountId, .string " not found"]

/-- Only the cache entry of the account is deleted, and a failure of that is logged. -/
def updateAccountById (accountId : Int) (name : Option String) (isActive : Option Bool) :
    Action (AdminRestApi.Response Account) :=
  if name.any (fun name => trim name = "") then
    return .error .badRequest "validation_error" [.string "Name cannot be empty"]
  else do
    match ← (updateAccount accountId ⟨name.map trim, isActive⟩).run with
    | .ok account => do
        let _ ← Prog.remote (E := engine) (.deleteAccountInfo accountId)
        return .success .ok account
    | .error .rowNotFound => return accountNotFound accountId
    | .error (.database .conflict) =>
        return .error .conflict "duplicate_error"
          [.string "An account with this name already exists"]
    | .error (.database _) => return AdminRestApi.databaseError "Failed to update account"

/-- A failure of the cache write is only logged. -/
def createAccountApikey (hashApiKey : String → String) (accountId : Int) (label uuid : String) :
    Action (AdminRestApi.Response ApiCredential) := do
  match ← (Query.auto (.getAccountById accountId)).run with
  | .ok none => return accountNotFound accountId
  | .error _ => return AdminRestApi.databaseError "Failed to query account"
  | .ok (some account) =>
      match ← (createApiCredentialForAccount hashApiKey accountId label uuid).run with
      | .error _ => return AdminRestApi.databaseError "Failed to create API key"
      | .ok key => do
          let _ ← Prog.remote (E := engine) (.setApiKeyInfo key.apiKeyHash {
            id := key.id
            accountId := key.accountId
            apiKeyHash := key.apiKeyHash
            label := key.label
            isActive := key.isActive
            accountIsActive := account.isActive })
          return .success .created key

/-- A failure of the cache's delete is only logged. -/
def deleteApikey (hashApiKey : String → String) (apikey : String) :
    Action (AdminRestApi.Response ApiCredential) := do
  match ← (deactivateApiCredential hashApiKey apikey).run with
  | .ok key => do
      let _ ← Prog.remote (E := engine) (.deleteApiKeyInfo key.apiKeyHash)
      return .success .ok key
  | .error .rowNotFound =>
      return .error .notFound "not_found"
        [.string "API key '", .string apikey, .string "' not found"]
  | .error (.database _) => return AdminRestApi.databaseError "Failed to delete API key"

end LLMPool.Auth
