import LLMPool.Views.AccountRoutes

/-! The command line tool as a client of the admin endpoints: how it finds the account that a
name or a number stands for, and what the wallet commands request for it. -/
namespace LLMPool.Ctl
open AccountRoutes Billing Http Passthrough

/-- The address and the token of the server, the HTTP client, and how an account is read from
the body of a response. -/
structure ApiClient (α : Type) where
  baseUrl : String
  token : String
  client : Reqwest α
  fromStr : Bytes → Option Account

/-- What a command fails with: `Request failed`, `Failed to parse response JSON`, or the error
or the body of a response without success. -/
inductive CtlError where
  | requestFailed (reason : String)
  | unparsed (body : Bytes)
  | api (status : StatusCode) (error : String) (message : List Value)
  | http (status : Nat) (body : Bytes)

namespace ApiClient

/-- The slashes at the end of the address are stripped. -/
def new (client : Reqwest α) (fromStr : Bytes → Option Account) (baseUrl token : String) : ApiClient α :=
  ⟨String.ofList (baseUrl.toList.rdropWhile (fun c => c = '/')), token, client, fromStr⟩

def url (client : ApiClient α) (path : String) : String := client.baseUrl ++ ("/api/v1" ++ path)

def handleResponse (client : ApiClient α) : Reply → Except CtlError Account
  | .account (.success _ account) => .ok account
  | .account (.error status error message) => .error (.api status error message)
  | .other status body =>
      if 200 ≤ status ∧ status < 300 then
        match client.fromStr body with
        | some account => .ok account
        | none => .error (.unparsed body)
      else .error (.http status body)

def get (client : ApiClient α) (server : Server) (path : String) : Except CtlError Account :=
  match (RequestBuilder.request client.client .get (utf8 (client.url path))).header "x-admin-token"
      (utf8 client.token) with
  | none => .error (.requestFailed client.client.builderError)
  | some request => client.handleResponse (server.get request.headers (pathText request.url.path) request.url.query)

end ApiClient

/-- An account ID is taken as it is, whether there is such an account or not. -/
def resolveAccountId (account : String) (client : ApiClient α) (server : Server) : Except CtlError Int :=
  match parseI64 account with
  | some id => return id
  | none => do
      let resp ← client.get server ("/accounts_by_name/" ++ account)
      return resp.id

inductive WalletAction where
  | show (account : String)
  | deposit (account amount requestId : String)
  | withdraw (account amount requestId : String)
  | credit (account amount requestId : String)

def WalletAction.account : WalletAction → String
  | .show account => account
  | .deposit account _ _ => account
  | .withdraw account _ _ => account
  | .credit account _ _ => account

/-- The request that a wallet command ends with: its path, and the account, the unique ID and
the amount of its body. -/
inductive WalletRequest where
  | get (path : String)
  | post (path : String) (accountId : Int) (uniqueRequestId amount : String)
  deriving DecidableEq

def WalletAction.request (action : WalletAction) (accountId : Int) : WalletRequest :=
  match action with
  | .show _ => .get ("/accounts/" ++ (toString accountId ++ "/wallet"))
  | .deposit _ amount requestId => .post "/deposits" accountId requestId amount
  | .withdraw _ amount requestId => .post "/withdrawals" accountId requestId amount
  | .credit _ amount requestId => .post "/credits" accountId requestId amount

def handleWallet (action : WalletAction) (client : ApiClient α) (server : Server) : Except CtlError WalletRequest := do
  let accountId ← resolveAccountId action.account client server
  return action.request accountId

end LLMPool.Ctl
