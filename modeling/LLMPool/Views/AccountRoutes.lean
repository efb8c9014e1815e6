import LLMPool.Catalogue.Listing
import LLMPool.Passthrough.Proxy
import LLMPool.Views.Accounts

/-! The accounts as the admin endpoints create them and find them, and the routes on which an
account is answered: behind the number of one, or behind its name. -/
namespace LLMPool.AccountRoutes
open Auth Billing Catalogue Http Passthrough Relational

/-- A number of 64 bits in decimal, with one sign in front of its digits or none. -/
def parseI64 (text : String) : Option Int :=
  let (negative, digits) : Bool × List Char := match text.toList with
    | '-' :: digits => (true, digits)
    | '+' :: digits => (false, digits)
    | digits => (false, digits)
  if digits = [] ∨ ¬digits.all Char.isDigit then none
  else
    let size : Int := Nat.ofDigitChars 10 digits 0
    let value := if negative then -size else size
    if -(2 ^ 63) ≤ value ∧ value < 2 ^ 63 then some value else none

/-- `serial` is the id that the database draws for a new row. -/
def createAccount (accounts : Table Account) (serial : Int) (name : String) :
    Table Account × AdminRestApi.Response Account :=
  if trim name = "" then (accounts, .error .badRequest "validation_error" [.string "Name cannot be empty"])
  else if ¬IsText (trim name) then (accounts, AdminRestApi.databaseError "Failed to create account")
  else if (accounts.lookup (trim name)).isSome then
    (accounts, .error .conflict "duplicate_error" [.string "An account with this name already exists"])
  else (accounts.insert ⟨serial, trim name, true⟩, .success .created ⟨serial, trim name, true⟩)

def getAccountById (accounts : Table Account) (accountId : Int) : AdminRestApi.Response Account :=
  match accounts.find accountId with
  | some account => .success .ok account
  | none => accountNotFound accountId

def getAccountByName (accounts : Table Account) (name : String) : AdminRestApi.Response Account :=
  if IsText name then
    match accounts.lookup name with
    | some account => .success .ok account
    | none => .error .notFound "not_found" [.string "Account with name '", .string name, .string "' not found"]
  else AdminRestApi.databaseError "Failed to query account"

/-- The accounts that requests to create one leave: no row gets an id that another one has. -/
inductive Created : Table Account → Prop
  | none : Created .empty
  | create {accounts : Table Account} {serial : Int} (created : Created accounts) (name : String)
      (drawn : 0 < serial ∧ serial < 2 ^ 63 ∧ accounts.find serial = none) :
      Created (createAccount accounts serial name).1

/-- Every account has a name that can be looked up. -/
theorem Created.named {accounts : Table Account} {account : Account} (created : Created accounts)
    (member : account ∈ accounts) :
    account.name ≠ "" ∧ IsText account.name := by
  induction created with
  | none => cases member
  | create created name drawn ih =>
      rw [createAccount] at member
      split at member
      · exact ih member
      · rename_i nonempty
        split at member
        · exact ih member
        · rename_i text
          split at member
          · exact ih member
          · rcases Table.mem_of_insert member with older | rfl
            · exact ih older
            · exact ⟨nonempty, Classical.not_not.mp text⟩

/-- Any text that is trimmed can name an account, under any ID. -/
theorem Created.alone {serial : Int} {name : String} (drawn : 0 < serial ∧ serial < 2 ^ 63)
    (trimmed : trim name = name) (nonempty : name ≠ "") (isText : IsText name) :
    ∃ accounts, Created accounts ∧ ⟨serial, name, true⟩ ∈ accounts := by
  refine ⟨_, .create .none name ⟨drawn.1, drawn.2, rfl⟩, ?_⟩
  have unused : ¬((Table.empty : Table Account).lookup name).isSome = true := Bool.false_ne_true
  rw [createAccount, trimmed, if_neg nonempty, if_neg (not_not.mpr isText), if_neg unused]
  exact (Table.mem_insert ⟨rfl, rfl⟩).mpr (.inr rfl)

/-- The one segment that a path has behind a route. -/
def param (route path : Bytes) : Option Bytes :=
  if route <+: path ∧ path.drop route.length ≠ [] ∧ byte '/' ∉ path.drop route.length then some (path.drop route.length)
  else none

/-- The text that a segment encodes. -/
def textParam (raw : Bytes) : Option String := String.fromUTF8? ⟨(percentDecode raw).toArray⟩

def accountsById : Bytes := "/api/v1/accounts/".toList.map byte

def accountsByName : Bytes := "/api/v1/accounts_by_name/".toList.map byte

/-- A response: that of a handler that answers with an account, or the status and the body of
any other. -/
inductive Reply where
  | account (response : AdminRestApi.Response Account)
  | other (status : Nat) (body : Bytes)

/-- The accounts of a server, how it refuses a token, what it says of a parameter that is no
text or no number, and what it answers on the other routes. -/
structure Server where
  accounts : Table Account
  authJwt : Option HeaderValue → Option (Nat × Bytes)
  rejection : Bytes → Bytes
  elsewhere : Bytes → Option Bytes → Nat × Bytes

/-- The value of the `x-admin-token` header. -/
def adminToken (headers : List Header) : Option HeaderValue :=
  (headers.find? (fun header => header.1.text = "x-admin-token")).map Prod.snd

def Server.answer (server : Server) (headers : List Header) (raw : Bytes) (parameter : Option α)
    (handler : α → AdminRestApi.Response Account) : Reply :=
  match server.authJwt (adminToken headers) with
  | some (status, body) => .other status body
  | none =>
      match parameter with
      | some value => .account (handler value)
      | none => .other 400 (server.rejection raw)

/-- The answer to a `GET` request. -/
def Server.get (server : Server) (headers : List Header) (path : Bytes) (query : Option Bytes) : Reply :=
  match param accountsByName path, param accountsById path with
  | some raw, _ => server.answer headers raw (textParam raw) (getAccountByName server.accounts)
  | none, some raw => server.answer headers raw (textParam raw >>= parseI64) (getAccountById server.accounts)
  | none, none => .other (server.elsewhere path query).1 (server.elsewhere path query).2

end LLMPool.AccountRoutes
