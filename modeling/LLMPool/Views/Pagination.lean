import LLMPool.Catalogue.ListingPages
import LLMPool.Plans.SubscriptionPlans
import LLMPool.Secrets.Upstreams
import LLMPool.Views.Accounts
import Mathlib.Data.Prod.Lex

/-! The six admin endpoints that list a table page by page, in a build with overflow checks and
in one without. Each counts the rows and then reads a page of them, perhaps of another state. -/
namespace LLMPool.Pagination
open Relational
open Billing.AdminRestApi (databaseError)
open Catalogue (IsText Stored countModelsFiltered listModelsFilteredPaginated)
open Catalogue.AdminRestApi (ListModelsParams PaginatedResponse clamp maxPageSize wrap)
open Secrets (Primitives UpstreamRow)

/-- A number of 64 bits. -/
def InI64 (value : Int) : Prop := -(2 ^ 63) ≤ value ∧ value < 2 ^ 63

instance (value : Int) : Decidable (InI64 value) := inferInstanceAs (Decidable (_ ∧ _))

/-- The result of an operation. One that has too many bits panics where overflow is checked,
and wraps otherwise. -/
def arith (checks : Bool) (value : Int) : Option Int :=
  if InI64 value then some value else if checks then none else some (wrap value)

structure PaginationParams where
  page : Int := 1
  pageSize : Int := 20

/-- A page may only be past the first. -/
def pageOf (page : Int) : Int := if page < 1 then 1 else page

def sizeOf (pageSize : Int) : Int := clamp 1 maxPageSize pageSize

def offsetOf (checks : Bool) (page pageSize : Int) : Option Int := do
  let before ← arith checks (page - 1)
  arith checks (before * pageSize)

def totalPagesOf (checks : Bool) (total pageSize : Int) : Option Int :=
  if total = 0 then some 0
  else do
    let sum ← arith checks (total + pageSize)
    let last ← arith checks (sum - 1)
    return last.tdiv pageSize

/-- What the six handlers have in common; a list without a result has panicked, and so has the
handler. -/
def paginate (checks : Bool) (message : String) (page pageSize : Int) (count : Except ε Int)
    (list : Int → Int → Option (Except ε' (List α))) : Option (Billing.AdminRestApi.Response (PaginatedResponse α)) := do
  let page := pageOf page
  let pageSize := sizeOf pageSize
  let offset ← offsetOf checks page pageSize
  match count with
  | .error _ => return databaseError message
  | .ok total =>
      match ← list offset pageSize with
      | .error _ => return databaseError message
      | .ok data =>
          let totalPages ← totalPagesOf checks total pageSize
          return .success .ok ⟨data, page, pageSize, total, totalPages⟩

section Statements
variable {ρ κ υ γ : Type} [Row ρ κ υ] [LinearOrder γ]

/-- A table of a database, which has room for no more rows. -/
structure Held (ρ : Type) {κ υ : Type} [Row ρ κ υ] extends Table ρ where
  bounded : rows.length < 2 ^ 62

/-- `ORDER BY … LIMIT l OFFSET o`; the server refuses a number below zero. -/
def limited (column : ρ → γ) (rows : List ρ) (offset limit : Int) : Except SqlxError (List ρ) :=
  if limit < 0 ∨ offset < 0 then .error (.database .conflict)
  else .ok (((rows.insertionSort (fun r s => column r ≤ column s)).drop offset.toNat).take limit.toNat)

/-- `SELECT COUNT(*)` of some rows. -/
def counted (rows : List ρ) : Except SqlxError Int := .ok rows.length

/-- `sort_order DESC` and then an id. -/
def bySortOrder (sortOrder id : Int) : Int ×ₗ Int := toLex (-sortOrder, id)

end Statements

/-- The slice of a key that splits a character panics. -/
def unlessPanicked : Except Secrets.QueryError α → Option (Except Secrets.QueryError α)
  | .error .panicked => none
  | result => some result

/-- The rows of a page, each with its key decrypted. -/
def decrypted (decrypt : ρ → Except Secrets.QueryError α) :
    Except SqlxError (List ρ) → Option (Except Secrets.QueryError (List α))
  | .error e => some (.error (.sqlx e))
  | .ok rows => unlessPanicked (rows.mapM decrypt)

section Upstreams

def countUpstreams (db : Held UpstreamRow) : Except SqlxError Int := counted db.rows

def listUpstreamsPaginated (p : Primitives) (encryptionKey : String) (db : Held UpstreamRow)
    (offset limit : Int) : Option (Except Secrets.QueryError (List Secrets.LLMUpstream)) :=
  decrypted (Secrets.decryptUpstream p encryptionKey) (limited UpstreamRow.id db.rows offset limit)

def listUpstreams (checks : Bool) (p : Primitives) (encryptionKey : String) (total rows : Held UpstreamRow)
    (params : PaginationParams) : Option (Billing.AdminRestApi.Response (PaginatedResponse Secrets.LLMUpstream)) :=
  paginate checks "Failed to query upstreams" params.page params.pageSize (countUpstreams total)
    (listUpstreamsPaginated p encryptionKey rows)

end Upstreams

section Accounts

def countAccounts (db : Held Account) : Except SqlxError Int := counted db.rows

def listAccountsPaginated (db : Held Account) (offset limit : Int) : Except SqlxError (List Account) :=
  limited Account.id db.rows offset limit

def listAccounts (checks : Bool) (total rows : Held Account) (params : PaginationParams) :
    Option (Billing.AdminRestApi.Response (PaginatedResponse Account)) :=
  paginate checks "Failed to query accounts" params.page params.pageSize (countAccounts total)
    (fun offset limit => some (listAccountsPaginated rows offset limit))

end Accounts

section ApiCredentials

/-- A row of `api_credentials`. -/
structure CredentialRow extends ApiCredential where
  encryptedApiKey : String
  ellipsedApiKey : String

instance : Row CredentialRow Int String := ⟨fun row => row.id, fun row => row.apiKeyHash⟩

/-- The record with the decrypted key. -/
structure Credential extends CredentialRow where
  apikey : String

def decryptCredential (p : Primitives) (encryptionKey : String) (row : CredentialRow) :
    Except Secrets.QueryError Credential :=
  match Secrets.decryptIfConfigured p encryptionKey row.encryptedApiKey with
  | .error e => .error (.protocol (.string "Failed to decrypt encrypted_api_key: " :: e.display))
  | .ok plaintext =>
      match Secrets.ellipseApiKey plaintext with
      | none => .error .panicked
      | some ellipsed => .ok { row with ellipsedApiKey := ellipsed, apikey := plaintext }

def getAccountById (accounts : Table Account) (accountId : Int) : Except SqlxError (Option Account) :=
  .ok (accounts.find accountId)

def ofAccount (accountId : Int) (row : CredentialRow) : Bool := row.accountId = some accountId

def countApiCredentialsByAccount (db : Held CredentialRow) (accountId : Int) : Except SqlxError Int :=
  counted (db.rows.filter (ofAccount accountId))

def listApiCredentialsByAccountPaginated (p : Primitives) (encryptionKey : String) (db : Held CredentialRow)
    (accountId offset limit : Int) : Option (Except Secrets.QueryError (List Credential)) :=
  decrypted (decryptCredential p encryptionKey)
    (limited (fun row => row.id) (db.rows.filter (ofAccount accountId)) offset limit)

/-- The account is verified first. -/
def listAccountApikeys (checks : Bool) (p : Primitives) (encryptionKey : String) (accounts : Table Account)
    (total rows : Held CredentialRow) (accountId : Int) (params : PaginationParams) :
    Option (Billing.AdminRestApi.Response (PaginatedResponse Credential)) :=
  match getAccountById accounts accountId with
  | .ok (some _) =>
      paginate checks "Failed to query API keys" params.page params.pageSize
        (countApiCredentialsByAccount total accountId)
        (listApiCredentialsByAccountPaginated p encryptionKey rows accountId)
  | .ok none => some (Auth.accountNotFound accountId)
  | .error _ => some (databaseError "Failed to query account")

end ApiCredentials

section Models

def listModels (checks : Bool) (total rows : Stored) (params : ListModelsParams) :
    Option (Billing.AdminRestApi.Response (PaginatedResponse LLMModel)) :=
  paginate checks "Failed to query models" params.page params.pageSize
    (countModelsFiltered total params.filter)
    (fun offset limit => some (listModelsFilteredPaginated rows params.filter offset limit))

end Models

section SubscriptionPlans
open Plans (SubscriptionPlanRow)

def countSubscriptionPlans (db : Held SubscriptionPlanRow) : Except SqlxError Int := counted db.rows

/-- `ORDER BY sort_order DESC, id ASC`; each row is decoded. -/
def listSubscriptionPlansPaginated (db : Held SubscriptionPlanRow) (offset limit : Int) :
    Except Plans.QueryError (List Plans.SubscriptionPlan) :=
  match limited (fun row => bySortOrder row.sortOrder.toInt row.id.toInt) db.rows offset limit with
  | .error e => .error (.sqlx e)
  | .ok rows => rows.mapM Plans.SubscriptionPlan.fromRow

def listSubscriptionPlans (checks : Bool) (total rows : Held SubscriptionPlanRow) (params : PaginationParams) :
    Option (Billing.AdminRestApi.Response (PaginatedResponse Plans.SubscriptionPlan)) :=
  paginate checks "Failed to query subscription plans" params.page params.pageSize (countSubscriptionPlans total)
    (fun offset limit => some (listSubscriptionPlansPaginated rows offset limit))

end SubscriptionPlans

section Subscriptions

def statusText : SubscriptionStatus → String
  | .pending => "pending"
  | .active => "active"
  | .deactive => "deactive"

structure ListSubscriptionsParams extends PaginationParams where
  accountId : Option Int
  status : Option String

/-- `($1 IS NULL OR account_id = $1) AND ($2 IS NULL OR status = $2)`. -/
def filtered (accountId : Option Int) (status : Option String) (row : Subscription) : Bool :=
  accountId.all (fun accountId => row.accountId = accountId) && status.all (fun status => statusText row.status = status)

/-- The server refuses a text that is none. -/
def selected (db : Held Subscription) (accountId : Option Int) (status : Option String) :
    Except SqlxError (List Subscription) :=
  if status.all (fun status => IsText status) then .ok (db.rows.filter (filtered accountId status))
  else .error (.database .conflict)

def countSubscriptions (db : Held Subscription) (accountId : Option Int) (status : Option String) :
    Except SqlxError Int := do
  counted (← selected db accountId status)

/-- `ORDER BY sort_order DESC, id DESC`. -/
def listSubscriptionsPaginated (db : Held Subscription) (accountId : Option Int) (status : Option String)
    (offset limit : Int) : Except SqlxError (List Subscription) := do
  limited (fun row => bySortOrder row.sortOrder (-row.id)) (← selected db accountId status) offset limit

def listSubscriptions (checks : Bool) (total rows : Held Subscription) (params : ListSubscriptionsParams) :
    Option (Billing.AdminRestApi.Response (PaginatedResponse Subscription)) :=
  paginate checks "Failed to query subscriptions" params.page params.pageSize
    (countSubscriptions total params.accountId params.status)
    (fun offset limit => some (listSubscriptionsPaginated rows params.accountId params.status offset limit))

end Subscriptions
end LLMPool.Pagination
