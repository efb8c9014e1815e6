import LLMPool.Relational.Decoding
import LLMPool.Views.AdminRestApi

/-! The table of the subscription plans: its columns, the statements on it with what each
row is decoded into, and the admin endpoints that create, update and read a plan. -/
namespace LLMPool.Plans
open Relational Transactions

/-- A row of `subscription_plans`; a BIGINT has 64 bits and an INTEGER 32. -/
structure SubscriptionPlanRow where
  id : Int64
  status : String
  description : String
  totalTokenLimit : Int64
  timeSpan : Int32
  moneyLimit : BigDecimal
  sortOrder : Int64
  createdAt : Int
  updatedAt : Int
  deriving DecidableEq

instance : Row SubscriptionPlanRow Int64 Int64 := ⟨SubscriptionPlanRow.id, SubscriptionPlanRow.id⟩

/-- The migration's columns. -/
def planColumns : List (String × ColumnType) :=
  [("id", .bigint), ("status", .varchar), ("description", .varchar), ("total_token_limit", .bigint),
    ("time_span", .integer), ("money_limit", .decimal), ("sort_order", .bigint), ("created_at", .timestamp),
    ("updated_at", .timestamp)]

structure SubscriptionPlan where
  id : Int64
  status : String
  description : String
  totalTokenLimit : Int64
  timeSpan : Int64
  moneyLimit : BigDecimal
  sortOrder : Int64
  createdAt : Int
  updatedAt : Int
  deriving DecidableEq

/-- The types of the fields that `FromRow` decodes. -/
def planFields : List (String × FieldType) :=
  [("id", .i64), ("status", .string), ("description", .string), ("total_token_limit", .i64),
    ("time_span", .i64), ("money_limit", .bigDecimal), ("sort_order", .i64), ("created_at", .naiveDateTime),
    ("updated_at", .naiveDateTime)]

def SubscriptionPlanRow.plan (row : SubscriptionPlanRow) : SubscriptionPlan where
  id := row.id
  status := row.status
  description := row.description
  totalTokenLimit := row.totalTokenLimit
  timeSpan := row.timeSpan.toInt64
  moneyLimit := row.moneyLimit
  sortOrder := row.sortOrder
  createdAt := row.createdAt
  updatedAt := row.updatedAt

inductive QueryError where
  | sqlx (e : SqlxError)
  | decode (e : DecodeError)
  deriving DecidableEq

def SubscriptionPlan.fromRow (row : SubscriptionPlanRow) : Except QueryError SubscriptionPlan :=
  match decodes planColumns planFields with
  | .ok _ => .ok row.plan
  | .error e => .error (.decode e)

structure CreateSubscriptionPlanRequest where
  description : String
  totalTokenLimit : Int64
  timeSpan : Int64
  moneyLimit : BigDecimal
  sortOrder : Int64
  deriving DecidableEq

structure UpdateSubscriptionPlanRequest where
  description : Option String
  totalTokenLimit : Option Int64
  timeSpan : Option Int64
  moneyLimit : Option BigDecimal
  sortOrder : Option Int64
  status : Option String
  deriving DecidableEq

/-- A bigint that an INTEGER column can hold. -/
def Fits (value : Int64) : Prop := -2 ^ 31 ≤ value.toInt ∧ value.toInt < 2 ^ 31

instance (value : Int64) : Decidable (Fits value) := by
  unfold Fits
  infer_instance

/-- The assignment cast from bigint to integer. -/
def toInteger (value : Int64) : Option Int32 := if Fits value then some value.toInt32 else none

def CreateSubscriptionPlanRequest.row (payload : CreateSubscriptionPlanRequest) (id : Int64) (now : Int) :
    Option SubscriptionPlanRow :=
  (toInteger payload.timeSpan).map (fun timeSpan =>
    ⟨id, "active", payload.description, payload.totalTokenLimit, timeSpan, payload.moneyLimit,
      payload.sortOrder, now, now⟩)

/-- `COALESCE(time_span, the column)` is a bigint, and cast back. -/
def UpdateSubscriptionPlanRequest.over (payload : UpdateSubscriptionPlanRequest) (now : Int)
    (row : SubscriptionPlanRow) : Option SubscriptionPlanRow :=
  (match payload.timeSpan with
  | none => some row.timeSpan
  | some timeSpan => toInteger timeSpan).map (fun timeSpan =>
    { row with
      description := payload.description.getD row.description
      totalTokenLimit := payload.totalTokenLimit.getD row.totalTokenLimit
      timeSpan := timeSpan
      moneyLimit := payload.moneyLimit.getD row.moneyLimit
      sortOrder := payload.sortOrder.getD row.sortOrder
      status := payload.status.getD row.status
      updatedAt := now })

/-- The clock, the id that the sequence draws, and whether the planner evaluates the cast
of a bound value before any row is looked for. -/
structure Env where
  now : Int
  serial : Int64
  folds : Bool

inductive Stmt where
  | createSubscriptionPlan (payload : CreateSubscriptionPlanRequest)
  | getSubscriptionPlanById (planId : Int64)
  | updateSubscriptionPlan (planId : Int64) (payload : UpdateSubscriptionPlanRequest)
  deriving DecidableEq

/-- A row that a statement has written. -/
inductive Write where
  | insert (row : SubscriptionPlanRow)
  | set (row : SubscriptionPlanRow)

def possible (s : Stmt) (env : Env) (db : Table SubscriptionPlanRow) : Bool :=
  match s with
  | .createSubscriptionPlan _ => 0 < env.serial ∧ db.find env.serial = none
  | _ => true

/-- A cast out of range refuses the statement. -/
def exec (s : Stmt) (env : Env) (db : Table SubscriptionPlanRow) : Option (Option SubscriptionPlanRow) :=
  match s with
  | .createSubscriptionPlan payload => (payload.row env.serial env.now).map some
  | .getSubscriptionPlanById planId => some (db.find planId)
  | .updateSubscriptionPlan planId payload =>
      match db.find planId with
      | none =>
          if env.folds = true ∧ (∃ timeSpan ∈ payload.timeSpan, ¬Fits timeSpan) then none else some none
      | some row => (payload.over env.now row).map some

def writes (s : Stmt) (answer : Option SubscriptionPlanRow) : List Write :=
  match s, answer with
  | .createSubscriptionPlan _, some row => [.insert row]
  | .updateSubscriptionPlan _ _, some row => [.set row]
  | _, _ => []

def apply (w : Write) (db : Table SubscriptionPlanRow) : Table SubscriptionPlanRow :=
  match w with
  | .insert row => db.insert row
  | .set row => db.modify row.id (fun r => { row with id := r.id }) (fun _ => ⟨rfl, rfl⟩)

/-- Every statement runs on the pool, and commits on its own. -/
@[reducible] def engine : Transactions.Engine where
  Db := Table SubscriptionPlanRow
  World := Unit
  Env := Env
  Stmt := Stmt
  Answer _ := Option SubscriptionPlanRow
  Write := Write
  Lock := Empty
  Remote := Empty
  Reply := Empty.elim
  possible := possible
  exec := exec
  writes := writes
  locks _ _ := []
  apply := apply
  touches _ := []
  remote c := c.elim
  same l _ _ := l.elim
  same_refl l := l.elim
  same_trans l := l.elim
  covered _ _ _ _ l := l.elim
  apply_same _ l := l.elim

abbrev Action := Prog engine

abbrev Query := ExceptT QueryError Action

/-- `fetch_optional`: the row is decoded once the statement has run. -/
def fetchOptional (s : Stmt) : Query (Option SubscriptionPlan) :=
  ExceptT.mk (do
    match ← (LLMPool.Query.pooled (E := engine) s).run with
    | .error e => return .error (.sqlx e)
    | .ok none => return .ok none
    | .ok (some row) => return (SubscriptionPlan.fromRow row).map some)

/-- `fetch_one`. -/
def fetchOne (s : Stmt) : Query SubscriptionPlan := do
  match ← fetchOptional s with
  | some plan => return plan
  | none => throw (.sqlx .rowNotFound)

def negativeMoneyLimit : Billing.AdminRestApi.Response α :=
  .error .badRequest "validation_error" [.string "money_limit must not be negative"]

def notFound (planId : Int64) : Billing.AdminRestApi.Response α :=
  .error .notFound "not_found"
    [.string "Subscription plan with id ", .integer planId.toInt, .string " not found"]

def createSubscriptionPlan (payload : CreateSubscriptionPlanRequest) :
    Action (Billing.AdminRestApi.Response SubscriptionPlan) :=
  if payload.moneyLimit < 0 then return negativeMoneyLimit
  else do
    match ← (fetchOne (.createSubscriptionPlan payload)).run with
    | .ok plan => return .success .created plan
    | .error _ => return Billing.AdminRestApi.databaseError "Failed to create subscription plan"

def getSubscriptionPlan (planId : Int64) : Action (Billing.AdminRestApi.Response SubscriptionPlan) := do
  match ← (fetchOptional (.getSubscriptionPlanById planId)).run with
  | .ok (some plan) => return .success .ok plan
  | .ok none => return notFound planId
  | .error _ => return Billing.AdminRestApi.databaseError "Failed to query subscription plan"

def validPlanStatuses : List String := ["active", "deactive"]

def invalidPlanStatus (status : String) : Billing.AdminRestApi.Response α :=
  .error .badRequest "validation_error" [.string "Invalid status '", .string status,
    .string "'. Must be one of: ", .string (String.intercalate ", " validPlanStatuses)]

def updateSubscriptionPlan (planId : Int64) (payload : UpdateSubscriptionPlanRequest) :
    Action (Billing.AdminRestApi.Response SubscriptionPlan) :=
  match payload.status.filter (fun status => status ∉ validPlanStatuses) with
  | some status => return invalidPlanStatus status
  | none =>
      if ∃ moneyLimit ∈ payload.moneyLimit, moneyLimit < 0 then return negativeMoneyLimit
      else do
        match ← (fetchOne (.updateSubscriptionPlan planId payload)).run with
        | .ok plan => return .success .ok plan
        | .error (.sqlx .rowNotFound) => return notFound planId
        | .error _ => return Billing.AdminRestApi.databaseError "Failed to update subscription plan"

end LLMPool.Plans
