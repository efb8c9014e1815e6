import LLMPool.Relational.Pages
import LLMPool.Views.AdminRestApi
import Mathlib.Data.List.Sort

/-! The admin endpoint that lists the models page by page: two statements, whose text and
whose bindings are put together for the filters that are given. -/
namespace LLMPool.Catalogue
open Relational Transactions

/-- A value that PostgreSQL can store as a text. -/
def IsText (text : String) : Prop := Char.ofNat 0 ∉ text.toList

instance (text : String) : Decidable (IsText text) := inferInstanceAs (Decidable (¬_))

/-- The rows as the schema has them: a model references its upstream, and no table has more
rows than its pages can hold. -/
structure Stored where
  upstreams : Table LLMUpstream
  models : Table LLMModel
  references : ∀ m ∈ models, ∃ u ∈ upstreams, u.id = m.upstreamId
  cnames : ∀ m ∈ models, IsText m.cname
  names : ∀ u ∈ upstreams, IsText u.name
  bounded : models.rows.length < 2 ^ 62

structure ListModelsFilter where
  upstreamId : Option Int
  upstreamName : Option String
  name : Option String
  isActive : Option Bool

/-- A value that is bound to a placeholder. -/
inductive Bind where
  | bigint (value : Int)
  | text (value : String)
  | boolean (value : Bool)
  deriving DecidableEq

/-- The columns of `llm_models m` and `llm_upstreams e` that are compared. -/
inductive Column where
  | upstreamId
  | upstreamName
  | cname
  | isActive

def Column.of : Column → LLMModel × LLMUpstream → Bind
  | .upstreamId, (m, _) => .bigint m.upstreamId
  | .upstreamName, (_, e) => .text e.name
  | .cname, (m, _) => .text m.cname
  | .isActive, (m, _) => .boolean m.isActive

/-- ` AND m.upstream_id = $1`, and so on. -/
structure Condition where
  column : Column
  placeholder : Nat

/-- A statement under construction: its `WHERE` and the last placeholder it has. -/
structure Sql where
  conditions : List Condition
  paramIdx : Nat

/-- A condition is pushed with the next placeholder, where its filter is given. -/
def Sql.push (sql : Sql) (column : Column) (given : Bool) : Sql :=
  if given then ⟨sql.conditions ++ [⟨column, sql.paramIdx + 1⟩], sql.paramIdx + 1⟩ else sql

/-- Both statements put their `WHERE` together alike. -/
def whereClause (filter : ListModelsFilter) : Sql :=
  (Sql.mk [] 0).push .upstreamId filter.upstreamId.isSome
    |>.push .upstreamName filter.upstreamName.isSome
    |>.push .cname filter.name.isSome
    |>.push .isActive filter.isActive.isSome

/-- Both statements bind the filters alike. -/
def bindFilters (filter : ListModelsFilter) : List Bind :=
  filter.upstreamId.toList.map .bigint ++ filter.upstreamName.toList.map .text ++
    filter.name.toList.map .text ++ filter.isActive.toList.map .boolean

section Statements

/-- The value of `$i`. -/
def bound (binds : List Bind) (placeholder : Nat) : Option Bind := binds[placeholder - 1]?

def Condition.holds (binds : List Bind) (row : LLMModel × LLMUpstream) (c : Condition) : Bool :=
  bound binds c.placeholder = some (c.column.of row)

def Bind.sendable : Bind → Bool
  | .text value => decide (IsText value)
  | _ => true

/-- `INNER JOIN llm_upstreams e ON m.upstream_id = e.id`. -/
def Stored.joined (db : Stored) : List (LLMModel × LLMUpstream) :=
  db.models.rows.flatMap (fun m => (db.upstreams.rows.filter (fun e => m.upstreamId = e.id)).map (fun e => (m, e)))

/-- The rows that a statement selects; the server refuses a text that is none, and another
number of values than there are placeholders. -/
def Stored.select (db : Stored) (conditions : List Condition) (placeholders : Nat) (binds : List Bind) :
    Except SqlxError (List LLMModel) :=
  if binds.length ≠ placeholders ∨ ¬binds.all Bind.sendable then .error (.database .conflict)
  else .ok ((db.joined.filter (fun row => conditions.all (Condition.holds binds row))).map Prod.fst)

/-- `ORDER BY m.id ASC LIMIT l OFFSET o`; the server refuses a number below zero. -/
def orderedPage (rows : List LLMModel) (limit offset : Option Bind) : Except SqlxError (List LLMModel) :=
  match limit, offset with
  | some (.bigint limit), some (.bigint offset) =>
      if limit < 0 ∨ offset < 0 then .error (.database .conflict)
      else .ok (((rows.insertionSort (fun m m' => m.id ≤ m'.id)).drop offset.toNat).take limit.toNat)
  | _, _ => .error (.database .conflict)

def countModelsFiltered (db : Stored) (filter : ListModelsFilter) : Except SqlxError Int := do
  let sql := whereClause filter
  let rows ← db.select sql.conditions sql.paramIdx (bindFilters filter)
  return rows.length

def listModelsFilteredPaginated (db : Stored) (filter : ListModelsFilter) (offset limit : Int) :
    Except SqlxError (List LLMModel) := do
  let sql := whereClause filter
  let limitIdx := sql.paramIdx + 1
  let offsetIdx := sql.paramIdx + 2
  let binds := bindFilters filter ++ [.bigint limit, .bigint offset]
  let rows ← db.select sql.conditions offsetIdx binds
  orderedPage rows (bound binds limitIdx) (bound binds offsetIdx)

end Statements

namespace AdminRestApi
open Billing.AdminRestApi (databaseError)

def maxPageSize : Int := 100

structure ListModelsParams where
  upstreamId : Option Int
  upstreamName : Option String
  name : Option String
  isActive : Option Bool
  page : Int := 1
  pageSize : Int := 20

structure PaginatedResponse (α : Type) where
  data : List α
  page : Int
  pageSize : Int
  total : Int
  totalPages : Int

def clamp (low high value : Int) : Int := if value < low then low else if high < value then high else value

theorem clamp_bounds {low high value : Int} (ordered : low ≤ high) :
    low ≤ clamp low high value ∧ clamp low high value ≤ high := by
  unfold clamp
  omega

/-- A result of 64 bits. -/
def wrap (value : Int) : Int := value.bmod (2 ^ 64)

def ListModelsParams.filter (params : ListModelsParams) : ListModelsFilter where
  upstreamId := params.upstreamId
  upstreamName := params.upstreamName
  name := params.name
  isActive := params.isActive

def listModels (db : Stored) (params : ListModelsParams) :
    Billing.AdminRestApi.Response (PaginatedResponse LLMModel) :=
  let page := if params.page < 1 then 1 else params.page
  let pageSize := clamp 1 maxPageSize params.pageSize
  let offset := wrap (wrap (page - 1) * pageSize)
  match countModelsFiltered db params.filter with
  | .error _ => databaseError "Failed to query models"
  | .ok total =>
      match listModelsFilteredPaginated db params.filter offset pageSize with
      | .error _ => databaseError "Failed to query models"
      | .ok models =>
          let totalPages := if total = 0 then 0 else (wrap (wrap (total + pageSize) - 1)).tdiv pageSize
          .success .ok ⟨models, page, pageSize, total, totalPages⟩

end AdminRestApi
end LLMPool.Catalogue
