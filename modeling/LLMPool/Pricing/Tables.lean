import LLMPool.Catalogue.Models
import LLMPool.Views.AdminRestApi
import Mathlib.Data.List.Sort

/-! The upstreams and the models that they list, as the admin API changes both: the
statements, and the database functions. -/
namespace LLMPool.Pricing
open Relational Transactions

structure NewLLMModel where
  upstreamId : Int
  fullname : String
  features : List String
  maxTokens : Int
  inputTokenPrice : BigDecimal
  outputTokenPrice : BigDecimal
  batchInputTokenPrice : BigDecimal
  batchOutputTokenPrice : BigDecimal

structure NewLLMUpstream where
  name : String
  apiBase : String
  apiKey : String
  provider : String
  tags : List String
  proxies : List String
  status : String
  description : String

def NewLLMModel.row (new : NewLLMModel) (id : Int) : LLMModel where
  id := id
  upstreamId := new.upstreamId
  fullname := new.fullname
  cname := deriveCname new.fullname
  isActive := true
  features := new.features
  maxTokens := new.maxTokens
  inputTokenPrice := new.inputTokenPrice
  outputTokenPrice := new.outputTokenPrice
  batchInputTokenPrice := new.batchInputTokenPrice
  batchOutputTokenPrice := new.batchOutputTokenPrice
  description := ""

def NewLLMUpstream.row (new : NewLLMUpstream) (id : Int) : LLMUpstream where
  id := id
  name := new.name
  apiBase := new.apiBase
  apiKey := new.apiKey
  provider := new.provider
  tags := new.tags
  proxies := new.proxies
  status := new.status
  description := new.description

structure Db where
  upstreams : Table LLMUpstream
  models : Table LLMModel

/-- The serial id that a row draws, the order of rows that none is promised for, the models
that an upstream lists, and the features that it is found to have. -/
structure Env where
  serial : Int
  pick : Nat
  listed : Except ClientError (List String)
  detected : List String

inductive Stmt where
  | getUpstreamByApiBase (apiBase : String)
  | getUpstream (id : Int)
  | insertUpstream (new : NewLLMUpstream)
  | updateUpstream (current : LLMUpstream) (update : UpdateLLMUpstream)
  | listModelsByUpstream (upstreamId : Int)
  | findModelByUpstreamAndModelId (upstreamId : Int) (modelId : String)
  | insertModel (new : NewLLMModel)
  | model (s : Catalogue.Stmt)

@[reducible] def Stmt.Answer : Stmt → Type
  | .getUpstreamByApiBase _ | .getUpstream _ | .updateUpstream _ _ => Option LLMUpstream
  | .insertUpstream _ => LLMUpstream
  | .listModelsByUpstream _ => List LLMModel
  | .findModelByUpstreamAndModelId _ _ | .model _ => Option LLMModel
  | .insertModel _ => LLMModel

def possible (s : Stmt) (env : Env) (db : Db) : Bool :=
  match s with
  | .insertUpstream _ => 0 < env.serial ∧ db.upstreams.find env.serial = none
  | .insertModel _ => 0 < env.serial ∧ db.models.find env.serial = none
  | _ => true

/-- `fetch_one` takes the first of the rows; no two models of an upstream have one name. -/
def exec (s : Stmt) (env : Env) (db : Db) : Option s.Answer :=
  match s with
  | .getUpstreamByApiBase apiBase =>
      some (Table.arrange env.pick (db.upstreams.rows.filter (fun u => u.apiBase = apiBase))).head?
  | .getUpstream id => some (db.upstreams.find id)
  | .insertUpstream new => some (new.row env.serial)
  | .updateUpstream current update =>
      some ((db.upstreams.find current.id).map (UpstreamChange.columns (update.over current)).on)
  | .listModelsByUpstream upstreamId =>
      some (Table.arrange env.pick (db.models.rows.filter (fun m => m.upstreamId = upstreamId)))
  | .findModelByUpstreamAndModelId upstreamId modelId => some (db.models.lookup (upstreamId, modelId))
  | .insertModel new =>
      if (db.models.lookup (new.upstreamId, new.fullname)).isNone then some (new.row env.serial) else none
  | .model s => Catalogue.exec s db.models

inductive Write where
  | insertUpstream (row : LLMUpstream)
  | changeUpstream (id : Int) (change : UpstreamChange)
  | insertModel (row : LLMModel)
  | model (w : Catalogue.Write)

def writes (s : Stmt) (answer : s.Answer) : List Write :=
  match s, answer with
  | .insertUpstream _, row => [.insertUpstream row]
  | .updateUpstream current update, some _ =>
      [.changeUpstream current.id (.columns (update.over current))]
  | .insertModel _, row => [.insertModel row]
  | .model s, answer => (Catalogue.writes s answer).map .model
  | _, _ => []

def apply (w : Write) (db : Db) : Db :=
  match w with
  | .insertUpstream row => { db with upstreams := db.upstreams.insert row }
  | .changeUpstream id change =>
      { db with upstreams := db.upstreams.modify id change.on (change_keeps change) }
  | .insertModel row => { db with models := db.models.insert row }
  | .model w => { db with models := Catalogue.apply w db.models }

/-- What the endpoints ask of an upstream; `detectFeatures` are the probes of a provider. -/
inductive Remote where
  | listModels (apiKey apiBase : String)
  | detectFeatures (provider : Provider) (model : LLMModel) (upstream : LLMUpstream)

@[reducible] def Remote.Reply : Remote → Type
  | .listModels _ _ => Except ClientError (List String)
  | .detectFeatures _ _ _ => List String

/-- Every statement runs on the pool, and commits on its own. -/
@[reducible] def engine : Transactions.Engine where
  Db := Db
  World := Unit
  Env := Env
  Stmt := Stmt
  Answer := Stmt.Answer
  Write := Write
  Lock := Empty
  Remote := Remote
  Reply := Remote.Reply
  possible := possible
  exec := exec
  writes := writes
  locks _ _ := []
  apply := apply
  touches _ := []
  remote c env world :=
    match c with
    | .listModels _ _ => (env.listed, world)
    | .detectFeatures _ _ _ => (env.detected, world)
  same l _ _ := l.elim
  same_refl l := l.elim
  same_trans l := l.elim
  covered _ _ _ _ l := l.elim
  apply_same _ l := l.elim

abbrev Action := Prog engine
abbrev Query := ExceptT SqlxError Action

def query (s : Stmt) : Query s.Answer := Query.pooled (E := engine) s

def getUpstreamByApiBase (apiBase : String) : Query LLMUpstream := do
  Query.fetchOne (← query (.getUpstreamByApiBase apiBase))

def getUpstream (upstreamId : Int) : Query LLMUpstream := do
  Query.fetchOne (← query (.getUpstream upstreamId))

def createUpstream (new : NewLLMUpstream) : Query LLMUpstream := query (.insertUpstream new)

/-- The row is read, and every column of it is written back. -/
def updateUpstream (upstreamId : Int) (update : UpdateLLMUpstream) : Query LLMUpstream := do
  let current ← getUpstream upstreamId
  Query.fetchOne (← query (.updateUpstream current update))

def listModelsByUpstream (upstreamId : Int) : Query (List LLMModel) := query (.listModelsByUpstream upstreamId)

def findModelByUpstreamAndModelId (upstreamId : Int) (modelId : String) : Query LLMModel := do
  Query.fetchOne (← query (.findModelByUpstreamAndModelId upstreamId modelId))

def createModel (new : NewLLMModel) : Query LLMModel := query (.insertModel new)

def getModel (id : Int) : Query LLMModel := do
  Query.fetchOne (← query (.model (.getModel id)))

/-- The row is read, and every column of it is written back. -/
def updateModel (modelId : Int) (update : UpdateLLMModel) : Query LLMModel := do
  let current ← getModel modelId
  Query.fetchOne (← query (.model (.updateModel current update)))

def updateModelFeatures (modelId : Int) (features : List String) : Query LLMModel := do
  Query.fetchOne (← query (.model (.updateModelFeatures modelId features)))

end LLMPool.Pricing
