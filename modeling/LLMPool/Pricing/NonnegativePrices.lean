import LLMPool.Pricing.AdminRestApi
import LLMPool.Pricing.Invariants

/-! No price of a model is ever negative, whatever the admin asks for and in any
interleaving: what is saved is a default, what is updated was checked or read. -/
namespace LLMPool.Pricing
open Relational Transactions

structure Nonnegative (m : LLMModel) : Prop where
  inputTokenPrice : 0 ≤ m.inputTokenPrice
  outputTokenPrice : 0 ≤ m.outputTokenPrice
  batchInputTokenPrice : 0 ≤ m.batchInputTokenPrice
  batchOutputTokenPrice : 0 ≤ m.batchOutputTokenPrice

def Priced (db : Db) : Prop := ∀ m ∈ db.models, Nonnegative m

/-- The prices that a statement writes are none below zero. -/
def Sound : Stmt → Prop
  | .insertModel new => ∀ id, Nonnegative (new.row id)
  | .model (.updateModel current update) => Nonnegative (update.over current)
  | _ => True

theorem columnar_nonnegative : Columnar Nonnegative where
  features _ _ nonneg := ⟨nonneg.inputTokenPrice, nonneg.outputTokenPrice, nonneg.batchInputTokenPrice,
    nonneg.batchOutputTokenPrice⟩
  columns _ _ nonneg := ⟨nonneg.inputTokenPrice, nonneg.outputTokenPrice, nonneg.batchInputTokenPrice,
    nonneg.batchOutputTokenPrice⟩

theorem Sound.brings {s : Stmt} (sound : Sound s) : Brings Nonnegative s := by
  cases s with
  | model s => cases s <;> exact sound
  | _ => exact sound

section Programs
variable {D : Discipline engine}

/-- A program that never leaves a negative price. -/
def Sets (D : Discipline engine) (Q : α → Prop) (p : Action α) : Prop := p.keeps D Priced Q

theorem sets_query {s : Stmt} {Q : Except SqlxError s.Answer → Prop} (sound : Sound s)
    (answered : ∀ env db answer, Priced db → exec s env db = some answer → Q (.ok answer))
    (refused : ∀ e, Q (.error e)) : Sets D Q (query s).run :=
  keeps_query columnar_nonnegative sound.brings answered refused

/-- What a statement answers, on to the rest. -/
theorem sets_then {s : Stmt} {f : s.Answer → Query α} (sound : Sound s)
    (rest : ∀ answer, Sets D (fun _ => True) (f answer).run) : Sets D (fun _ => True) (query s >>= f).run :=
  keeps_then columnar_nonnegative sound.brings rest

theorem sets_fetch {answer : Option α} : Sets D (fun _ => True) (Query.fetchOne answer : Query α).run :=
  keeps_fetchOne (fun _ _ => trivial) trivial

theorem sets_getModel {modelId : Int} :
    Sets D (fun result => ∀ m, result = .ok m → Nonnegative m) (getModel modelId).run :=
  keeps_getModel columnar_nonnegative

theorem nonnegative_update {payload : AdminRestApi.UpdateModelRequest} {current : LLMModel}
    (checked : payload.prices.find? (fun (_, price) => price < 0) = none) (nonneg : Nonnegative current) :
    Nonnegative (payload.update.over current) := by
  have each : ∀ field price, (field, price) ∈ payload.prices → 0 ≤ price := by
    intro field price member
    have fine := List.find?_eq_none.mp checked (field, price) member
    simpa using fine
  have provided : ∀ field (price : Option BigDecimal) old, 0 ≤ old →
      (∀ q, price = some q → (field, q) ∈ payload.prices) → 0 ≤ price.getD old := by
    intro field price old kept member
    cases price with
    | none => exact kept
    | some q => exact each field q (member q rfl)
  constructor
  · refine provided "input_token_price" _ _ nonneg.inputTokenPrice (fun q given => ?_)
    simp [AdminRestApi.UpdateModelRequest.prices, show payload.inputTokenPrice = some q from given]
  · refine provided "output_token_price" _ _ nonneg.outputTokenPrice (fun q given => ?_)
    simp [AdminRestApi.UpdateModelRequest.prices, show payload.outputTokenPrice = some q from given]
  · refine provided "batch_input_token_price" _ _ nonneg.batchInputTokenPrice (fun q given => ?_)
    simp [AdminRestApi.UpdateModelRequest.prices, show payload.batchInputTokenPrice = some q from given]
  · refine provided "batch_output_token_price" _ _ nonneg.batchOutputTokenPrice (fun q given => ?_)
    simp [AdminRestApi.UpdateModelRequest.prices, show payload.batchOutputTokenPrice = some q from given]

theorem sets_updateModelById {modelId : Int} {payload : AdminRestApi.UpdateModelRequest} :
    Sets D (fun _ => True) (AdminRestApi.updateModelById modelId payload) := by
  unfold AdminRestApi.updateModelById
  split
  · exact keeps_pure trivial
  · rename_i checked
    have updated : Sets D (fun _ => True) (updateModel modelId payload.update).run :=
      keeps_updateModel columnar_nonnegative (fun _ nonneg => nonnegative_update checked nonneg)
    refine keeps_bind updated ?_
    rintro ((_ | _) | _) _ <;> exact keeps_pure trivial

theorem sets_getUpstream {upstreamId : Int} : Sets D (fun _ => True) (getUpstream upstreamId).run :=
  sets_then trivial (fun _ => sets_fetch)

theorem sets_updateUpstream {upstreamId : Int} {update : UpdateLLMUpstream} :
    Sets D (fun _ => True) (updateUpstream upstreamId update).run :=
  keeps_run_bind (M := fun _ => True) (fun calls db priced => wp_mono (fun _ _ kept => kept)
      (fun _ _ _ kept => ⟨kept.1, fun _ _ => trivial⟩) (sets_getUpstream calls db priced))
    (fun _ _ => sets_then trivial (fun _ => sets_fetch)) (fun _ => trivial)

theorem sets_testModel {display : SaveError → String} {modelId : Int} :
    Sets D (fun _ => True) (AdminRestApi.testModel display modelId) := by
  unfold AdminRestApi.testModel
  refine keeps_bind sets_getModel ?_
  rintro ((_ | _) | model) _
  · exact keeps_pure trivial
  · exact keeps_pure trivial
  · refine keeps_bind sets_getUpstream ?_
    rintro ((_ | _) | upstream) _
    · exact keeps_pure trivial
    · exact keeps_pure trivial
    · dsimp only
      split
      · exact keeps_pure trivial
      · rename_i provider _
        have detected : Sets D (fun _ => True) (AdminRestApi.detectFeatures provider model upstream) := by
          refine keeps_bind (keeps_remote (fun _ => trivial)) ?_
          rintro (_ | features) _ <;> exact keeps_pure trivial
        refine keeps_bind detected (fun features _ => ?_)
        refine keeps_bind (keeps_updateModelFeatures columnar_nonnegative) ?_
        rintro (_ | updated) _ <;> exact keeps_pure trivial

/-- A program that returns anything, on to the rest. -/
theorem sets_bind {p : Action α} {f : α → Action β} (first : Sets D (fun _ => True) p)
    (rest : ∀ value, Sets D (fun _ => True) (f value)) : Sets D (fun _ => True) (p >>= f) :=
  keeps_bind first (fun value _ => rest value)

theorem sets_run_bind {x : ExceptT ε Action α} {f : α → ExceptT ε Action β}
    (first : Sets D (fun _ => True) x.run) (rest : ∀ value, Sets D (fun _ => True) (f value).run) :
    Sets D (fun _ => True) (x >>= f).run := by
  rw [ExceptT.run_bind]
  refine sets_bind first ?_
  rintro (e | value)
  · exact keeps_pure trivial
  · exact rest value

theorem sets_getUpstreamByApiBase {apiBase : String} :
    Sets D (fun _ => True) (getUpstreamByApiBase apiBase).run :=
  sets_then trivial (fun _ => sets_fetch)

theorem nonnegative_default {upstreamId : Int} {fullname : String} (id : Int) :
    Nonnegative (NewLLMModel.row ⟨upstreamId, fullname, [], 100000, defaultTokenPrice, defaultTokenPrice,
      defaultTokenPrice, defaultTokenPrice⟩ id) := by
  have positive : 0 ≤ defaultTokenPrice := by norm_num [defaultTokenPrice]
  exact ⟨positive, positive, positive, positive⟩

theorem sets_saveModel {upstreamId : Int} {id : String} : Sets D (fun _ => True) (saveModel upstreamId id).run := by
  have found : Sets D (fun _ => True) (findModelByUpstreamAndModelId upstreamId id).run :=
    sets_then trivial (fun _ => sets_fetch)
  refine sets_bind found ?_
  rintro ((_ | _) | _)
  · exact keeps_pure trivial
  · have created : Sets D (fun _ => True) (createModel ⟨upstreamId, id, [], 100000, defaultTokenPrice,
        defaultTokenPrice, defaultTokenPrice, defaultTokenPrice⟩).run :=
      sets_query (fun id => nonnegative_default id) (fun _ _ _ _ _ => trivial) (fun _ => trivial)
    exact sets_bind created (fun _ => keeps_pure trivial)
  · exact keeps_pure trivial

theorem sets_saveModels {upstreamId : Int} {ids : List String} :
    Sets D (fun _ => True) (saveModels upstreamId ids).run := by
  induction ids with
  | nil => exact keeps_pure trivial
  | cons id rest ih => exact sets_run_bind sets_saveModel (fun _ => ih)

theorem sets_saveUpstream {name apiKey apiBase : String} :
    Sets D (fun _ => True) (saveUpstream name apiKey apiBase).run := by
  refine sets_bind sets_getUpstreamByApiBase ?_
  rintro ((_ | _) | existing)
  · exact keeps_pure trivial
  · exact sets_query trivial (fun _ _ _ _ _ => trivial) (fun _ => trivial)
  · exact sets_updateUpstream

theorem sets_fromSqlx {x : Query α} (sets : Sets D (fun _ => True) x.run) :
    Sets D (fun _ => True) (fromSqlx x).run := by
  refine sets_bind sets ?_
  rintro (_ | _) <;> exact keeps_pure trivial

theorem sets_listAndSaveWithoutDetect {name apiKey apiBase : String} :
    Sets D (fun _ => True) (listAndSaveWithoutDetect name apiKey apiBase).run := by
  have listed : Sets D (fun _ => True) (listModels apiKey apiBase).run := by
    refine sets_bind (keeps_remote (fun _ => trivial)) ?_
    rintro (_ | (_ | _)) <;> exact keeps_pure trivial
  refine sets_run_bind listed (fun ids => ?_)
  exact sets_run_bind (sets_fromSqlx sets_saveUpstream) (fun _ => sets_fromSqlx sets_saveModels)

theorem sets_completeUpstream {payload : AdminRestApi.CreateUpstreamRequest} {upstream : LLMUpstream} :
    Sets D (fun _ => True) (AdminRestApi.completeUpstream payload upstream) := by
  unfold AdminRestApi.completeUpstream
  split
  · refine sets_bind sets_updateUpstream ?_
    rintro (_ | _) <;> exact keeps_pure trivial
  · exact keeps_pure trivial

theorem sets_createUpstream {display : SaveError → String} {payload : AdminRestApi.CreateUpstreamRequest} :
    Sets D (fun _ => True) (AdminRestApi.createUpstream display payload) := by
  unfold AdminRestApi.createUpstream
  generalize Auth.trim payload.name = name
  generalize Auth.trim payload.apiKey = apiKey
  generalize Auth.trim payload.apiBase = apiBase
  repeat' split
  · exact keeps_pure trivial
  · exact keeps_pure trivial
  · exact keeps_pure trivial
  · refine sets_bind sets_listAndSaveWithoutDetect ?_
    rintro (_ | _)
    · exact keeps_pure trivial
    · refine sets_bind sets_getUpstreamByApiBase ?_
      rintro (_ | saved)
      · exact keeps_pure trivial
      · refine sets_bind sets_completeUpstream (fun upstream => ?_)
        refine sets_bind (sets_query (s := .listModelsByUpstream upstream.id) trivial (fun _ _ _ _ _ => trivial)
          (fun _ => trivial)) ?_
        rintro (_ | _) <;> exact keeps_pure trivial

end Programs

/-- The requests that write to the models. -/
inductive AdminRequest where
  | createUpstream (payload : AdminRestApi.CreateUpstreamRequest)
  | testModel (modelId : Int)
  | updateModelById (modelId : Int) (payload : AdminRestApi.UpdateModelRequest)

def AdminRequest.program (display : SaveError → String) : AdminRequest → Action Unit
  | createUpstream payload => do let _ ← AdminRestApi.createUpstream display payload
  | testModel modelId => do let _ ← AdminRestApi.testModel display modelId
  | updateModelById modelId payload => do let _ ← AdminRestApi.updateModelById modelId payload

theorem AdminRequest.sets_program {D : Discipline engine} {display : SaveError → String} (request : AdminRequest) :
    Sets D (fun _ => True) (request.program display) := by
  cases request with
  | createUpstream payload =>
      unfold program
      exact sets_bind sets_createUpstream (fun _ => keeps_pure trivial)
  | testModel modelId =>
      unfold program
      exact sets_bind sets_testModel (fun _ => keeps_pure trivial)
  | updateModelById modelId payload =>
      unfold program
      exact sets_bind sets_updateModelById (fun _ => keeps_pure trivial)

section Runs
variable {ι : Type} {D : Discipline engine} {db : Db} {display : SaveError → String} {request : ι → AdminRequest}

def administered (db : Db) (display : SaveError → String) (request : ι → AdminRequest) : State engine ι :=
  .starting db () (fun i => (request i).program display)

variable [DecidableEq ι] {s : State engine ι}

/-- In every state of every interleaving of the requests no price is negative. -/
theorem priced_administered (priced : Priced db) (reached : Reaches D (administered db display request) history s) :
    Priced s.db :=
  reached.keeps (fun i => (request i).sets_program) priced

end Runs

end LLMPool.Pricing
