import LLMPool.Catalogue.Models
import LLMPool.Upstreams.PartialUpdates

/-! Concurrent changes of one model, and what becomes of the columns that a partial
update does not name. -/
namespace LLMPool.Catalogue
open Relational Transactions

inductive Change where
  | updateModel (update : UpdateLLMModel)
  | updateModelFeatures (features : List String)
  deriving DecidableEq

namespace Change

def program (modelId : Int) : Change → Prog engine Unit
  | updateModel update => do let _ ← (Catalogue.updateModel modelId update).run
  | updateModelFeatures features => do let _ ← (Catalogue.updateModelFeatures modelId features).run

/-- The columns that a change was asked to set. -/
def sets : Change → UpdateLLMModel
  | updateModel update => update
  | updateModelFeatures features => ⟨none, none, some features, none, none, none, none, none, none⟩

end Change

section Runs
variable {ι : Type} {change : ι → Change} {modelId : Int} {db : Table LLMModel}

/-- Each column has the value of the last change that was asked to set it. -/
def expected (change : ι → Change) (history : History engine ι) (row : LLMModel) : LLMModel where
  id := row.id
  upstreamId := row.upstreamId
  fullname := lastWritten (fun i => (change i).sets.fullname) history row.fullname
  cname := lastWritten (fun i => (change i).sets.fullname.map deriveCname) history row.cname
  isActive := lastWritten (fun i => (change i).sets.isActive) history row.isActive
  features := lastWritten (fun i => (change i).sets.features) history row.features
  maxTokens := lastWritten (fun i => (change i).sets.maxTokens) history row.maxTokens
  inputTokenPrice := lastWritten (fun i => (change i).sets.inputTokenPrice) history row.inputTokenPrice
  outputTokenPrice :=
    lastWritten (fun i => (change i).sets.outputTokenPrice) history row.outputTokenPrice
  batchInputTokenPrice :=
    lastWritten (fun i => (change i).sets.batchInputTokenPrice) history row.batchInputTokenPrice
  batchOutputTokenPrice :=
    lastWritten (fun i => (change i).sets.batchOutputTokenPrice) history row.batchOutputTokenPrice
  description := lastWritten (fun i => (change i).sets.description) history row.description

theorem foldr_sets (history : History engine ι) (row : LLMModel) :
    history.foldr (fun e => (change e.1).sets.over) row = expected change history row := by
  induction history with
  | nil => rfl
  | cons e history ih =>
      obtain ⟨i, ws⟩ := e
      rw [List.foldr_cons, ih, UpdateLLMModel.over]
      simp only [expected, lastWritten_cons (E := engine)]

/-- The statements of a change. -/
def Asks (modelId : Int) (change : Change) : Op engine → Prop
  | .auto (.getModel _) => True
  | .auto (.updateModel current update) => change = .updateModel update ∧ current.id = modelId
  | .auto (.updateModelFeatures id features) => change = .updateModelFeatures features ∧ id = modelId
  | _ => False

theorem path_getModel {P : List (Call engine) → Op engine → Prop} {calls : List (Call engine)}
    (made : ∀ calls, P calls (.auto (.getModel modelId))) :
    (getModel modelId).run.path P (fun result _ => ∀ row, result = .ok row → row.id = modelId) calls := by
  rw [getModel, path_run_bind]
  refine path_pooled (E := engine) (s := .getModel modelId) (made calls) ?_ ?_
  · rintro answer ⟨_, db, executed⟩
    cases answer with
    | none => rintro row ⟨⟩
    | some read =>
        rintro row ⟨⟩
        exact (Table.find_iff.mp (Option.some.inj executed)).2
  · rintro reason row ⟨⟩

theorem path_change (change : Change) :
    (change.program modelId).path (fun _ => Asks modelId change) (fun _ _ => True) [] := by
  cases change with
  | updateModel update =>
      refine path_bind.mpr (path_seq (path_getModel (fun _ => trivial)) ?_ (fun _ _ _ => trivial))
      intro current calls read
      rw [path_run_bind]
      exact path_pooled (E := engine) (s := .updateModel current update) ⟨rfl, read current rfl⟩
        (fun _ _ => path_fetchOne (fun _ => trivial)) (fun _ => trivial)
  | updateModelFeatures features =>
      refine path_bind.mpr ?_
      rw [updateModelFeatures, path_run_bind]
      exact path_pooled (E := engine) (s := .updateModelFeatures modelId features) ⟨rfl, rfl⟩
        (fun _ _ => path_fetchOne (fun _ => trivial)) (fun _ => trivial)

/-- An `UPDATE` of all columns writes the row's own values to those that its request
does not provide. -/
def currentRow (modelId : Int) (_ : List (Call engine)) (op : Op engine) (db : Table LLMModel) : Prop :=
  match op with
  | .auto (.updateModel current update) => current.id = modelId →
      ∀ row ∈ db.find modelId, update.over current = update.over row
  | _ => True

def currentModel (modelId : Int) : Discipline engine :=
  ⟨fun _ => True, False, currentRow modelId⟩

theorem find_updateFeatures {features : List String} :
    (apply ⟨modelId, .features features⟩ db).find modelId =
      (db.find modelId).map (ModelChange.features features).on := by
  refine Table.find_update_self (fun r inside here s other same => ?_)
  exact (Table.eq_of_index other inside same).symm ▸ here

theorem find_updateColumns {new : LLMModel} (found : db.find modelId = some row)
    (unique : (db.lookup (index ((ModelChange.columns new).on row))).all (fun m => m.id = modelId)) :
    (apply ⟨modelId, .columns new⟩ db).find modelId =
      (db.find modelId).map (ModelChange.columns new).on := by
  refine Table.find_update_self (fun r inside here s other same => ?_)
  have only : r = row := Option.some.inj ((Table.find_iff.mpr ⟨inside, here⟩).symm.trans found)
  subst only
  rw [Table.lookup_iff.mpr ⟨other, same⟩] at unique
  exact of_decide_eq_true unique

/-- A statement that writes does to the row what its change was asked to do. -/
theorem does_sets {change : Change} {s : Stmt} {answer : Option LLMModel} (calls : List (Call engine))
    (asks : Asks modelId change (.auto s)) (current : currentRow modelId calls (.auto s) db)
    (executed : exec s db = some answer) (wrote : writes s answer ≠ []) :
    (engine.applyAll (writes s answer) db).find modelId = (db.find modelId).map change.sets.over := by
  cases s with
  | getModel => exact absurd rfl wrote
  | updateModel read update =>
      obtain ⟨rfl, rfl⟩ := asks
      cases found : db.find read.id with
      | none =>
          simp only [exec, found, Option.some.injEq] at executed
          subst executed
          exact absurd rfl wrote
      | some row =>
          have same := current rfl row found
          simp only [exec, found] at executed
          split at executed
          · rename_i unique
            cases executed
            refine (find_updateColumns found unique).trans ?_
            simp only [found, Option.map_some, ModelChange.on, same]
            rfl
          · cases executed
  | updateModelFeatures id features =>
      obtain ⟨rfl, rfl⟩ := asks
      cases answer with
      | none => exact absurd rfl wrote
      | some new => exact find_updateFeatures

variable [DecidableEq ι] {history : History engine ι} {s : State engine ι}

def changing (db : Table LLMModel) (modelId : Int) (change : ι → Change) : State engine ι :=
  .starting db () (fun i => (change i).program modelId)

/-- The row of the model, in every state of a run of concurrent changes. -/
theorem find_changing (found : db.find modelId = some row)
    (reached : Reaches (currentModel modelId) (changing db modelId change) history s) :
    s.db.find modelId = some (expected change history row) := by
  have paths : (changing db modelId change).Paths (fun i _ => Asks modelId (change i)) (fun _ _ => True) :=
    fun i => path_change (change i)
  have pooled : ∀ i (calls : List (Call engine)) op, Asks modelId (change i) op → op.Pooled := by
    intro i calls op asks
    cases op with
    | auto | remote => trivial
    | begin | sql | commit => exact asks
  rw [← foldr_sets]
  exact reached.folded (fun db : Table LLMModel => db.find modelId) (fun i => (change i).sets.over) pooled
    (fun i calls stmt env db answer asks current executed wrote =>
      does_sets calls asks current executed wrote)
    paths found

end Runs

instance (modelId : Int) : Discipline.Decides (currentModel modelId) where
  faults _ := inferInstanceAs (Decidable True)
  serial := inferInstanceAs (Decidable False)
  admits calls op db := by
    rcases op with _ | s | _ | s | c
    case auto =>
      rcases s
      case updateModel current update =>
        exact inferInstanceAs (Decidable (current.id = modelId → _))
      all_goals exact instDecidableTrue
    all_goals exact instDecidableTrue

section Runs
variable {ι κ : Type} [DecidableEq ι] [DecidableEq κ] {db : Db} {world : World}
  {upstreamChange : ι → Upstreams.Change} {upstreamId : Int} {history : History LLMPool.engine ι}
  {s : State LLMPool.engine ι} {models : Table LLMModel} {modelChange : κ → Change} {modelId : Int}
  {changes : History engine κ} {t : State engine κ}

end Runs

def anUpstream : LLMUpstream := ⟨1, "first", "https://a", "", "openai", [], [], "online", ""⟩

def anyModel : LLMModel :=
  ⟨1, 1, "gpt-4o", "gpt-4o", true, ["chat/completions"], 100000, 1, 2, 1, 1, ""⟩

def upstreamRow : Db := { Db.empty with upstreams := Table.empty.insert anUpstream }

def modelRow : Table LLMModel := Table.empty.insert anyModel

/-- An admin describes the upstream while it goes offline. -/
def describing : Fin 2 → Upstreams.Change
  | 0 => .updateUpstream ⟨none, none, none, none, none, none, none, some "primary"⟩
  | 1 => .markUpstreamOffline

/-- An admin describes the model while its features are set. -/
def describingModel : Fin 2 → Change
  | 0 => .updateModel ⟨none, none, none, none, none, none, none, none, some "default"⟩
  | 1 => .updateModelFeatures ["embeddings"]

def inTurns (turns : List ι) : List (ι × Turn engine) := turns.map (fun i => (i, .run ()))

end LLMPool.Catalogue
