import LLMPool.Query

/-! The table of the models as the admin changes it: the statements on `llm_models`, and
the database functions that update a row. -/
namespace LLMPool.Catalogue
open Relational Transactions

/-- The columns that `updateModel` writes are bound from the row that was read and the
update that was asked for. -/
inductive Stmt where
  | getModel (id : Int)
  | updateModel (current : LLMModel) (update : UpdateLLMModel)
  | updateModelFeatures (id : Int) (features : List String)

/-- What one `UPDATE` does to a model's row. -/
inductive ModelChange where
  | features (value : List String)
  | columns (new : LLMModel)

def ModelChange.on : ModelChange → LLMModel → LLMModel
  | .features value, m => { m with features := value }
  | .columns new, m => { new with id := m.id, upstreamId := m.upstreamId }

theorem change_keeps (change : ModelChange) (m : LLMModel) : key (change.on m) = key m := by
  cases change <;> rfl

structure Write where
  id : Int
  change : ModelChange

/-- No two models of an upstream have one `fullname`. -/
def exec (s : Stmt) (db : Table LLMModel) : Option (Option LLMModel) :=
  match s with
  | .getModel id => some (db.find id)
  | .updateModel current update =>
      match db.find current.id with
      | none => some none
      | some row =>
          let new := (ModelChange.columns (update.over current)).on row
          if (db.lookup (index new)).all (fun m => m.id = current.id) then some (some new) else none
  | .updateModelFeatures id features => some ((db.find id).map (ModelChange.features features).on)

def writes (s : Stmt) (answer : Option LLMModel) : List Write :=
  match s, answer with
  | .updateModel current update, some _ => [⟨current.id, .columns (update.over current)⟩]
  | .updateModelFeatures id features, some _ => [⟨id, .features features⟩]
  | _, _ => []

def apply (w : Write) (db : Table LLMModel) : Table LLMModel :=
  db.update w.id w.change.on (change_keeps w.change)

/-- Every statement runs on the pool, and holds no lock once it has returned. -/
@[reducible] def engine : Transactions.Engine where
  Db := Table LLMModel
  World := Unit
  Env := Unit
  Stmt := Stmt
  Answer _ := Option LLMModel
  Write := Write
  Lock := Empty
  Remote := Empty
  Reply := Empty.elim
  possible _ _ _ := true
  exec s _ db := exec s db
  writes := writes
  locks _ _ := []
  apply := apply
  touches _ := []
  remote c := c.elim
  same l _ _ := l.elim
  same_refl l := l.elim
  same_trans l := l.elim
  covered _ _ _ _ l := l.elim
  apply_same _ l := l.elim

abbrev Query := ExceptT SqlxError (Prog engine)

def query (s : Stmt) : Query (Option LLMModel) := Query.pooled (E := engine) s

def getModel (id : Int) : Query LLMModel := do
  Query.fetchOne (← query (.getModel id))

/-- The row is read, and every column of it is written back. -/
def updateModel (modelId : Int) (update : UpdateLLMModel) : Query LLMModel := do
  let current ← getModel modelId
  Query.fetchOne (← query (.updateModel current update))

def updateModelFeatures (modelId : Int) (features : List String) : Query LLMModel := do
  Query.fetchOne (← query (.updateModelFeatures modelId features))

end LLMPool.Catalogue
