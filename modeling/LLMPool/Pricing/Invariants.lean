import LLMPool.Pricing.Tables
import LLMPool.Transactions.Invariants

/-! What holds of every row of the models: a statement keeps it where the rows that it writes
whole have it, and the rows that are read have it then. -/
namespace LLMPool.Pricing
open Relational Transactions

def Rows (P : LLMModel → Prop) (db : Db) : Prop := ∀ m ∈ db.models, P m

/-- A property that goes along with the columns of a row, and that no change of features touches. -/
structure Columnar (P : LLMModel → Prop) : Prop where
  features : ∀ row value, P row → P ((Catalogue.ModelChange.features value).on row)
  columns : ∀ new row, P new → P ((Catalogue.ModelChange.columns new).on row)

/-- The rows that a statement writes whole have a property. -/
def Brings (P : LLMModel → Prop) : Stmt → Prop
  | .insertModel new => ∀ id, P (new.row id)
  | .model (.updateModel current update) => P (update.over current)
  | _ => True

section Statements
variable {P : LLMModel → Prop} {db : Db}

theorem mem_change {w : Catalogue.Write} {m : LLMModel} (member : m ∈ Catalogue.apply w db.models) :
    ∃ row ∈ db.models, m = row ∨ m = w.change.on row := by
  have found := Table.find_of_mem member
  have either : (Catalogue.apply w db.models).find (key m) =
      (db.models.find (key m)).map (Table.at_key w.id w.change.on) ∨ Catalogue.apply w db.models = db.models :=
    Table.find_update db.models
  rcases either with changed | same
  · rw [changed] at found
    obtain ⟨row, stored, rfl⟩ := Option.map_eq_some_iff.mp found
    refine ⟨row, (Table.find_iff.mp stored).1, ?_⟩
    rw [Table.at_key]
    split
    · exact .inr rfl
    · exact .inl rfl
  · rw [same] at found
    exact ⟨m, (Table.find_iff.mp found).1, .inl rfl⟩

/-- A change whose columns have the property keeps it. -/
theorem Rows.change {w : Catalogue.Write} (columnar : Columnar P) (rows : Rows P db)
    (brings : ∀ new, w.change = .columns new → P new) : Rows P (apply (.model w) db) := by
  intro m member
  obtain ⟨row, stored, rfl | rfl⟩ := mem_change member
  · exact rows _ stored
  · cases change : w.change with
    | features value => exact columnar.features row value (rows row stored)
    | columns new => exact columnar.columns new row (brings new change)

theorem Rows.executed {s : Stmt} {env : Env} {answer : s.Answer} (columnar : Columnar P) (rows : Rows P db)
    (brings : Brings P s) (executed : exec s env db = some answer) :
    Rows P (engine.applyAll (writes s answer) db) := by
  cases s with
  | insertModel new =>
      intro m member
      rcases Table.mem_of_insert member with stored | rfl
      · exact rows m stored
      · have made : m = new.row env.serial := by
          simp only [exec] at executed
          split at executed
          · exact (Option.some.inj executed).symm
          · cases executed
        exact made ▸ brings env.serial
  | model s =>
      cases s with
      | getModel id => exact rows
      | updateModel current update =>
          cases answer with
          | none => exact rows
          | some row =>
              refine rows.change columnar (fun new same => ?_)
              cases same
              exact brings
      | updateModelFeatures id features =>
          cases answer with
          | none => exact rows
          | some row =>
              refine rows.change columnar ?_
              rintro new ⟨⟩
  | updateUpstream current update => cases answer <;> exact rows
  | _ => exact rows

end Statements

section Programs
variable {D : Discipline engine} {P : LLMModel → Prop}

theorem keeps_query {s : Stmt} {Q : Except SqlxError s.Answer → Prop} (columnar : Columnar P) (brings : Brings P s)
    (answered : ∀ env db answer, Rows P db → exec s env db = some answer → Q (.ok answer))
    (refused : ∀ e, Q (.error e)) : (query s).run.keeps D (Rows P) Q := by
  have auto : (Prog.auto (E := engine) s).keeps D (Rows P) (fun reply => ∀ answer, reply = .ok answer →
      Q (.ok answer)) := by
    refine keeps_auto (fun env db answer rows executed => ⟨rows.executed columnar brings executed, ?_⟩) ?_
    · rintro _ ⟨⟩
      exact answered env db answer rows executed
    · rintro reason answer ⟨⟩
  simp only [query, Query.pooled, ExceptT.run_mk]
  refine keeps_bind auto ?_
  rintro (reason | answer) returned
  · exact keeps_pure (refused _)
  · exact keeps_pure (returned answer rfl)

theorem keeps_fetchOne {I : Db → Prop} {answer : Option α} {Q : Except SqlxError α → Prop}
    (found : ∀ row, answer = some row → Q (.ok row)) (missing : Q (.error .rowNotFound)) :
    (Query.fetchOne answer : Query α).run.keeps D I Q := by
  cases answer with
  | none => exact keeps_pure missing
  | some row => exact keeps_pure (found row rfl)

/-- What a statement answers, on to the rest. -/
theorem keeps_then {s : Stmt} {f : s.Answer → Query α} (columnar : Columnar P) (brings : Brings P s)
    (rest : ∀ answer, (f answer).run.keeps D (Rows P) (fun _ => True)) :
    (query s >>= f).run.keeps D (Rows P) (fun _ => True) :=
  keeps_run_bind (M := fun _ => True) (keeps_query columnar brings (fun _ _ _ _ _ _ _ => trivial)
    (fun _ _ _ => trivial)) (fun answer _ => rest answer) (fun _ => trivial)

/-- The row that is read has what every row has. -/
theorem keeps_getModel {modelId : Int} (columnar : Columnar P) :
    (getModel modelId).run.keeps D (Rows P) (fun result => ∀ m, result = .ok m → P m) := by
  refine keeps_run_bind (M := fun answer => ∀ m, answer = some m → P m) ?_ ?_ ?_
  · refine keeps_query (s := .model (.getModel modelId)) columnar trivial ?_ ?_
    · rintro env db answer rows executed _ ⟨⟩ m found
      have stored : db.models.find modelId = answer := Option.some.inj executed
      exact rows m (Table.find_iff.mp (stored.trans found)).1
    · rintro e answer ⟨⟩
  · intro answer each
    refine keeps_fetchOne ?_ ?_
    · rintro row found _ ⟨⟩
      exact each row found
    · rintro m ⟨⟩
  · rintro e m ⟨⟩

/-- What is written back goes over a row that has the property, whatever was written since. -/
theorem keeps_updateModel {modelId : Int} {update : UpdateLLMModel} (columnar : Columnar P)
    (updated : ∀ current, P current → P (update.over current)) :
    (updateModel modelId update).run.keeps D (Rows P) (fun _ => True) := by
  refine keeps_run_bind (keeps_getModel columnar) (fun current has => ?_) (fun _ => trivial)
  exact keeps_then (s := .model (.updateModel current update)) columnar (updated current has)
    (fun _ => keeps_fetchOne (fun _ _ => trivial) trivial)

theorem keeps_updateModelFeatures {modelId : Int} {features : List String} (columnar : Columnar P) :
    (updateModelFeatures modelId features).run.keeps D (Rows P) (fun _ => True) :=
  keeps_then (s := .model (.updateModelFeatures modelId features)) columnar trivial
    (fun _ => keeps_fetchOne (fun _ _ => trivial) trivial)

theorem keeps_createModel {new : NewLLMModel} (columnar : Columnar P) (brings : ∀ id, P (new.row id)) :
    (createModel new).run.keeps D (Rows P) (fun _ => True) :=
  keeps_query columnar brings (fun _ _ _ _ _ => trivial) (fun _ => trivial)

end Programs
end LLMPool.Pricing
