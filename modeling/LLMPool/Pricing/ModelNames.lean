import LLMPool.Pricing.Invariants

/-! The short name of a model is derived from its full name in every row, in any interleaving
of the database functions that create and update models. -/
namespace LLMPool.Pricing
open Relational Transactions

/-- The row's `cname` is the one of its `fullname`. -/
def Named (m : LLMModel) : Prop := m.cname = deriveCname m.fullname

theorem columnar_named : Columnar Named where
  features _ _ named := named
  columns _ _ named := named

theorem named_row (new : NewLLMModel) (id : Int) : Named (new.row id) := rfl

/-- A new full name brings its short name along; otherwise both are those of the row read. -/
theorem Named.over {current : LLMModel} (update : UpdateLLMModel) (named : Named current) :
    Named (update.over current) := by
  cases renamed : update.fullname with
  | none =>
      simp only [Named, UpdateLLMModel.over, renamed]
      exact named
  | some fullname => simp only [Named, UpdateLLMModel.over, renamed, Option.map_some, Option.getD_some]

/-- A call of one of the functions. -/
inductive ModelCall where
  | createModel (new : NewLLMModel)
  | updateModel (modelId : Int) (update : UpdateLLMModel)
  | updateModelFeatures (modelId : Int) (features : List String)

def ModelCall.program : ModelCall → Action Unit
  | createModel new => do let _ ← (Pricing.createModel new).run
  | updateModel modelId update => do let _ ← (Pricing.updateModel modelId update).run
  | updateModelFeatures modelId features => do let _ ← (Pricing.updateModelFeatures modelId features).run

theorem ModelCall.keeps_program {D : Discipline engine} (call : ModelCall) :
    call.program.keeps D (Rows Named) (fun _ => True) := by
  cases call with
  | createModel new =>
      exact keeps_bind (keeps_createModel columnar_named (named_row new)) (fun _ _ => keeps_pure trivial)
  | updateModel modelId update =>
      exact keeps_bind (keeps_updateModel columnar_named (fun _ named => named.over update))
        (fun _ _ => keeps_pure trivial)
  | updateModelFeatures modelId features =>
      exact keeps_bind (keeps_updateModelFeatures columnar_named) (fun _ _ => keeps_pure trivial)

section Runs
variable {ι : Type} {D : Discipline engine} {upstreams : Table LLMUpstream} {history : History engine ι}

/-- Any number of calls on an empty table of models. -/
def cataloguing (upstreams : Table LLMUpstream) (call : ι → ModelCall) : State engine ι :=
  .starting ⟨upstreams, .empty⟩ () (fun i => (call i).program)

variable [DecidableEq ι] {call : ι → ModelCall} {s : State engine ι}

/-- In every state of every interleaving of the calls each model has the short name of its
full name. -/
theorem cname_derived (reached : Reaches D (cataloguing upstreams call) history s) :
    ∀ m ∈ s.db.models, m.cname = deriveCname m.fullname :=
  reached.keeps (fun i => (call i).keeps_program) (fun _ never => absurd never List.not_mem_nil)

end Runs

/-- A model is created, its description is changed and it is renamed. -/
def overwriting : Fin 3 → ModelCall
  | 0 => .createModel ⟨1, "vendor/first", [], 100000, 1, 1, 1, 1⟩
  | 1 => .updateModel 1 ⟨none, none, none, none, none, none, none, none, some "text"⟩
  | 2 => .updateModel 1 ⟨some "second", none, none, none, none, none, none, none, none⟩

/-- The row that is written back last was read before the model was renamed. -/
theorem cname_derived_overwritten : ∃ history s, Reaches (.any False) (cataloguing .empty overwriting) history s ∧
    (∀ i, (s.procs i).Returned) ∧ s.db.models.rows.map LLMModel.fullname = ["vendor/first"] ∧
    ∀ m ∈ s.db.models, m.cname = deriveCname m.fullname := by
  obtain ⟨history, s, reached, returned, names⟩ := State.exists_of_play (Discipline.any False)
    (cataloguing .empty overwriting)
    [(0, .run ⟨1, 0, .ok [], []⟩), (1, .run ⟨1, 0, .ok [], []⟩), (2, .run ⟨1, 0, .ok [], []⟩),
      (2, .run ⟨1, 0, .ok [], []⟩), (1, .run ⟨1, 0, .ok [], []⟩)]
    (fun s => (∀ i, (s.procs i).Returned) ∧ s.db.models.rows.map LLMModel.fullname = ["vendor/first"])
    (by decide +kernel)
  exact ⟨history, s, reached, returned, names, cname_derived reached⟩

end LLMPool.Pricing
