import LLMPool.Plans.SubscriptionPlans

/-! The plans' writes: a row is decoded only after its statement has committed, and the
column `time_span` never decodes, so that no write is answered with success. -/
namespace LLMPool.Plans
open Relational Transactions

/-- The requests that write to the table. -/
inductive PlanRequest where
  | create (payload : CreateSubscriptionPlanRequest)
  | update (planId : Int64) (payload : UpdateSubscriptionPlanRequest)
  deriving DecidableEq

namespace PlanRequest

def handle : PlanRequest → Action (Billing.AdminRestApi.Response SubscriptionPlan)
  | create payload => createSubscriptionPlan payload
  | update planId payload => updateSubscriptionPlan planId payload

def statement : PlanRequest → Stmt
  | create payload => .createSubscriptionPlan payload
  | update planId payload => .updateSubscriptionPlan planId payload

/-- A payload that is rejected before its statement. -/
def Invalid : PlanRequest → Prop
  | create payload => payload.moneyLimit < 0
  | update _ payload => (∃ status ∈ payload.status, status ∉ validPlanStatuses) ∨
      ∃ moneyLimit ∈ payload.moneyLimit, moneyLimit < 0

/-- A `time_span` that the column cannot hold. -/
def OutOfRange : PlanRequest → Prop
  | create payload => ¬Fits payload.timeSpan
  | update _ payload => ∃ timeSpan ∈ payload.timeSpan, ¬Fits timeSpan

end PlanRequest

/-- The row of a new plan holds the fields that were provided. -/
structure CreateSubscriptionPlanRequest.Stored (payload : CreateSubscriptionPlanRequest)
    (row : SubscriptionPlanRow) : Prop where
  description : row.description = payload.description
  totalTokenLimit : row.totalTokenLimit = payload.totalTokenLimit
  timeSpan : row.timeSpan.toInt64 = payload.timeSpan
  moneyLimit : row.moneyLimit = payload.moneyLimit
  sortOrder : row.sortOrder = payload.sortOrder

/-- The row of an updated plan holds the fields that were provided, and its own others. -/
structure UpdateSubscriptionPlanRequest.Stored (payload : UpdateSubscriptionPlanRequest)
    (row new : SubscriptionPlanRow) : Prop where
  description : new.description = payload.description.getD row.description
  totalTokenLimit : new.totalTokenLimit = payload.totalTokenLimit.getD row.totalTokenLimit
  timeSpan : new.timeSpan.toInt64 = payload.timeSpan.getD row.timeSpan.toInt64
  moneyLimit : new.moneyLimit = payload.moneyLimit.getD row.moneyLimit
  sortOrder : new.sortOrder = payload.sortOrder.getD row.sortOrder
  status : new.status = payload.status.getD row.status
  createdAt : new.createdAt = row.createdAt

/-- A plan is read back as its row. -/
def ReadBack (db : Table SubscriptionPlanRow) (row : SubscriptionPlanRow) : Prop :=
  ∀ value m, (getSubscriptionPlan row.id).Runs (fun _ => False) ⟨[], db, ()⟩ value m →
    value = .success .ok row.plan

abbrev PlanTurn := Turned engine PlanRequest (Billing.AdminRestApi.Response SubscriptionPlan)

/-- A success has stored the provided fields in one row, which is read back; an error has
left the table as it was. -/
def Faithful (turn : PlanTurn) : Prop :=
  match turn.index, turn.value with
  | .create payload, .success _ plan => ∃ row, payload.Stored row ∧ row.id = plan.id ∧
      turn.before.find row.id = none ∧ turn.after.db.find row.id = some row ∧
      (∀ id, id ≠ row.id → turn.after.db.find id = turn.before.find id) ∧ ReadBack turn.after.db row
  | .update planId payload, .success _ _ => ∃ row new, payload.Stored row new ∧
      turn.before.find planId = some row ∧ turn.after.db.find planId = some new ∧
      (∀ id, id ≠ planId → turn.after.db.find id = turn.before.find id) ∧ ReadBack turn.after.db new
  | _, .error _ _ _ => turn.after.db = turn.before

/-- No column of a row is changed: the request is rejected, or its statement is refused,
fails or finds nothing to change. -/
def Unwritten (turn : PlanTurn) : Prop :=
  turn.index.Invalid ∨ turn.index.OutOfRange ∨
    ⟨.auto turn.index.statement, .error .fault⟩ ∈ turn.after.calls ∨
    ∃ planId payload, turn.index = .update planId payload ∧ ∀ row, turn.before.find planId = some row →
      ⟨.auto turn.index.statement, .ok (some row)⟩ ∈ turn.after.calls

section Turns
variable {faults : Op engine → Prop} {m : Solo engine}

/-- A statement that returns a row has committed when the row fails to decode. -/
theorem yields_fetchOne {s : Stmt} {Q : Except QueryError SubscriptionPlan → Solo engine → Prop}
    (written : ∀ env row, possible s env m.db = true → exec s env m.db = some (some row) →
      Q (.error (.decode (.columnDecode "time_span")))
        ⟨⟨.auto s, .ok (some row)⟩ :: m.calls, engine.applyAll (writes s (some row)) m.db, m.world⟩)
    (missing : ∀ env, exec s env m.db = some none →
      Q (.error (.sqlx .rowNotFound))
        ⟨⟨.auto s, .ok none⟩ :: m.calls, engine.applyAll (writes s none) m.db, m.world⟩)
    (refused : (∃ env, exec s env m.db = none) → Q (.error (.sqlx (.database .conflict)))
      ⟨⟨.auto s, .error .conflict⟩ :: m.calls, m.db, m.world⟩)
    (failed : Q (.error (.sqlx (.database .fault))) ⟨⟨.auto s, .error .fault⟩ :: m.calls, m.db, m.world⟩) :
    (fetchOne s).run.yields faults Q m := by
  refine yields_run_bind.mpr (yields_bind.mpr (yields_pooled (E := engine) ?_ refused (fun _ => failed)))
  rintro env (_ | row) drawn executed
  · exact missing env executed
  · exact written env row drawn executed

end Turns

section Rows
variable {row new : SubscriptionPlanRow} {db : Table SubscriptionPlanRow}

theorem toInteger_eq_none {value : Int64} : toInteger value = none ↔ ¬Fits value := by
  simp [toInteger]

theorem row_eq_none {payload : CreateSubscriptionPlanRequest} {id : Int64} {now : Int} :
    payload.row id now = none ↔ ¬Fits payload.timeSpan := by
  rw [CreateSubscriptionPlanRequest.row, Option.map_eq_none_iff, toInteger_eq_none]

theorem row_id {payload : CreateSubscriptionPlanRequest} {id : Int64} {now : Int}
    (made : payload.row id now = some row) : row.id = id := by
  obtain ⟨timeSpan, _, rfl⟩ := Option.map_eq_some_iff.mp made
  rfl

theorem over_eq_none {payload : UpdateSubscriptionPlanRequest} {now : Int} :
    payload.over now row = none ↔ ∃ timeSpan ∈ payload.timeSpan, ¬Fits timeSpan := by
  rw [UpdateSubscriptionPlanRequest.over, Option.map_eq_none_iff]
  cases payload.timeSpan with
  | none => simp
  | some timeSpan => simp [toInteger_eq_none]

theorem over_id {payload : UpdateSubscriptionPlanRequest} {now : Int}
    (updated : payload.over now row = some new) : new.id = row.id := by
  obtain ⟨timeSpan, _, rfl⟩ := Option.map_eq_some_iff.mp updated
  rfl

theorem insert_ne (unused : db.find row.id = none) : db.insert row ≠ db := by
  intro same
  have inserted : (db.insert row).find row.id = some row := Table.find_insert_self ⟨unused, unused⟩
  rw [same, unused] at inserted
  cases inserted

/-- Writing a row back leaves the table as it was exactly if the row is the same. -/
theorem set_eq_iff (found : db.find row.id = some row) (same : new.id = row.id) :
    apply (.set new) db = db ↔ new = row := by
  have replaced : (apply (.set new) db).find row.id = some { new with id := row.id } := by
    rw [apply, same]
    refine (Table.find_modify_self db).trans ?_
    rw [found]
    rfl
  constructor
  · intro kept
    rw [kept, found] at replaced
    rw [← same] at replaced
    exact (Option.some.inj replaced).symm
  · rintro rfl
    refine Table.eq_of_rows ((List.map_congr_left (fun r member => ?_)).trans (List.map_id _))
    rw [Table.at_key]
    split
    · rename_i here
      obtain rfl : r = new := Table.eq_of_key member (Table.find_iff.mp found).1 here
      rfl
    · rfl

section Updates
variable {planId : Int64} {payload : UpdateSubscriptionPlanRequest} {env : Env}

theorem exec_update (executed : exec (.updateSubscriptionPlan planId payload) env db = some (some new)) :
    ∃ row, db.find planId = some row ∧ payload.over env.now row = some new := by
  simp only [exec] at executed
  split at executed
  · split at executed <;> cases executed
  · rename_i row found
    obtain ⟨_, updated, ⟨⟩⟩ := Option.map_eq_some_iff.mp executed
    exact ⟨row, found, updated⟩

theorem exec_missing (executed : exec (.updateSubscriptionPlan planId payload) env db = some none) :
    db.find planId = none := by
  simp only [exec] at executed
  split at executed
  · assumption
  · obtain ⟨_, _, never⟩ := Option.map_eq_some_iff.mp executed
    cases never

theorem exec_refused (never : exec (.updateSubscriptionPlan planId payload) env db = none) :
    ∃ timeSpan ∈ payload.timeSpan, ¬Fits timeSpan := by
  simp only [exec] at never
  split at never
  · split at never
    · rename_i outside
      exact outside.2
    · cases never
  · exact over_eq_none.mp (Option.map_eq_none_iff.mp never)

theorem valid_status (known : payload.status.filter (fun status => status ∉ validPlanStatuses) = none) :
    ¬∃ status ∈ payload.status, status ∉ validPlanStatuses := by
  rintro ⟨status, asked, unknown⟩
  exact Option.filter_eq_none_iff.mp known status asked (by simpa using unknown)

end Updates

end Rows

section Runs
variable {faults : Op engine → Prop} {initial db : Table SubscriptionPlanRow} {turns : List PlanTurn}

/-- What every request comes to: an error, with a table that is as it was exactly if no
column of a row is changed. -/
def Erring (request : PlanRequest) (before : Table SubscriptionPlanRow)
    (value : Billing.AdminRestApi.Response SubscriptionPlan) (m : Solo engine) : Prop :=
  ∃ status error message, value = .error status error message ∧
    (m.db = before ↔ Unwritten ⟨request, before, value, m⟩)

theorem yields_create (payload : CreateSubscriptionPlanRequest) :
    (createSubscriptionPlan payload).yields faults (Erring (.create payload) db) ⟨[], db, ()⟩ := by
  rw [createSubscriptionPlan]
  split
  · rename_i negative
    exact ⟨_, _, _, rfl, iff_of_true rfl (.inl negative)⟩
  · rename_i valid
    refine yields_bind.mpr (yields_fetchOne (fun env row drawn executed => ?_) (fun env executed => ?_)
      (fun never => ?_) ?_)
    · obtain ⟨_, made, ⟨⟩⟩ := Option.map_eq_some_iff.mp executed
      have fits : Fits payload.timeSpan := by
        by_contra outside
        cases (row_eq_none.mpr outside).symm.trans made
      have unused : db.find row.id = none := by
        rw [row_id made]
        simp only [possible, decide_eq_true_eq] at drawn
        exact drawn.2
      refine ⟨_, _, _, rfl, iff_of_false (insert_ne unused) ?_⟩
      rintro (negative | outside | faulted | ⟨_, _, ⟨⟩, _⟩)
      · exact valid negative
      · exact outside fits
      · cases List.mem_singleton.mp faulted
    · simp [exec] at executed
    · obtain ⟨env, never⟩ := never
      have outside : ¬Fits payload.timeSpan := row_eq_none.mp (Option.map_eq_none_iff.mp never)
      exact ⟨_, _, _, rfl, iff_of_true rfl (.inr (.inl outside))⟩
    · exact ⟨_, _, _, rfl, iff_of_true rfl (.inr (.inr (.inl List.mem_cons_self)))⟩

theorem yields_update (planId : Int64) (payload : UpdateSubscriptionPlanRequest) :
    (updateSubscriptionPlan planId payload).yields faults (Erring (.update planId payload) db) ⟨[], db, ()⟩ := by
  rw [updateSubscriptionPlan]
  split
  · rename_i status invalid
    have unknown := Option.filter_eq_some_iff.mp invalid
    exact ⟨_, _, _, rfl, iff_of_true rfl (.inl (.inl ⟨status, unknown.1, by simpa using unknown.2⟩))⟩
  rename_i known
  split
  · rename_i negative
    exact ⟨_, _, _, rfl, iff_of_true rfl (.inl (.inr negative))⟩
  rename_i valid
  refine yields_bind.mpr (yields_fetchOne (fun env row drawn executed => ?_) (fun env executed => ?_)
    (fun never => ?_) ?_)
  · obtain ⟨row, found, updated⟩ := exec_update executed
    have here : db.find row.id = some row := Table.find_of_mem (Table.find_iff.mp found).1
    have kept := set_eq_iff here (over_id updated)
    have fits : ¬∃ timeSpan ∈ payload.timeSpan, ¬Fits timeSpan := by
      intro outside
      cases (over_eq_none.mpr outside).symm.trans updated
    refine ⟨_, _, _, rfl, kept.trans ⟨?_, ?_⟩⟩
    · rintro rfl
      refine .inr (.inr (.inr ⟨planId, payload, rfl, fun row' found' => ?_⟩))
      cases found.symm.trans found'
      exact List.mem_cons_self
    · rintro (invalid | outside | faulted | ⟨_, _, ⟨⟩, unchanged⟩)
      · exact absurd invalid (not_or.mpr ⟨valid_status known, valid⟩)
      · exact absurd outside fits
      · cases List.mem_singleton.mp faulted
      · cases List.mem_singleton.mp (unchanged row found)
        rfl
  · have absent := exec_missing executed
    refine ⟨_, _, _, rfl, iff_of_true rfl (.inr (.inr (.inr ⟨planId, payload, rfl, fun row found => ?_⟩)))⟩
    cases absent.symm.trans found
  · obtain ⟨env, never⟩ := never
    exact ⟨_, _, _, rfl, iff_of_true rfl (.inr (.inl (exec_refused never)))⟩
  · exact ⟨_, _, _, rfl, iff_of_true rfl (.inr (.inr (.inl List.mem_cons_self)))⟩

theorem PlanRequest.yields_handle (request : PlanRequest) :
    request.handle.yields faults (Erring request db) ⟨[], db, ()⟩ := by
  cases request with
  | create payload => exact yields_create payload
  | update planId payload => exact yields_update planId payload

theorem erring (sequence : Sequence faults PlanRequest.handle initial turns db) :
    ∀ turn ∈ turns, Erring turn.index turn.before turn.value turn.after :=
  sequence.each (fun request _ _ => request.yields_handle)

theorem Erring.faithful {turn : PlanTurn} (erring : Erring turn.index turn.before turn.value turn.after) :
    Faithful turn ↔ turn.after.db = turn.before := by
  obtain ⟨request, before, value, m⟩ := turn
  obtain ⟨status, error, message, errs, _⟩ := erring
  dsimp only at errs
  subst errs
  cases request <;> rfl

/-- In every sequence of creations and updates, a request is faithful exactly if no column
of a row is changed. -/
theorem plan_writes_are_faithful (sequence : Sequence faults PlanRequest.handle initial turns db) :
    ∀ turn ∈ turns, Faithful turn ↔ Unwritten turn := by
  intro turn member
  have erring := erring sequence turn member
  rw [erring.faithful]
  obtain ⟨_, _, _, _, kept⟩ := erring
  exact kept

end Runs

/-- A plan for 30 days. -/
def monthlyPlan : CreateSubscriptionPlanRequest := ⟨"monthly", 1000000, 30, 10, 0⟩

/-- A plan whose days no INTEGER counts. -/
def endlessPlan : CreateSubscriptionPlanRequest := ⟨"endless", 1000000, 3000000000, 10, 0⟩

def creates (payload : CreateSubscriptionPlanRequest) : List (PlanRequest × Env × Unit) :=
  [(.create payload, ⟨0, 1, false⟩, ())]

/-- A request of a sequence, with the rows before and after it. -/
def Leaves (request : PlanRequest) (rows : List SubscriptionPlanRow) (turn : PlanTurn) : Prop :=
  turn.index = request ∧ turn.before.rows = [] ∧ turn.after.db.rows = rows

instance (request : PlanRequest) (rows : List SubscriptionPlanRow) : DecidablePred (Leaves request rows) := by
  unfold Leaves
  infer_instance

theorem exists_leaving (payload : CreateSubscriptionPlanRequest) (rows : List SubscriptionPlanRow)
    (played : (Prog.script PlanRequest.handle (creates payload) [] (.empty : Table SubscriptionPlanRow)).any
      (fun last => decide (∃ turn ∈ last.1, Leaves (.create payload) rows turn)) = true) : ∃ turns db,
    Sequence (fun _ => False) PlanRequest.handle .empty turns db ∧
      ∃ turn ∈ turns, Leaves (.create payload) rows turn :=
  Sequence.exists_of_script (creates payload)
    (fun turns _ => ∃ turn ∈ turns, Leaves (.create payload) rows turn) .start played

def monthlyRow : SubscriptionPlanRow := ⟨1, "active", "monthly", 1000000, 30, 10, 0, 0, 0⟩

/-- A plan is created, and its creation answered with an error. -/
theorem a_failed_creation_creates_the_plan : ∃ turns db,
    Sequence (fun _ => False) PlanRequest.handle .empty turns db ∧
    ∃ turn ∈ turns, Leaves (.create monthlyPlan) [monthlyRow] turn ∧ ¬Faithful turn := by
  obtain ⟨turns, db, sequence, turn, member, created, before, after⟩ :=
    exists_leaving monthlyPlan [monthlyRow] (by decide +kernel)
  refine ⟨turns, db, sequence, turn, member, ⟨created, before, after⟩, fun faithful => ?_⟩
  rw [(erring sequence turn member).faithful] at faithful
  rw [faithful, before] at after
  cases after

/-- A plan that the column cannot hold is not created. -/
theorem plan_writes_are_faithful_endless : ∃ turns db,
    Sequence (fun _ => False) PlanRequest.handle .empty turns db ∧
    ∃ turn ∈ turns, Leaves (.create endlessPlan) [] turn ∧ Faithful turn := by
  obtain ⟨turns, db, sequence, turn, member, created⟩ := exists_leaving endlessPlan [] (by decide +kernel)
  refine ⟨turns, db, sequence, turn, member, created, (plan_writes_are_faithful sequence turn member).mpr ?_⟩
  refine .inr (.inl ?_)
  rw [created.1]
  exact (by decide : ¬Fits 3000000000)

end LLMPool.Plans
