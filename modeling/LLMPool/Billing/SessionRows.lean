import LLMPool.Database
import LLMPool.Relational.Upserts

/-! The rows of session events that the upsert of the event handlers answers and puts. -/
namespace LLMPool
open Relational Transactions

/-- The row that the insert is or that it updates. -/
def upserted (rows : Table SessionEvent) (new : NewSessionEvent) (id : Int) : SessionEvent :=
  match rows.lookup (new.sessionId, new.sessionIndex) with
  | some old => overwrite (NewSessionEvent.row new old.id) old
  | none => NewSessionEvent.row new id

def putSessionEvent (rows : Table SessionEvent) (e : SessionEvent) : Table SessionEvent :=
  rows.put e (overwrite e) (overwrite_keeps e)

/-- The row is what the database answers to the statement. -/
theorem exec_upserted (new : NewSessionEvent) (env : Env) (db : Db) :
    exec (.upsertSessionEvent new) env db = some (upserted db.sessionEvents new env.serial) := by
  simp only [exec, upserted]
  cases db.sessionEvents.lookup (new.sessionId, new.sessionIndex) <;> rfl

section Rows
variable {rows : Table SessionEvent} {new : NewSessionEvent} {id : Int}

/-- An insert that finds no row keeps its id; one that finds a row goes on with that row's. -/
theorem upserted_cases (rows : Table SessionEvent) (new : NewSessionEvent) (id : Int) :
    index (upserted rows new id) = (new.sessionId, new.sessionIndex) ∧
      ((upserted rows new id).id = id ∧ (∀ k, ¬rows.Lists k (new.sessionId, new.sessionIndex)) ∨
        rows.Lists (upserted rows new id).id (new.sessionId, new.sessionIndex)) := by
  unfold upserted
  split
  · rename_i old found
    obtain ⟨member, place⟩ := Table.lookup_iff.mp found
    exact ⟨place, .inr ⟨old, member, rfl, place⟩⟩
  · rename_i absent
    refine ⟨rfl, .inl ⟨rfl, ?_⟩⟩
    rintro k ⟨old, member, _, place⟩
    exact Table.lookup_eq_none.mp absent old member place

theorem upserted_columns (rows : Table SessionEvent) (new : NewSessionEvent) (id : Int) :
    (upserted rows new id).inputTokens = new.inputTokens ∧
    (upserted rows new id).outputTokens = new.outputTokens ∧
    (upserted rows new id).inputTokenPrice = new.inputTokenPrice ∧
    (upserted rows new id).outputTokenPrice = new.outputTokenPrice := by
  unfold upserted
  split <;> exact ⟨rfl, rfl, rfl, rfl⟩

/-- The account is the one of the row that was there first. -/
theorem upserted_account (same : ∀ old ∈ rows, index old = (new.sessionId, new.sessionIndex) →
    old.accountId = new.accountId) : (upserted rows new id).accountId = new.accountId := by
  unfold upserted
  split
  · rename_i old found
    obtain ⟨member, place⟩ := Table.lookup_iff.mp found
    exact same old member place
  · rfl

theorem find_upserted (fresh : rows.find id = none) :
    (putSessionEvent rows (upserted rows new id)).find (upserted rows new id).id = some (upserted rows new id) := by
  unfold upserted
  split
  · rename_i old found
    exact Table.find_put_old (Table.find_of_mem (Table.lookup_iff.mp found).1)
  · rename_i absent
    exact Table.find_put_new ⟨fresh, absent⟩

end Rows
end LLMPool
