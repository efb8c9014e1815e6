import LLMPool.Billing.SettlementContract

/-! Repeated deliveries of balance change tasks under any interleaving, with any
call failing: each balance change is settled by at most one transaction. -/
namespace LLMPool.Billing
open Relational Transactions
variable {ι : Type} {D : Discipline engine} {db : Db} {world : World} {id : Int}

theorem Settles.unapplied (settles : Settles D id db db') : ¬Applied db id := by
  obtain ⟨S, rfl, ready, _, rfl⟩ := settles
  rintro ⟨c, found, marked⟩
  cases found.symm.trans ready.found
  exact absurd (ready.unapplied.symm.trans marked) Bool.false_ne_true

theorem Settles.other (settles : Settles D id db db') (other : j ≠ id) :
    db'.balanceChanges.find j = db.balanceChanges.find j := by
  obtain ⟨S, rfl, _, _, rfl⟩ := settles
  rw [writes_balanceChanges]
  exact Table.find_modify_ne _ other

theorem Settles.applied_iff (settles : Settles D id db db') :
    Applied db' j ↔ Applied db j ∨ j = id := by
  by_cases here : j = id
  · subst here
    exact iff_of_true settles.applied (.inr rfl)
  · simp only [Applied, settles.other here, here, or_false]

/-- The handlers of a set of deliveries, none of which has begun. -/
def deliveries (db : Db) (world : World) (task : ι → BalanceChangeTask) : State engine ι :=
  .starting db world (fun i => settleBalanceChange (task i))

/-- Each handler commits settlements of its own balance change only. -/
def settling (D : Discipline engine) (task : ι → BalanceChangeTask) (i : ι) : Db → Db → Prop :=
  Settles D (task i).balanceChangeId

def returns (D : Discipline engine) (pays : Prop) (task : ι → BalanceChangeTask) (i : ι)
    (_ : List (Call engine)) (db : Db) : Prop :=
  Healthy D → pays → Applied db (task i).balanceChangeId

theorem deliveries_verified {task : ι → BalanceChangeTask}
    (payable : pays → ∀ i, Payable db (task i).balanceChangeId) :
    Verified D growth (settling D task) (returns D pays task) (deliveries db world task) :=
  .starting (fun i => wp_settleBalanceChange (fun paying => payable paying i))

theorem settling_grows {task : ι → BalanceChangeTask} (i : ι) (db db' : Db)
    (settles : settling D task i db db') : Grows db db' := Settles.grows settles

theorem returns_stays {task : ι → BalanceChangeTask} (i : ι) (calls : List (Call engine))
    (db db' : Db) (returned : returns D pays task i calls db) (grows : Grows db db') :
    returns D pays task i calls db' :=
  fun healthy paying => (returned healthy paying).grows grows

/-- The balance changes that a chain of settlements has settled. -/
theorem chain_applied {task : ι → BalanceChangeTask} {history : History engine ι}
    (chain : Chain (settling D task) db history db') :
    (history.map (fun e => (task e.1).balanceChangeId)).Nodup ∧
      (∀ e ∈ history, ¬Applied db (task e.1).balanceChangeId) ∧
      ∀ id, Applied db' id ↔
        Applied db id ∨ id ∈ history.map (fun e => (task e.1).balanceChangeId) := by
  refine chain.invariant (I := fun history db' =>
    (history.map (fun e => (task e.1).balanceChangeId)).Nodup ∧
      (∀ e ∈ history, ¬Applied db (task e.1).balanceChangeId) ∧
      ∀ id, Applied db' id ↔
        Applied db id ∨ id ∈ history.map (fun e => (task e.1).balanceChangeId)) ?_ ?_
  · simp
  · rintro history i writes mid _ ⟨nodup, fresh, applied⟩ settles
    have unapplied := Settles.unapplied settles
    rw [applied, not_or] at unapplied
    refine ⟨?_, ?_, ?_⟩
    · exact List.nodup_cons.mpr ⟨unapplied.2, nodup⟩
    · intro e member
      rcases List.mem_cons.mp member with rfl | older
      · exact unapplied.1
      · exact fresh e older
    · intro id
      rw [Settles.applied_iff settles, applied, List.map_cons, List.mem_cons]
      tauto

variable [DecidableEq ι] {task : ι → BalanceChangeTask} {s s' : State engine ι} {i : ι}

/-- Every settlement run is a chain of settlements, in the order of their commits. -/
theorem deliveries_chain (payable : pays → ∀ i, Payable db (task i).balanceChangeId)
    (reached : Reaches D (deliveries db world task) history s) :
    Verified D growth (settling D task) (returns D pays task) s ∧
      Chain (settling D task) db history s.db :=
  reached.chain (deliveries_verified payable) settling_grows returns_stays

/-- For any deliveries, any interleaving and any failures: the transactions that
committed writes are for different balance changes, none of them applied before;
a change is applied exactly when one of them was for it; and a step that commits
none leaves every row as it was, while one that does applies its own change alone. -/
theorem settled_at_most_once
    (reached : Reaches (Discipline.any True) (deliveries db world task) history s) :
    (history.map (fun e => (task e.1).balanceChangeId)).Nodup ∧
    (∀ e ∈ history, ¬Applied db (task e.1).balanceChangeId) ∧
    (∀ id, Applied s.db id ↔
      Applied db id ∨ id ∈ history.map (fun e => (task e.1).balanceChangeId)) ∧
    ∀ i writes s', Step (Discipline.any True) s i writes s' →
      (writes = [] → s'.db = s.db) ∧
      (writes ≠ [] → ¬Applied s.db (task i).balanceChangeId ∧
        Applied s'.db (task i).balanceChangeId ∧
        ∀ id, id ≠ (task i).balanceChangeId →
          s'.db.balanceChanges.find id = s.db.balanceChanges.find id) := by
  obtain ⟨verified, chain⟩ := deliveries_chain False.elim reached
  obtain ⟨nodup, fresh, applied⟩ := chain_applied chain
  refine ⟨nodup, fresh, applied, fun i writes s' stepped => ⟨?_, ?_⟩⟩
  · rintro rfl
    exact stepped.db
  · intro wrote
    have settles : Settles _ _ s.db s'.db := (stepped.guaranteed verified).1 wrote
    exact ⟨settles.unapplied, settles.applied, fun id other => settles.other other⟩

def unsettled (id accountId : Int) (uniqueRequestId : String) (content : BalanceChangeContent) :
    BalanceChange :=
  ⟨id, accountId, uniqueRequestId, content.toValue, false, 0⟩

def oneDeposit : Db := { Db.empty with
  balanceChanges := Table.empty.insert (unsettled 1 1 "deposit-1" (.deposit 10)) }

/-- Two deliveries of one deposit: the second waits for the row, and finds it applied. -/
theorem settled_at_most_once_redelivered : ∃ history s,
    Reaches (Discipline.any True)
      (deliveries oneDeposit .empty (fun _ : Fin 2 => ⟨1⟩)) history s ∧
    (∀ i, (s.procs i).Returned) ∧ Applied s.db 1 ∧ ∃ i writes, history = [(i, writes)] := by
  obtain ⟨history, s, reached, returned, marked⟩ := State.exists_of_play
    (Discipline.any True) (deliveries oneDeposit .empty (fun _ : Fin 2 => ⟨1⟩))
    (schedule [0, 1, 0, 0, 0, 0, 0, 0, 0, 1])
    (fun s => (∀ i, (s.procs i).Returned) ∧ Applied s.db 1) (by decide +kernel)
  obtain ⟨nodup, _, applied, _⟩ := settled_at_most_once reached
  refine ⟨history, s, reached, returned, marked, ?_⟩
  cases history with
  | nil => exact absurd ((applied 1).mp marked) (by decide +kernel)
  | cons e rest =>
      cases rest with
      | nil => exact ⟨e.1, e.2, rfl⟩
      | cons => exact absurd nodup (by simp)

end LLMPool.Billing
