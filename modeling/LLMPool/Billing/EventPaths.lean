import LLMPool.Billing.EventContract

/-! What every path of an event handler does, whatever its calls are answered. -/
namespace LLMPool.Billing
open Relational Transactions

/-- Which statement a write was answered to. -/
theorem writes_insert {c : BalanceChange} {s : Stmt} {answer : s.Answer}
    (wrote : Write.insertBalanceChange c ∈ writes s answer) :
    ∃ new, (⟨s, answer⟩ : (s : Stmt) × s.Answer) = ⟨.insertBalanceChange new, c⟩ := by
  cases s
  case insertBalanceChange new =>
    obtain rfl := Write.insertBalanceChange.inj (List.mem_singleton.mp wrote)
    exact ⟨new, rfl⟩
  all_goals first
    | simp [writes] at wrote; done
    | cases answer <;> simp [writes] at wrote

/-- A program that has committed a balance change has tried to enqueue its task. -/
def Forwarded (calls : List (Call engine)) : Prop :=
  ∀ c, Write.insertBalanceChange c ∈ permanent calls →
    ∃ reply, (⟨.remote (.pushBalanceChange ⟨c.id⟩), reply⟩ : Call engine) ∈ calls

theorem forwarded_nil {calls : List (Call engine)} (silent : permanent calls = []) :
    Forwarded calls := by
  intro c member
  rw [silent] at member
  cases member

def Fetched (calls : List (Call engine)) (task : BalanceChangeTask) : Prop :=
  (⟨.remote .fetchBalanceChange, .ok (some task)⟩ : Call engine) ∈ calls

/-- An error of the server, or `RowNotFound` from the `UPDATE` of the balance. -/
def Failed : Call engine → Prop
  | ⟨_, .error _⟩ => True
  | ⟨.sql (.updateWalletBalance _ _), .ok answer⟩ => answer = none
  | _ => False

/-- How the handler of a task can have returned: the change was settled, a call
failed, or the row asked for no settlement or could not be read. -/
def Outcome (task : BalanceChangeTask) (calls : List (Call engine)) : Prop :=
  (∃ subscriptionId, Write.markApplied task.balanceChangeId subscriptionId ∈ permanent calls) ∨
  (∃ call ∈ calls, Failed call) ∨
  ∃ found : Option BalanceChange,
    (⟨.sql (.findBalanceChangeForUpdate task.balanceChangeId), .ok found⟩ : Call engine) ∈ calls ∧
    ∀ c ∈ found, c.isApplied = true ∨ ∃ e, BalanceChangeContent.fromValue c.content = .error e

def Unrecorded (ws : List Write) : Prop := ∀ c, Write.insertBalanceChange c ∉ ws

/-- When the programs of the pipeline run a statement that its queue depends on. -/
def Licensed (calls : List (Call engine)) : Stmt → Prop
  | .insertBalanceChange new => ∃ content : BalanceChangeContent, new.content = content.toValue
  | .findBalanceChangeForUpdate id => Fetched calls ⟨id⟩ ∧ (session calls).writes = []
  | .markBalanceChangeApplied id _ => Fetched calls ⟨id⟩
  | _ => True

/-- The order of calls in the programs of the pipeline: a balance change is the last
thing that its transaction records, and a task is enqueued when its row is committed
and acknowledged when its handler has returned. -/
def Orderly (calls : List (Call engine)) : Op engine → Prop
  | .sql s => Unrecorded (session calls).writes ∧ Licensed calls s
  | .auto s => (session calls).writes = [] ∧ Licensed calls s
  | .remote (.pushBalanceChange task) =>
      ∃ c, Write.insertBalanceChange c ∈ permanent calls ∧ c.id = task.balanceChangeId
  | .remote (.ackBalanceChange task) => Fetched calls task ∧ Outcome task calls
  | _ => True

theorem unrecorded_nil {ws : List Write} (empty : ws = []) : Unrecorded ws := by
  subst empty
  exact fun c => List.not_mem_nil

/-- The open transaction has stored session events and nothing else. -/
def OnlyEvents (calls : List (Call engine)) : Prop :=
  ∀ w ∈ (session calls).writes, ∃ e, w = .putSessionEvent e

theorem OnlyEvents.unrecorded {calls : List (Call engine)} (only : OnlyEvents calls) :
    Unrecorded (session calls).writes := by
  intro c member
  obtain ⟨e, same⟩ := only _ member
  cases same

/-- A handler records balance changes under the request id of its event only. -/
def recordsOwn (event : EventTask EventData) (calls : List (Call engine)) (op : Op engine) : Prop :=
  ∀ new, op = .sql (.insertBalanceChange new) →
    new.uniqueRequestId = eventRequestId event ∧ OnlyEvents calls

def handles (event : EventTask EventData) (calls : List (Call engine)) (op : Op engine) : Prop :=
  recordsOwn event calls op ∧ Orderly calls op

section Paths
variable {event : EventTask EventData} {calls : List (Call engine)}

theorem handles_other {op : Op engine} (other : ∀ new, op ≠ .sql (.insertBalanceChange new))
    (orderly : Orderly calls op) : handles event calls op :=
  ⟨fun new same => absurd same (other new), orderly⟩

theorem path_countUsage {Q : Unit → List (Call engine) → Prop} (modelId : Int)
    (usage : Option UsageInfo) (silent : permanent calls = [])
    (goes : ∀ calls', permanent calls' = [] → Q () calls') :
    (countUsage modelId usage).path (handles event) Q calls := by
  cases usage with
  | none => exact goes calls silent
  | some u =>
      refine path_bind.mpr (path_op (handles_other (by rintro _ ⟨⟩) trivial) (fun reply _ => goes _ ?_))
      rw [permanent_remote, silent]

theorem path_forwardBalanceChange {c : BalanceChange} (silent : permanent calls = [])
    (sound : (session calls).failed = false) (made : .insertBalanceChange c ∈ (session calls).writes)
    (recorded : ∀ c', Write.insertBalanceChange c' ∈ (session calls).writes → c' = c) :
    (forwardBalanceChange c).path (handles event) (fun _ => Forwarded) calls := by
  refine path_bind.mpr (path_op (handles_other (by rintro _ ⟨⟩) trivial) ?_)
  rintro (reason | ⟨⟩) _
  · exact forwarded_nil (by simp only [permanent, silent, Op.commits, List.append_nil])
  · have committed : .insertBalanceChange c ∈
        permanent (E := engine) (⟨.commit, .ok ()⟩ :: calls) := by
      rw [permanent, silent, List.nil_append, Op.commits, sound]
      exact made
    refine path_bind.mpr (path_op (handles_other (by rintro _ ⟨⟩) ⟨c, committed, rfl⟩) ?_)
    intro reply _ c' member
    rw [permanent_remote, permanent, silent, List.nil_append, Op.commits] at member
    split at member
    · cases member
    · obtain rfl := recorded c' member
      exact ⟨reply, List.mem_cons_self⟩

theorem path_billUsage {e : SessionEvent} {usage : UsageInfo} {model : LLMModel}
    (silent : permanent calls = []) (only : OnlyEvents calls)
    (own : spendRequestId event.eventData.provider e.sessionId e.sessionIndex = eventRequestId event) :
    (billUsage event.eventData.provider event.accountId e usage model).path (handles event)
      (fun _ => Forwarded) calls := by
  simp only [billUsage, NewBalanceChange.fromContent, createBalanceChangeWithTx]
  refine path_bind.mpr (path_query ?_ ?_ ?_)
  · refine ⟨?_, only.unrecorded, .spendToken (spendTokenOf usage model e.id), rfl⟩
    rintro new same
    cases same
    exact ⟨own, only⟩
  · intro c sound _
    refine path_forwardBalanceChange ((permanent_sql _ _).trans silent) sound ?_ ?_
    · rw [session_answered]
      exact List.mem_append_right _ List.mem_cons_self
    intro c' member
    rw [session_answered] at member
    rcases List.mem_append.mp member with older | newer
    · obtain ⟨e, same⟩ := only _ older
      cases same
    · have same := List.mem_singleton.mp newer
      exact Write.insertBalanceChange.inj same
  · exact fun reason => forwarded_nil ((permanent_sql _ _).trans silent)

theorem path_getModel (modelId : Int) (silent : permanent calls = [])
    (empty : (session calls).writes = []) :
    (getModelWithTx modelId).run.path (handles event)
      (fun _ calls => permanent calls = [] ∧ (session calls).writes = []) calls := by
  rw [getModelWithTx, path_run_bind]
  refine path_query (handles_other (by rintro _ ⟨⟩) ⟨unrecorded_nil empty, trivial⟩)
    (fun answer _ _ => path_fetchOne (fun _ => ?_))
    (fun reason => ?_)
  · refine ⟨(permanent_sql _ _).trans silent, ?_⟩
    rw [session_answered, empty]
    rfl
  · refine ⟨(permanent_sql _ _).trans silent, ?_⟩
    rw [session_refused, empty]

theorem path_storeEvent (new : NewSessionEvent) (silent : permanent calls = [])
    (empty : (session calls).writes = []) :
    (createSessionEventWithTx new).run.path (handles event) (fun result calls =>
      permanent calls = [] ∧ match result with
        | .ok e => (session calls).writes = [.putSessionEvent e] ∧
            index e = (new.sessionId, new.sessionIndex)
        | .error _ => True) calls := by
  refine path_query (handles_other (by rintro _ ⟨⟩) ⟨unrecorded_nil empty, trivial⟩) ?_ ?_
  · rintro e _ ⟨env, db, executed⟩
    refine ⟨(permanent_sql _ _).trans silent, ?_, upserted_index executed⟩
    rw [session_answered, empty]
    rfl
  · exact fun reason => ⟨(permanent_sql _ _).trans silent, trivial⟩

theorem path_commitLogged (silent : permanent calls = []) (only : OnlyEvents calls) :
    (do let _ ← Prog.commit (E := engine) : Action Unit).path (handles event)
      (fun _ => Forwarded) calls := by
  refine path_bind.mpr (path_op (handles_other (by rintro _ ⟨⟩) trivial) ?_)
  rintro (reason | ⟨⟩) _ c member
  · simp only [permanent, silent, Op.commits, List.append_nil, List.not_mem_nil] at member
  · rw [permanent, silent, List.nil_append, Op.commits] at member
    split at member
    · cases member
    · obtain ⟨e, same⟩ := only _ member
      cases same

/-- Every path of an event handler records under its own request id, enqueues what
it has committed, and has forwarded all of it when it returns. -/
theorem path_handleEvent (event : EventTask EventData) :
    (handleEvent event).path (handles event) (fun _ => Forwarded) [] := by
  rw [handleEvent, path_bind]
  refine path_countUsage _ _ rfl ?_
  intro calls silent
  refine path_bind.mpr (path_op (handles_other (by rintro _ ⟨⟩) trivial) ?_)
  have begun : ∀ reply, permanent (E := engine) (⟨.begin, reply⟩ :: calls) = [] :=
    fun reply => (permanent_begin reply calls).trans silent
  rintro (reason | ⟨⟩) _
  · exact forwarded_nil (begun _)
  · have writes : (session (E := engine) (⟨.begin, .ok ()⟩ :: calls)).writes = [] := rfl
    have silent := begun (.ok ())
    generalize (⟨.begin, .ok ()⟩ :: calls : List (Call engine)) = calls at writes silent
    dsimp only
    rw [path_bind]
    refine path_mono (fun _ _ made => made) ?_ (path_getModel event.modelId silent writes)
    rintro found calls ⟨silent, empty⟩
    rw [path_bind]
    refine path_mono (fun _ _ made => made) ?_ (path_storeEvent _ silent empty)
    rintro (e | e) calls ⟨silent, stored⟩
    · exact forwarded_nil silent
    · obtain ⟨stored, row⟩ := stored
      have only : OnlyEvents calls := by
        intro w member
        rw [stored] at member
        exact ⟨e, List.mem_singleton.mp member⟩
      dsimp only
      split
      · refine path_billUsage silent only ?_
        obtain ⟨first, second⟩ := Prod.mk.inj row
        rw [first, second]
        rfl
      · exact path_commitLogged silent only

end Paths

end LLMPool.Billing
