import LLMPool.Growth
import LLMPool.Defer.EventTasks

/-! The event handlers, call by call: whatever interleaves with one, it commits the
session event of its task alone, or together with the balance change that bills it. -/
namespace LLMPool.Billing
open Relational Transactions

def eventRequestId (event : EventTask EventData) : String :=
  spendRequestId event.eventData.provider event.sessionId event.sessionIndex

/-- The event carries usage, and its model is known. -/
def Billable (event : EventTask EventData) (db : Db) : Prop :=
  (∃ usage, event.eventData.extractUsage = some usage) ∧
    ∃ model, db.models.find event.modelId = some model

def Billed (event : EventTask EventData) (db : Db) : Prop :=
  ∃ c, db.balanceChanges.lookup (eventRequestId event) = some c

/-- The row that an upsert of a session event overwrites is there, or it has a place. -/
def Puts (e : SessionEvent) (db : Db) : Prop :=
  (∃ old, db.sessionEvents.find e.id = some old ∧ index old = index e) ∨ db.sessionEvents.free e

/-- What a handler commits for its event. -/
inductive Bills (event : EventTask EventData) (db : Db) : Db → Prop
  | logged (e : SessionEvent) (row : index e = (event.sessionId, event.sessionIndex))
      (puts : Puts e db) (unbillable : ¬Billable event db) :
      Bills event db (engine.applyAll [.putSessionEvent e] db)
  | billed (e : SessionEvent) (c : BalanceChange) (usage : UsageInfo) (model : LLMModel)
      (row : index e = (event.sessionId, event.sessionIndex)) (puts : Puts e db)
      (used : event.eventData.extractUsage = some usage)
      (known : db.models.find event.modelId = some model) (free : db.balanceChanges.free c)
      (made : c = ⟨c.id, event.accountId, eventRequestId event,
        (BalanceChangeContent.spendToken (spendTokenOf usage model e.id)).toValue, false, 0⟩) :
      Bills event db (engine.applyAll [.putSessionEvent e, .insertBalanceChange c] db)

/-- If nothing failed, a billable event is billed when a handler of it returns, by
this handler or by another. -/
def Handled (D : Discipline engine) (event : EventTask EventData) (db : Db) : Prop :=
  (∀ op, ¬D.faults op) → Billable event db → Billed event db

section Stability
variable {event : EventTask EventData} {e : SessionEvent} {c : BalanceChange} {db db' : Db}

theorem absent_of_same {a b : Option α} (same : a.isSome = b.isSome) (absent : a = none) :
    b = none := by
  subst absent
  exact Option.isNone_iff_eq_none.mp (Option.isSome_eq_false_iff.mp same.symm)

theorem Puts.stable (puts : Puts e db) (row : same (.sessionEvent e.id) db db')
    (entry : same (.sessionIndex e.sessionId e.sessionIndex) db db') : Puts e db' := by
  rcases puts with ⟨old, found, at_index⟩ | ⟨missing, absent⟩
  · exact .inl ⟨old, row.symm.trans found, at_index⟩
  · exact .inr ⟨row.symm.trans missing, absent_of_same entry absent⟩

theorem free_stable (free : db.balanceChanges.free c) (row : same (.balanceChange c.id) db db')
    (entry : same (.request c.uniqueRequestId) db db') : db'.balanceChanges.free c :=
  ⟨row.symm.trans free.1, absent_of_same entry free.2⟩

theorem Billed.grows (billed : Billed event db) (grows : Grows db db') : Billed event db' := by
  obtain ⟨c, found⟩ := billed
  obtain ⟨member, at_index⟩ := Table.lookup_iff.mp found
  obtain ⟨c', found', same⟩ := grows.balanceChanges c.id c (Table.find_of_mem member)
  exact ⟨c', Table.lookup_iff.mpr
    ⟨(Table.find_iff.mp found').1, same.uniqueRequestId.trans at_index⟩⟩

theorem billable_grows (grows : Grows db db') : Billable event db' ↔ Billable event db := by
  rw [Billable, Billable, grows.models]

theorem Bills.grows (bills : Bills event db db') : Grows db db' := by
  cases bills <;> exact grows_applyAll _ db

/-- An upserted session event is there afterwards. -/
theorem Puts.lookup (puts : Puts e db) : ∃ e', e'.id = e.id ∧
    (apply (.putSessionEvent e) db).sessionEvents.lookup (index e) = some e' := by
  simp only [apply]
  rcases puts with ⟨old, found, at_index⟩ | free
  · rw [found, Option.isSome_some, if_pos rfl]
    refine ⟨overwrite e old, (Table.find_iff.mp found).2, Table.lookup_iff.mpr ⟨?_, at_index⟩⟩
    exact (Table.mem_modify _).mpr
      ⟨old, (Table.find_iff.mp found).1, if_pos (Table.find_iff.mp found).2⟩
  · have missing : db.sessionEvents.find e.id = none := free.1
    rw [missing, Option.isSome_none, if_neg Bool.false_ne_true]
    exact ⟨e, rfl, Table.lookup_insert_self free⟩

end Stability

section Contract
variable {D : Discipline engine} {event : EventTask EventData} {calls : List (Call engine)}
  {db : Db}

theorem Handled.of_fault (faulty : ∃ op, D.faults op) : Handled D event db := by
  intro faultless
  obtain ⟨op, faulty⟩ := faulty
  exact absurd faulty (faultless op)

/-- The handler has stored its session event, and not yet committed. -/
structure Stored (event : EventTask EventData) (e : SessionEvent) (calls : List (Call engine))
    (db : Db) : Prop where
  running : session calls =
    ⟨true, false, [.putSessionEvent e], [.sessionEvent e.id, .sessionIndex e.sessionId e.sessionIndex]⟩
  row : index e = (event.sessionId, event.sessionIndex)
  puts : Puts e db

theorem Stored.next {e : SessionEvent} (stored : Stored event e calls db)
    (between : Interferes D growth (session calls) db db') : Stored event e calls db' := by
  obtain ⟨running, row, puts⟩ := stored
  refine ⟨running, row, puts.stable ?_ ?_⟩
  · exact between.same (.sessionEvent e.id) (by simp [running])
  · exact between.same (.sessionIndex e.sessionId e.sessionIndex) (by simp [running])

/-- The handler has also recorded the balance change for its event. -/
structure Recorded (event : EventTask EventData) (e : SessionEvent) (c : BalanceChange)
    (usage : UsageInfo) (model : LLMModel) (calls : List (Call engine)) (db : Db) : Prop where
  running : session calls = ⟨true, false, [.putSessionEvent e, .insertBalanceChange c],
    [.sessionEvent e.id, .sessionIndex e.sessionId e.sessionIndex, .balanceChange c.id,
      .request c.uniqueRequestId]⟩
  row : index e = (event.sessionId, event.sessionIndex)
  puts : Puts e db
  used : event.eventData.extractUsage = some usage
  known : db.models.find event.modelId = some model
  free : db.balanceChanges.free c
  made : c = ⟨c.id, event.accountId, eventRequestId event,
    (BalanceChangeContent.spendToken (spendTokenOf usage model e.id)).toValue, false, 0⟩

section Recording
variable {e : SessionEvent} {c : BalanceChange} {usage : UsageInfo} {model : LLMModel}

theorem Recorded.next (recorded : Recorded event e c usage model calls db)
    (between : Interferes D growth (session calls) db db') :
    Recorded event e c usage model calls db' := by
  obtain ⟨running, row, puts, used, known, free, made⟩ := recorded
  refine ⟨running, row, puts.stable ?_ ?_, used, ?_, free_stable free ?_ ?_, made⟩
  · exact between.same (.sessionEvent e.id) (by simp [running])
  · exact between.same (.sessionIndex e.sessionId e.sessionIndex) (by simp [running])
  · rw [between.rel.models]
    exact known
  · exact between.same (.balanceChange c.id) (by simp [running])
  · exact between.same (.request c.uniqueRequestId) (by simp [running])

theorem Recorded.bills (recorded : Recorded event e c usage model calls db) :
    Bills event db ((session calls).view db) ∧ Billed event ((session calls).view db) := by
  obtain ⟨running, row, puts, used, known, free, made⟩ := recorded
  rw [running]
  refine ⟨.billed e c usage model row puts used known free made, c, ?_⟩
  have entry : eventRequestId event = index c := (congrArg BalanceChange.uniqueRequestId made).symm
  rw [entry]
  exact Table.lookup_insert_self free

theorem wp_forwardBalanceChange (e : SessionEvent) (usage : UsageInfo) (model : LLMModel)
    (recorded : Recorded event e c usage model calls db) :
    (forwardBalanceChange c).wp D growth (Bills event) (fun _ _ => Handled D event) calls db := by
  rw [forwardBalanceChange, wp_bind]
  refine wp_commit ?_ ?_ ?_
  · intro db' between _ sound
    obtain ⟨bills, billed⟩ := (recorded.next between).bills
    refine ⟨fun _ => bills, ?_⟩
    rw [wp_bind]
    refine wp_remote ?_ ?_
    · exact fun db'' _ _ between' _ _ _ => billed.grows between'.rel
    · exact fun db'' _ between' _ _ => billed.grows between'.rel
  · intro db' _ failed
    rw [recorded.running] at failed
    cases failed
  · exact fun db' faulty _ => .of_fault ⟨_, faulty⟩

theorem wp_billUsage (stored : Stored event e calls db)
    (used : event.eventData.extractUsage = some usage)
    (known : db.models.find event.modelId = some model) :
    (billUsage event.eventData.provider event.accountId e usage model).wp D growth (Bills event)
      (fun _ _ => Handled D event) calls db := by
  have entry : spendRequestId event.eventData.provider e.sessionId e.sessionIndex =
      eventRequestId event := by
    obtain ⟨first, second⟩ := Prod.mk.inj stored.row
    rw [eventRequestId, first, second]
  simp only [billUsage, NewBalanceChange.fromContent, createBalanceChangeWithTx, entry]
  refine wp_bind.mpr (wp_query ?_ ?_)
  · intro db' env c between _ _ possible executed
    obtain ⟨running, row, puts⟩ := stored.next between
    rw [running] at possible executed
    change (if (db'.balanceChanges.lookup (eventRequestId event)).isNone then _ else _) = _ at executed
    split at executed
    · rename_i absent
      cases executed
      refine wp_forwardBalanceChange e usage model ?_
      refine ⟨?_, row, puts, used, ?_,
        ⟨(of_decide_eq_true possible).2, Option.isNone_iff_eq_none.mp absent⟩, rfl⟩
      · rw [session_answered, running]
        rfl
      · rw [between.rel.models]
        exact known
    · cases executed
  · intro db' reason between refused
    obtain ⟨running, _, _⟩ := stored.next between
    rcases refused_cases (by rw [running]) (by rw [running]) refused with faulty | ⟨_, env, unanswered⟩
    · exact .of_fault ⟨_, faulty⟩
    · rw [running] at unanswered
      change (if (db'.balanceChanges.lookup (eventRequestId event)).isNone then _ else _) = _
        at unanswered
      intro _ _
      cases found : db'.balanceChanges.lookup (eventRequestId event) with
      | some c => exact ⟨c, found⟩
      | none =>
          rw [found] at unanswered
          cases unanswered

end Recording

theorem wp_commitLogged {e : SessionEvent} (stored : Stored event e calls db)
    (unbillable : ¬Billable event db) :
    (do let _ ← Prog.commit (E := engine) : Action Unit).wp D growth (Bills event)
      (fun _ _ => Handled D event) calls db := by
  rw [wp_bind]
  refine wp_commit ?_ ?_ ?_
  · intro db' between _ _
    obtain ⟨running, row, puts⟩ := stored.next between
    have unbillable : ¬Billable event db' := by rwa [billable_grows between.rel]
    rw [running]
    exact ⟨fun _ => .logged e row puts unbillable, fun _ billable => absurd billable unbillable⟩
  · intro db' _ failed
    rw [stored.running] at failed
    cases failed
  · exact fun db' faulty _ => .of_fault ⟨_, faulty⟩

/-- The handler has looked up its model. A lookup that failed has aborted the
transaction; one that found no row has not. -/
structure LookedUp (D : Discipline engine) (event : EventTask EventData) (model : Option LLMModel)
    (calls : List (Call engine)) (db : Db) : Prop where
  faulty : (session calls).failed = true → ∃ op, D.faults op
  running : (session calls).failed = false →
    session calls = ⟨true, false, [], []⟩ ∧ model = db.models.find event.modelId

theorem wp_getModel (running : session calls = ⟨true, false, [], []⟩) :
    (getModelWithTx event.modelId).run.wp D growth G
      (fun result calls db => LookedUp D event result.toOption calls db) calls db := by
  rw [getModelWithTx, wp_run_bind]
  refine wp_query ?_ ?_
  · intro db' env answer between _ _ _ executed
    have found : db'.models.find event.modelId = answer := by
      rw [running] at executed
      exact Option.some.inj executed
    have still : session (E := engine) (⟨.sql (.getModel event.modelId), .ok answer⟩ :: calls) =
        ⟨true, false, [], []⟩ := by
      rw [session_answered, running]
      rfl
    refine wp_fetchOne ?_ ?_
    · rintro model rfl
      refine ⟨?_, fun _ => ⟨still, found.symm⟩⟩
      rw [still]
      exact fun failed => absurd failed Bool.false_ne_true
    · rintro rfl
      refine ⟨?_, fun _ => ⟨still, found.symm⟩⟩
      rw [still]
      exact fun failed => absurd failed Bool.false_ne_true
  · intro db' reason between refused
    refine ⟨fun _ => ?_, fun sound => ?_⟩
    · rcases refused_cases (by rw [running]) (by rw [running]) refused with faulty | ⟨_, _, unanswered⟩
      · exact ⟨_, faulty⟩
      · cases unanswered
    · rw [session_refused] at sound
      cases sound

theorem exec_upsertSessionEvent (new : NewSessionEvent) (env : Env) (db : Db) :
    exec (.upsertSessionEvent new) env db =
      match db.sessionEvents.lookup (new.sessionId, new.sessionIndex) with
      | some old => some (overwrite (NewSessionEvent.row new old.id) old)
      | none => some (NewSessionEvent.row new env.serial) := rfl

/-- The row that an upsert answers is of the session that it was given. -/
theorem upserted_index {new : NewSessionEvent} {e : SessionEvent} {env : Env} {db : Db}
    (executed : exec (.upsertSessionEvent new) env db = some e) :
    index e = (new.sessionId, new.sessionIndex) := by
  rw [exec_upsertSessionEvent] at executed
  cases found : db.sessionEvents.lookup (new.sessionId, new.sessionIndex) with
  | some old =>
      rw [found] at executed
      cases executed
      exact (Table.lookup_iff.mp found).2
  | none =>
      rw [found] at executed
      cases executed
      rfl

theorem upserted_puts {new : NewSessionEvent} {e : SessionEvent} {env : Env}
    (possible : possible (.upsertSessionEvent new) env db = true)
    (executed : exec (.upsertSessionEvent new) env db = some e) : Puts e db := by
  rw [exec_upsertSessionEvent] at executed
  cases found : db.sessionEvents.lookup (new.sessionId, new.sessionIndex) with
  | some old =>
      rw [found] at executed
      cases executed
      exact .inl ⟨old, Table.find_of_mem (Table.lookup_iff.mp found).1, rfl⟩
  | none =>
      rw [found] at executed
      cases executed
      exact .inr ⟨(of_decide_eq_true possible).2, found⟩

theorem wp_storeEvent {model : Option LLMModel} {new : NewSessionEvent}
    (looked : LookedUp D event model calls db) (sessionId : new.sessionId = event.sessionId)
    (sessionIndex : new.sessionIndex = event.sessionIndex) :
    (createSessionEventWithTx new).run.wp D growth G (fun result calls db =>
      match result with
      | .ok e => Stored event e calls db ∧ model = db.models.find event.modelId
      | .error _ => ∃ op, D.faults op) calls db := by
  rw [createSessionEventWithTx]
  refine wp_query ?_ ?_
  · intro db' env e between _ sound possible executed
    obtain ⟨running, known⟩ := looked.running sound
    rw [← between.rel.models] at known
    rw [running] at possible executed
    have row : index e = (event.sessionId, event.sessionIndex) := by
      rw [← sessionId, ← sessionIndex]
      exact upserted_index executed
    refine ⟨⟨?_, row, upserted_puts possible executed⟩, known⟩
    rw [session_answered, running]
    rfl
  · intro db' reason between refused
    cases sound : (session calls).failed with
    | true => exact looked.faulty sound
    | false =>
        obtain ⟨running, _⟩ := looked.running sound
        rcases refused_cases (by rw [running]) sound refused with faulty | ⟨_, env, unanswered⟩
        · exact ⟨_, faulty⟩
        · rw [exec_upsertSessionEvent] at unanswered
          split at unanswered <;> cases unanswered

theorem wp_countUsage {Q : Unit → List (Call engine) → Db → Prop} (modelId : Int)
    (usage : Option UsageInfo) (goes : ∀ calls' db', Q () calls' db') :
    (countUsage modelId usage).wp D growth G Q calls db := by
  cases usage with
  | none => exact goes calls db
  | some u =>
      rw [countUsage, wp_bind]
      exact wp_remote (fun _ _ _ _ _ => goes _ _) (fun _ _ _ => goes _ _)

/-- The contract of the event handlers. -/
theorem wp_handleEvent (event : EventTask EventData) :
    (handleEvent event).wp D growth (Bills event) (fun _ _ => Handled D event) calls db := by
  rw [handleEvent, wp_bind]
  refine wp_countUsage _ _ ?_
  intro calls db
  rw [wp_bind]
  refine wp_begin ?_ ?_
  · intro db' _
    rw [wp_bind]
    refine wp_mono (fun _ _ same => same) ?_ (wp_getModel rfl)
    intro found calls db looked
    rw [wp_bind]
    refine wp_mono (fun _ _ same => same) ?_ (wp_storeEvent looked rfl rfl)
    rintro (e | e) calls db stored
    · exact .of_fault stored
    · obtain ⟨stored, known⟩ := stored
      cases used : event.eventData.extractUsage with
      | none =>
          refine wp_commitLogged stored ?_
          rintro ⟨⟨usage, some_usage⟩, _⟩
          cases used.symm.trans some_usage
      | some usage =>
          cases model : found.toOption with
          | none =>
              refine wp_commitLogged stored ?_
              rintro ⟨_, model', some_model⟩
              cases (model.symm.trans known).trans some_model
          | some model' => exact wp_billUsage stored used (known.symm.trans model)
  · exact fun db' faulty _ => .of_fault ⟨_, faulty⟩

end Contract

end LLMPool.Billing
