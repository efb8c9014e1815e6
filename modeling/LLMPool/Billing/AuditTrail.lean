import LLMPool.Billing.EventContract
import LLMPool.Billing.SessionRows
import LLMPool.Catalogue.Models

/-! Serial runs of the event handlers: what a session event says of the balance change that
names it. -/
namespace LLMPool.Billing
open Relational Transactions

/-- The session event that a delivery stores. -/
def storedEvent (event : EventTask EventData) (db : Db) (id : Int) : SessionEvent :=
  upserted db.sessionEvents (newSessionEvent event event.eventData.extractUsage (db.models.find event.modelId)) id

/-- What a handler that runs by itself leaves of the rows that it found. -/
inductive Leaves (event : EventTask EventData) (db : Db) : Db → Prop
  | nothing : Leaves event db db
  | logged (id : Int) (fresh : db.sessionEvents.find id = none) (unbillable : ¬Billable event db) :
      Leaves event db (engine.applyAll [.putSessionEvent (storedEvent event db id)] db)
  | billed (id : Int) (c : BalanceChange) (usage : UsageInfo) (model : LLMModel)
      (fresh : db.sessionEvents.find id = none)
      (used : event.eventData.extractUsage = some usage)
      (known : db.models.find event.modelId = some model) (free : db.balanceChanges.free c)
      (made : c = ⟨c.id, event.accountId, eventRequestId event,
        (BalanceChangeContent.spendToken (spendTokenOf usage model (storedEvent event db id).id)).toValue, false, 0⟩) :
      Leaves event db (engine.applyAll [.putSessionEvent (storedEvent event db id), .insertBalanceChange c] db)

section Handler
variable {faults : Op engine → Prop} {event : EventTask EventData} {m : Solo engine} {db : Db}

/-- Where the transaction is that a handler has opened. -/
def Pending (db : Db) (writes : List Write) (m : Solo engine) : Prop :=
  m.db = db ∧ (session m.calls).failed = false ∧ (session m.calls).writes = writes

theorem Pending.view {writes : List Write} (pending : Pending db writes m) :
    (session m.calls).view m.db = engine.applyAll writes db := by
  obtain ⟨rfl, _, rfl⟩ := pending
  rfl

theorem Pending.answered {writes : List Write} {s : Stmt} (answer : s.Answer) (pending : Pending db writes m) :
    Pending db (writes ++ LLMPool.writes s answer) ⟨⟨.sql s, .ok answer⟩ :: m.calls, m.db, m.world⟩ := by
  obtain ⟨same, sound, rfl⟩ := pending
  exact ⟨same, sound, rfl⟩

theorem yields_countUsage {Q : Unit → Solo engine → Prop} (modelId : Int) (usage : Option UsageInfo)
    (counted : ∀ m', m'.db = m.db → Q () m') : (countUsage modelId usage).yields faults Q m := by
  cases usage with
  | none => exact counted m rfl
  | some u => exact yields_bind.mpr (yields_remote (fun _ _ => counted _ rfl))

theorem yields_forwardBalanceChange {writes : List Write} (c : BalanceChange) (pending : Pending db writes m) :
    (forwardBalanceChange c).yields faults
      (fun _ m' => m'.db = db ∨ m'.db = engine.applyAll writes db) m := by
  rw [forwardBalanceChange]
  refine yields_bind.mpr (yields_commit ?_ (.inl pending.1))
  refine yields_bind.mpr (yields_remote (fun _ _ => .inr ?_))
  simp only [pending.2.1, pending.view]
  rfl

theorem storedEvent_index (event : EventTask EventData) (db : Db) (id : Int) :
    index (storedEvent event db id) = (event.sessionId, event.sessionIndex) := (upserted_cases _ _ _).1

theorem yields_billUsage {usage : UsageInfo} {model : LLMModel} {id : Int}
    (fresh : db.sessionEvents.find id = none) (used : event.eventData.extractUsage = some usage)
    (known : db.models.find event.modelId = some model)
    (pending : Pending db [.putSessionEvent (storedEvent event db id)] m) :
    (billUsage event.eventData.provider event.accountId (storedEvent event db id) usage model).yields faults
      (fun _ m' => Leaves event db m'.db) m := by
  have entry : spendRequestId event.eventData.provider (storedEvent event db id).sessionId
      (storedEvent event db id).sessionIndex = eventRequestId event := by
    obtain ⟨first, second⟩ := Prod.mk.inj (storedEvent_index event db id)
    rw [eventRequestId, first, second]
  have unchanged : Leaves event db m.db := pending.1 ▸ .nothing
  simp only [billUsage, NewBalanceChange.fromContent, createBalanceChangeWithTx, entry]
  refine yields_bind.mpr (yields_query (fun env c sound possible executed => ?_) (fun _ => unchanged))
  rw [pending.view] at possible executed
  change (if (db.balanceChanges.lookup (eventRequestId event)).isNone then _ else _) = _ at executed
  split at executed
  · rename_i absent
    cases executed
    refine yields_mono ?_ (yields_forwardBalanceChange _ (pending.answered _))
    rintro _ m' (same | left)
    · rw [same]
      exact .nothing
    · rw [left]
      exact .billed id _ usage model fresh used known
        ⟨(of_decide_eq_true possible).2, Option.isNone_iff_eq_none.mp absent⟩ rfl
  · cases executed

theorem yields_commitLogged {id : Int} (fresh : db.sessionEvents.find id = none) (unbillable : ¬Billable event db)
    (pending : Pending db [.putSessionEvent (storedEvent event db id)] m) :
    (do let _ ← Prog.commit (E := engine) : Action Unit).yields faults (fun _ m' => Leaves event db m'.db) m := by
  refine yields_bind.mpr (yields_commit ?_ (pending.1 ▸ .nothing))
  simp only [pending.2.1, pending.view]
  exact .logged id fresh unbillable

/-- The model that a handler goes on with, unless its lookup has aborted the transaction. -/
theorem yields_getModel (pending : Pending db [] m) :
    (getModelWithTx event.modelId).run.yields faults (fun result m' => m'.db = db ∧
      ((session m'.calls).failed = false →
        Pending db [] m' ∧ result.toOption = db.models.find event.modelId)) m := by
  rw [getModelWithTx]
  refine yields_run_bind.mpr (yields_query (fun env answer sound possible executed => ?_) (fun reason => ?_))
  · rw [pending.view] at executed
    have found : db.models.find event.modelId = answer := Option.some.inj executed
    have still := pending.answered (s := .getModel event.modelId) answer
    cases answer with
    | none => exact ⟨still.1, fun _ => ⟨still, found.symm⟩⟩
    | some model => exact ⟨still.1, fun _ => ⟨still, found.symm⟩⟩
  · exact ⟨pending.1, fun sound => absurd sound (Bool.noConfusion)⟩

/-- The contract of a handler that runs by itself. -/
theorem yields_handleEvent (event : EventTask EventData) (m : Solo engine) :
    (handleEvent event).yields faults (fun _ m' => Leaves event m.db m'.db) m := by
  rw [handleEvent]
  refine yields_bind.mpr (yields_countUsage _ _ (fun m₁ same => ?_))
  have unchanged : ∀ db', db' = m.db → Leaves event m.db db' := by
    rintro _ rfl
    exact .nothing
  refine yields_bind.mpr (yields_begin ?_ (unchanged _ same))
  have opened : Pending m.db [] ⟨⟨.begin, .ok ()⟩ :: m₁.calls, m₁.db, m₁.world⟩ := ⟨same, rfl, rfl⟩
  refine yields_bind.mpr (yields_mono (fun found m₂ looked => ?_) (yields_getModel opened))
  refine yields_bind.mpr ?_
  rw [createSessionEventWithTx]
  refine yields_query (fun env e sound possible executed => ?_) (fun _ => unchanged _ looked.1)
  obtain ⟨pending, known⟩ := looked.2 sound
  rw [pending.view] at possible executed
  have fresh : m.db.sessionEvents.find env.serial = none := (of_decide_eq_true possible).2
  have stored : e = storedEvent event m.db env.serial := by
    rw [known] at executed
    exact (Option.some.inj ((exec_upserted _ env m.db).symm.trans executed)).symm
  subst stored
  have put := pending.answered
    (s := .upsertSessionEvent (newSessionEvent event event.eventData.extractUsage found.toOption))
    (storedEvent event m.db env.serial)
  cases used : event.eventData.extractUsage with
  | none =>
      refine yields_commitLogged fresh ?_ put
      rintro ⟨⟨usage, carried⟩, _⟩
      cases used.symm.trans carried
  | some usage =>
      cases model : found.toOption with
      | none =>
          refine yields_commitLogged fresh ?_ put
          rintro ⟨_, model', listed⟩
          cases (model.symm.trans known).trans listed
      | some model' => exact yields_billUsage fresh used (known.symm.trans model) put

end Handler

/-- One event is enqueued for a session and an index, however often it is delivered. -/
structure Traffic where
  event : String × Int → EventTask EventData
  placed : ∀ place, ((event place).sessionId, (event place).sessionIndex) = place

/-- Deliveries one after another, with any calls failing; between them the models are edited,
and none is deleted. -/
inductive Delivered (traffic : Traffic) (P : Db → EventTask EventData → Prop) (initial : Db) : Db → Prop
  | start : Delivered traffic P initial initial
  | deliver {db : Db} {value : Unit} {m : Solo engine} (earlier : Delivered traffic P initial db)
      (place : String × Int) (world : World) (admitted : P db (traffic.event place))
      (ran : (handleEvent (traffic.event place)).Runs (fun _ => True) ⟨[], db, world⟩ value m) :
      Delivered traffic P initial m.db
  | edit {db : Db} (earlier : Delivered traffic P initial db) (models : Table LLMModel)
      (kept : ∀ id, (db.models.find id).isSome → (models.find id).isSome) :
      Delivered traffic P initial { db with models := models }

/-- What `update_model` writes is such an edit. -/
theorem edit_kept (w : Catalogue.Write) (models : Table LLMModel) (id : Int) (found : (models.find id).isSome) :
    ((Catalogue.apply w models).find id).isSome := by
  have either : (Catalogue.apply w models).find id = (models.find id).map (Table.at_key w.id w.change.on) ∨
      Catalogue.apply w models = models := Table.find_update models
  rcases either with changed | same
  · rw [changed, Option.isSome_map]
    exact found
  · rwa [same]

/-- The charge that a balance change is. -/
def charge (c : BalanceChange) : Option SpendToken :=
  match BalanceChangeContent.fromValue c.content with
  | .ok (.spendToken spend) => some spend
  | _ => none

def Explains (e : SessionEvent) (c : BalanceChange) (spend : SpendToken) : Prop :=
  e.accountId = c.accountId ∧ e.inputTokens = spend.inputTokens ∧ e.outputTokens = spend.outputTokens ∧
    e.inputTokenPrice * e.inputTokens = spend.inputSpendAmount ∧
    e.outputTokenPrice * e.outputTokens = spend.outputSpendAmount

/-- Every charge is explained by the session event that it names. -/
def Explained (db : Db) : Prop :=
  ∀ c ∈ db.balanceChanges, ∀ spend ∈ charge c, ∃ e ∈ db.sessionEvents.find spend.eventId, Explains e c spend

/-- A batch's usage costs at the batch prices what it costs at the regular ones. -/
def Regular (event : EventTask EventData) (db : Db) : Prop :=
  ∀ usage model, event.eventData.extractUsage = some usage → db.models.find event.modelId = some model →
    usage.isBatch = true →
      (usage.inputTokens = 0 ∨ model.batchInputTokenPrice = model.inputTokenPrice) ∧
        (usage.outputTokens = 0 ∨ model.batchOutputTokenPrice = model.outputTokenPrice)

structure Unused (db : Db) : Prop where
  sessionEvents : db.sessionEvents.rows = []
  uncharged : ∀ c ∈ db.balanceChanges, charge c = none

instance {e : SessionEvent} {c : BalanceChange} {spend : SpendToken} : Decidable (Explains e c spend) :=
  inferInstanceAs (Decidable (_ ∧ _))

instance {db : Db} : Decidable (Explained db) :=
  inferInstanceAs (Decidable (∀ c ∈ db.balanceChanges.rows, ∀ spend ∈ charge c,
    ∃ e ∈ db.sessionEvents.find spend.eventId, Explains e c spend))

section Rows
variable {event : EventTask EventData} {db : Db} {id : Int} {e : SessionEvent}

/-- No other session's row is put. -/
theorem index_of_stored (fresh : db.sessionEvents.find id = none) (member : e ∈ db.sessionEvents)
    (same : e.id = (storedEvent event db id).id) : index e = (event.sessionId, event.sessionIndex) := by
  obtain ⟨_, ⟨drawn, _⟩ | listed⟩ :=
    upserted_cases db.sessionEvents (newSessionEvent event event.eventData.extractUsage (db.models.find event.modelId)) id
  · exact absurd (same.trans drawn) (Table.find_eq_none.mp fresh e member)
  · have here : db.sessionEvents.Lists (storedEvent event db id).id (index e) := same ▸ Table.lists_of_mem member
    exact here.index_eq listed

theorem find_stored (fresh : db.sessionEvents.find id = none) :
    (putSessionEvent db.sessionEvents (storedEvent event db id)).find (storedEvent event db id).id =
      some (storedEvent event db id) := find_upserted fresh

section Charges
variable {usage : UsageInfo} {model : LLMModel} {c : BalanceChange}

theorem stored_columns (used : event.eventData.extractUsage = some usage)
    (known : db.models.find event.modelId = some model) (id : Int) :
    (storedEvent event db id).inputTokens = usage.inputTokens ∧
      (storedEvent event db id).outputTokens = usage.outputTokens ∧
      (storedEvent event db id).inputTokenPrice = model.inputTokenPrice ∧
      (storedEvent event db id).outputTokenPrice = model.outputTokenPrice := by
  have columns := upserted_columns db.sessionEvents
    (newSessionEvent event event.eventData.extractUsage (db.models.find event.modelId)) id
  simpa only [storedEvent, newSessionEvent, used, known] using columns

/-- A product that one price gives and another. -/
theorem same_amount_iff {price other : BigDecimal} {tokens : Int} :
    price * tokens = other * tokens ↔ tokens = 0 ∨ other = price := by
  rw [mul_eq_mul_right_iff, Rat.intCast_eq_zero_iff, or_comm, eq_comm (a := price)]

/-- The stored row explains the charge of its own usage where that costs as much as a regular one. -/
theorem explains_iff (used : event.eventData.extractUsage = some usage)
    (known : db.models.find event.modelId = some model) (account : (storedEvent event db id).accountId = c.accountId) :
    Explains (storedEvent event db id) c (spendTokenOf usage model (storedEvent event db id).id) ↔
      Regular event db := by
  obtain ⟨inputTokens, outputTokens, inputTokenPrice, outputTokenPrice⟩ := stored_columns used known id
  simp only [Explains, account, inputTokens, outputTokens, inputTokenPrice, outputTokenPrice, spendTokenOf,
    true_and]
  constructor
  · rintro ⟨input, output⟩ usage' model' used' known' batch
    cases used.symm.trans used'
    cases known.symm.trans known'
    rw [if_pos batch] at input output
    exact ⟨same_amount_iff.mp input, same_amount_iff.mp output⟩
  · intro regular
    cases batch : usage.isBatch with
    | false => exact ⟨rfl, rfl⟩
    | true =>
        obtain ⟨input, output⟩ := regular usage model used known batch
        exact ⟨same_amount_iff.mpr input, same_amount_iff.mpr output⟩

end Charges

end Rows

/-- In every run: a row is of its event's account, and a charge names the row of an event that
is billable and by whose request id it is found. -/
structure Kept (traffic : Traffic) (db : Db) : Prop where
  accounts : ∀ e ∈ db.sessionEvents, e.accountId = (traffic.event (index e)).accountId
  charged : ∀ c ∈ db.balanceChanges, ∀ spend ∈ charge c, ∃ e ∈ db.sessionEvents.find spend.eventId,
    c.uniqueRequestId = eventRequestId (traffic.event (index e)) ∧ Billable (traffic.event (index e)) db

section Runs
variable {traffic : Traffic} {db db' : Db} {place : String × Int} {id : Int} {c : BalanceChange} {spend : SpendToken}

theorem Unused.kept (unused : Unused db) : Kept traffic db := by
  constructor
  · intro e member
    rw [Table.mem_def, unused.sessionEvents] at member
    cases member
  · intro c member spend charged
    rw [unused.uncharged c member] at charged
    cases charged

theorem Unused.explained (unused : Unused db) : Explained db := by
  intro c member spend charged
  rw [unused.uncharged c member] at charged
  cases charged

theorem Kept.edit (kept : Kept traffic db) (models : Table LLMModel)
    (found : ∀ id, (db.models.find id).isSome → (models.find id).isSome) : Kept traffic { db with models := models } := by
  refine ⟨kept.accounts, fun c member spend charged => ?_⟩
  obtain ⟨e, stored, entry, used, model, known⟩ := kept.charged c member spend charged
  obtain ⟨model', known'⟩ := Option.isSome_iff_exists.mp (found _ (Option.isSome_of_eq_some known))
  exact ⟨e, stored, entry, used, model', known'⟩

/-- The row that a delivery puts is of its account. -/
theorem Kept.stored_account (kept : Kept traffic db) (place : String × Int) (id : Int) :
    (storedEvent (traffic.event place) db id).accountId = (traffic.event place).accountId := by
  refine upserted_account (fun old member same => ?_)
  rw [kept.accounts old member, same]
  exact congrArg (fun p => (traffic.event p).accountId) (traffic.placed place)

theorem stored_index (traffic : Traffic) (place : String × Int) (db : Db) (id : Int) :
    index (storedEvent (traffic.event place) db id) = place :=
  (storedEvent_index _ db id).trans (traffic.placed place)

theorem Kept.accounts_put (kept : Kept traffic db) (fresh : db.sessionEvents.find id = none) :
    ∀ e ∈ putSessionEvent db.sessionEvents (storedEvent (traffic.event place) db id),
      e.accountId = (traffic.event (index e)).accountId := by
  intro e member
  have found := Table.find_of_mem member
  by_cases here : (storedEvent (traffic.event place) db id).id = e.id
  · change Table.find _ e.id = some e at found
    rw [← here, find_stored fresh] at found
    cases found
    rw [kept.stored_account place id, stored_index traffic place db id]
  · rw [putSessionEvent, Table.find_put_ne here] at found
    exact kept.accounts e (Table.find_iff.mp found).1

/-- A delivery that commits a row puts none that a charge names. -/
theorem Kept.find_charged (kept : Kept traffic db) (fresh : db.sessionEvents.find id = none)
    (unbilled : Billable (traffic.event place) db → ¬Billed (traffic.event place) db)
    (member : c ∈ db.balanceChanges) (charged : spend ∈ charge c) :
    (putSessionEvent db.sessionEvents (storedEvent (traffic.event place) db id)).find spend.eventId =
      db.sessionEvents.find spend.eventId := by
  refine Table.find_put_ne (fun same => ?_)
  obtain ⟨e, found, entry, billable⟩ := kept.charged c member spend charged
  obtain ⟨stored, named⟩ := Table.find_iff.mp found
  have here : index e = place :=
    (index_of_stored fresh stored (named.trans same.symm)).trans (traffic.placed place)
  rw [here] at entry billable
  exact unbilled billable ⟨c, Table.lookup_iff.mpr ⟨member, entry⟩⟩

theorem charge_made {usage : UsageInfo} {model : LLMModel} {eventId accountId : Int} {uniqueRequestId : String}
    (made : c = ⟨c.id, accountId, uniqueRequestId,
      (BalanceChangeContent.spendToken (spendTokenOf usage model eventId)).toValue, false, 0⟩) :
    charge c = some (spendTokenOf usage model eventId) := by
  have content : c.content = (BalanceChangeContent.spendToken (spendTokenOf usage model eventId)).toValue :=
    congrArg BalanceChange.content made
  rw [charge, content, BalanceChangeContent.fromValue_toValue]

theorem unbilled_of_free {event : EventTask EventData} {content : Value} (free : db.balanceChanges.free c)
    (made : c = ⟨c.id, event.accountId, eventRequestId event, content, false, 0⟩) : ¬Billed event db := by
  rintro ⟨c', found⟩
  have entry : c.uniqueRequestId = eventRequestId event := congrArg BalanceChange.uniqueRequestId made
  have missing : db.balanceChanges.lookup c.uniqueRequestId = none := free.2
  cases (entry ▸ missing).symm.trans found

theorem Kept.leaves (kept : Kept traffic db) (leaves : Leaves (traffic.event place) db db') : Kept traffic db' := by
  cases leaves with
  | nothing => exact kept
  | logged id fresh unbillable =>
      refine ⟨kept.accounts_put fresh, fun c member spend charged => ?_⟩
      obtain ⟨e, found, rest⟩ := kept.charged c member spend charged
      exact ⟨e, (kept.find_charged fresh (fun billable => absurd billable unbillable) member charged).trans found, rest⟩
  | billed id c usage model fresh used known free made =>
      refine ⟨kept.accounts_put fresh, fun c' member spend charged => ?_⟩
      rcases (Table.mem_insert free).mp member with before | rfl
      · obtain ⟨e, found, rest⟩ := kept.charged c' before spend charged
        exact ⟨e, (kept.find_charged fresh (fun _ => unbilled_of_free free made) before charged).trans found, rest⟩
      · cases (charge_made made).symm.trans charged
        have entry : c'.uniqueRequestId = eventRequestId (traffic.event place) :=
          congrArg BalanceChange.uniqueRequestId made
        refine ⟨storedEvent (traffic.event place) db id, find_stored fresh, ?_⟩
        rw [stored_index traffic place db id]
        exact ⟨entry, ⟨usage, used⟩, model, known⟩

/-- A delivery leaves every charge explained, unless it commits one that is at batch prices. -/
theorem Kept.explained_iff (kept : Kept traffic db) (explained : Explained db)
    (leaves : Leaves (traffic.event place) db db') :
    Explained db' ↔ (Billed (traffic.event place) db' → Billed (traffic.event place) db ∨
      Regular (traffic.event place) db) := by
  cases leaves with
  | nothing => exact iff_of_true explained .inl
  | logged id fresh unbillable =>
      refine iff_of_true (fun c member spend charged => ?_) .inl
      obtain ⟨e, found, explains⟩ := explained c member spend charged
      exact ⟨e, (kept.find_charged fresh (fun billable => absurd billable unbillable) member charged).trans found,
        explains⟩
  | billed id c usage model fresh used known free made =>
      have unbilled : ¬Billed (traffic.event place) db := unbilled_of_free free made
      have account : (storedEvent (traffic.event place) db id).accountId = c.accountId :=
        (kept.stored_account place id).trans (congrArg BalanceChange.accountId made).symm
      have new := explains_iff used known account
      constructor
      · intro after _
        obtain ⟨e, found, explains⟩ := after c ((Table.mem_insert free).mpr (.inr rfl)) _ (charge_made made)
        cases (find_stored fresh).symm.trans found
        exact .inr (new.mp explains)
      · intro allowed c' member spend charged
        rcases (Table.mem_insert free).mp member with before | rfl
        · obtain ⟨e, found, explains⟩ := explained c' before spend charged
          exact ⟨e, (kept.find_charged fresh (fun _ => unbilled) before charged).trans found, explains⟩
        · cases (charge_made made).symm.trans charged
          have entry : c'.uniqueRequestId = eventRequestId (traffic.event place) :=
            congrArg BalanceChange.uniqueRequestId made
          have billed : (db.balanceChanges.insert c').lookup (eventRequestId (traffic.event place)) = some c' :=
            entry ▸ Table.lookup_insert_self free
          have regular := (allowed ⟨c', billed⟩).resolve_left unbilled
          exact ⟨storedEvent (traffic.event place) db id, find_stored fresh, new.mpr regular⟩

/-- A delivery bills nothing new, or usage that costs as much at the regular prices. -/
def Explicable (db : Db) (event : EventTask EventData) : Prop := Billed event db ∨ Regular event db

theorem Delivered.kept {P : Db → EventTask EventData → Prop} {initial : Db} (unused : Unused initial)
    (delivered : Delivered traffic P initial db) : Kept traffic db := by
  induction delivered with
  | start => exact unused.kept
  | deliver earlier place world admitted ran ih => exact ih.leaves (ran.yields (yields_handleEvent _ _))
  | edit earlier models found ih => exact ih.edit models found

theorem Delivered.explained {initial : Db} (unused : Unused initial)
    (delivered : Delivered traffic Explicable initial db) : Explained db := by
  induction delivered with
  | start => exact unused.explained
  | deliver earlier place world admitted ran ih =>
      exact ((earlier.kept unused).explained_iff ih (ran.yields (yields_handleEvent _ _))).mpr (fun _ => admitted)
  | edit earlier models found ih => exact ih

/-- As long as no batch is billed at prices of its own, every charge is explained by the session
event that it names, and the first delivery that does so ends this. -/
theorem charges_explained {initial : Db} (unused : Unused initial)
    (delivered : Delivered traffic Explicable initial db) :
    Explained db ∧ ∀ place world value m,
      (handleEvent (traffic.event place)).Runs (fun _ => True) ⟨[], db, world⟩ value m →
        (Explained m.db ↔ (Billed (traffic.event place) m.db → Explicable db (traffic.event place))) := by
  have explained : Explained db := delivered.explained unused
  refine ⟨explained, fun place world value m ran => ?_⟩
  exact (delivered.kept unused).explained_iff explained (ran.yields (yields_handleEvent _ _))

/-- What a delivery leaves in an environment. -/
def afterDelivery (event : EventTask EventData) (env : Env) (db : Db) : Db :=
  match (handleEvent event).alone (E := engine) env ⟨[], db, .empty⟩ with
  | some (_, m) => m.db
  | none => db

theorem Delivered.played {P : Db → EventTask EventData → Prop} {initial : Db}
    (earlier : Delivered traffic P initial db) (place : String × Int) (env : Env)
    (admitted : P db (traffic.event place)) :
    Delivered traffic P initial (afterDelivery (traffic.event place) env db) := by
  unfold afterDelivery
  split
  · rename_i m ran
    exact earlier.deliver place .empty admitted (runs_of_alone ran)
  · exact earlier

end Runs

def halfPriceBatches : Db := { Db.empty with
  models := Table.empty.insert ⟨1, 1, "gpt-4o", "gpt-4o", true, ["chat"], 100000, 2, 4, 1, 2, ""⟩ }

theorem halfPriceBatches_unused : Unused halfPriceBatches :=
  ⟨rfl, fun _ member => (by cases member)⟩

def chats : Traffic where
  event place := ⟨place.1, place.2, 1, 1, 1, .openai (.createChatCompletionResponse ⟨some ⟨10, 5, 15⟩⟩)⟩
  placed _ := rfl

def batches : Traffic where
  event place := ⟨place.1, place.2, 1, 1, 1, .openai (.batch ⟨"batch", "in", none, none, .completed, some ⟨10, 5, 15⟩⟩)⟩
  placed _ := rfl

theorem chats_explicable (db : Db) (place : String × Int) : Explicable db (chats.event place) := by
  refine .inr (fun usage model used known batch => ?_)
  cases used
  cases batch

/-- The price of the model is raised between two deliveries of one event. -/
theorem charges_explained_redelivered : ∃ db, Delivered chats Explicable halfPriceBatches db ∧
    db.balanceChanges.rows.length = 1 ∧ Explained db ∧
    ∀ place world value m, (handleEvent (chats.event place)).Runs (fun _ => True) ⟨[], db, world⟩ value m →
      (Explained m.db ↔ (Billed (chats.event place) m.db → Explicable db (chats.event place))) := by
  have first : Delivered chats Explicable halfPriceBatches _ :=
    Delivered.start.played ("s", 1) (.plain 0 1) (chats_explicable _ _)
  have raised := first.edit _ (edit_kept ⟨1, .columns
    ⟨1, 1, "gpt-4o", "gpt-4o", true, ["chat"], 100000, 3, 6, 1, 2, ""⟩⟩ _)
  have again := raised.played ("s", 1) (.plain 0 2) (chats_explicable _ _)
  exact ⟨_, again, by decide +kernel, charges_explained halfPriceBatches_unused again⟩

/-- A finished batch is billed at the batch prices, and its session event has the regular ones. -/
theorem batch_charge_is_unexplained :
    ∃ db, Delivered batches (fun _ _ => True) halfPriceBatches db ∧ ¬Explained db :=
  ⟨_, Delivered.start.played ("s", 1) (.plain 0 1) trivial, by decide +kernel⟩

end LLMPool.Billing
