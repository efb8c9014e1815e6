import LLMPool.Billing.CachedWallets
import LLMPool.Billing.Pipeline
import LLMPool.ProxyViews.SessionIndices
import LLMPool.Transactions.Rounds

/-! What the handler of an event leaves behind, whatever its calls are answered. -/
namespace LLMPool.Deployment
open Relational Transactions Billing ProxyViews

/-- The event has been delivered to a worker. -/
def Delivered (event : EventTask EventData) (calls : List (Call engine)) : Prop :=
  (⟨.remote .fetchEvent, .ok (some event)⟩ : Call engine) ∈ calls

/-- What a statement has answered has been committed, and the lock was spared meanwhile. -/
def Commits (s : Stmt) (answer : s.Answer) (l : Lock) (calls : List (Call engine)) : Prop :=
  ∃ later older, (∀ call ∈ later, Spares (E := engine) l call) ∧
    (session (E := engine) (later ++ ⟨.sql s, .ok answer⟩ :: older)).failed = false ∧
    (⟨.commit, .ok ()⟩ : Call engine) :: (later ++ ⟨.sql s, .ok answer⟩ :: older) <:+ calls

/-- What is recorded of an event: its row, and a balance change where it carries usage and its
model is known. -/
structure Recorded (event : EventTask EventData) (calls : List (Call engine)) : Prop where
  row : ∃ new e, index e = sessionKey event ∧
    Commits (.upsertSessionEvent new) e (.sessionIndex event.sessionId event.sessionIndex) calls
  billed : event.eventData.extractUsage = none ∨
    (⟨.sql (.getModel event.modelId), .ok none⟩ : Call engine) ∈ calls ∨
    ∃ new c, c.uniqueRequestId = eventRequestId event ∧
      Commits (.insertBalanceChange new) c (.request (eventRequestId event)) calls

/-- A statement that is refused only if the server fails. -/
def Undeniable (s : Stmt) : Prop := ∀ env db, exec s env db ≠ none

/-- The handler was refused a transaction, or a statement in it. -/
inductive Stopped (event : EventTask EventData) (calls : List (Call engine)) : Prop
  | transaction {op : Op engine} {reason : Failure} {older : List (Call engine)} (outside : op = .begin ∨ op = .commit)
      (here : ⟨op, .error reason⟩ :: older <:+ calls) : Stopped event calls
  | statement {s : Stmt} {reason : Failure} {older : List (Call engine)} (isOpen : (session older).isOpen = true)
      (sound : (session older).failed = false) (undeniable : Undeniable s)
      (here : ⟨.sql s, .error reason⟩ :: older <:+ calls) : Stopped event calls
  | bill {new : NewBalanceChange} {e : SessionEvent} {reason : Failure} {older : List (Call engine)}
      (isOpen : (session older).isOpen = true) (sound : (session older).failed = false)
      (wrote : (session older).writes = [.putSessionEvent e]) (named : new.uniqueRequestId = eventRequestId event)
      (here : ⟨.sql (.insertBalanceChange new), .error reason⟩ :: older <:+ calls) : Stopped event calls

/-- How the handler of an event can have returned. -/
def Handled (event : EventTask EventData) (calls : List (Call engine)) : Prop :=
  Recorded event calls ∨ Stopped event calls

/-- The balance change bills the usage of the event, at the prices of its model. -/
structure Bill (event : EventTask EventData) (new : NewBalanceChange) (calls : List (Call engine)) : Prop where
  accountId : new.accountId = event.accountId
  requestId : new.uniqueRequestId = eventRequestId event
  content : ∃ usage model eventId, event.eventData.extractUsage = some usage ∧
    (⟨.sql (.getModel event.modelId), .ok (some model)⟩ : Call engine) ∈ calls ∧
    new.content = (BalanceChangeContent.spendToken (spendTokenOf usage model eventId)).toValue

/-- The calls of an event's handler. -/
def Handles (event : EventTask EventData) (calls : List (Call engine)) : Op engine → Prop
  | .sql (.insertBalanceChange new) => Bill event new calls
  | .sql (.getModel _) | .sql (.upsertSessionEvent _) | .begin | .commit => True
  | .remote (.incrementTokenUsage _ _ _) | .remote (.pushBalanceChange _) => True
  | _ => False

section Handler
variable {event : EventTask EventData} {calls later own older : List (Call engine)} {ws : List Write}

theorem billing_forward (c : BalanceChange) :
    (forwardBalanceChange c).path (Handles event) (fun _ _ => True) calls := by
  refine path_bind.mpr (path_op (P := Handles event) trivial ?_)
  rintro (reason | ⟨⟩) _
  · trivial
  · exact path_bind.mpr (path_op (P := Handles event) trivial (fun _ _ => trivial))

theorem billing_event (event : EventTask EventData) :
    (handleEvent event).path (Handles event) (fun _ _ => True) calls := by
  have counts : (countUsage event.modelId event.eventData.extractUsage).path (Handles event)
      (fun _ _ => True) calls := by
    unfold countUsage
    split
    · trivial
    · exact path_bind.mpr (path_op (P := Handles event) trivial (fun _ _ => trivial))
  refine path_bind.mpr (path_mono (fun _ _ made => made) (fun _ calls _ => ?_) counts)
  refine path_bind.mpr (path_op (P := Handles event) trivial ?_)
  rintro (reason | ⟨⟩) _
  · trivial
  have models : (getModelWithTx event.modelId).run.path (Handles event) (fun result later => ∀ model,
      result.toOption = some model → (⟨.sql (.getModel event.modelId), .ok (some model)⟩ : Call engine) ∈ later)
      (⟨.begin, .ok ()⟩ :: calls) := by
    rw [getModelWithTx, path_run_bind]
    refine path_query (P := Handles event) trivial ?_ (by rintro _ _ ⟨⟩)
    rintro (_ | model) _ _ _ ⟨⟩
    exact List.mem_cons_self
  refine path_bind.mpr (path_mono (fun _ _ made => made) (fun found calls known => ?_) models)
  refine path_bind.mpr (path_query (P := Handles event) trivial ?_ (fun _ => trivial))
  rintro e _ ⟨env, db, executed⟩
  obtain ⟨session, position⟩ := Prod.mk.inj (upserted_index executed : index e = sessionKey event)
  dsimp only
  split
  · rename_i usage model used found
    simp only [billUsage, NewBalanceChange.fromContent, createBalanceChangeWithTx]
    refine path_bind.mpr (path_query (P := Handles event) ⟨rfl, ?_, usage, model, e.id, used, ?_, rfl⟩
      (fun c _ _ => billing_forward c) (fun _ => trivial))
    · exact session ▸ position ▸ rfl
    · exact List.mem_cons_of_mem _ (known model found)
  · exact path_bind.mpr (path_op (P := Handles event) trivial (fun _ _ => trivial))

theorem undeniable_getModel (modelId : Int) : Undeniable (.getModel modelId) := by
  rintro env db ⟨⟩

theorem undeniable_upsertSessionEvent (new : NewSessionEvent) : Undeniable (.upsertSessionEvent new) := by
  intro env db refused
  rw [exec_upsertSessionEvent] at refused
  split at refused <;> cases refused

theorem Stopped.suffix (stopped : Stopped event calls) (reached : calls <:+ later) : Stopped event later := by
  cases stopped with
  | transaction outside here => exact .transaction outside (here.trans reached)
  | statement isOpen sound undeniable here => exact .statement isOpen sound undeniable (here.trans reached)
  | bill isOpen sound wrote named here => exact .bill isOpen sound wrote named (here.trans reached)

/-- After a refusal it does not matter what the handler does. -/
theorem handled_stopped {p : Action Unit} (stopped : Stopped event calls) :
    p.path anyCall (fun _ => Handled event) calls :=
  path_mono (fun _ _ _ => trivial) (fun _ _ reached => .inr (stopped.suffix reached.1)) (path_extends path_any)

/-- The transaction is open, nothing in it was refused, and it has written these. -/
structure Running (ws : List Write) (calls : List (Call engine)) : Prop where
  isOpen : (session calls).isOpen = true
  sound : (session calls).failed = false
  wrote : (session calls).writes = ws

theorem Running.answered {s : Stmt} (running : Running ws calls) (answer : s.Answer) :
    Running (ws ++ writes s answer) (⟨.sql s, .ok answer⟩ :: calls) where
  isOpen := running.isOpen
  sound := running.sound
  wrote := congrArg (· ++ writes s answer) running.wrote

theorem path_undeniable {s : Stmt} {Q : Except SqlxError s.Answer → List (Call engine) → Prop}
    (running : Running ws calls) (undeniable : Undeniable s)
    (answered : ∀ answer, (∃ env db, exec s env db = some answer) →
      Running (ws ++ writes s answer) (⟨.sql s, .ok answer⟩ :: calls) → Q (.ok answer) (⟨.sql s, .ok answer⟩ :: calls))
    (refused : ∀ reason, Stopped event (⟨.sql s, .error reason⟩ :: calls) →
      Q (.error (.database reason)) (⟨.sql s, .error reason⟩ :: calls)) :
    (Query.sql s).run.path anyCall Q calls :=
  path_query trivial (fun answer _ executed => answered answer executed (running.answered answer))
    (fun _ => refused _ (.statement running.isOpen running.sound undeniable List.suffix_rfl))

/-- The lookup of a model tells that it is unknown, or it finds it, or it is refused. -/
theorem path_modelOf (running : Running ws calls) :
    (getModelWithTx event.modelId).run.path anyCall (fun result calls => Stopped event calls ∨ Running ws calls ∧
      (result.toOption = none → (⟨.sql (.getModel event.modelId), .ok none⟩ : Call engine) ∈ calls)) calls := by
  rw [getModelWithTx, path_run_bind]
  refine path_undeniable running (undeniable_getModel _) ?_ (fun _ stopped => .inl stopped)
  intro found _ running
  have still : ws ++ writes (.getModel event.modelId) found = ws := List.append_nil ws
  cases found with
  | none => exact .inr ⟨still ▸ running, fun _ => List.mem_cons_self⟩
  | some model => exact .inr ⟨still ▸ running, by rintro ⟨⟩⟩

theorem inserted_row {env : Env} {db : Db} {new : NewBalanceChange} {c : BalanceChange}
    (executed : exec (.insertBalanceChange new) env db = some c) :
    c.accountId = new.accountId ∧ c.uniqueRequestId = new.uniqueRequestId ∧ c.content = new.content := by
  simp only [exec] at executed
  split at executed <;> cases executed
  exact ⟨rfl, rfl, rfl⟩

/-- A balance change is not on the index of the session events. -/
theorem spares_bill {new : NewBalanceChange} {reply : Except Failure BalanceChange} {sessionId : String}
    {sessionIndex : Int} :
    Spares (E := engine) (Lock.sessionIndex sessionId sessionIndex) ⟨.sql (.insertBalanceChange new), reply⟩ := by
  refine ⟨.insertBalanceChange new, reply, rfl, fun answer _ w wrote touched => ?_⟩
  obtain rfl := List.mem_singleton.mp wrote
  simp [engine, touches] at touched

theorem path_recordUsage {new : NewSessionEvent} {e : SessionEvent} {usage : UsageInfo} {model : LLMModel}
    (running : Running [.putSessionEvent e] (⟨.sql (.upsertSessionEvent new), .ok e⟩ :: calls))
    (row : index e = sessionKey event) :
    (billUsage event.eventData.provider event.accountId e usage model).path anyCall
      (fun _ => Handled event) (⟨.sql (.upsertSessionEvent new), .ok e⟩ :: calls) := by
  have entry : spendRequestId event.eventData.provider e.sessionId e.sessionIndex = eventRequestId event := by
    obtain ⟨first, second⟩ := Prod.mk.inj row
    rw [first, second, eventRequestId]
  simp only [billUsage, NewBalanceChange.fromContent, createBalanceChangeWithTx, forwardBalanceChange, entry]
  refine path_bind.mpr (path_query trivial ?_ (fun reason => .inr
    (.bill running.isOpen running.sound running.wrote rfl List.suffix_rfl)))
  rintro c _ ⟨env, db, executed⟩
  have sound := (running.answered (s := .insertBalanceChange _) c).sound
  refine path_bind.mpr (path_op trivial ?_)
  rintro (reason | ⟨⟩) _
  · exact .inr (.transaction (.inr rfl) List.suffix_rfl)
  refine path_bind.mpr (path_op trivial (fun reply _ => .inl ⟨⟨new, e, row, ?_⟩,
    .inr (.inr ⟨_, c, (inserted_row executed).2.1, ?_⟩)⟩))
  · refine ⟨[⟨.sql (.insertBalanceChange _), .ok c⟩], calls, fun call member => ?_, sound, List.suffix_cons _ _⟩
    exact List.mem_singleton.mp member ▸ spares_bill
  · exact ⟨[], _, fun _ never => absurd never List.not_mem_nil, sound, List.suffix_cons _ _⟩

/-- When the handler of an event returns, the event is recorded, or a call was refused. -/
theorem path_handled (event : EventTask EventData) :
    (handleEvent event).path anyCall (fun _ => Handled event) [] := by
  rw [handleEvent, path_bind]
  refine path_mono (fun _ _ _ => trivial) ?_ path_any
  intro _ calls _
  refine path_bind.mpr (path_op trivial ?_)
  rintro (reason | ⟨⟩) _
  · exact .inr (.transaction (.inl rfl) List.suffix_rfl)
  have begun : Running [] (⟨.begin, .ok ()⟩ :: calls) := ⟨rfl, rfl, rfl⟩
  refine path_bind.mpr (path_mono (fun _ _ made => made) ?_ (path_modelOf begun))
  rintro found calls (stopped | ⟨running, unknown⟩)
  · exact handled_stopped stopped
  refine path_bind.mpr (path_undeniable running (undeniable_upsertSessionEvent _) ?_ (fun _ stopped => .inr stopped))
  rintro e ⟨env, db, executed⟩ running
  have row : index e = sessionKey event := upserted_index executed
  dsimp only
  split
  · exact path_recordUsage running row
  · rename_i unbilled
    refine path_bind.mpr (path_op trivial ?_)
    rintro (reason | ⟨⟩) _
    · exact .inr (.transaction (.inr rfl) List.suffix_rfl)
    refine .inl ⟨⟨_, e, row, [], calls, fun _ never => absurd never List.not_mem_nil, running.sound,
      List.suffix_rfl⟩, ?_⟩
    cases usage : event.eventData.extractUsage with
    | none => exact .inl rfl
    | some used =>
        cases model : found.toOption with
        | none => exact .inr (.inl (List.mem_cons_of_mem _ (List.mem_cons_of_mem _ (unknown model))))
        | some known => exact absurd model (unbilled used known usage)

theorem suffix_append {call : Call engine} {earlier : List (Call engine)} (here : call :: earlier <:+ own) :
    call :: (earlier ++ older) <:+ own ++ older := by
  obtain ⟨newer, rfl⟩ := here
  exact ⟨newer, by simp⟩

theorem Commits.append {s : Stmt} {answer : s.Answer} {l : Lock} (idle : session older = .idle)
    (commits : Commits s answer l own) : Commits s answer l (own ++ older) := by
  obtain ⟨later, earlier, spared, sound, here⟩ := commits
  refine ⟨later, earlier ++ older, spared, ?_, ?_⟩
  · rw [← List.cons_append, ← List.append_assoc, session_append idle]
    exact sound
  · have inside : _ <:+ own ++ older := suffix_append here
    rwa [List.append_assoc] at inside

theorem Stopped.append (idle : session older = .idle) (stopped : Stopped event own) : Stopped event (own ++ older) := by
  have same : ∀ earlier, session (earlier ++ older) = session earlier := fun _ => session_append idle
  cases stopped with
  | transaction outside here => exact .transaction outside (suffix_append here)
  | @statement _ _ earlier isOpen sound undeniable here =>
      exact .statement ((same earlier).symm ▸ isOpen) ((same earlier).symm ▸ sound) undeniable (suffix_append here)
  | @bill _ _ _ earlier isOpen sound wrote named here =>
      exact .bill ((same earlier).symm ▸ isOpen) ((same earlier).symm ▸ sound) ((same earlier).symm ▸ wrote) named
        (suffix_append here)

/-- What a handler has done by itself it has done after other calls. -/
theorem Handled.append (idle : session older = .idle) (handled : Handled event own) :
    Handled event (own ++ older) := by
  rcases handled with ⟨⟨new, e, row, stored⟩, billed⟩ | stopped
  · refine .inl ⟨⟨new, e, row, stored.append idle⟩, ?_⟩
    rcases billed with unused | unknown | ⟨bill, c, billed, recorded⟩
    · exact .inl unused
    · exact .inr (.inl (List.mem_append_left _ unknown))
    · exact .inr (.inr ⟨bill, c, billed, recorded.append idle⟩)
  · exact .inr (stopped.append idle)

end Handler

end LLMPool.Deployment
