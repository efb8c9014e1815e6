import LLMPool.Billing.SessionRows
import LLMPool.Deployment.Charges

/-! Every charge names the session event that it bills: the transaction that has committed the one has
committed the other. -/
namespace LLMPool.Deployment
open Relational Transactions Billing ProxyViews

/-- The row is the event's, with its usage at the prices of its model. -/
structure Itemises (event : EventTask EventData) (usage : UsageInfo) (model : LLMModel) (e : SessionEvent) : Prop where
  place : index e = sessionKey event
  eventData : e.eventData = event.eventData
  inputTokens : e.inputTokens = usage.inputTokens
  outputTokens : e.outputTokens = usage.outputTokens
  inputTokenPrice : e.inputTokenPrice = model.inputTokenPrice
  outputTokenPrice : e.outputTokenPrice = model.outputTokenPrice

/-- The last two calls have stored the row of an event, and recorded the charge for its usage. -/
structure Booked (event : EventTask EventData) (c : BalanceChange) (calls : List (Call engine)) : Prop where
  booked : ∃ usage model e older, event.eventData.extractUsage = some usage ∧
    (⟨.sql (.getModel event.modelId), .ok (some model)⟩ : Call engine) ∈ older ∧
    calls = ⟨.sql (.insertBalanceChange ⟨event.accountId, eventRequestId event,
        (BalanceChangeContent.spendToken (spendTokenOf usage model e.id)).toValue⟩), .ok c⟩ ::
      ⟨.sql (.upsertSessionEvent (newSessionEvent event (some usage) (some model))), .ok e⟩ :: older

/-- A transaction is committed with a balance change in it only if that has just been booked. -/
def Books (event : EventTask EventData) (calls : List (Call engine)) (op : Op engine) : Prop :=
  op = .commit → ∀ c, .insertBalanceChange c ∈ (session calls).writes → Booked event c calls

section Handler
variable {event : EventTask EventData} {calls older : List (Call engine)}

theorem books_other {op : Op engine} (other : op ≠ .commit) : Books event calls op :=
  fun committing => absurd committing other

theorem books_forward {c : BalanceChange} {e : SessionEvent} (booked : Booked event c calls)
    (wrote : (session calls).writes = [.putSessionEvent e, .insertBalanceChange c]) :
    (forwardBalanceChange c).path (Books event) (fun _ _ => True) calls := by
  refine path_bind.mpr (path_op (P := Books event) ?_ ?_)
  · rintro _ c' member
    rw [wrote] at member
    rcases List.mem_cons.mp member with other | same
    · cases other
    · cases List.mem_singleton.mp same
      exact booked
  rintro (reason | ⟨⟩) _
  · trivial
  · exact path_bind.mpr (path_op (P := Books event) (books_other (by rintro ⟨⟩)) (fun _ _ => trivial))

theorem books_getModel (unwritten : (session calls).writes = []) :
    (getModelWithTx event.modelId).run.path (Books event) (fun result later => (session later).writes = [] ∧
      ∀ model, result.toOption = some model →
        (⟨.sql (.getModel event.modelId), .ok (some model)⟩ : Call engine) ∈ later) calls := by
  rw [getModelWithTx, path_run_bind]
  refine path_query (P := Books event) (books_other (by rintro ⟨⟩)) ?_ ?_
  · rintro (_ | model) _ _
    · refine ⟨(List.append_nil _).trans unwritten, ?_⟩
      rintro _ ⟨⟩
    · refine ⟨(List.append_nil _).trans unwritten, ?_⟩
      rintro _ ⟨⟩
      exact List.mem_cons_self
  · refine fun _ => ⟨unwritten, ?_⟩
    rintro _ ⟨⟩

theorem books_handleEvent (event : EventTask EventData) :
    (handleEvent event).path (Books event) (fun _ _ => True) calls := by
  have counts : (countUsage event.modelId event.eventData.extractUsage).path (Books event) (fun _ _ => True) calls := by
    unfold countUsage
    split
    · trivial
    · exact path_bind.mpr (path_op (P := Books event) (books_other (by rintro ⟨⟩)) (fun _ _ => trivial))
  refine path_bind.mpr (path_mono (fun _ _ made => made) (fun _ calls _ => ?_) counts)
  refine path_bind.mpr (path_op (P := Books event) (books_other (by rintro ⟨⟩)) ?_)
  rintro (reason | ⟨⟩) _
  · trivial
  refine path_bind.mpr (path_mono (fun _ _ made => made) ?_ (books_getModel rfl))
  rintro found calls ⟨unwritten, known⟩
  refine path_bind.mpr (path_query (P := Books event) (books_other (by rintro ⟨⟩)) ?_ (fun _ => trivial))
  rintro e _ ⟨env, db, executed⟩
  obtain ⟨sessionId, sessionIndex⟩ := Prod.mk.inj (upserted_index executed : index e = sessionKey event)
  have wrote : ∀ new : NewSessionEvent,
      (session ((⟨.sql (.upsertSessionEvent new), .ok e⟩ : Call engine) :: calls)).writes = [.putSessionEvent e] :=
    fun _ => congrArg (· ++ [Write.putSessionEvent e]) unwritten
  dsimp only
  split
  · rename_i usage model used found
    simp only [billUsage, NewBalanceChange.fromContent, createBalanceChangeWithTx, sessionId, sessionIndex]
    refine path_bind.mpr (path_query (P := Books event) (books_other (by rintro ⟨⟩)) (fun c _ _ => ?_) (fun _ => trivial))
    refine books_forward (e := e) ⟨usage, model, e, calls, used, known model found, ?_⟩ ?_
    · rw [used, found]
      rfl
    · exact congrArg (· ++ [Write.insertBalanceChange c]) (wrote _)
  · refine path_bind.mpr (path_op (P := Books event) (fun _ c member => ?_) (fun _ _ => trivial))
    rw [wrote] at member
    cases List.mem_singleton.mp member

end Handler

/-- What an upsert answers of an event with usage, whether or not its row was there. -/
theorem itemises_upserted {usage : UsageInfo} {model : LLMModel} (rows : Table SessionEvent) (id : Int) :
    Itemises event usage model (upserted rows (newSessionEvent event (some usage) (some model)) id) := by
  obtain ⟨inputTokens, outputTokens, inputTokenPrice, outputTokenPrice⟩ :=
    upserted_columns rows (newSessionEvent event (some usage) (some model)) id
  refine ⟨(upserted_cases rows _ id).1, ?_, inputTokens, outputTokens, inputTokenPrice, outputTokenPrice⟩
  unfold upserted
  split <;> rfl

section Parties
variable {ι : Type} {hashToken : String → String} {party : ι → Party} {db : Db} {world : World}
  {calls : List (Call engine)} {op : Op engine}

/-- Whichever process commits a balance change has booked it for an event that it was delivered. -/
def BooksDelivered (calls : List (Call engine)) (op : Op engine) : Prop :=
  op = .commit → ∀ c, .insertBalanceChange c ∈ (session calls).writes →
    ∃ event, Delivered event calls ∧ Booked event c calls

theorem booksDelivered_other (other : op ≠ .commit) : BooksDelivered calls op :=
  fun committing => absurd committing other

theorem booksDelivered_pooled (pooled : op.Pooled) : BooksDelivered calls op := by
  refine booksDelivered_other ?_
  rintro rfl
  exact pooled

theorem booksDelivered_unrecording (unrecording : ∀ call ∈ calls, Unrecording call.op) : BooksDelivered calls op := by
  rintro - c member
  obtain ⟨s, answer, made, wrote⟩ := mem_session_writes member
  obtain ⟨new, at_insert⟩ := writes_insert wrote
  cases at_insert
  exact absurd rfl ((unrecording _ made) new).1

theorem books_eventWorker : eventWorker.path BooksDelivered (fun _ _ => True) [] := by
  refine path_bind.mpr (path_op (P := BooksDelivered) (booksDelivered_other nofun) ?_)
  rintro (reason | (_ | event)) _
  · trivial
  · trivial
  have handles : (handleEvent event).path (Books event) (fun _ _ => True)
      [⟨.remote .fetchEvent, .ok (some event)⟩] := books_handleEvent event
  refine path_bind.mpr (path_mono ?_ (fun _ _ _ => ?_) (path_extends handles))
  · rintro later op ⟨reached, books⟩ committing c member
    exact ⟨event, reached.subset List.mem_cons_self, books committing c member⟩
  · exact path_bind.mpr (path_op (P := BooksDelivered) (booksDelivered_other nofun) (fun _ _ => trivial))

theorem books_kind {party : Party} {p : Action Unit} (kind : Kind hashToken party p) :
    p.path BooksDelivered (fun _ _ => True) [] := by
  cases kind with
  | pooled path =>
      exact path_mono (fun _ _ pooled => booksDelivered_pooled pooled.recordless.1) (fun _ _ _ => trivial) path
  | transfers job only =>
      exact path_mono (fun _ _ transfers => booksDelivered_pooled transfers.onPool) (fun _ _ ended => ended) only.made
  | eventWorker => exact books_eventWorker
  | balanceChangeWorker =>
      have noting := path_noting (A := Unrecording) (P := BooksDelivered) (fun _ never => absurd never List.not_mem_nil)
        (path_mono (fun _ _ unrecording => ⟨unrecording, booksDelivered_unrecording⟩) (fun _ _ ended => ended)
          only_balanceChangeWorker.made)
      exact path_mono (fun _ _ made => made) (fun _ _ _ => trivial) noting

theorem deployment_books : (deployment hashToken db world party).Paths (fun _ => BooksDelivered) (fun _ _ => True) :=
  fun i => books_kind ((party i).kind hashToken)

end Parties

section Runs
variable {ι : Type} [DecidableEq ι] {D : Discipline engine} {hashToken : String → String} {party : ι → Party}
  {db : Db} {world : World} {s : State engine ι} {i : ι} {event : EventTask EventData} {c : BalanceChange}
  {older : List (Call engine)}

/-- The charge is for the event, and names its row: the row was committed as the event has it, and has its
place still. -/
structure Names (D : Discipline engine) (initial s : State engine ι) (event : EventTask EventData) (usage : UsageInfo)
    (model : LLMModel) (spend : SpendToken) : Prop where
  used : event.eventData.extractUsage = some usage
  known : initial.db.models.find event.modelId = some model
  spent : spend = spendTokenOf usage model spend.eventId
  committed : Earlier D initial s
    (fun middle => ∃ e ∈ middle.db.sessionEvents.find spend.eventId, Itemises event usage model e)
  stored : ∃ e ∈ s.db.sessionEvents.find spend.eventId, index e = sessionKey event

/-- The row is committed as the upsert has answered it: its lock is held until then. -/
theorem row_committed (reached : Reaches D (deployment hashToken db world party) history s)
    {usage : UsageInfo} {model : LLMModel} {e : SessionEvent} {new : NewBalanceChange} {calls : List (Call engine)}
    (booked : calls = ⟨.sql (.insertBalanceChange new), .ok c⟩ ::
      ⟨.sql (.upsertSessionEvent (newSessionEvent event (some usage) (some model))), .ok e⟩ :: older)
    (sound : (session calls).failed = false)
    (inside : (⟨.commit, .ok ()⟩ : Call engine) :: calls <:+ (s.procs i).calls) :
    Earlier D (deployment hashToken db world party) s
      (fun middle => middle.db.sessionEvents.find e.id = some e ∧ Itemises event usage model e) := by
  subst booked
  have stable : ∀ rows rows' : Db, same (.sessionEvent e.id) rows rows' →
      rows.sessionEvents.find e.id = some e ∧ Itemises event usage model e →
      rows'.sessionEvents.find e.id = some e ∧ Itemises event usage model e :=
    fun _ _ agrees seen => ⟨agrees.symm.trans seen.1, seen.2⟩
  have shows : ∀ env rows,
      possible (.upsertSessionEvent (newSessionEvent event (some usage) (some model))) env rows = true →
      exec (.upsertSessionEvent (newSessionEvent event (some usage) (some model))) env rows = some e →
      (engine.applyAll [.putSessionEvent e] rows).sessionEvents.find e.id = some e ∧ Itemises event usage model e := by
    intro env rows drawn executed
    obtain rfl := Option.some.inj ((exec_upserted _ env rows).symm.trans executed)
    exact ⟨find_upserted (of_decide_eq_true drawn).2, itemises_upserted _ _⟩
  have spared : ∀ call ∈ [(⟨.sql (.insertBalanceChange new), .ok c⟩ : Call engine)],
      Spares (E := engine) (Lock.sessionEvent e.id) call := by
    intro call member
    obtain rfl := List.mem_singleton.mp member
    refine ⟨.insertBalanceChange new, .ok c, rfl, fun answer _ w wrote touched => ?_⟩
    obtain rfl := List.mem_singleton.mp wrote
    simp [engine, touches] at touched
  exact reached.commits_seen engine_local stable shows List.mem_cons_self spared sound inside

/-- What was booked and committed. -/
theorem Booked.names (reached : Reaches D (deployment hashToken db world party) history s)
    (booked : Booked event c older) (sound : (session older).failed = false)
    (inside : (⟨.commit, .ok ()⟩ : Call engine) :: older <:+ (s.procs i).calls) :
    c.accountId = event.accountId ∧ c.uniqueRequestId = eventRequestId event ∧ ∃ usage model spend,
      charge c = some spend ∧ Names D (deployment hashToken db world party) s event usage model spend := by
  obtain ⟨usage, model, e, earlier, used, known, same⟩ := booked
  have committed := row_committed reached same sound inside
  subst same
  have made : ∀ call ∈ earlier, call ∈ (s.procs i).calls := fun _ member =>
    inside.subset (List.mem_cons_of_mem _ (List.mem_cons_of_mem _ (List.mem_cons_of_mem _ member)))
  have recorded := inside.subset (List.mem_cons_of_mem _ List.mem_cons_self)
  obtain ⟨_, _, _, _, _, _, executed⟩ := reached.made deployment_books i _ recorded
  obtain ⟨account, named, content⟩ := inserted_row executed
  refine ⟨account, named, usage, model, spendTokenOf usage model e.id, ?_, used,
    model_answered reached (made _ known), rfl, ?_, ?_⟩
  · rw [charge, content, BalanceChangeContent.fromValue_toValue]
  · exact committed.mono (fun _ stored => ⟨e, stored⟩)
  · obtain ⟨_, middle, _, _, second, found, itemises⟩ := committed
    obtain ⟨e', found', kept⟩ := (Reaches.grows second).sessionEvents e.id e found
    exact ⟨e', found', (Prod.ext kept.sessionId kept.sessionIndex : index e' = index e).trans itemises.place⟩

/-- In every interleaving, with any failures, a charge in the ledger was there from the start, or it is for
the usage of an event that a worker was delivered and names the row of that event: the row was committed
with the usage and the prices that are charged, and it is still there. -/
theorem charges_name_their_events (reached : Reaches D (deployment hashToken db world party) history s)
    (member : c ∈ s.db.balanceChanges) (charged : charge c = some spend) :
    (∃ c₀ ∈ db.balanceChanges, c₀.id = c.id ∧ SameChange c₀ c) ∨
      ∃ event, (∃ i, Delivered event (s.procs i).calls) ∧ c.accountId = event.accountId ∧
        c.uniqueRequestId = eventRequestId event ∧
        ∃ usage model, Names D (deployment hashToken db world party) s event usage model spend := by
  obtain ⟨c₀, here, same, initial | ⟨i, inserted⟩⟩ := Reaches.rows reached c member
  · exact .inl ⟨c₀, initial, here, same⟩
  refine .inr ?_
  rcases permanent_cases inserted with ⟨stmt, answer, inside, wrote⟩ | ⟨older, inside, sound, wrote⟩
  · obtain ⟨new, at_insert⟩ := writes_insert wrote
    cases at_insert
    cases (transferring_of_inserted reached inside).uncharged.symm.trans ((SameChange.charge same).symm.trans charged)
  · obtain ⟨event, delivered, booked⟩ := (reached.called deployment_books i inside).1 rfl c₀ wrote
    obtain ⟨account, named, usage, model, spend', charged', names⟩ := booked.names reached sound inside
    cases (charged'.symm.trans ((SameChange.charge same).symm.trans charged))
    exact ⟨event, ⟨i, inside.subset (List.mem_cons_of_mem _ delivered)⟩, same.accountId.trans account,
      same.uniqueRequestId.trans named, usage, model, names⟩

end Runs

section Shop

theorem charges_name_their_events_once : ∃ history s,
    Reaches (.any False) (deployment id openShop oneUsage aCompletion) history s ∧
      ∃ c ∈ s.db.balanceChanges, c.isApplied = true ∧ ∃ event usage model spend, charge c = some spend ∧
        Names (.any False) (deployment id openShop oneUsage aCompletion) s event usage model spend := by
  obtain ⟨history, s, reached, _, c, member, settled, charged⟩ := aCompletion_is_charged
  obtain ⟨spend, charged⟩ := Option.isSome_iff_exists.mp charged
  rcases charges_name_their_events reached (Table.mem_def.mpr member) charged with
    ⟨_, never, _⟩ | ⟨event, _, _, _, usage, model, names⟩
  · cases never
  · exact ⟨history, s, reached, c, Table.mem_def.mpr member, settled, event, usage, model, spend, charged, names⟩

end Shop

end LLMPool.Deployment
