import LLMPool.Deployment.Charges

/-! No event gets lost but by a failure: until its handler has returned it stays in the queue, and by
then it has its row and its balance change. -/
namespace LLMPool.Deployment
open Relational Transactions Billing ProxyViews

/-- The event has its row. -/
def Logged (event : EventTask EventData) (db : Db) : Prop :=
  ∃ e, db.sessionEvents.lookup (sessionKey event) = some e

section Rows
variable {event : EventTask EventData} {db db' : Db}

theorem Logged.grows (logged : Logged event db) (grows : Grows db db') : Logged event db' := by
  obtain ⟨e, found⟩ := logged
  obtain ⟨member, place⟩ := Table.lookup_iff.mp found
  obtain ⟨e', found', same⟩ := grows.sessionEvents e.id e (Table.find_of_mem member)
  exact ⟨e', Table.lookup_iff.mpr ⟨(Table.find_iff.mp found').1,
    (Prod.ext same.sessionId same.sessionIndex : index e' = index e).trans place⟩⟩

end Rows

section Runs
variable {ι : Type} [DecidableEq ι] {D : Discipline engine} {hashToken : String → String} {party : ι → Party}
  {db : Db} {world : World} {s : State engine ι} {i : ι} {calls : List (Call engine)} {event : EventTask EventData}

/-- A balance change has the request id of the event: it is settled, or its task is on its way, or a
failure has left it behind. -/
def Settling (s : State engine ι) (event : EventTask EventData) : Prop :=
  ∃ c ∈ s.db.balanceChanges, c.uniqueRequestId = eventRequestId event ∧
    (c.isApplied = true ∨ Referenced s ⟨c.id⟩ ∨ PushFailed s ⟨c.id⟩ ∨ SettlementFailed s ⟨c.id⟩)

/-- A worker that was delivered the event met a failure of the server, and acknowledged the event. -/
def HandlingFailed (D : Discipline engine) (s : State engine ι) (event : EventTask EventData) : Prop :=
  ∃ i, Delivered event (s.procs i).calls ∧ ⟨.remote (.ackEvent event), .ok ()⟩ ∈ (s.procs i).calls ∧
    ∃ call ∈ (s.procs i).calls, D.faults call.op ∧ call.reply = .error .fault

theorem stranded (tracked : Tracked db world) (reached : Reaches D (deployment hashToken db world party) history s)
    {c : BalanceChange} (member : c ∈ s.db.balanceChanges) (unapplied : c.isApplied = false) :
    Referenced s ⟨c.id⟩ ∨ PushFailed s ⟨c.id⟩ ∨ SettlementFailed s ⟨c.id⟩ := by
  have settle : (Waiting world ⟨c.id⟩ ∨
      ∃ i, ⟨.remote (.pushBalanceChange ⟨c.id⟩), .ok ()⟩ ∈ (s.procs i).calls) →
      Referenced s ⟨c.id⟩ ∨ PushFailed s ⟨c.id⟩ ∨ SettlementFailed s ⟨c.id⟩ := fun enqueued =>
    (Reaches.owed deployment_orderly tracked reached member unapplied enqueued).imp .inl .inr
  obtain ⟨c₀, here, same, initial | ⟨i, inserted⟩⟩ := Reaches.rows reached c member
  · have fresh : c₀.isApplied = false := by
      by_contra before
      exact absurd (unapplied.symm.trans (same.applied (eq_true_of_ne_false before))) Bool.false_ne_true
    exact settle (.inl (here ▸ tracked.queued c₀ initial fresh))
  by_cases tried : ∃ reply, ⟨.remote (.pushBalanceChange ⟨c.id⟩), reply⟩ ∈ (s.procs i).calls
  · obtain ⟨reason | ⟨⟩, tried⟩ := tried
    · exact .inr (.inl ⟨i, reason, tried⟩)
    · exact settle (.inr ⟨i, tried⟩)
  · refine .inl (.inr ⟨i, fun returned => tried ?_, ⟨c₀, inserted, here⟩, fun reply at_push => tried ⟨reply, at_push⟩⟩)
    have path := reached.paths deployment_orderly i
    rw [returned] at path
    exact here ▸ path c₀ inserted

theorem settling_of_billed (tracked : Tracked db world)
    (reached : Reaches D (deployment hashToken db world party) history s) (billed : Billed event s.db) :
    Settling s event := by
  obtain ⟨c, found⟩ := billed
  obtain ⟨member, named⟩ := Table.lookup_iff.mp found
  refine ⟨c, member, named, ?_⟩
  cases applied : c.isApplied with
  | true => exact .inl rfl
  | false => exact .inr (stranded tracked reached member applied)

theorem Commits.logged (reached : Reaches D (deployment hashToken db world party) history s)
    {new : NewSessionEvent} {e : SessionEvent} (row : index e = sessionKey event)
    (commits : Commits (.upsertSessionEvent new) e (.sessionIndex event.sessionId event.sessionIndex) calls)
    (inside : calls <:+ (s.procs i).calls) : Logged event s.db := by
  obtain ⟨later, older, spared, sound, here⟩ := commits
  obtain ⟨session, position⟩ := Prod.mk.inj (row : (e.sessionId, e.sessionIndex) = _)
  have stable : ∀ rows rows' : Db, same (.sessionIndex event.sessionId event.sessionIndex) rows rows' →
      Logged event rows → Logged event rows' := fun _ _ agrees logged =>
    Option.isSome_iff_exists.mp (agrees ▸ Option.isSome_iff_exists.mpr logged)
  have shows : ∀ env rows, possible (.upsertSessionEvent new) env rows = true →
      exec (.upsertSessionEvent new) env rows = some e → Logged event (engine.applyAll [.putSessionEvent e] rows) := by
    intro env rows drawn executed
    obtain ⟨e', _, stored⟩ := (upserted_puts drawn executed).lookup
    exact ⟨e', row ▸ stored⟩
  have taken : Lock.sessionIndex event.sessionId event.sessionIndex ∈ locks (.upsertSessionEvent new) e := by
    rw [← session, ← position]
    exact List.mem_cons_of_mem _ List.mem_cons_self
  have earlier := reached.commits_seen engine_local stable shows taken spared sound (here.trans inside)
  exact earlier.still (fun w db logged => logged.grows (grows_apply w db))

theorem Commits.billed (reached : Reaches D (deployment hashToken db world party) history s)
    {new : NewBalanceChange} {c : BalanceChange} (named : c.uniqueRequestId = eventRequestId event)
    (commits : Commits (.insertBalanceChange new) c (.request (eventRequestId event)) calls)
    (inside : calls <:+ (s.procs i).calls) : Billed event s.db := by
  obtain ⟨later, older, spared, sound, here⟩ := commits
  have stable : ∀ rows rows' : Db, same (.request (eventRequestId event)) rows rows' →
      Billed event rows → Billed event rows' := fun _ _ agrees billed =>
    Option.isSome_iff_exists.mp (agrees ▸ Option.isSome_iff_exists.mpr billed)
  have shows : ∀ env rows, possible (.insertBalanceChange new) env rows = true →
      exec (.insertBalanceChange new) env rows = some c →
      Billed event (engine.applyAll [.insertBalanceChange c] rows) :=
    fun env rows drawn executed => ⟨c, named ▸ Table.lookup_insert_self (exec_insert drawn executed)⟩
  have taken : Lock.request (eventRequestId event) ∈ locks (.insertBalanceChange new) c := by
    rw [← named]
    exact List.mem_cons_of_mem _ List.mem_cons_self
  have earlier := reached.commits_seen engine_local stable shows taken spared sound (here.trans inside)
  exact earlier.still (fun w db billed => billed.grows (grows_apply w db))

/-- Where the handler was refused something, the server failed, or the request id was taken. -/
theorem Stopped.why (reached : Reaches D (deployment hashToken db world party) history s)
    (stopped : Stopped event calls) (inside : calls <:+ (s.procs i).calls) :
    (∃ call ∈ (s.procs i).calls, D.faults call.op ∧ call.reply = .error .fault) ∨ Billed event s.db := by
  cases stopped with
  | @transaction op reason older outside here =>
      have there := here.trans inside
      obtain ⟨_, _, _, _, _, _, _, _, _, _, _, ⟨faulty, refused⟩ | ⟨_, env, performed⟩⟩ := reached.stepped there
      · exact .inl ⟨_, there.subset List.mem_cons_self, faulty, refused⟩
      · rcases outside with rfl | rfl <;> cases performed
  | @statement stmt reason older isOpen sound undeniable here =>
      have there := here.trans inside
      obtain ⟨_, middle, _, _, _, _, _, _, _, ready, calls, ⟨faulty, refused⟩ | ⟨_, env, performed⟩⟩ :=
        reached.stepped there
      · exact .inl ⟨_, there.subset List.mem_cons_self, faulty, refused⟩
      rw [Proc.session_call ready, calls] at performed
      rcases Op.perform_sql performed with ⟨_, _, ran⟩ | ⟨closed, _⟩
      · exact absurd (Op.answer_error ran).2.2 (undeniable env _)
      · exact absurd ⟨isOpen, sound⟩ closed
  | @bill new e reason older isOpen sound wrote named here =>
      have there := here.trans inside
      obtain ⟨_, middle, _, _, _, _, _, step, second, ready, calls, ⟨faulty, refused⟩ | ⟨_, env, performed⟩⟩ :=
        reached.stepped there
      · exact .inl ⟨_, there.subset List.mem_cons_self, faulty, refused⟩
      rw [Proc.session_call ready, calls] at performed
      rcases Op.perform_sql performed with ⟨_, _, ran⟩ | ⟨closed, _⟩
      · have unanswered := (Op.answer_error ran).2.2
        rw [Session.view, wrote] at unanswered
        change (if (middle.db.balanceChanges.lookup new.uniqueRequestId).isNone then _ else _) = _ at unanswered
        have billed : Billed event middle.db := by
          rw [Billed, ← named]
          cases found : middle.db.balanceChanges.lookup new.uniqueRequestId with
          | some c => exact ⟨c, rfl⟩
          | none =>
              rw [found] at unanswered
              cases unanswered
        exact .inr (billed.grows ((Step.grows step).trans (Reaches.grows second)))
      · exact absurd ⟨isOpen, sound⟩ closed

theorem unbillable_of_unknown (reached : Reaches D (deployment hashToken db world party) history s)
    (unknown : (⟨.sql (.getModel event.modelId), .ok none⟩ : Call engine) ∈ (s.procs i).calls) :
    ¬Billable event db := by
  rintro ⟨_, model, known⟩
  cases known.symm.trans (model_answered reached unknown)

/-- An acknowledged event is recorded, or a balance change has taken its request id, or a worker of it has
met a failure. -/
theorem acknowledged_recorded (reached : Reaches D (deployment hashToken db world party) history s)
    (acknowledged : (⟨.remote (.ackEvent event), .ok ()⟩ : Call engine) ∈ (s.procs i).calls) :
    HandlingFailed D s event ∨
      (Billable event db → Billed event s.db) ∧ (Logged event s.db ∨ Billed event s.db) := by
  obtain ⟨older, suffix, made, _⟩ := reached.made deployment_conforms i _ acknowledged
  obtain ⟨delivered, handled⟩ := made.answers
  have inside : older <:+ (s.procs i).calls := (List.suffix_cons _ older).trans suffix
  rcases handled with ⟨⟨new, e, row, stored⟩, billed⟩ | stopped
  · refine .inr ⟨fun billable => ?_, .inl (Commits.logged reached row stored inside)⟩
    rcases billed with unused | unknown | ⟨bill, c, named, recorded⟩
    · obtain ⟨⟨usage, used⟩, _⟩ := billable
      cases unused.symm.trans used
    · exact absurd billable (unbillable_of_unknown reached (inside.subset unknown))
    · exact Commits.billed reached named recorded inside
  · rcases Stopped.why reached stopped inside with failed | taken
    · exact .inl ⟨i, inside.subset delivered, acknowledged, failed⟩
    · exact .inr ⟨fun _ => taken, .inr taken⟩

/-- In every interleaving of the server and its workers, an event that waited from the start or was
pushed is still in the queue, or it has its row, and where it can be billed a balance change; else a
balance change has taken its request id, or a worker of it has met a failure of the server. Such a
balance change is settled or on its way, if no failure has left it behind. -/
theorem no_event_is_lost (tracked : Tracked db world)
    (reached : Reaches D (deployment hashToken db world party) history s)
    (owed : event ∈ world.events ∨ ∃ i, ⟨.remote (.pushEvent event), .ok ()⟩ ∈ (s.procs i).calls) :
    event ∈ s.world.events ∨ HandlingFailed D s event ∨
      (Billable event db → Settling s event) ∧ (Logged event s.db ∨ Settling s event) := by
  refine (reached.awaited eventTasks owed).imp id ?_
  rintro ⟨i, acknowledged⟩
  refine (acknowledged_recorded reached acknowledged).imp id ?_
  rintro ⟨billed, recorded⟩
  exact ⟨fun billable => settling_of_billed tracked reached (billed billable),
    recorded.imp id (settling_of_billed tracked reached)⟩

end Runs

section Shop

/-- The event of the completion's answer. -/
def answerEvent : EventTask EventData :=
  ⟨"s", 1, 1, 1, 1, .openai (.createChatCompletionResponse ⟨some ⟨10, 5, 15⟩⟩)⟩

theorem tracked_openShop : Tracked openShop oneUsage where
  queued _ member := absurd member List.not_mem_nil
  known _ waiting := waiting.elim (absurd · List.not_mem_nil) (absurd · List.not_mem_nil)
  readable _ member := absurd member List.not_mem_nil

theorem no_event_is_lost_once : ∃ history s,
    Reaches (.any False) (deployment id openShop oneUsage aCompletion) history s ∧
      answerEvent ∉ s.world.events ∧ Settling s answerEvent := by
  obtain ⟨history, s, reached, pushed, handled⟩ := State.exists_of_play (.any False)
    (deployment id openShop oneUsage aCompletion) (inTurns [(0, 11), (1, 6), (2, 9)])
    (fun s => answerEvent ∈ enqueued (s.procs 0).calls ∧ answerEvent ∉ s.world.events) (by decide +kernel)
  have billable : Billable answerEvent openShop := ⟨⟨_, rfl⟩, _, rfl⟩
  rcases no_event_is_lost tracked_openShop reached (.inr ⟨0, pushed_of_enqueued pushed⟩) with
    waiting | ⟨_, _, _, _, _, faulty, _⟩ | ⟨billed, _⟩
  · exact absurd waiting handled
  · exact absurd faulty id
  · exact ⟨history, s, reached, handled, billed billable⟩

end Shop

end LLMPool.Deployment
