import LLMPool.Billing.Pipeline
import LLMPool.Billing.SettlementContract

/-! Balance changes that no task refers to any more: how the pipeline can leave a
committed row without settling it. -/
namespace LLMPool.Billing
open Relational Transactions
variable {ι : Type} {D : Discipline engine} {db db' : Db} {world world' : World}
  {task : BalanceChangeTask}

/-- A task that is queued, or delivered and not yet acknowledged. -/
def Waiting (world : World) (task : BalanceChangeTask) : Prop :=
  task ∈ world.queue ∨ task ∈ world.inflight

/-- What a call does to the waiting tasks. -/
structure Moves (call : Call engine) (world world' : World) : Prop where
  arrives : ∀ task, Waiting world' task →
    Waiting world task ∨ call.op = .remote (.pushBalanceChange task)
  leaves : ∀ task, Waiting world task →
    Waiting world' task ∨ call = ⟨.remote (.ackBalanceChange task), .ok ()⟩
  delivers : ∀ task, call = ⟨.remote .fetchBalanceChange, .ok (some task)⟩ → Waiting world task
  enqueues : ∀ task, call = ⟨.remote (.pushBalanceChange task), .ok ()⟩ → Waiting world' task

section Queue

theorem moves_still {call : Call engine} (queue : world'.queue = world.queue)
    (inflight : world'.inflight = world.inflight)
    (delivers : ∀ task, call ≠ ⟨.remote .fetchBalanceChange, .ok (some task)⟩)
    (enqueues : ∀ task, call ≠ ⟨.remote (.pushBalanceChange task), .ok ()⟩) :
    Moves call world world' where
  arrives task waiting := .inl (by rwa [Waiting, queue, inflight] at waiting)
  leaves task waiting := .inl (by rwa [Waiting, queue, inflight])
  delivers task same := absurd same (delivers task)
  enqueues task same := absurd same (enqueues task)

theorem apart_op {call call' : Call engine} (apart : call.op ≠ call'.op) : call ≠ call' :=
  fun same => apart (congrArg Call.op same)

def answered : Call engine → Bool
  | ⟨_, .ok _⟩ => true
  | ⟨_, .error _⟩ => false

theorem moves_fault (op : Op engine) (world : World) : Moves ⟨op, .error .fault⟩ world world := by
  refine moves_still rfl rfl (fun task same => ?_) (fun task same => ?_) <;>
    exact absurd (congrArg answered same) Bool.false_ne_true

theorem moves_push (task : BalanceChangeTask) (world : World) :
    Moves ⟨.remote (.pushBalanceChange task), .ok ()⟩ world
      { world with queue := world.queue ++ [task] } where
  arrives other waiting := by
    rcases waiting with queued | inflight
    · rcases List.mem_append.mp queued with before | now
      · exact .inl (.inl before)
      · exact .inr (by rw [List.mem_singleton.mp now])
    · exact .inl (.inr inflight)
  leaves other waiting := .inl (waiting.imp (List.mem_append_left _) (fun inflight => inflight))
  delivers other same := absurd same (apart_op (by rintro ⟨⟩))
  enqueues other same := by
    cases same
    exact .inl (List.mem_append_right _ List.mem_cons_self)

theorem moves_fetch (pick : Nat) (found : world.queue[pick]? = some task) :
    Moves ⟨.remote .fetchBalanceChange, .ok (some task)⟩ world
      { world with queue := world.queue.eraseIdx pick, inflight := task :: world.inflight } where
  arrives other waiting := by
    refine .inl ?_
    rcases waiting with queued | inflight
    · exact .inl (List.mem_of_mem_eraseIdx queued)
    · rcases List.mem_cons.mp inflight with rfl | before
      · exact .inl (List.mem_of_getElem? found)
      · exact .inr before
  leaves other waiting := by
    refine .inl ?_
    rcases waiting with queued | inflight
    · obtain ⟨inside, here⟩ := List.getElem?_eq_some_iff.mp found
      have among := (List.getElem_cons_eraseIdx_perm inside).mem_iff.mpr queued
      rcases List.mem_cons.mp among with rfl | left
      · exact .inr (here ▸ List.mem_cons_self)
      · exact .inl left
    · exact .inr (List.mem_cons_of_mem _ inflight)
  delivers other same := by
    cases same
    exact .inl (List.mem_of_getElem? found)
  enqueues other same := absurd same (apart_op (by rintro ⟨⟩))

theorem moves_ack (task : BalanceChangeTask) (world : World) :
    Moves ⟨.remote (.ackBalanceChange task), .ok ()⟩ world
      { world with inflight := world.inflight.erase task } where
  arrives other waiting := .inl (waiting.imp (fun queued => queued) List.mem_of_mem_erase)
  leaves other waiting := by
    rcases waiting with queued | inflight
    · exact .inl (.inl queued)
    · by_cases same : other = task
      · exact .inr (by rw [same])
      · exact .inl (.inr ((List.mem_erase_of_ne same).mpr inflight))
  delivers other same := absurd same (apart_op (by rintro ⟨⟩))
  enqueues other same := absurd same (apart_op (by rintro ⟨⟩))

theorem moves_remote (c : Remote) (env : Env) (world : World) :
    Moves ⟨.remote c, .ok (remote c env world).1⟩ world (remote c env world).2 := by
  cases c with
  | pushBalanceChange task => exact moves_push task world
  | fetchBalanceChange =>
      cases found : world.queue[env.pick % world.queue.length]? with
      | none =>
          simp only [remote, found]
          exact moves_still rfl rfl (by rintro task ⟨⟩) (fun task => apart_op (by rintro ⟨⟩))
      | some task =>
          simp only [remote, found]
          exact moves_fetch _ found
  | ackBalanceChange task => exact moves_ack task world
  | fetchSpawned | fetchHealthCheck | getWalletInfo | getApiKeyInfo =>
      simp only [remote]
      split <;> exact moves_still rfl rfl (fun task => apart_op (by rintro ⟨⟩)) (fun task => apart_op (by rintro ⟨⟩))
  | setWalletInfo | incrementTokenUsage | pushEvent | fetchEvent | ackEvent | getOutputTokenUsage
  | upstream | spawnMarkOffline | setApiKeyInfo | deleteApiKeyInfo | deleteAccountInfo
  | spawnHealthCheck | nextRun =>
      exact moves_still rfl rfl (fun task => apart_op (by rintro ⟨⟩)) (fun task => apart_op (by rintro ⟨⟩))

end Queue

section Rows
variable {c : BalanceChange} {ws : List Write} {id : Int}

def Known (db : Db) (id : Int) : Prop := ∃ c, db.balanceChanges.find id = some c

theorem Known.grows (known : Known db id) (grows : Grows db db') : Known db' id := by
  obtain ⟨c, found⟩ := known
  obtain ⟨c', found', _⟩ := grows.balanceChanges id c found
  exact ⟨c', found'⟩

/-- Each row comes from an earlier version of it or from an insert. -/
theorem mem_apply (w : Write) (member : c ∈ (apply w db).balanceChanges) :
    (∃ c₀ ∈ db.balanceChanges, c₀.id = c.id ∧ SameChange c₀ c) ∨ w = .insertBalanceChange c := by
  cases w with
  | insertBalanceChange new =>
      rcases Table.mem_of_insert member with before | rfl
      · exact .inl ⟨c, before, rfl, .refl c⟩
      · exact .inr rfl
  | markApplied id subscriptionId =>
      simp only [apply, Table.mem_modify] at member
      obtain ⟨c₀, before, rfl⟩ := member
      refine .inl ⟨c₀, before, ?_⟩
      rw [Table.at_key]
      split
      · exact ⟨rfl, rfl, rfl, rfl, fun _ => rfl⟩
      · exact ⟨rfl, .refl c₀⟩
  | insertWallet | setWalletBalance | setSubscriptionUsage | insertSubscription
  | setSubscriptionStatus | putSessionEvent | setAccount | insertApiCredential
  | deactivateApiCredential | changeUpstream | insertFileMeta | deleteFile | insertBatchMeta
  | setBatchStatus | insertResponseMeta | deleteResponse => exact .inl ⟨c, member, rfl, .refl c⟩

theorem mem_applyAll (member : c ∈ (engine.applyAll ws db).balanceChanges) :
    (∃ c₀ ∈ db.balanceChanges, c₀.id = c.id ∧ SameChange c₀ c) ∨
      ∃ c₀, .insertBalanceChange c₀ ∈ ws ∧ c₀.id = c.id ∧ SameChange c₀ c := by
  induction ws generalizing db with
  | nil => exact .inl ⟨c, member, rfl, .refl c⟩
  | cons w ws ih =>
      rcases ih member with ⟨c₁, before, same, kept⟩ | ⟨c₀, inserted, rest⟩
      · rcases mem_apply w before with ⟨c₀, first, same₀, kept₀⟩ | rfl
        · exact .inl ⟨c₀, first, same₀.trans same, kept₀.trans kept⟩
        · exact .inr ⟨c₁, List.mem_cons_self, same, kept⟩
      · exact .inr ⟨c₀, List.mem_cons_of_mem _ inserted, rest⟩

theorem Grows.free (grows : Grows db db') (free : db'.balanceChanges.free c) :
    db.balanceChanges.free c := by
  constructor
  · refine Table.find_eq_none.mpr (fun r member at_key => ?_)
    obtain ⟨r', found, _⟩ := grows.balanceChanges _ r (Table.find_of_mem member)
    rw [at_key, free.1] at found
    cases found
  · refine Table.lookup_eq_none.mpr (fun r member at_index => ?_)
    obtain ⟨r', found, same⟩ := grows.balanceChanges _ r (Table.find_of_mem member)
    exact Table.lookup_eq_none.mp free.2 r' (Table.find_iff.mp found).1
      (same.uniqueRequestId.trans at_index)

/-- Writes that record no balance change leave the place of a new one free. -/
theorem free_applyAll (unrecorded : Unrecorded ws) (free : db.balanceChanges.free c) :
    (engine.applyAll ws db).balanceChanges.free c := by
  induction ws generalizing db with
  | nil => exact free
  | cons w ws ih =>
      refine ih (fun c member => unrecorded c (List.mem_cons_of_mem _ member)) ?_
      cases w with
      | insertBalanceChange new => exact absurd List.mem_cons_self (unrecorded new)
      | markApplied id subscriptionId =>
          simp only [Table.free, apply, Table.find_modify, Table.lookup_modify, free.1, free.2,
            Option.map_none, and_self]
      | insertWallet | setWalletBalance | setSubscriptionUsage | insertSubscription
      | setSubscriptionStatus | putSessionEvent | setAccount | insertApiCredential
      | deactivateApiCredential | changeUpstream | insertFileMeta | deleteFile | insertBatchMeta
      | setBatchStatus | insertResponseMeta | deleteResponse => exact free

/-- A transaction whose last write is an insert at a free place stores the row. -/
theorem known_insert (unrecorded : Unrecorded ws) (free : db.balanceChanges.free c) :
    Known (engine.applyAll (ws ++ [.insertBalanceChange c]) db) c.id := by
  rw [Engine.applyAll_append]
  exact ⟨c, Table.find_insert_self (free_applyAll unrecorded free)⟩

theorem applied_applyAll (known : Known db id) (marked : .markApplied id subscriptionId ∈ ws) :
    Applied (engine.applyAll ws db) id := by
  induction ws generalizing db with
  | nil => cases marked
  | cons w ws ih =>
      rcases List.mem_cons.mp marked with rfl | later
      · obtain ⟨c, found⟩ := known
        have now : Applied (apply (.markApplied id subscriptionId) db) id := by
          refine ⟨applied subscriptionId c, ?_, rfl⟩
          simp only [apply, Table.find_modify_self, found, Option.map_some]
        exact now.grows (grows_applyAll ws _)
      · exact ih (known.grows (grows_apply w db)) later

theorem writes_markApplied {s : Stmt} {answer : s.Answer}
    (wrote : Write.markApplied id subscriptionId ∈ writes s answer) :
    s = .markBalanceChangeApplied id subscriptionId := by
  cases s
  case markBalanceChangeApplied =>
    cases List.mem_singleton.mp wrote
    rfl
  all_goals first
    | simp [writes] at wrote; done
    | cases answer <;> simp [writes] at wrote

end Rows

section Runs
variable [DecidableEq ι] {s s' : State engine ι} {i : ι} {ws : List Write}
  {Q : ι → List (Call engine) → Prop}

/-- What a run keeps true of its rows and its tasks: a task has its row, a row its
insert, and what was enqueued is waiting or acknowledged. -/
structure Accounted (db : Db) (world : World) (s : State engine ι) : Prop where
  known : ∀ task, (Waiting s.world task ∨ ∃ i, Fetched (s.procs i).calls task) →
    Known s.db task.balanceChangeId
  kept : ∀ task, (Waiting world task ∨
      ∃ i, ⟨.remote (.pushBalanceChange task), .ok ()⟩ ∈ (s.procs i).calls) →
    Waiting s.world task ∨ ∃ i, ⟨.remote (.ackBalanceChange task), .ok ()⟩ ∈ (s.procs i).calls
  rows : ∀ c ∈ s.db.balanceChanges, ∃ c₀, c₀.id = c.id ∧ SameChange c₀ c ∧
    (c₀ ∈ db.balanceChanges ∨ ∃ i, .insertBalanceChange c₀ ∈ permanent (s.procs i).calls)
  reserved : ∀ i c, .insertBalanceChange c ∈ (s.procs i).session.writes →
    s.db.balanceChanges.free c ∧
      ∃ older, Unrecorded older ∧ (s.procs i).session.writes = older ++ [.insertBalanceChange c]
  inserted : ∀ i c, .insertBalanceChange c ∈ permanent (s.procs i).calls → Known s.db c.id
  read : ∀ i id found, ⟨.sql (.findBalanceChangeForUpdate id), .ok found⟩ ∈ (s.procs i).calls →
    ∃ c c', found = some c ∧ s.db.balanceChanges.find id = some c' ∧ SameChange c c'
  marked : ∀ i id subscriptionId, .markApplied id subscriptionId ∈ permanent (s.procs i).calls →
    Applied s.db id

theorem moves_answered {op : Op engine} {reply : Except Failure op.Reply} {t : Session engine}
    (answers : (D.faults op ∧ reply = .error .fault ∧ world' = world) ∨
      (D.admits calls op db ∧ ∃ env, world' = op.moves env world ∧
        op.perform env t db world = some reply)) :
    Moves ⟨op, reply⟩ world world' := by
  rcases answers with ⟨_, rfl, rfl⟩ | ⟨_, env, rfl, performed⟩
  · exact moves_fault op world'
  · cases op with
    | remote c =>
        cases performed
        exact moves_remote c env world
    | begin | sql | commit | auto =>
        exact moves_still rfl rfl (fun task => apart_op (by rintro ⟨⟩)) (fun task => apart_op (by rintro ⟨⟩))

theorem Step.known (paths : s.Paths (fun _ => Orderly) Q) (accounted : Accounted db world s)
    (stepped : Step D s i ws s') :
    ∀ task, (Waiting s'.world task ∨ ∃ i, Fetched (s'.procs i).calls task) →
      Known s'.db task.balanceChangeId := by
  intro task found
  have grows := Step.grows stepped
  have path := paths i
  obtain ⟨op, next, reply, world', ready, answers, _, _, _, rfl⟩ := stepped.advanced
  have moves : Moves ⟨op, reply⟩ s.world world' := moves_answered answers
  refine Known.grows ?_ grows
  rcases found with waiting | ⟨j, fetched⟩
  · rcases moves.arrives task waiting with before | pushed
    · exact accounted.known task (.inl before)
    · obtain rfl : op = .remote (.pushBalanceChange task) := pushed
      rw [ready] at path
      obtain ⟨c, committed, here⟩ := path.1
      exact here ▸ accounted.inserted i c committed
  · rcases s.mem_advance_calls.mp fetched with ⟨_, now⟩ | before
    · exact accounted.known task (.inl (moves.delivers task now.symm))
    · exact accounted.known task (.inr ⟨j, before⟩)

theorem Step.kept (accounted : Accounted db world s) (stepped : Step D s i ws s') :
    ∀ task, (Waiting world task ∨
        ∃ i, ⟨.remote (.pushBalanceChange task), .ok ()⟩ ∈ (s'.procs i).calls) →
      Waiting s'.world task ∨
        ∃ i, ⟨.remote (.ackBalanceChange task), .ok ()⟩ ∈ (s'.procs i).calls := by
  intro task owed
  obtain ⟨op, next, reply, world', ready, answers, _, _, _, rfl⟩ := stepped.advanced
  have moves : Moves ⟨op, reply⟩ s.world world' := moves_answered answers
  have still : (Waiting s.world task ∨
        ∃ i, ⟨.remote (.ackBalanceChange task), .ok ()⟩ ∈ (s.procs i).calls) →
      Waiting world' task ∨ ∃ j, ⟨.remote (.ackBalanceChange task), .ok ()⟩ ∈
        ((s.advance i op next reply world').procs j).calls := by
    rintro (waiting | ⟨j, acked⟩)
    · rcases moves.leaves task waiting with stays | now
      · exact .inl stays
      · exact .inr ⟨i, s.mem_advance_calls.mpr (.inl ⟨rfl, now.symm⟩)⟩
    · exact .inr ⟨j, s.mem_advance_calls.mpr (.inr acked)⟩
  rcases owed with initial | ⟨j, pushed⟩
  · exact still (accounted.kept task (.inl initial))
  · rcases s.mem_advance_calls.mp pushed with ⟨_, now⟩ | before
    · exact .inl (moves.enqueues task now.symm)
    · exact still (accounted.kept task (.inr ⟨j, before⟩))

/-- Every row was there, or some process has committed its insert. -/
def AllRecorded (db : Db) (s : State engine ι) : Prop :=
  ∀ c ∈ s.db.balanceChanges, ∃ c₀, c₀.id = c.id ∧ SameChange c₀ c ∧
    (c₀ ∈ db.balanceChanges ∨ ∃ i, .insertBalanceChange c₀ ∈ permanent (s.procs i).calls)

theorem Step.rows (recorded : AllRecorded db s) (stepped : Step D s i ws s') : AllRecorded db s' := by
  intro c member
  rw [stepped.db] at member
  obtain ⟨op, next, reply, world', ready, _, _, _, rfl, rfl⟩ := stepped.advanced
  rcases mem_applyAll member with ⟨c₁, before, same, kept⟩ | ⟨c₀, inserted, same, kept⟩
  · obtain ⟨c₀, first, kept₀, origin⟩ := recorded c₁ before
    refine ⟨c₀, first.trans same, kept₀.trans kept, origin.imp (fun old => old) ?_⟩
    rintro ⟨j, made⟩
    exact ⟨j, s.mem_advance_permanent.mpr (.inr made)⟩
  · rw [Proc.session_call ready] at inserted
    exact ⟨c₀, same, kept, .inr ⟨i, s.mem_advance_permanent.mpr (.inl ⟨rfl, inserted⟩)⟩⟩

/-- The place of a recorded row is kept free by the locks of its insert. -/
theorem Step.reserved (verified : Verified D growth (fun _ => Grows) (fun _ _ _ => True) s)
    (paths : s.Paths (fun _ => Orderly) Q) (accounted : Accounted db world s)
    (stepped : Step D s i ws s') :
    ∀ j c, .insertBalanceChange c ∈ (s'.procs j).session.writes →
      s'.db.balanceChanges.free c ∧ ∃ older, Unrecorded older ∧
        (s'.procs j).session.writes = older ++ [.insertBalanceChange c] := by
  intro j c recorded
  by_cases other : j ≠ i
  · have between := stepped.interferes verified (fun _ _ _ kept => kept)
      (stepped.guaranteed verified).1 other
    obtain ⟨op, next, reply, world', ready, _, _, _, _, rfl⟩ := stepped.advanced
    rw [advance_other s other] at recorded ⊢
    obtain ⟨free, shape⟩ := accounted.reserved j c recorded
    have held := verified.locked j _ recorded
    refine ⟨free_stable free (between.same (.balanceChange c.id) ?_)
      (between.same (.request c.uniqueRequestId) ?_), shape⟩ <;> exact held _ (by simp [touches])
  · obtain rfl := not_not.mp other
    have path := paths j
    obtain ⟨op, next, reply, world', ready, answers, _, _, _, rfl⟩ := stepped.advanced
    have here := Proc.session_call ready
    rw [ready] at path
    rcases advance_session s reply world' ready with same | same <;> rw [same] at recorded ⊢
    · cases recorded
    have earlier : (s.procs j).session.writes = (session (s.procs j).calls).writes :=
      congrArg Session.writes here
    cases op with
    | begin =>
        cases reply with
        | error reason => exact accounted.reserved j c recorded
        | ok _ => cases recorded
    | commit => cases recorded
    | remote c' => cases reply <;> exact accounted.reserved j c recorded
    | auto s' =>
        have idle : (s.procs j).session.writes = [] := earlier.trans path.1.1
        cases reply <;> simp only [Session.after, idle, List.not_mem_nil] at recorded
    | sql s' =>
        cases reply with
        | error reason => exact accounted.reserved j c recorded
        | ok answer =>
            have fresh : .insertBalanceChange c ∉ (s.procs j).session.writes := by
              rw [earlier]
              exact path.1.1 c
            have now := (List.mem_append.mp recorded).resolve_left fresh
            obtain ⟨new, at_insert⟩ := writes_insert now
            cases at_insert
            rcases answers with ⟨_, fault, _⟩ | ⟨_, env, _, performed⟩
            · cases fault
            obtain ⟨_, _, ran⟩ | ⟨_, fault⟩ := Op.perform_sql performed
            · obtain ⟨drawn, executed⟩ := Op.answer_ok ran
              exact ⟨Grows.free (grows_applyAll _ s.db) (exec_insert drawn executed),
                (s.procs j).session.writes, earlier ▸ path.1.1, rfl⟩
            · cases fault

theorem Step.inserted (accounted : Accounted db world s) (stepped : Step D s i ws s') :
    ∀ j c, .insertBalanceChange c ∈ permanent (s'.procs j).calls → Known s'.db c.id := by
  intro j c made
  have grows := Step.grows stepped
  obtain ⟨op, next, reply, world', ready, answers, _, _, _, rfl⟩ := stepped.advanced
  have here := Proc.session_call ready
  rcases s.mem_advance_permanent.mp made with ⟨_, now⟩ | before
  · rw [← here] at now
    cases op with
    | begin | sql | remote => cases reply <;> cases now
    | commit =>
        cases reply with
        | error reason => cases now
        | ok _ =>
            simp only [State.advance, Op.commits] at now ⊢
            split at now
            · cases now
            · rename_i sound
              obtain ⟨free, older, unrecorded, shape⟩ := accounted.reserved i c now
              rw [if_neg sound, shape]
              exact known_insert unrecorded free
    | auto s' =>
        cases reply with
        | error reason => cases now
        | ok answer =>
            obtain ⟨new, at_insert⟩ := writes_insert now
            cases at_insert
            rcases answers with ⟨_, fault, _⟩ | ⟨_, env, _, performed⟩
            · cases fault
            obtain ⟨drawn, executed⟩ := Op.answer_ok performed
            exact known_insert (unrecorded_nil rfl) (exec_insert drawn executed)
  · exact (accounted.inserted j c before).grows grows

theorem Step.read (paths : s.Paths (fun _ => Orderly) Q) (accounted : Accounted db world s)
    (stepped : Step D s i ws s') :
    ∀ j id found, ⟨.sql (.findBalanceChangeForUpdate id), .ok found⟩ ∈ (s'.procs j).calls →
      ∃ c c', found = some c ∧ s'.db.balanceChanges.find id = some c' ∧ SameChange c c' := by
  intro j id found made
  have grows := Step.grows stepped
  have path := paths i
  obtain ⟨op, next, reply, world', ready, answers, _, _, _, rfl⟩ := stepped.advanced
  rw [ready] at path
  rcases s.mem_advance_calls.mp made with ⟨_, now⟩ | before
  · cases now
    obtain ⟨_, fetched, empty⟩ := path.1
    rcases answers with ⟨_, fault, _⟩ | ⟨_, env, _, performed⟩
    · cases fault
    obtain ⟨_, _, ran⟩ | ⟨_, fault⟩ := Op.perform_sql performed
    · have view : (s.procs i).session.view s.db = s.db := by
        rw [Session.view, Proc.session_call ready, empty, Engine.applyAll_nil]
      have seen : s.db.balanceChanges.find id = found :=
        view ▸ Option.some.inj (Op.answer_ok ran).2
      obtain ⟨c, row⟩ := accounted.known ⟨id⟩ (.inr ⟨i, fetched⟩)
      exact ⟨c, c, seen.symm.trans row, row, .refl c⟩
    · cases fault
  · obtain ⟨c, c', rfl, row, same⟩ := accounted.read j id found before
    obtain ⟨c'', row', same'⟩ := grows.balanceChanges id c' row
    exact ⟨c, c'', rfl, row', same.trans same'⟩

theorem Step.marked (paths : s.Paths (fun _ => Orderly) Q) (made : s.Made (fun _ => Orderly))
    (accounted : Accounted db world s) (stepped : Step D s i ws s') :
    ∀ j id subscriptionId, .markApplied id subscriptionId ∈ permanent (s'.procs j).calls →
      Applied s'.db id := by
  intro j id subscriptionId marked
  have grows := Step.grows stepped
  have path := paths i
  obtain ⟨op, next, reply, world', ready, answers, _, _, _, rfl⟩ := stepped.advanced
  have here := Proc.session_call ready
  rw [ready] at path
  rcases s.mem_advance_permanent.mp marked with ⟨_, now⟩ | before
  · have known : Known s.db id := by
      suffices fetched : Fetched (s.procs i).calls ⟨id⟩ from
        accounted.known ⟨id⟩ (.inr ⟨i, fetched⟩)
      cases op with
      | begin | sql | remote => cases reply <;> cases now
      | commit =>
          cases reply with
          | error reason => cases now
          | ok _ =>
              simp only [Op.commits] at now
              split at now
              · cases now
              · obtain ⟨s₀, answer, inside, wrote⟩ := mem_session_writes now
                obtain rfl := writes_markApplied wrote
                obtain ⟨older, earlier, orderly, _⟩ := made i _ inside
                exact ((List.suffix_cons _ older).trans earlier).subset orderly.2
      | auto s' =>
          cases reply with
          | error reason => cases now
          | ok answer =>
              obtain rfl := writes_markApplied now
              exact path.1.2
    simp only [State.advance, here]
    exact applied_applyAll known now
  · exact (accounted.marked j id subscriptionId before).grows grows

theorem Step.accounted (verified : Verified D growth (fun _ => Grows) (fun _ _ _ => True) s)
    (paths : s.Paths (fun _ => Orderly) Q) (made : s.Made (fun _ => Orderly))
    (accounted : Accounted db world s) (stepped : Step D s i ws s') : Accounted db world s' where
  known := Step.known paths accounted stepped
  kept := Step.kept accounted stepped
  rows := Step.rows accounted.rows stepped
  reserved := Step.reserved verified paths accounted stepped
  inserted := Step.inserted accounted stepped
  read := Step.read paths accounted stepped
  marked := Step.marked paths made accounted stepped

end Runs

/-- A database whose unsettled rows all have a task, and that can be read back. -/
structure Tracked (db : Db) (world : World) : Prop where
  queued : ∀ c ∈ db.balanceChanges, c.isApplied = false → Waiting world ⟨c.id⟩
  known : ∀ task, Waiting world task → Known db task.balanceChangeId
  readable : ∀ c ∈ db.balanceChanges, ∃ content, BalanceChangeContent.fromValue c.content = .ok content

/-- The jobs of the pipeline, none of which has begun. -/
def pipeline (db : Db) (world : World) (job : ι → Job) : State engine ι :=
  .starting db world (fun i => (job i).program)

section Stranded
variable {s : State engine ι} {job : ι → Job}

/-- A program that has committed the row of a task and has yet to enqueue it. -/
def YetToPush (task : BalanceChangeTask) (calls : List (Call engine)) : Prop :=
  (∃ c, .insertBalanceChange c ∈ permanent calls ∧ c.id = task.balanceChangeId) ∧
    ∀ reply, (⟨.remote (.pushBalanceChange task), reply⟩ : Call engine) ∉ calls

/-- A task that is queued or in flight, or that a running program has yet to push. -/
def Referenced (s : State engine ι) (task : BalanceChangeTask) : Prop :=
  Waiting s.world task ∨ ∃ i, ¬(s.procs i).Returned ∧ YetToPush task (s.procs i).calls

/-- The call that was to enqueue a task failed. -/
def PushFailed (s : State engine ι) (task : BalanceChangeTask) : Prop :=
  ∃ i reason, ⟨.remote (.pushBalanceChange task), .error reason⟩ ∈ (s.procs i).calls

/-- A worker that was delivered a task met a failure, and acknowledged the task. -/
def SettlementFailed (s : State engine ι) (task : BalanceChangeTask) : Prop :=
  ∃ i, Fetched (s.procs i).calls task ∧
    ⟨.remote (.ackBalanceChange task), .ok ()⟩ ∈ (s.procs i).calls ∧
    ∃ call ∈ (s.procs i).calls, Failed call

theorem Accounted.start {program : ι → Action Unit} (tracked : Tracked db world) :
    Accounted db world (.starting db world program) := by
  have idle : ∀ i, ((State.starting db world program).procs i).session = .idle := by
    intro i
    simp only [State.starting, Proc.start, Proc.session]
    split <;> rfl
  refine ⟨?_, ?_, ?_, ?_, ?_, ?_, ?_⟩
  · rintro task (waiting | ⟨i, fetched⟩)
    · exact tracked.known task waiting
    · cases fetched
  · rintro task (waiting | ⟨i, pushed⟩)
    · exact .inl waiting
    · cases pushed
  · exact fun c member => ⟨c, rfl, .refl c, .inl member⟩
  · intro i c recorded
    rw [idle] at recorded
    cases recorded
  · exact fun i c made => absurd made List.not_mem_nil
  · exact fun i id found made => absurd made List.not_mem_nil
  · exact fun i id subscriptionId made => absurd made List.not_mem_nil

theorem pipeline_paths :
    (pipeline db world job).Paths (fun _ => Orderly) (fun _ => Forwarded) :=
  fun i => (job i).path_program

/-- The content of every row can be read back, since the pipeline wrote it. -/
theorem Accounted.readable (tracked : Tracked db world) (accounted : Accounted db world s)
    (made : s.Made (fun _ => Orderly)) {c : BalanceChange} (member : c ∈ s.db.balanceChanges) :
    ∃ content, BalanceChangeContent.fromValue c.content = .ok content := by
  obtain ⟨c₀, _, same, initial | ⟨i, inserted⟩⟩ := accounted.rows c member
  · exact same.content ▸ tracked.readable c₀ initial
  · rw [same.content]
    obtain ⟨s₀, answer, inside, wrote⟩ := mem_permanent inserted
    obtain ⟨new, at_insert⟩ := writes_insert wrote
    cases at_insert
    have written : ∃ content : BalanceChangeContent, c₀.content = content.toValue := by
      rcases inside with inside | inside <;> obtain ⟨older, _, orderly, sensible⟩ := made i _ inside
      · obtain ⟨_, content, here⟩ := orderly
        obtain ⟨_, env, db, executed⟩ := sensible
        exact ⟨content, (insert_content executed).trans here⟩
      · obtain ⟨_, content, here⟩ := orderly
        obtain ⟨env, db, executed⟩ := sensible
        exact ⟨content, (insert_content executed).trans here⟩
    obtain ⟨content, here⟩ := written
    exact ⟨content, here ▸ BalanceChangeContent.fromValue_toValue content⟩

variable [DecidableEq ι]

section Programs
variable {program : ι → Action Unit} {Q : ι → List (Call engine) → Prop}

theorem Reaches.rows (reached : Reaches D (.starting db world program) history s) : AllRecorded db s := by
  induction reached with
  | start => exact fun c member => ⟨c, rfl, .refl c, .inl member⟩
  | step _ stepped ih => exact Step.rows ih stepped

theorem Reaches.accounted (each : (State.starting db world program).Paths (fun _ => Orderly) Q)
    (tracked : Tracked db world) (reached : Reaches D (.starting db world program) history s) :
    Accounted db world s := by
  induction reached with
  | start => exact .start tracked
  | step reached stepped ih =>
      exact Step.accounted (reached.verified (R := growth) grows_applyAll)
        (reached.paths each) (reached.made each) ih stepped

/-- A task that was enqueued is waiting, or its handler has returned: then the row is
settled, or a call failed. -/
theorem Reaches.owed (each : (State.starting db world program).Paths (fun _ => Orderly) Q)
    (tracked : Tracked db world) (reached : Reaches D (.starting db world program) history s)
    {c : BalanceChange} (member : c ∈ s.db.balanceChanges) (unapplied : c.isApplied = false)
    (enqueued : Waiting world ⟨c.id⟩ ∨
      ∃ i, ⟨.remote (.pushBalanceChange ⟨c.id⟩), .ok ()⟩ ∈ (s.procs i).calls) :
    Waiting s.world ⟨c.id⟩ ∨ SettlementFailed s ⟨c.id⟩ := by
  have accounted := Reaches.accounted each tracked reached
  have made := reached.made each
  have row := Table.find_of_mem member
  rcases accounted.kept ⟨c.id⟩ enqueued with waiting | ⟨i, acked⟩
  · exact .inl waiting
  obtain ⟨older, earlier, ⟨fetched, outcome⟩, _⟩ := made i _ acked
  have before := (List.suffix_cons _ older).trans earlier
  rcases outcome with ⟨subscriptionId, marked⟩ | ⟨call, inside, failed⟩ | ⟨found, inside, ended⟩
  · obtain ⟨c', row', applied⟩ := accounted.marked i c.id subscriptionId (permanent_suffix before marked)
    cases row.symm.trans row'
    exact absurd (unapplied.symm.trans applied) Bool.false_ne_true
  · exact .inr ⟨i, before.subset fetched, acked, call, before.subset inside, failed⟩
  · obtain ⟨c₁, c', rfl, row', same⟩ := accounted.read i c.id found (before.subset inside)
    cases row.symm.trans row'
    rcases ended c₁ rfl with applied | ⟨e, unread⟩
    · exact absurd (unapplied.symm.trans (same.applied applied)) Bool.false_ne_true
    · obtain ⟨content, parsed⟩ := accounted.readable tracked made member
      rw [same.content, unread] at parsed
      cases parsed

end Programs

theorem pipeline_accounted (tracked : Tracked db world)
    (reached : Reaches D (pipeline db world job) history s) : Accounted db world s :=
  Reaches.accounted pipeline_paths tracked reached

theorem owed (tracked : Tracked db world) (reached : Reaches D (pipeline db world job) history s)
    {c : BalanceChange} (member : c ∈ s.db.balanceChanges) (unapplied : c.isApplied = false)
    (enqueued : Waiting world ⟨c.id⟩ ∨
      ∃ i, ⟨.remote (.pushBalanceChange ⟨c.id⟩), .ok ()⟩ ∈ (s.procs i).calls) :
    Waiting s.world ⟨c.id⟩ ∨ SettlementFailed s ⟨c.id⟩ :=
  Reaches.owed pipeline_paths tracked reached member unapplied enqueued

/-- Whatever fails, an unsettled row is still referenced, unless the call that was to
enqueue its task failed, or a call of a worker that then acknowledged the task. -/
theorem stranded_only_by_failures (tracked : Tracked db world)
    (reached : Reaches (Discipline.any True) (pipeline db world job) history s) :
    ∀ c ∈ s.db.balanceChanges, c.isApplied = false →
      Referenced s ⟨c.id⟩ ∨ PushFailed s ⟨c.id⟩ ∨ SettlementFailed s ⟨c.id⟩ := by
  intro c member unapplied
  have settle : (Waiting world ⟨c.id⟩ ∨
      ∃ i, ⟨.remote (.pushBalanceChange ⟨c.id⟩), .ok ()⟩ ∈ (s.procs i).calls) →
      Referenced s ⟨c.id⟩ ∨ PushFailed s ⟨c.id⟩ ∨ SettlementFailed s ⟨c.id⟩ := fun enqueued =>
    (owed tracked reached member unapplied enqueued).elim (fun waiting => .inl (.inl waiting))
      (fun failed => .inr (.inr failed))
  obtain ⟨c₀, here, same, initial | ⟨i, inserted⟩⟩ := (pipeline_accounted tracked reached).rows c member
  · have fresh : c₀.isApplied = false := by
      by_contra before
      exact absurd (unapplied.symm.trans (same.applied (eq_true_of_ne_false before))) Bool.false_ne_true
    exact settle (.inl (here ▸ tracked.queued c₀ initial fresh))
  · have pushed : ∀ reply, ⟨.remote (.pushBalanceChange ⟨c.id⟩), reply⟩ ∈ (s.procs i).calls →
        Referenced s ⟨c.id⟩ ∨ PushFailed s ⟨c.id⟩ ∨ SettlementFailed s ⟨c.id⟩ := by
      rintro (reason | ⟨⟩) tried
      · exact .inr (.inl ⟨i, reason, tried⟩)
      · exact settle (.inr ⟨i, tried⟩)
    by_cases tried : ∃ reply, ⟨.remote (.pushBalanceChange ⟨c.id⟩), reply⟩ ∈ (s.procs i).calls
    · obtain ⟨reply, tried⟩ := tried
      exact pushed reply tried
    · by_cases returned : (s.procs i).Returned
      · have path := reached.paths pipeline_paths i
        rw [returned] at path
        obtain ⟨reply, tried⟩ := path c₀ inserted
        exact pushed reply (here ▸ tried)
      · exact .inl (.inr ⟨i, returned, ⟨c₀, inserted, here⟩, fun reply at_push => tried ⟨reply, at_push⟩⟩)

end Stranded

section Runs

def oneAccount : Db := { Db.empty with accounts := Table.empty.insert ⟨1, "account-1", true⟩ }

theorem tracked_oneAccount : Tracked oneAccount .empty where
  queued _ member := absurd member List.not_mem_nil
  known _ waiting := waiting.elim (absurd · List.not_mem_nil) (absurd · List.not_mem_nil)
  readable _ member := absurd member List.not_mem_nil

/-- Two deposits of an account, and a worker. -/
def depositsAndWorker : Fin 3 → Job
  | 0 => .createDeposit ⟨1, "deposit-1", 10⟩
  | 1 => .createDeposit ⟨1, "deposit-2", 5⟩
  | 2 => .balanceChangeWorker

/-- The first deposit cannot be enqueued; the second can, but its worker cannot begin a
transaction. -/
def twoFailures : List (Fin 3 × Turn engine) :=
  [(0, .run (.plain 0 1)), (0, .run (.plain 0 1)), (0, .fail), (1, .run (.plain 0 2)), (1, .run (.plain 0 2)),
    (1, .run (.plain 0 2)), (2, .run (.plain 0 3)), (2, .fail), (2, .run (.plain 0 3))]

/-- Everything has returned, nothing is queued, and two deposits are unsettled. -/
theorem deposits_are_stranded : Tracked oneAccount .empty ∧ ∃ history s,
    Reaches (Discipline.any True) (pipeline oneAccount .empty depositsAndWorker) history s ∧
    s.db.balanceChanges.rows.map (fun c => (c.id, c.isApplied)) = [(1, false), (2, false)] ∧
    ∀ c ∈ s.db.balanceChanges, ¬Referenced s ⟨c.id⟩ := by
  refine ⟨tracked_oneAccount, ?_⟩
  obtain ⟨history, s, reached, returned, queue, inflight, rows⟩ := State.exists_of_play
    (Discipline.any True) (pipeline oneAccount .empty depositsAndWorker) twoFailures
    (fun s => (∀ i, (s.procs i).Returned) ∧ s.world.queue = [] ∧ s.world.inflight = [] ∧
      s.db.balanceChanges.rows.map (fun c => (c.id, c.isApplied)) = [(1, false), (2, false)])
    (by decide +kernel)
  refine ⟨history, s, reached, rows, ?_⟩
  rintro c member ((queued | inflight') | ⟨i, running, _⟩)
  · rw [queue] at queued
    cases queued
  · rw [inflight] at inflight'
    cases inflight'
  · exact running (returned i)

theorem stranded_only_by_failures_twice : ∃ history s,
    Reaches (Discipline.any True) (pipeline oneAccount .empty depositsAndWorker) history s ∧
    (∀ i, (s.procs i).Returned) ∧
    s.db.balanceChanges.rows.map (fun c => (c.id, c.isApplied)) = [(1, false), (2, false)] ∧
    ∀ c ∈ s.db.balanceChanges, c.isApplied = false →
      Referenced s ⟨c.id⟩ ∨ PushFailed s ⟨c.id⟩ ∨ SettlementFailed s ⟨c.id⟩ := by
  obtain ⟨history, s, reached, returned, rows⟩ := State.exists_of_play
    (Discipline.any True) (pipeline oneAccount .empty depositsAndWorker) twoFailures
    (fun s => (∀ i, (s.procs i).Returned) ∧
      s.db.balanceChanges.rows.map (fun c => (c.id, c.isApplied)) = [(1, false), (2, false)])
    (by decide +kernel)
  exact ⟨history, s, reached, returned, rows, stranded_only_by_failures tracked_oneAccount reached⟩

end Runs

end LLMPool.Billing
