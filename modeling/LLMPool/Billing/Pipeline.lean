import LLMPool.Billing.EventPaths
import LLMPool.Billing.Requests

/-! The billing pipeline: the endpoints and event handlers that record balance
changes and enqueue their tasks, and the workers that settle them. -/
namespace LLMPool.Billing
open Relational Transactions

/-- One round of the balance change worker. The queue drops a task, whatever its
handler did, when the handler has returned. -/
def balanceChangeWorker : Action Unit := do
  match ← Prog.remote (E := engine) .fetchBalanceChange with
  | .error _ => return ()
  | .ok none => return ()
  | .ok (some task) =>
      settleBalanceChange task
      let _ ← Prog.remote (E := engine) (.ackBalanceChange task)

inductive Job where
  | createDeposit (payload : AdminRestApi.CreateBalanceChangeRequest)
  | createWithdraw (payload : AdminRestApi.CreateBalanceChangeRequest)
  | createCredit (payload : AdminRestApi.CreateBalanceChangeRequest)
  | handleOpenAIEvent (event : OpenAIEventTask)
  | handleAnthropicEvent (event : AnthropicEventTask)
  | balanceChangeWorker

def Job.program : Job → Action Unit
  | createDeposit payload => do let _ ← AdminRestApi.createDeposit payload
  | createWithdraw payload => do let _ ← AdminRestApi.createWithdraw payload
  | createCredit payload => do let _ ← AdminRestApi.createCredit payload
  | handleOpenAIEvent event => Billing.handleOpenAIEvent event
  | handleAnthropicEvent event => Billing.handleAnthropicEvent event
  | balanceChangeWorker => Billing.balanceChangeWorker

section Endpoints
variable {calls : List (Call engine)}

/-- On every path, a program that starts with nothing committed enqueues what it
has committed, and has forwarded all of it when it returns. -/
def Forwards (p : Action α) : Prop :=
  ∀ calls, permanent calls = [] → (session calls).writes = [] →
    p.path Orderly (fun _ => Forwarded) calls

theorem Forwards.pure (value : α) : Forwards (pure value : Action α) :=
  fun _ silent _ => forwarded_nil silent

theorem Forwards.discard {p : Action α} (forwards : Forwards p) :
    Forwards (do let _ ← p : Action Unit) :=
  fun calls silent idle => path_bind.mpr (forwards calls silent idle)

/-- A statement that writes nothing, on the pool, before a program that forwards. -/
theorem Forwards.query {s : Stmt} {f : Except SqlxError s.Answer → Action α}
    (licensed : ∀ calls, Licensed calls s) (reads : ∀ answer, writes s answer = [])
    (rest : ∀ result, Forwards (f result)) : Forwards ((Query.auto s).run >>= f) := by
  intro calls silent idle
  rw [path_bind]
  refine path_queryAuto (P := Orderly) ⟨idle, licensed calls⟩
    (fun answer _ => rest _ _ ?_ idle) (fun reason => rest _ _ ?_ idle)
  · rw [permanent_auto, silent]
    exact reads answer
  · rw [permanent_auto_refused, silent]

theorem forwards_withPositiveAmount {amount : BigDecimal} {next : Action (AdminRestApi.Response α)}
    (forwards : Forwards next) : Forwards (AdminRestApi.withPositiveAmount amount next) := by
  rw [AdminRestApi.withPositiveAmount]
  split
  · exact .pure _
  · exact forwards

theorem forwards_withAccount {next : Action (AdminRestApi.Response α)} (forwards : Forwards next) :
    Forwards (AdminRestApi.withAccount accountId next) := by
  refine .query (fun _ => trivial) (fun _ => rfl) ?_
  rintro (reason | found)
  · exact .pure _
  · cases found with
    | none => exact .pure _
    | some account => exact forwards

theorem forwards_recordBalanceChange (payload : AdminRestApi.CreateBalanceChangeRequest)
    (content : BalanceChangeContent) (unserialized unrecorded unqueued : String) :
    Forwards (AdminRestApi.recordBalanceChange payload content unserialized unrecorded unqueued) := by
  intro calls silent idle
  refine path_bind.mpr ?_
  refine path_queryAuto (P := Orderly) ⟨idle, content, rfl⟩ ?_ ?_
  · intro c _
    have recorded : ∀ new, permanent (E := engine) (⟨.auto (.insertBalanceChange new), .ok c⟩ :: calls) =
        [.insertBalanceChange c] := by
      intro new
      rw [permanent_auto, silent]
      rfl
    refine path_bind.mpr (path_op (P := Orderly) ⟨c, ?_, rfl⟩ ?_)
    · rw [recorded]
      exact List.mem_cons_self
    have forwarded : ∀ new reply, Forwarded (⟨.remote (.pushBalanceChange ⟨c.id⟩), reply⟩ ::
        ⟨.auto (.insertBalanceChange new), .ok c⟩ :: calls) := by
      intro new reply c' member
      rw [permanent_remote, recorded] at member
      obtain rfl := Write.insertBalanceChange.inj (List.mem_singleton.mp member)
      exact ⟨reply, List.mem_cons_self⟩
    rintro (reason | ⟨⟩) _ <;> exact forwarded _ _
  · intro reason
    exact forwarded_nil ((permanent_auto_refused _ _).trans silent)

theorem forwards_createWithdraw (payload : AdminRestApi.CreateBalanceChangeRequest) :
    Forwards (AdminRestApi.createWithdraw payload) := by
  refine forwards_withPositiveAmount (forwards_withAccount (.query (fun _ => trivial) (fun _ => rfl) ?_))
  rintro (reason | found)
  · exact .pure _
  · cases found with
    | none => exact .pure _
    | some wallet =>
        dsimp only
        split
        · exact .pure _
        · exact forwards_recordBalanceChange _ _ _ _ _

theorem orderly_handleEvent (event : EventTask EventData) :
    (handleEvent event).path Orderly (fun _ => Forwarded) [] :=
  path_mono (fun _ _ made => made.2) (fun _ _ forwarded => forwarded) (path_handleEvent event)

end Endpoints

section Worker

/-- A call that records no balance change. -/
def Unrecording (op : Op engine) : Prop :=
  ∀ new, op ≠ .sql (.insertBalanceChange new) ∧ op ≠ .auto (.insertBalanceChange new)

/-- The calls of a settlement. -/
def OfSettlement : Op engine → Prop
  | .begin | .commit | .remote (.setWalletInfo _ _) => True
  | .sql (.findBalanceChangeForUpdate _) | .sql (.findAccountWallet _) | .sql (.insertWallet _ _) => True
  | .sql (.getCurrentSubscription _ _) | .sql (.updateSubscriptionUsage _ _ _) => True
  | .sql (.updateWalletBalance _ _) | .sql (.markBalanceChangeApplied _ _) => True
  | _ => False

theorem OfSettlement.unrecording {op : Op engine} (settles : OfSettlement op) : Unrecording op := by
  intro new
  constructor <;> rintro rfl <;> exact settles

theorem only_query {s : Stmt} (settles : OfSettlement (.sql s)) : (Query.sql s).run.Only OfSettlement := by
  refine only_bind (only_op settles) ?_
  rintro (reason | answer) <;> trivial

theorem only_applyBalanceChange (c : BalanceChange) (content : BalanceChangeContent) :
    (applyBalanceChangeWithTx c content).run.Only OfSettlement := by
  refine only_run_bind ?_ (fun wallet => only_run_bind ?_ (fun charge => only_run_bind ?_ (fun stored =>
    only_run_bind (only_query trivial) (fun _ => trivial))))
  · refine only_run_bind (only_query trivial) ?_
    rintro (_ | wallet)
    · exact only_query trivial
    · trivial
  · cases content with
    | deposit amount | addCredit amount | withdraw amount => trivial
    | spendToken spend =>
        refine only_run_bind (only_query trivial) ?_
        rintro (_ | subscription)
        · trivial
        · exact only_run_bind (only_query trivial) (fun _ => trivial)
  · rw [storeBalanceWithTx]
    split
    · exact only_run_bind (only_query trivial) (fun found => only_fetchOne found)
    · trivial

theorem only_settleBalanceChange (task : BalanceChangeTask) :
    (settleBalanceChange task).Only OfSettlement := by
  refine only_bind (only_op trivial) ?_
  rintro (reason | ⟨⟩)
  · trivial
  refine only_bind (only_query (s := .findBalanceChangeForUpdate task.balanceChangeId) trivial) ?_
  rintro (reason | (_ | c))
  · trivial
  · trivial
  dsimp only
  split
  · trivial
  split
  · trivial
  refine only_bind (only_applyBalanceChange c _) ?_
  rintro (reason | wallet)
  · trivial
  refine only_bind (only_op trivial) ?_
  rintro (reason | ⟨⟩)
  · trivial
  · exact only_bind (only_op trivial) (fun _ => trivial)

theorem only_balanceChangeWorker : balanceChangeWorker.Only Unrecording := by
  refine only_bind (only_op (fun new => ⟨by rintro ⟨⟩, by rintro ⟨⟩⟩)) ?_
  rintro (reason | (_ | task))
  · trivial
  · trivial
  · exact only_bind ((only_settleBalanceChange task).mono (fun _ settles => settles.unrecording))
      (fun _ => only_bind (only_op (fun new => ⟨by rintro ⟨⟩, by rintro ⟨⟩⟩)) (fun _ => trivial))

theorem forwarded_unrecording {calls : List (Call engine)} (only : ∀ call ∈ calls, Unrecording call.op) :
    Forwarded calls := by
  intro c member
  obtain ⟨s, answer, made, wrote⟩ := mem_permanent member
  obtain ⟨new, at_insert⟩ := writes_insert wrote
  cases at_insert
  rcases made with made | made
  · exact absurd rfl ((only _ made) new).1
  · exact absurd rfl ((only _ made) new).2

/-- A worker has been delivered a task, and its transaction records no balance change. -/
structure Working (task : BalanceChangeTask) (calls : List (Call engine)) : Prop where
  fetched : Fetched calls task
  unrecorded : Unrecorded (session calls).writes

/-- What a query of the settlement leaves: an error is one of a failed call. -/
def Attempted (task : BalanceChangeTask) (result : Except SqlxError α) (calls : List (Call engine)) :
    Prop :=
  match result with
  | .ok _ => Working task calls
  | .error _ => Fetched calls task ∧ ∃ call ∈ calls, Failed call

variable {task : BalanceChangeTask} {calls : List (Call engine)}

theorem Fetched.older {call : Call engine} (fetched : Fetched calls task) :
    Fetched (call :: calls) task := List.mem_cons_of_mem _ fetched

theorem Fetched.failing {call : Call engine} (fetched : Fetched calls task) (failed : Failed call) :
    Fetched (call :: calls) task ∧ ∃ c ∈ call :: calls, Failed c :=
  ⟨fetched.older, call, List.mem_cons_self, failed⟩

theorem Working.answered {s : Stmt} (working : Working task calls) (answer : s.Answer)
    (other : Unrecorded (writes s answer)) :
    Working task (⟨.sql s, .ok answer⟩ :: calls) where
  fetched := working.fetched.older
  unrecorded c member := by
    rw [session_answered] at member
    rcases List.mem_append.mp member with older | newer
    · exact working.unrecorded c older
    · exact other c newer

theorem path_attempt {s : Stmt} (licensed : Licensed calls s)
    (other : ∀ answer, Unrecorded (writes s answer)) (working : Working task calls) :
    (Query.sql s).run.path Orderly (Attempted task) calls :=
  path_query ⟨working.unrecorded, licensed⟩ (fun answer _ _ => working.answered answer (other answer))
    (fun _ => working.fetched.failing trivial)

/-- The `?` after an attempt. -/
theorem path_attempt_bind {x : Query α} {f : α → Query β}
    {Q : Except SqlxError β → List (Call engine) → Prop}
    (first : x.run.path Orderly (Attempted task) calls)
    (rest : ∀ value calls, Working task calls → (f value).run.path Orderly Q calls)
    (stops : ∀ e calls, Attempted task (.error e : Except SqlxError α) calls → Q (.error e) calls) :
    (x >>= f).run.path Orderly Q calls :=
  path_seq first rest stops

theorem path_accountWallet (accountId : Int) (working : Working task calls) :
    (accountWalletWithTx accountId).run.path Orderly (Attempted task) calls := by
  refine path_attempt_bind (path_attempt trivial (fun _ _ => List.not_mem_nil) working) ?_
    (fun _ _ stopped => stopped)
  rintro (_ | wallet) calls working
  · exact path_attempt trivial (fun _ _ member => by cases List.mem_singleton.mp member) working
  · exact working

theorem path_charge (wallet : Wallet) (accountId : Int) (content : BalanceChangeContent)
    (working : Working task calls) :
    (chargeWithTx wallet accountId content).run.path Orderly (Attempted task) calls := by
  cases content with
  | deposit amount | addCredit amount | withdraw amount => exact working
  | spendToken spend =>
      refine path_attempt_bind (path_attempt trivial (fun _ _ => List.not_mem_nil) working) ?_
        (fun _ _ stopped => stopped)
      rintro (_ | subscription) calls working
      · exact working
      · exact path_attempt_bind
          (path_attempt trivial (fun _ _ member => by cases List.mem_singleton.mp member) working)
          (fun _ _ working => working) (fun _ _ stopped => stopped)

theorem path_storeBalance (wallet : Wallet) (balance : BigDecimal) (working : Working task calls) :
    (storeBalanceWithTx wallet balance).run.path Orderly (Attempted task) calls := by
  rw [storeBalanceWithTx]
  split
  · rw [path_run_bind]
    refine path_query ⟨working.unrecorded, trivial⟩ ?_ (fun _ => working.fetched.failing trivial)
    rintro (_ | stored) _ _
    · exact working.fetched.failing rfl
    · exact working.answered (s := .updateWalletBalance wallet.id balance) (some stored)
        (fun _ member => by cases List.mem_singleton.mp member)
  · exact working

theorem path_applyBalanceChange (c : BalanceChange) (content : BalanceChangeContent)
    (working : Working ⟨c.id⟩ calls) :
    (applyBalanceChangeWithTx c content).run.path Orderly (fun result calls =>
      Attempted ⟨c.id⟩ result calls ∧ match result with
        | .ok _ => (session calls).failed = false ∧
            ∃ subscriptionId, .markApplied c.id subscriptionId ∈ (session calls).writes
        | .error _ => True) calls := by
  refine path_attempt_bind (path_accountWallet c.accountId working) ?_
    (fun _ _ stopped => ⟨stopped, trivial⟩)
  intro wallet calls working
  refine path_attempt_bind (path_charge wallet c.accountId content working) ?_
    (fun _ _ stopped => ⟨stopped, trivial⟩)
  rintro ⟨balance, subscriptionId⟩ calls working
  refine path_attempt_bind (path_storeBalance wallet balance working) ?_
    (fun _ _ stopped => ⟨stopped, trivial⟩)
  intro stored calls working
  rw [path_run_bind]
  refine path_query ⟨working.unrecorded, working.fetched⟩ ?_
    (fun _ => ⟨working.fetched.failing trivial, trivial⟩)
  intro answer sound _
  refine ⟨working.answered answer (fun _ member => by cases List.mem_singleton.mp member), sound,
    subscriptionId, ?_⟩
  rw [session_answered]
  exact List.mem_append_right _ List.mem_cons_self

/-- The handler of a task returns with one of the outcomes of its delivery. -/
theorem path_settleBalanceChange (fetched : Fetched calls task) :
    (settleBalanceChange task).path Orderly
      (fun _ calls => Fetched calls task ∧ Outcome task calls) calls := by
  have stop : ∀ calls, (Fetched calls task ∧ ∃ call ∈ calls, Failed call) →
      Fetched calls task ∧ Outcome task calls := fun _ failing => ⟨failing.1, .inr (.inl failing.2)⟩
  refine path_bind.mpr (path_op (P := Orderly) trivial ?_)
  rintro (reason | ⟨⟩) _
  · exact stop _ (fetched.failing trivial)
  dsimp only
  rw [path_bind]
  have begun : Working task (⟨.begin, .ok ()⟩ :: calls) := ⟨fetched.older, unrecorded_nil rfl⟩
  refine path_query (P := Orderly) ⟨begun.unrecorded, begun.fetched, rfl⟩ ?_
    (fun reason => stop _ (begun.fetched.failing trivial))
  rintro found _ ⟨env, db, executed⟩
  have read : db.balanceChanges.find task.balanceChangeId = found := Option.some.inj executed
  have working := begun.answered (s := .findBalanceChangeForUpdate task.balanceChangeId) found
    (by cases found <;> exact fun _ => List.not_mem_nil)
  generalize answered : (⟨.sql (.findBalanceChangeForUpdate task.balanceChangeId), .ok found⟩ : Call engine) ::
    ⟨.begin, .ok ()⟩ :: calls = calls' at working
  have idle : (∀ c ∈ found, c.isApplied = true ∨
      ∃ e, BalanceChangeContent.fromValue c.content = .error e) → Outcome task calls' :=
    fun ended => .inr (.inr ⟨found, answered ▸ List.mem_cons_self, ended⟩)
  cases found with
  | none => exact ⟨working.fetched, idle (fun c member => nomatch member)⟩
  | some c =>
      have here : c.id = task.balanceChangeId := (Table.find_iff.mp read).2
      dsimp only
      split
      · rename_i marked
        exact ⟨working.fetched, idle (fun c' member => by cases member; exact .inl marked)⟩
      split
      · rename_i e unread
        exact ⟨working.fetched, idle (fun c' member => by cases member; exact .inr ⟨e, unread⟩)⟩
      · rename_i content parsed
        obtain ⟨id⟩ := task
        cases here
        rw [path_bind]
        refine path_mono (fun _ _ made => made) ?_ (path_applyBalanceChange c content working)
        rintro (e | wallet) calls ⟨attempted, done⟩
        · exact stop _ attempted
        obtain ⟨sound, subscriptionId, wrote⟩ := done
        refine path_bind.mpr (path_op (P := Orderly) trivial ?_)
        rintro (reason | ⟨⟩) _
        · exact stop _ (attempted.fetched.failing trivial)
        have committed : .markApplied c.id subscriptionId ∈
            permanent (E := engine) (⟨.commit, .ok ()⟩ :: calls) := by
          rw [permanent, Op.commits, sound]
          exact List.mem_append_right _ wrote
        refine path_bind.mpr (path_op (P := Orderly) trivial (fun reply _ => ?_))
        refine ⟨attempted.fetched.older.older, .inl ⟨subscriptionId, ?_⟩⟩
        rw [permanent_remote]
        exact committed

theorem path_balanceChangeWorker :
    balanceChangeWorker.path Orderly (fun _ _ => True) [] := by
  refine path_bind.mpr (path_op (P := Orderly) trivial ?_)
  rintro (reason | (_ | task)) _
  · trivial
  · trivial
  dsimp only
  rw [path_bind]
  refine path_mono (fun _ _ made => made) ?_ (path_settleBalanceChange List.mem_cons_self)
  exact fun _ calls ended => path_bind.mpr (path_op (P := Orderly) ended (fun _ _ => trivial))

end Worker

/-- Every job makes its calls in order, and has forwarded what it committed when it
returns. -/
theorem Job.path_program (job : Job) : job.program.path Orderly (fun _ => Forwarded) [] := by
  cases job with
  | createDeposit payload =>
      exact (forwards_withPositiveAmount (forwards_withAccount
        (forwards_recordBalanceChange payload _ _ _ _))).discard [] rfl rfl
  | createWithdraw payload => exact (forwards_createWithdraw payload).discard [] rfl rfl
  | createCredit payload =>
      exact (forwards_withPositiveAmount (forwards_withAccount
        (forwards_recordBalanceChange payload _ _ _ _))).discard [] rfl rfl
  | handleOpenAIEvent event => exact orderly_handleEvent (event.map .openai)
  | handleAnthropicEvent event => exact orderly_handleEvent (event.map .anthropic)
  | balanceChangeWorker =>
      have only := only_balanceChangeWorker.path (fun call never => absurd never List.not_mem_nil)
      exact path_mono (fun _ _ made => made.1) (fun _ _ ended => forwarded_unrecording ended.2)
        (path_and path_balanceChangeWorker only)

end LLMPool.Billing
