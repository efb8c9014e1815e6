import LLMPool.Billing.LostUpdate
import LLMPool.Billing.Reconciliation
import LLMPool.Deployment.Charges

/-! The books of the server and its workers: what becomes of the money of an account when they all run
at once. -/
namespace LLMPool.Deployment
open Relational Transactions Billing

/-- What a call or a transaction of a party does to the books. -/
inductive Moves (D : Discipline engine) (db : Db) : Db → Prop
  | settles {db' : Db} {id : Int} (settles : Settles D id db db') : Moves D db db'
  | administers {db' : Db} (administers : Administers db db') : Moves D db db'
  | records {db' : Db} (c : BalanceChange) (free : db.balanceChanges.free c) (unapplied : c.isApplied = false)
      (balanceChanges : db'.balanceChanges = db.balanceChanges.insert c) (wallets : db'.wallets = db.wallets)
      (subscriptions : db'.subscriptions = db.subscriptions) (grows : Grows db db') : Moves D db db'
  | elsewhere {db' : Db} (balanceChanges : db'.balanceChanges = db.balanceChanges)
      (wallets : db'.wallets = db.wallets) (subscriptions : db'.subscriptions = db.subscriptions)
      (grows : Grows db db') : Moves D db db'

section Moves
variable {D : Discipline engine} {db₀ db db' : Db}

theorem Moves.grows (moves : Moves D db db') : Grows db db' := by
  cases moves with
  | settles settles => exact settles.grows
  | administers administers => exact administers.grows
  | records _ _ _ _ _ _ grows | elsewhere _ _ _ grows => exact grows

/-- A balance change that is only recorded has no effect yet. -/
theorem settledSince_records {M : Type} [AddCommGroup M] {f : Int → BalanceChangeContent → M}
    {counts : BalanceChange → Prop} [DecidablePred counts] {c : BalanceChange} (free : db.balanceChanges.free c)
    (unapplied : c.isApplied = false) (inserted : db'.balanceChanges = db.balanceChanges.insert c) :
    settledSince db₀ counts f db' = settledSince db₀ counts f db := by
  rw [settledSince, inserted, Table.sum_insert _ free, settledSince]
  simp only [unapplied, Bool.false_eq_true, false_and, and_false, if_false, add_zero]

/-- The wallet of an account holds what it held at first and what has been settled since. -/
def Balanced (accountId : Int) (db₀ db : Db) : Prop :=
  balanceOf db accountId = balanceOf db₀ accountId + settledSince db₀ (·.accountId = accountId) walletEffect db

/-- A subscription has counted what it had at first and what has been charged to it since. -/
def Counted (id : Int) (db₀ db : Db) : Prop :=
  usageOf db id = usageOf db₀ id + settledSince db₀ (·.subscriptionId = id) (fun _ => usageEffect) db

theorem Balanced.still {accountId : Int} (balanced : Balanced accountId db₀ db) (wallets : db'.wallets = db.wallets)
    (settled : settledSince db₀ (·.accountId = accountId) walletEffect db' =
      settledSince db₀ (·.accountId = accountId) walletEffect db) : Balanced accountId db₀ db' := by
  have kept : balanceOf db' accountId = balanceOf db accountId := balanceOf_congr (by rw [wallets])
  rw [Balanced, kept, settled, balanced]

theorem Counted.still {id : Int} (counted : Counted id db₀ db) (usage : usageOf db' id = usageOf db id)
    (settled : settledSince db₀ (·.subscriptionId = id) (fun _ => usageEffect) db' =
      settledSince db₀ (·.subscriptionId = id) (fun _ => usageEffect) db) : Counted id db₀ db' := by
  rw [Counted, usage, settled, counted]

theorem Settles.balanced {id accountId : Int} (current : D.serial ∨ WalletCurrent D) (settles : Settles D id db db')
    (grows : Grows db₀ db) (balanced : Balanced accountId db₀ db) : Balanced accountId db₀ db' := by
  rcases current with serial | current
  · obtain ⟨S, _, ready, final, rfl⟩ := settles
    rw [Balanced, balanceOf_writes ready final (S.serial serial ready final).current, settledSince_writes ready grows,
      balanced, add_assoc]
    rfl
  · exact Settles.balance current settles grows balanced

theorem Settles.counted {id subscriptionId : Int} (serial : D.serial) (settles : Settles D id db db')
    (grows : Grows db₀ db) (positive : 0 < subscriptionId) (counted : Counted subscriptionId db₀ db) :
    Counted subscriptionId db₀ db' := by
  obtain ⟨S, _, ready, final, rfl⟩ := settles
  rw [Counted, usageOf_writes (S.serial serial ready final) positive, settledSince_writes ready grows, counted,
    add_assoc]
  rfl

theorem Moves.balanced {accountId : Int} (current : D.serial ∨ WalletCurrent D) (moves : Moves D db db')
    (grows : Grows db₀ db) (balanced : Balanced accountId db₀ db) : Balanced accountId db₀ db' := by
  cases moves with
  | settles settles => exact Settles.balanced current settles grows balanced
  | administers administers =>
      obtain ⟨wallets, rows, _⟩ := administers.usage
      exact balanced.still wallets (settledSince_congr rows)
  | records c free unapplied inserted wallets _ _ =>
      exact balanced.still wallets (settledSince_records free unapplied inserted)
  | elsewhere rows wallets _ _ => exact balanced.still wallets (settledSince_congr rows)

theorem Moves.counted {subscriptionId : Int} (serial : D.serial) (moves : Moves D db db') (grows : Grows db₀ db)
    (positive : 0 < subscriptionId) (counted : Counted subscriptionId db₀ db) : Counted subscriptionId db₀ db' := by
  cases moves with
  | settles settles => exact Settles.counted serial settles grows positive counted
  | administers administers =>
      obtain ⟨_, rows, usage, _⟩ := administers.usage
      exact counted.still (usage subscriptionId) (settledSince_congr rows)
  | records c free unapplied inserted _ subscriptions _ =>
      exact counted.still (usageOf_congr (by rw [subscriptions])) (settledSince_records free unapplied inserted)
  | elsewhere rows _ subscriptions _ =>
      exact counted.still (usageOf_congr (by rw [subscriptions])) (settledSince_congr rows)

end Moves

section Parties
variable {D : Discipline engine} {hashToken : String → String} {party : Party} {calls : List (Call engine)} {db : Db}

/-- A statement of an endpoint leaves the books alone, but for the subscriptions. -/
theorem moves_tending {s : Stmt} {answer : s.Answer} {env : Env} (tending : Tending (.auto s))
    (drawn : possible s env db = true) (executed : exec s env db = some answer) (wrote : writes s answer ≠ []) :
    Moves D db (engine.applyAll (writes s answer) db) := by
  have grows : Grows db (engine.applyAll (writes s answer) db) := grows_applyAll _ db
  cases s
  case insertSubscription accountId planId =>
    have fresh := (of_decide_eq_true drawn).2
    have made : (if id_pos : 0 < env.serial then some (newSubscription env.serial accountId planId id_pos) else none) =
        some answer := executed
    split at made
    · cases made
      exact .administers (.created _ _ _ _ fresh)
    · cases made
  case updateSubscriptionStatus id status =>
    cases answer with
    | none => exact absurd rfl wrote
    | some s => exact .administers (.switched id status)
  case updateAccount | deactivateApiCredential | updateUpstream | addUpstreamTag | removeUpstreamTag |
      markFileMetaDeleted | updateBatchMetaStatus | markResponseMetaDeleted =>
    cases answer with
    | none => exact absurd rfl wrote
    | some r => exact .elsewhere rfl rfl rfl grows
  case insertApiCredential | markUpstreamOffline | markUpstreamOnline | insertFileMeta | insertBatchMeta |
      insertResponseMeta => exact .elsewhere rfl rfl rfl grows
  case insertBalanceChange | insertWallet | updateWalletBalance | updateSubscriptionUsage | upsertSessionEvent |
      markBalanceChangeApplied | findBalanceChangeForUpdate =>
    rcases tending with plain | keeps | ⟨u, call, same⟩ <;> contradiction
  all_goals exact absurd rfl wrote

theorem moves_insert {new : NewBalanceChange} {c : BalanceChange} {env : Env}
    (drawn : possible (.insertBalanceChange new) env db = true)
    (executed : exec (.insertBalanceChange new) env db = some c) :
    Moves D db (engine.applyAll [.insertBalanceChange c] db) := by
  have unapplied : c.isApplied = false := by
    have row := executed
    simp only [exec] at row
    split at row <;> cases row
    rfl
  exact .records c (exec_insert drawn executed) unapplied rfl rfl rfl (grows_applyAll _ db)

theorem Pooled.tending {s : Stmt} (pooled : Pooled hashToken party calls (.auto s)) : Tending (.auto s) := by
  cases pooled with
  | plain plain => exact .inl plain
  | upkeep keeps => exact .inr (.inl keeps)
  | looks looks => cases s <;> first | exact .inl rfl | exact absurd looks id

/-- On the pool, the writes of a statement are committed as it runs. -/
theorem moves_auto {op : Op engine} {reply : Except Failure op.Reply} (pooled : op.Pooled)
    (each : ∀ s answer env, op = .auto s → possible s env db = true → exec s env db = some answer →
      writes s answer ≠ [] → Moves D db (engine.applyAll (writes s answer) db))
    (answers : op.Answers D calls db reply) (wrote : op.commits (session calls) reply ≠ []) :
    Moves D db (engine.applyAll (op.commits (session calls) reply) db) := by
  cases op with
  | begin | sql | commit => exact absurd pooled id
  | remote c => exact absurd (by cases reply <;> rfl) wrote
  | auto s =>
      rcases answers with ⟨_, rfl⟩ | ⟨_, env, _, performed⟩
      · exact absurd rfl wrote
      · cases reply with
        | error reason => exact absurd rfl wrote
        | ok answer =>
            obtain ⟨drawn, executed⟩ := Op.answer_ok performed
            exact each s answer env rfl drawn executed wrote

theorem Bills.moves {event : EventTask EventData} {db' : Db} (bills : Bills event db db') : Moves D db db' := by
  cases bills with
  | logged e row puts unbillable => exact .elsewhere rfl rfl rfl (grows_applyAll _ db)
  | billed e c usage model row puts used known free made =>
      have unapplied : c.isApplied = false := by rw [made]
      exact .records c free unapplied rfl rfl rfl (grows_applyAll _ db)

theorem moves_eventWorker : eventWorker.wp D growth (Moves D) (fun _ _ _ => True) [] db := by
  refine wp_bind.mpr (wp_remote ?_ (fun _ _ _ => trivial))
  intro db' env world _ _
  cases (engine.remote .fetchEvent env world).1 with
  | none => trivial
  | some event =>
      dsimp only
      rw [wp_bind]
      refine wp_mono (fun _ _ bills => Bills.moves bills) ?_ (wp_handleEvent event)
      exact fun _ _ _ _ => wp_bind.mpr (wp_remote (fun _ _ _ _ _ => trivial) (fun _ _ _ => trivial))

theorem moves_balanceChangeWorker : balanceChangeWorker.wp D growth (Moves D) (fun _ _ _ => True) [] db := by
  refine wp_bind.mpr (wp_remote ?_ (fun _ _ _ => trivial))
  intro db' env world _ _
  cases (engine.remote .fetchBalanceChange env world).1 with
  | none => trivial
  | some task =>
      dsimp only
      rw [wp_bind]
      refine wp_mono (fun _ _ settles => Moves.settles settles) ?_
        (wp_settleBalanceChange (fun never : False => never.elim))
      exact fun _ _ _ _ => wp_bind.mpr (wp_remote (fun _ _ _ _ _ => trivial) (fun _ _ _ => trivial))

theorem Kind.moves {p : Action Unit} (kind : Kind hashToken party p) :
    p.wp D growth (Moves D) (fun _ _ _ => True) [] db := by
  cases kind with
  | pooled path =>
      refine wp_of_path (fun calls db op reply pooled answers wrote => ?_) path
      refine moves_auto pooled.recordless.1 ?_ answers wrote
      rintro s answer env rfl drawn executed wrote
      exact moves_tending pooled.tending drawn executed wrote
  | transfers job only =>
      refine wp_of_path (fun calls db op reply transfers answers wrote => ?_) only.made
      refine moves_auto (Transfers.onPool transfers) ?_ answers wrote
      rintro s answer env rfl drawn executed wrote
      cases s
      case insertBalanceChange => exact moves_insert drawn executed
      case getAccountById | findAccountWallet => exact absurd rfl wrote
      all_goals exact absurd transfers id
  | eventWorker => exact moves_eventWorker
  | balanceChangeWorker => exact moves_balanceChangeWorker

end Parties

section Runs
variable {ι : Type} [DecidableEq ι] {D : Discipline engine} {hashToken : String → String} {party : ι → Party}
  {db : Db} {world : World} {s : State engine ι}

theorem deployment_chain (reached : Reaches D (deployment hashToken db world party) history s) :
    Chain (fun _ => Moves D) db history s.db :=
  (reached.chain (.starting (fun i => ((party i).kind hashToken).moves)) (fun _ _ _ moves => moves.grows)
    (fun _ _ _ _ _ _ => trivial)).2

/-- In every interleaving, with any failures, where transactions run one at a time or no wallet is written
from a stale read: each account has the money that it had at first and what has been settled for it
since, and where transactions run one at a time each subscription has counted what was charged to it. -/
theorem books_balance (current : D.serial ∨ WalletCurrent D)
    (reached : Reaches D (deployment hashToken db world party) history s) :
    (∀ accountId, balanceOf s.db accountId = balanceOf db accountId +
      settledSince db (·.accountId = accountId) walletEffect s.db) ∧
    (D.serial → ∀ r ∈ s.db.subscriptions, (r.usedTotalTokens, r.usedMoney) = usageOf db r.id +
      settledSince db (·.subscriptionId = r.id) (fun _ => usageEffect) s.db) := by
  have chain := deployment_chain reached
  constructor
  · intro accountId
    refine chain.invariant (I := fun _ => Balanced accountId db) ?_ ?_
    · exact (add_eq_left.mpr (settledSince_start db)).symm
    · intro history i writes mid earlier balanced moves
      have grows : Grows db mid := earlier.rel (R := growth) (fun _ _ _ => Moves.grows)
      exact moves.balanced current grows balanced
  · intro serial r member
    have counted : Counted r.id db s.db := by
      refine chain.invariant (I := fun _ => Counted r.id db) ?_ ?_
      · exact (add_eq_left.mpr (settledSince_start db)).symm
      · intro history i writes mid earlier counted moves
        have grows : Grows db mid := earlier.rel (R := growth) (fun _ _ _ => Moves.grows)
        exact moves.counted serial grows r.id_pos counted
    exact (usageOf_some (Table.find_of_mem member)).symm.trans counted

/-- In every interleaving, with any failures, what is no charge was in the ledger from the start, or an
administrator has asked for just this, of a positive amount. -/
theorem transfers_are_asked_for (reached : Reaches D (deployment hashToken db world party) history s)
    {c : BalanceChange} (member : c ∈ s.db.balanceChanges) (uncharged : charge c = none) :
    (∃ c₀ ∈ db.balanceChanges, c₀.id = c.id ∧ SameChange c₀ c) ∨
      ∃ i, Transferring (party i) c.accountId c.uniqueRequestId c.content := by
  rcases recorded reached member with initial | ⟨i, event, _, meters⟩ | asked
  · exact .inl initial
  · obtain ⟨usage, model, eventId, _, _, charged⟩ := meters.charged
    cases uncharged.symm.trans charged
  · exact .inr asked

end Runs

section Shop

theorem books_balance_after_completion : ∃ history s,
    Reaches serially (deployment id openShop oneUsage aCompletion) history s ∧ balanceOf s.db 1 = 80 ∧
      balanceOf s.db 1 = balanceOf openShop 1 + settledSince openShop (·.accountId = 1) walletEffect s.db := by
  obtain ⟨history, s, reached, balance⟩ := State.exists_of_play serially
    (deployment id openShop oneUsage aCompletion) (inTurns [(0, 11), (1, 6), (2, 9), (3, 10)])
    (fun s => balanceOf s.db 1 = 80) (by decide +kernel)
  exact ⟨history, s, reached, balance, (books_balance (.inl trivial) reached).1 1⟩

def aDeposit : Fin 2 → Party
  | 0 => .createDeposit ⟨1, "deposit-1", 10⟩
  | 1 => .balanceChangeWorker

theorem transfers_are_asked_for_once : ∃ history s,
    Reaches (.any False) (deployment id openShop oneUsage aDeposit) history s ∧ balanceOf s.db 1 = 110 ∧
      ∃ c ∈ s.db.balanceChanges, ∃ i, Transferring (aDeposit i) c.accountId c.uniqueRequestId c.content := by
  obtain ⟨history, s, reached, balance, c, member, uncharged⟩ := State.exists_of_play (.any False)
    (deployment id openShop oneUsage aDeposit) (inTurns [(0, 3), (1, 9)])
    (fun s => balanceOf s.db 1 = 110 ∧ ∃ c ∈ s.db.balanceChanges.rows, charge c = none) (by decide +kernel)
  rcases transfers_are_asked_for reached (Table.mem_def.mpr member) uncharged with ⟨_, never, _⟩ | asked
  · cases never
  · exact ⟨history, s, reached, balance, c, Table.mem_def.mpr member, asked⟩

end Shop

end LLMPool.Deployment
