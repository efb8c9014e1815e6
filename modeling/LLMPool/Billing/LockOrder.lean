import LLMPool.Billing.Pipeline
import LLMPool.Transactions.Deadlocks

/-! The order in which the workers' transactions take row locks: session events, balance changes,
wallets, subscriptions. -/
namespace LLMPool.Billing
open Relational Transactions

def lockRank : Lock → Nat
  | .sessionEvent _ | .sessionIndex _ _ => 0
  | .balanceChange _ | .request _ => 1
  | .wallet _ | .walletOf _ => 2
  | .subscription _ => 3

section Locks
variable {calls : List (Call engine)}

abbrev Ordered (calls : List (Call engine)) (op : Op engine) : Prop := op.Climbs lockRank (session calls)

/-- The locks that are held rank below a bound. -/
def Under (bound : Nat) (calls : List (Call engine)) : Prop := ∀ l ∈ (session calls).held, lockRank l < bound

theorem Under.mono (under : Under low calls) (le : low ≤ high) : Under high calls :=
  fun l held => (under l held).trans_le le

theorem under_answered {s : Stmt} {answer : s.Answer} (under : Under bound calls)
    (taken : ∀ l ∈ locks s answer, lockRank l < bound) : Under bound (⟨.sql s, .ok answer⟩ :: calls) := by
  intro l held
  rw [session_answered] at held
  rcases List.mem_append.mp held with before | now
  · exact under l before
  · exact taken l now

theorem holds_still {s : Stmt} {answer : s.Answer} {l : Lock} (held : l ∈ (session calls).held) :
    l ∈ (session (E := engine) (⟨.sql s, .ok answer⟩ :: calls)).held := by
  rw [session_answered]
  exact List.mem_append_left _ held

theorem holds_taken {s : Stmt} {answer : s.Answer} {l : Lock} (taken : l ∈ locks s answer) :
    l ∈ (session (E := engine) (⟨.sql s, .ok answer⟩ :: calls)).held := by
  rw [session_answered]
  exact List.mem_append_right _ taken

/-- A statement whose locks rank at a bound that the locks held are below. -/
theorem ordered_sql {s : Stmt} (under : Under bound calls)
    (above : ∀ env db answer, exec s env db = some answer → ∀ l ∈ locks s answer, bound ≤ lockRank l) :
    Ordered calls (.sql s) := by
  refine Op.climbs_of_below bound under ?_
  rintro (reason | answer) sensible l taken
  · cases taken
  · obtain ⟨_, env, db, executed⟩ := sensible
    exact above env db answer executed l taken

/-- A statement that locks nothing. -/
theorem ordered_read {s : Stmt} (reads : ∀ answer, locks s answer = []) : Ordered calls (.sql s) := by
  refine Op.climbs_of_held ?_
  rintro (reason | answer) _ l taken
  · cases taken
  · cases (reads answer ▸ taken : l ∈ [])

theorem ordered_free {op : Op engine} (free : ∀ reply, op.takes reply = []) : Ordered calls op :=
  Op.climbs_of_held (fun reply _ _ taken => absurd (free reply ▸ taken) List.not_mem_nil)

theorem ordered_begin : Ordered calls .begin := ordered_free (fun reply => by cases reply <;> rfl)

theorem ordered_commit : Ordered calls .commit := ordered_free (fun reply => by cases reply <;> rfl)

theorem ordered_remote (c : Remote) : Ordered calls (.remote c) := ordered_free (fun reply => by cases reply <;> rfl)

end Locks

section Events
variable {calls : List (Call engine)}

theorem ordered_countUsage (modelId : Int) (usage : Option UsageInfo) :
    (countUsage modelId usage).path Ordered (fun _ _ => True) calls := by
  cases usage with
  | none => trivial
  | some u => exact path_bind.mpr (path_op (P := Ordered) (ordered_remote _) (fun _ _ => trivial))

theorem ordered_billUsage {provider : Provider} {accountId : Int} {e : SessionEvent} {usage : UsageInfo}
    {model : LLMModel} (under : Under 1 calls) :
    (billUsage provider accountId e usage model).path Ordered (fun _ _ => True) calls := by
  simp only [billUsage, NewBalanceChange.fromContent, createBalanceChangeWithTx]
  refine path_bind.mpr (path_query (P := Ordered) (ordered_sql under ?_) ?_ (fun _ => trivial))
  · intro _ _ c _ l taken
    simp only [locks, List.mem_cons, List.not_mem_nil, or_false] at taken
    rcases taken with rfl | rfl <;> exact le_rfl
  · intro c _ _
    refine path_bind.mpr (path_op (P := Ordered) ordered_commit ?_)
    rintro (reason | ⟨⟩) _
    · trivial
    · exact path_bind.mpr (path_op (P := Ordered) (ordered_remote _) (fun _ _ => trivial))

theorem ordered_handleEvent (event : EventTask EventData) :
    (handleEvent event).path Ordered (fun _ _ => True) calls := by
  rw [handleEvent, path_bind]
  refine path_mono (fun _ _ climbs => climbs) ?_ (ordered_countUsage _ _)
  rintro _ calls _
  refine path_bind.mpr (path_op (P := Ordered) ordered_begin ?_)
  rintro (reason | ⟨⟩) _
  · trivial
  have begun : Under 0 (⟨.begin, .ok ()⟩ :: calls) := fun _ never => absurd never List.not_mem_nil
  generalize (⟨.begin, .ok ()⟩ :: calls : List (Call engine)) = calls at begun
  dsimp only
  have read : (getModelWithTx event.modelId).run.path Ordered (fun _ => Under 0) calls := by
    rw [getModelWithTx, path_run_bind]
    refine path_query (P := Ordered) (ordered_read (fun _ => rfl)) (fun answer _ _ => path_fetchOne (fun _ => ?_))
      (fun _ => begun)
    exact under_answered begun (fun _ never => absurd never List.not_mem_nil)
  rw [path_bind]
  refine path_mono (fun _ _ climbs => climbs) ?_ read
  intro found calls under
  refine path_bind.mpr (path_query (P := Ordered) (ordered_sql under (fun _ _ _ _ _ _ => Nat.zero_le _)) ?_
    (fun _ => trivial))
  intro e _ _
  have stored : Under 1 (⟨.sql (.upsertSessionEvent (newSessionEvent event event.eventData.extractUsage
      found.toOption)), .ok e⟩ :: calls) := by
    refine under_answered (under.mono (Nat.zero_le 1)) ?_
    intro l taken
    simp only [locks, List.mem_cons, List.not_mem_nil, or_false] at taken
    rcases taken with rfl | rfl <;> exact Nat.zero_lt_one
  dsimp only
  split
  · exact ordered_billUsage stored
  · exact path_bind.mpr (path_op (P := Ordered) ordered_commit (fun _ _ => trivial))

end Events

section Settlements
variable {calls : List (Call engine)} {c : BalanceChange} {w : Wallet}

/-- A settlement holds the balance change, and it holds its wallet or nothing that ranks as high. -/
structure Settling (c : BalanceChange) (w : Wallet) (calls : List (Call engine)) : Prop where
  own : .balanceChange c.id ∈ (session calls).held
  wallet : .wallet w.id ∈ (session calls).held ∨ Under 2 calls

theorem ordered_accountWallet (own : .balanceChange c.id ∈ (session calls).held) (under : Under 2 calls) :
    (accountWalletWithTx c.accountId).run.path Ordered (fun result calls =>
      ∀ w, result = .ok w → Settling c w calls ∧ Under 3 calls) calls := by
  rw [accountWalletWithTx, path_run_bind]
  refine path_query (P := Ordered) (ordered_read (fun _ => rfl)) ?_ (fun reason w failed => by cases failed)
  rintro (_ | found) _ _
  · have read : Under 2 (⟨.sql (.findAccountWallet c.accountId), .ok none⟩ :: calls) :=
      under_answered under (fun _ never => absurd never List.not_mem_nil)
    have still : .balanceChange c.id ∈
        (session (⟨.sql (.findAccountWallet c.accountId), .ok none⟩ :: calls : List (Call engine))).held :=
      holds_still own
    refine path_query (P := Ordered) (ordered_sql read ?_) ?_ (fun reason w failed => by cases failed)
    · intro _ _ w _ l taken
      simp only [locks, List.mem_cons, List.not_mem_nil, or_false] at taken
      rcases taken with rfl | rfl <;> exact le_rfl
    · rintro made _ _ w ⟨⟩
      refine ⟨⟨holds_still still, .inl (holds_taken List.mem_cons_self)⟩, ?_⟩
      refine under_answered (read.mono (Nat.le_succ 2)) ?_
      intro l taken
      simp only [locks, List.mem_cons, List.not_mem_nil, or_false] at taken
      rcases taken with rfl | rfl <;> exact Nat.lt_succ_self 2
  · rintro w ⟨⟩
    have read : Under 2 (⟨.sql (.findAccountWallet c.accountId), .ok (some found)⟩ :: calls) :=
      under_answered under (fun _ never => absurd never List.not_mem_nil)
    exact ⟨⟨holds_still own, .inr read⟩, read.mono (Nat.le_succ 2)⟩

/-- A subscription is charged instead of the wallet: then the balance is stored as it is. -/
theorem ordered_charge {content : BalanceChangeContent} (settling : Settling c w calls) (under : Under 3 calls) :
    (chargeWithTx w c.accountId content).run.path Ordered (fun result calls =>
      ∀ balance subscriptionId, result = .ok (balance, subscriptionId) →
        .balanceChange c.id ∈ (session calls).held ∧ (balance ≠ w.balance → Settling c w calls)) calls := by
  cases content with
  | deposit amount | addCredit amount | withdraw amount =>
      rintro balance subscriptionId ⟨⟩
      exact ⟨settling.own, fun _ => settling⟩
  | spendToken spend =>
      rw [chargeWithTx, path_run_bind]
      refine path_query (P := Ordered) (ordered_read (fun _ => rfl)) ?_ (fun reason _ _ failed => by cases failed)
      rintro (_ | s) _ _
      · rintro balance subscriptionId ⟨⟩
        refine ⟨holds_still settling.own, fun _ => ⟨holds_still settling.own, settling.wallet.imp holds_still ?_⟩⟩
        exact fun below => under_answered below (fun _ never => absurd never List.not_mem_nil)
      · have read : Under 3 (⟨.sql (.getCurrentSubscription c.accountId (spend.inputTokens + spend.outputTokens)),
            .ok (some s)⟩ :: calls) := under_answered under (fun _ never => absurd never List.not_mem_nil)
        dsimp only
        rw [path_run_bind]
        refine path_query (P := Ordered) (ordered_sql read ?_) ?_ (fun reason _ _ failed => by cases failed)
        · intro _ _ _ _ l taken
          obtain rfl := List.mem_singleton.mp taken
          exact le_rfl
        · rintro _ _ _ balance subscriptionId ⟨⟩
          exact ⟨holds_still (holds_still settling.own), fun differs => absurd rfl differs⟩

theorem ordered_storeBalance {balance : BigDecimal} (own : .balanceChange c.id ∈ (session calls).held)
    (settling : balance ≠ w.balance → Settling c w calls) :
    (storeBalanceWithTx w balance).run.path Ordered (fun _ calls => .balanceChange c.id ∈ (session calls).held)
      calls := by
  rw [storeBalanceWithTx]
  split
  · rename_i differs
    have taken : ∀ answer, ∀ l ∈ locks (.updateWalletBalance w.id balance) answer, l = .wallet w.id := by
      rintro (_ | w') l taken
      · cases taken
      · exact List.mem_singleton.mp taken
    rw [path_run_bind]
    refine path_query (P := Ordered) ?_ (fun answer _ _ => path_fetchOne (fun _ => holds_still own)) (fun _ => own)
    rcases (settling differs).wallet with held | under
    · refine Op.climbs_of_held ?_
      rintro (reason | answer) _ l inside
      · cases inside
      · exact taken answer l inside ▸ held
    · refine ordered_sql under (fun _ _ answer _ l inside => ?_)
      rw [taken answer l inside]
      exact le_rfl
  · exact own

theorem ordered_applyBalanceChange {content : BalanceChangeContent}
    (own : .balanceChange c.id ∈ (session calls).held) (under : Under 2 calls) :
    (applyBalanceChangeWithTx c content).run.path Ordered (fun _ _ => True) calls := by
  rw [applyBalanceChangeWithTx]
  refine path_seq (ordered_accountWallet own under) ?_ (fun _ _ _ => trivial)
  intro w calls found
  obtain ⟨settling, under⟩ := found w rfl
  refine path_seq (ordered_charge settling under) ?_ (fun _ _ _ => trivial)
  rintro ⟨balance, subscriptionId⟩ calls charged
  obtain ⟨own, settling⟩ := charged balance subscriptionId rfl
  refine path_seq (ordered_storeBalance own settling) ?_ (fun _ _ _ => trivial)
  intro stored calls own
  rw [path_run_bind]
  refine path_query (P := Ordered) ?_ (fun _ _ _ => trivial) (fun _ => trivial)
  refine Op.climbs_of_held ?_
  rintro (reason | answer) _ l taken
  · cases taken
  · exact List.mem_singleton.mp taken ▸ own

theorem ordered_settleBalanceChange (task : BalanceChangeTask) :
    (settleBalanceChange task).path Ordered (fun _ _ => True) calls := by
  refine path_bind.mpr (path_op (P := Ordered) ordered_begin ?_)
  rintro (reason | ⟨⟩) _
  · trivial
  have begun : Under 1 (⟨.begin, .ok ()⟩ :: calls) := fun _ never => absurd never List.not_mem_nil
  refine path_bind.mpr (path_query (P := Ordered) (ordered_sql begun ?_) ?_ (fun _ => trivial))
  · rintro _ _ (_ | c) _ l taken
    · cases taken
    · obtain rfl := List.mem_singleton.mp taken
      exact le_rfl
  · rintro (_ | c) _ ⟨env, db, executed⟩
    · trivial
    have here : c.id = task.balanceChangeId := (Table.find_iff.mp (Option.some.inj executed)).2
    have own : .balanceChange c.id ∈ (session (E := engine)
        (⟨.sql (.findBalanceChangeForUpdate task.balanceChangeId), .ok (some c)⟩ :: ⟨.begin, .ok ()⟩ :: calls)).held :=
      holds_taken (here ▸ List.mem_cons_self)
    have under : Under 2 (⟨.sql (.findBalanceChangeForUpdate task.balanceChangeId), .ok (some c)⟩ ::
        ⟨.begin, .ok ()⟩ :: calls) := by
      refine under_answered (begun.mono (Nat.le_succ 1)) (fun l taken => ?_)
      obtain rfl := List.mem_singleton.mp taken
      exact Nat.lt_succ_self 1
    dsimp only
    split
    · trivial
    split
    · trivial
    rw [path_bind]
    refine path_mono (fun _ _ climbs => climbs) ?_ (ordered_applyBalanceChange own under)
    rintro (e | w) calls _
    · trivial
    refine path_bind.mpr (path_op (P := Ordered) ordered_commit ?_)
    rintro (reason | ⟨⟩) _
    · trivial
    · exact path_bind.mpr (path_op (P := Ordered) (ordered_remote _) (fun _ _ => trivial))

theorem ordered_balanceChangeWorker : balanceChangeWorker.Climbs lockRank := by
  refine path_bind.mpr (path_op (P := Ordered) (ordered_remote _) ?_)
  rintro (reason | (_ | task)) _
  · trivial
  · trivial
  · dsimp only
    rw [path_bind]
    refine path_mono (fun _ _ climbs => climbs) ?_ (ordered_settleBalanceChange task)
    exact fun _ _ _ => path_bind.mpr (path_op (P := Ordered) (ordered_remote _) (fun _ _ => trivial))

end Settlements

section Draws

instance : Nonempty engine.Env := ⟨Env.plain 0 1⟩

/-- Each sequence has an id that no row has. -/
theorem statements_drawn : Draws engine := by
  have drawn : ∀ {ρ υ : Type} [Row ρ Int υ] (t : Table ρ),
      ∃ env : Env, 0 < env.serial ∧ t.find env.serial = none := by
    intro ρ υ _ t
    obtain ⟨serial, positive, unused⟩ := t.exists_serial
    exact ⟨Env.plain 0 serial, positive, unused⟩
  intro s db
  cases s
  case insertWallet => exact (drawn db.wallets).imp (fun _ free => decide_eq_true free)
  case insertBalanceChange => exact (drawn db.balanceChanges).imp (fun _ free => decide_eq_true free)
  case upsertSessionEvent => exact (drawn db.sessionEvents).imp (fun _ free => decide_eq_true free)
  case insertSubscription => exact (drawn db.subscriptions).imp (fun _ free => decide_eq_true free)
  case insertApiCredential => exact (drawn db.apiCredentials).imp (fun _ free => decide_eq_true free)
  case insertFileMeta => exact (drawn db.fileMetas).imp (fun _ free => decide_eq_true free)
  case insertBatchMeta => exact (drawn db.batchMetas).imp (fun _ free => decide_eq_true free)
  case insertResponseMeta => exact (drawn db.responseMetas).imp (fun _ free => decide_eq_true free)
  all_goals exact ⟨Env.plain 0 1, rfl⟩

theorem lockRank_le (l : Lock) : lockRank l ≤ 3 := by
  cases l <;> simp [lockRank]

end Draws

end LLMPool.Billing
