import LLMPool.Billing.Quota
import LLMPool.Billing.Requests

/-! Settlements one at a time: wallets, subscriptions and recorded sources agree in
every state, and the order of the settlements does not matter. -/
namespace LLMPool.Billing
open Relational Transactions
variable {D : Discipline engine} {S : Settlement} {db₀ db db' : Db}
  {id : Int}

/-- The usage that a subscription has recorded: tokens, and money. -/
def usageOf (db : Db) (subscriptionId : Int) : Int × BigDecimal :=
  match db.subscriptions.find subscriptionId with
  | some r => (r.usedTotalTokens, r.usedMoney)
  | none => 0

def usageEffect (content : BalanceChangeContent) : Int × BigDecimal :=
  (tokensEffect content, moneyEffect content)

def usedMoneyOf (db : Db) (accountId : Int) : BigDecimal :=
  db.subscriptions.sum (fun r => if r.accountId = accountId then r.usedMoney else 0)

/-- In a serial run a settlement writes what it has read, and charges the row that
it has selected, as it is. -/
structure Settlement.Serial (S : Settlement) (db : Db) : Prop where
  current : S.stored = true → S.created = false → db.wallets.find S.wallet.id = some S.wallet
  charged : ∀ s ∈ S.charged, db.subscriptions.find s.id = some s ∧
    s.accountId = S.change.accountId ∧ ∃ spend, S.content = .spendToken spend

theorem Settlement.serial (serial : D.serial) (ready : S.Ready D db) (final : S.Final D db) :
    S.Serial db where
  current _ found := by
    have read := final.read serial found
    exact Table.find_iff.mpr ⟨(Table.lookup_iff.mp read).1, rfl⟩
  charged s charged := by
    obtain ⟨⟨spend, spends⟩, owner, _, _⟩ := ready.charges s charged
    obtain ⟨env, selected⟩ := final.selected serial spend spends
    have chosen : currentSubscription db env S.change.accountId spend.consumedTokens = some s :=
      selected.symm.trans charged
    exact ⟨(currentSubscription_spec chosen).1, owner, spend, spends⟩

theorem usageOf_some (found : db.subscriptions.find id = some r) :
    usageOf db id = (r.usedTotalTokens, r.usedMoney) := by
  simp only [usageOf, found]

theorem usageOf_congr (same : db'.subscriptions.find id = db.subscriptions.find id) :
    usageOf db' id = usageOf db id := by
  simp only [usageOf, same]

/-- A settlement adds its usage to the subscription it is recorded with. -/
theorem usageOf_writes (serial : S.Serial db) (positive : 0 < id) :
    usageOf (engine.applyAll S.writes db) id =
      usageOf db id + if S.subscriptionId = id then usageEffect S.content else 0 := by
  cases charged : S.charged with
  | none =>
      have other : S.subscriptionId ≠ id := by
        rw [Settlement.subscriptionId, charged]
        exact positive.ne
      rw [if_neg other, add_zero]
      exact usageOf_congr (find_subscription_writes other db)
  | some s =>
      by_cases here : S.subscriptionId = id
      · rw [if_pos here]
        obtain rfl : s.id = id := (subscriptionId_charged charged).symm.trans here
        obtain ⟨found, _⟩ := serial.charged s charged
        rw [usageOf_some found, usageOf_some (find_charged_writes charged found)]
        rfl
      · rw [if_neg here, add_zero]
        exact usageOf_congr (find_subscription_writes here db)

theorem usedMoneyOf_writes (serial : S.Serial db) (accountId : Int) :
    usedMoneyOf (engine.applyAll S.writes db) accountId = usedMoneyOf db accountId +
      if S.change.accountId = accountId ∧ S.subscriptionId ≠ 0 then moneyEffect S.content else 0 := by
  rw [usedMoneyOf, writes_subscriptions]
  cases charged : S.charged with
  | none =>
      have unrecorded : S.subscriptionId = 0 := by rw [Settlement.subscriptionId, charged]
      rw [if_neg (fun both => both.2 unrecorded), add_zero, Settlement.usage, charged]
      rfl
  | some s =>
      obtain ⟨found, owner, _⟩ := serial.charged s charged
      have recorded : S.subscriptionId ≠ 0 := by
        rw [subscriptionId_charged charged]
        exact s.id_pos.ne'
      rw [usage_charged charged, sum_setSubscriptionUsage _ found]
      by_cases mine : S.change.accountId = accountId
      · simp only [mine, if_true, withUsage, recorded, ne_eq, not_false_eq_true, and_self,
          add_sub_cancel_left, usedMoneyOf, owner]
      · simp only [mine, if_false, withUsage, false_and, sub_zero, add_zero, usedMoneyOf, owner]

/-- The rows of every other account are left as they were. -/
structure OnlyAccount (accountId : Int) (db db' : Db) : Prop where
  wallets : ∀ w : Wallet, w.accountId ≠ accountId → (w ∈ db'.wallets ↔ w ∈ db.wallets)
  subscriptions : ∀ r : Subscription, r.accountId ≠ accountId →
    (r ∈ db'.subscriptions ↔ r ∈ db.subscriptions)
  balanceChanges : ∀ c : BalanceChange, c.accountId ≠ accountId →
    (c ∈ db'.balanceChanges ↔ c ∈ db.balanceChanges)

theorem onlyAccount_writes (serial : S.Serial db) (ready : S.Ready D db) :
    OnlyAccount S.change.accountId db (engine.applyAll S.writes db) where
  wallets w other := by
    rw [writes_wallets]
    rw [← ready.owner] at other
    have created : w ∈ (engine.applyAll S.creation db).wallets ↔ w ∈ db.wallets := by
      cases new : S.created with
      | false => rw [creation_found new]
      | true =>
          rw [creation_created new]
          refine (Table.mem_insert (ready.fresh new).1).trans (or_iff_left ?_)
          rintro rfl
          exact other rfl
    cases stored : S.stored with
    | false => rw [payment_skipped stored, created]
    | true =>
        obtain ⟨found, _⟩ := wallet_creation ready (serial.current stored)
        rw [payment_stored stored, ← created]
        simp only [apply]
        refine Table.mem_modify_other (P := fun v => v.accountId = S.wallet.accountId) _ ?_
          (fun v (same : v.accountId = _) => same) other
        intro v member same
        exact congrArg Wallet.accountId (Option.some.inj
          ((Table.find_iff.mpr ⟨member, same⟩).symm.trans found))
  subscriptions r other := by
    rw [writes_subscriptions]
    cases charged : S.charged with
    | none =>
        rw [Settlement.usage, charged]
        rfl
    | some s =>
        obtain ⟨found, owner, _⟩ := serial.charged s charged
        rw [usage_charged charged]
        simp only [apply]
        refine Table.mem_modify_other (P := fun t => t.accountId = S.change.accountId) _ ?_
          (fun t (same : t.accountId = _) => same) other
        intro t member same
        rw [← owner]
        exact congrArg Subscription.accountId (Option.some.inj
          ((Table.find_iff.mpr ⟨member, same⟩).symm.trans found))
  balanceChanges c other := by
    rw [writes_balanceChanges]
    refine Table.mem_modify_other (P := fun d => d.accountId = S.change.accountId) _ ?_
      (fun d (same : d.accountId = _) => same) other
    intro d member same
    exact congrArg BalanceChange.accountId (Option.some.inj
      ((Table.find_iff.mpr ⟨member, same⟩).symm.trans ready.found))

/-- The balance change is recorded with a subscription of its account. -/
def ChargedTo (c : BalanceChange) (db : Db) : Prop :=
  ∃ r ∈ db.subscriptions, r.id = c.subscriptionId ∧ r.accountId = c.accountId ∧
    ∃ spend, BalanceChangeContent.fromValue c.content = .ok (.spendToken spend)

theorem ChargedTo.grows {c : BalanceChange} (charged : ChargedTo c db) (grows : Grows db db') :
    ChargedTo c db' := by
  obtain ⟨r, member, recorded, owner, spends⟩ := charged
  obtain ⟨r', found, same⟩ := grows.subscriptions r.id r (Table.find_of_mem member)
  obtain ⟨member', at_id⟩ := Table.find_iff.mp found
  exact ⟨r', member', at_id.trans recorded, same.accountId.trans owner, spends⟩

/-- What every state of a serial run has in common with the first. -/
structure Reconciled (db₀ db : Db) : Prop where
  balance : ∀ accountId, balanceOf db accountId = balanceOf db₀ accountId +
    settledSince db₀ (·.accountId = accountId) walletEffect db
  usage : ∀ id, 0 < id → usageOf db id = usageOf db₀ id +
    settledSince db₀ (·.subscriptionId = id) (fun _ => usageEffect) db
  source : ∀ c ∈ db.balanceChanges, c.isApplied = true → ¬Applied db₀ c.id →
    c.subscriptionId = 0 ∨ ChargedTo c db
  money : ∀ accountId, usedMoneyOf db accountId = usedMoneyOf db₀ accountId +
    settledSince db₀ (fun c => c.accountId = accountId ∧ c.subscriptionId ≠ 0)
      (fun _ => moneyEffect) db
  unchanged : ∀ g : BalanceChange → BigDecimal, (∀ c id, g (applied id c) = g c) →
    db.balanceChanges.sum g = db₀.balanceChanges.sum g

theorem Reconciled.start (db : Db) : Reconciled db db where
  balance _ := (add_eq_left.mpr (settledSince_start db)).symm
  usage _ _ := (add_eq_left.mpr (settledSince_start db)).symm
  source c member marked unapplied :=
    absurd ⟨c, Table.find_of_mem member, marked⟩ unapplied
  money _ := (add_eq_left.mpr (settledSince_start db)).symm
  unchanged _ _ := rfl

theorem Reconciled.settles (serial : D.serial) (reconciled : Reconciled db₀ db)
    (grows : Grows db₀ db) (settles : Settles D id db db') : Reconciled db₀ db' := by
  have growing := settles.grows
  obtain ⟨S, _, ready, final, rfl⟩ := settles
  have serially := S.serial serial ready final
  refine ⟨fun a => ?_, fun id positive => ?_, fun c member marked unapplied => ?_, fun a => ?_,
    fun g ignores => ?_⟩
  · rw [balanceOf_writes ready final serially.current, settledSince_writes ready grows,
      reconciled.balance, add_assoc]
    rfl
  · rw [usageOf_writes serially positive, settledSince_writes ready grows,
      reconciled.usage id positive, add_assoc]
    rfl
  · rw [writes_balanceChanges, Table.mem_modify] at member
    obtain ⟨d, member, rfl⟩ := member
    by_cases here : key d = S.change.id
    · have change : d = S.change :=
        Option.some.inj ((Table.find_iff.mpr ⟨member, here⟩).symm.trans ready.found)
      rw [Table.at_key, if_pos here, change]
      cases charged : S.charged with
      | none =>
          left
          simp only [applied, Settlement.subscriptionId, charged]
      | some s =>
          right
          obtain ⟨found, owner, spend, spends⟩ := serially.charged s charged
          have row := find_charged_writes charged found
          refine ⟨_, (Table.find_iff.mp row).1, ?_, owner, spend, ?_⟩
          · exact (subscriptionId_charged charged).symm
          · rw [← spends]
            exact ready.parsed
    · rw [Table.at_key, if_neg here] at marked unapplied ⊢
      exact (reconciled.source d member marked unapplied).imp_right (ChargedTo.grows · growing)
  · rw [usedMoneyOf_writes serially, settledSince_writes ready grows, reconciled.money, add_assoc]
    rfl
  · rw [writes_balanceChanges, Table.sum_modify_same g (fun c => ignores c _),
      reconciled.unchanged g ignores]

theorem usageOf_insertSubscription (fresh : db.subscriptions.find j = none) (id_pos : 0 < j)
    (id : Int) : usageOf (apply (.insertSubscription (newSubscription j accountId planId id_pos)) db) id =
      usageOf db id := by
  by_cases here : j = id
  · subst here
    have row : (apply (.insertSubscription (newSubscription j accountId planId id_pos)) db).subscriptions.find
        j = some (newSubscription j accountId planId id_pos) :=
      Table.find_insert_self ⟨fresh, fresh⟩
    rw [usageOf_some row, usageOf, fresh]
    rfl
  · exact usageOf_congr (Table.find_insert_ne _ here)

theorem usageOf_setSubscriptionStatus (j : Int) (status : SubscriptionStatus) (id : Int) :
    usageOf (apply (.setSubscriptionStatus j status) db) id = usageOf db id := by
  simp only [usageOf, apply, Table.find_modify]
  cases db.subscriptions.find id with
  | none => rfl
  | some r =>
      simp only [Option.map_some, Table.at_key]
      split <;> rfl

/-- An endpoint that creates or switches a subscription moves no money and no usage. -/
theorem Administers.usage (administers : Administers db db') :
    db'.wallets = db.wallets ∧ db'.balanceChanges = db.balanceChanges ∧
      (∀ id, usageOf db' id = usageOf db id) ∧ ∀ a, usedMoneyOf db' a = usedMoneyOf db a := by
  cases administers with
  | created j accountId planId id_pos fresh =>
      refine ⟨rfl, rfl, usageOf_insertSubscription fresh id_pos, fun a => ?_⟩
      have free : db.subscriptions.free (newSubscription j accountId planId id_pos) := ⟨fresh, fresh⟩
      have unused : (if accountId = a then (0 : BigDecimal) else 0) = 0 := by split <;> rfl
      exact (Table.sum_insert _ free).trans ((congrArg _ unused).trans (add_zero _))
  | switched j status =>
      refine ⟨rfl, rfl, usageOf_setSubscriptionStatus j status, fun a => ?_⟩
      simp only [usedMoneyOf, apply]
      exact Table.sum_modify_same _ (fun r => rfl)

theorem settledSince_congr {M : Type} [AddCommGroup M] {f : Int → BalanceChangeContent → M}
    {counts : BalanceChange → Prop} [DecidablePred counts]
    (same : db'.balanceChanges = db.balanceChanges) :
    settledSince db₀ counts f db' = settledSince db₀ counts f db := by
  rw [settledSince, same, settledSince]

theorem Reconciled.administers (reconciled : Reconciled db₀ db) (administers : Administers db db') :
    Reconciled db₀ db' := by
  obtain ⟨wallets, rows, usage, money⟩ := administers.usage
  refine ⟨fun a => ?_, fun id positive => ?_, fun c member marked unapplied => ?_, fun a => ?_,
    fun g ignores => ?_⟩
  · have kept : balanceOf db' a = balanceOf db a := balanceOf_congr (by rw [wallets])
    rw [kept, settledSince_congr rows, reconciled.balance]
  · rw [usage, settledSince_congr rows, reconciled.usage id positive]
  · rw [rows] at member
    exact (reconciled.source c member marked unapplied).imp_right (ChargedTo.grows · administers.grows)
  · rw [money, settledSince_congr rows, reconciled.money]
  · rw [rows, reconciled.unchanged g ignores]

/-- The settled balance changes of an account, each charged in full to its wallet. -/
def netSince (db₀ : Db) (accountId : Int) (db : Db) : BigDecimal :=
  settledSince db₀ (·.accountId = accountId) (fun _ => walletEffect 0) db

theorem walletEffect_split (id : Int) (content : BalanceChangeContent) :
    walletEffect id content =
      walletEffect 0 content + if id ≠ 0 then moneyEffect content else 0 := by
  cases content with
  | spendToken spend =>
      by_cases wallet : id = 0
      · simp [walletEffect, wallet]
      · simp [walletEffect, moneyEffect, wallet]
  | deposit | addCredit | withdraw => simp [walletEffect, moneyEffect]

theorem Reconciled.net (reconciled : Reconciled db₀ db) (accountId : Int) :
    balanceOf db accountId - (usedMoneyOf db accountId - usedMoneyOf db₀ accountId) =
      balanceOf db₀ accountId + netSince db₀ accountId db := by
  have split : settledSince db₀ (·.accountId = accountId) walletEffect db =
      netSince db₀ accountId db + settledSince db₀
        (fun c => c.accountId = accountId ∧ c.subscriptionId ≠ 0) (fun _ => moneyEffect) db := by
    rw [netSince, settledSince, settledSince, settledSince, ← Table.sum_add]
    refine Table.sum_congr (fun c _ => ?_)
    by_cases counted : c.accountId = accountId ∧ c.isApplied = true ∧ ¬Applied db₀ c.id
    · simp only [counted, and_self, not_false_eq_true, if_true, true_and, and_true, effect]
      cases BalanceChangeContent.fromValue c.content with
      | error e => simp
      | ok content => exact walletEffect_split c.subscriptionId content
    · have uncounted : ¬((c.accountId = accountId ∧ c.subscriptionId ≠ 0) ∧ c.isApplied = true ∧
          ¬Applied db₀ c.id) := fun both => counted ⟨both.1.1, both.2⟩
      rw [if_neg counted, if_neg counted, if_neg uncounted, add_zero]
  rw [reconciled.balance, reconciled.money, split]
  abel

/-- What the settled changes add up to depends on which they are, not on the order. -/
theorem netSince_congr (first : Reconciled db₀ db) (second : Reconciled db₀ db')
    (same : ∀ id, Applied db id ↔ Applied db' id) (accountId : Int) :
    netSince db₀ accountId db = netSince db₀ accountId db' := by
  have rows : ∀ {db : Db}, Reconciled db₀ db → netSince db₀ accountId db =
      db₀.balanceChanges.sum (fun c =>
        if c.accountId = accountId ∧ Applied db c.id ∧ ¬Applied db₀ c.id then
          effect (fun _ => walletEffect 0) c else 0) := by
    intro db reconciled
    rw [← reconciled.unchanged _ (fun c id => rfl)]
    refine Table.sum_congr (fun c member => ?_)
    have marked : c.isApplied = true ↔ Applied db c.id := by
      constructor
      · exact fun marked => ⟨c, Table.find_of_mem member, marked⟩
      · rintro ⟨d, found, marked⟩
        cases (Table.find_of_mem member).symm.trans found
        exact marked
    simp only [marked]
  rw [rows first, rows second]
  exact Table.sum_congr (fun c _ => by simp only [same])

section Runs
variable {ι : Type} [DecidableEq ι] {world : World} {request : ι → Request} {s : State engine ι}

/-- One transaction at a time; any call may fail. -/
def serially : Discipline engine := ⟨fun _ => True, True, fun _ _ _ => True⟩

theorem requests_reconciled (reached : Reaches serially (requests db world request) history s) :
    Reconciled db s.db := by
  obtain ⟨_, chain⟩ := requests_chain reached
  refine chain.invariant (I := fun _ => Reconciled db) (.start db) ?_
  intro history i writes mid earlier reconciled step
  have grows : Grows db mid := earlier.rel (R := growth) (fun _ _ _ => Request.grows)
  cases asked : request i with
  | settle task =>
      rw [asked] at step
      exact reconciled.settles trivial grows step
  | createSubscription | updateSubscription | cancelSubscription =>
      rw [asked] at step
      exact reconciled.administers step

/-- In every state of a serial run each wallet, each subscription and the recorded
source of each settled change agree; a settlement changes rows of its own account
only; and two runs that settle the same changes leave every account the same
balance less the money its subscriptions have paid. -/
theorem ledger_reconciled (reached : Reaches serially (requests db world request) history s) :
    (∀ accountId, balanceOf s.db accountId = balanceOf db accountId +
      settledSince db (·.accountId = accountId) walletEffect s.db) ∧
    (∀ r ∈ s.db.subscriptions, (r.usedTotalTokens, r.usedMoney) = usageOf db r.id +
      settledSince db (·.subscriptionId = r.id) (fun _ => usageEffect) s.db) ∧
    (∀ c ∈ s.db.balanceChanges, c.isApplied = true → ¬Applied db c.id →
      c.subscriptionId = 0 ∨ ChargedTo c s.db) ∧
    (∀ i task c writes s', request i = .settle task → Step serially s i writes s' →
      s.db.balanceChanges.find task.balanceChangeId = some c → OnlyAccount c.accountId s.db s'.db) ∧
    ∀ (κ : Type) [DecidableEq κ] (world' : World) (request' : κ → Request)
      (history' : History engine κ) (s' : State engine κ),
      Reaches serially (requests db world' request') history' s' →
      (∀ id, Applied s.db id ↔ Applied s'.db id) → ∀ accountId,
        balanceOf s.db accountId - (usedMoneyOf s.db accountId - usedMoneyOf db accountId) =
          balanceOf s'.db accountId - (usedMoneyOf s'.db accountId - usedMoneyOf db accountId) := by
  have reconciled := requests_reconciled reached
  refine ⟨reconciled.balance, ?_, reconciled.source, ?_, ?_⟩
  · intro r member
    rw [← reconciled.usage r.id r.id_pos]
    exact (usageOf_some (Table.find_of_mem member)).symm
  · intro i task c writes s' asked stepped found
    have step := (stepped.guaranteed (requests_chain reached).1).1
    rw [asked] at step
    cases writes with
    | nil =>
        rw [stepped.db]
        exact ⟨fun _ _ => Iff.rfl, fun _ _ => Iff.rfl, fun _ _ => Iff.rfl⟩
    | cons w ws =>
        obtain ⟨S, here, ready, final, rows⟩ := step (List.cons_ne_nil w ws)
        rw [rows]
        rw [← here] at found
        cases found.symm.trans ready.found
        exact onlyAccount_writes (S.serial trivial ready final) ready
  · intro κ _ world' request' history' s' reached' same accountId
    have reconciled' := requests_reconciled reached'
    rw [reconciled.net, reconciled'.net, netSince_congr reconciled reconciled' same]

instance : Discipline.Decides serially where
  faults _ := inferInstanceAs (Decidable True)
  serial := inferInstanceAs (Decidable True)
  admits _ _ _ := inferInstanceAs (Decidable True)

/-- Two spends, with the subscription deactivated in between. -/
def spendsApart (first second : Int) : Fin 3 → Request
  | 0 => .settle ⟨first⟩
  | 1 => .updateSubscription 1 "deactive"
  | 2 => .settle ⟨second⟩

theorem ledger_reconciled_either_way : ∃ history history' s s',
    Reaches serially (requests twoSpends .empty (spendsApart 1 2)) history s ∧
    Reaches serially (requests twoSpends .empty (spendsApart 2 1)) history' s' ∧
    balanceOf s.db 1 = -60 ∧ usageOf s.db 1 = (60, 60) ∧
    balanceOf s.db 1 - (usedMoneyOf s.db 1 - usedMoneyOf twoSpends 1) =
      balanceOf s'.db 1 - (usedMoneyOf s'.db 1 - usedMoneyOf twoSpends 1) := by
  have marks : ∀ {db db' : Db} {marks : List (Int × Bool)},
      db.balanceChanges.rows.map (fun c => (c.id, c.isApplied)) = marks →
      db'.balanceChanges.rows.map (fun c => (c.id, c.isApplied)) = marks →
      ∀ id, Applied db id ↔ Applied db' id := by
    intro db db' marks first second id
    rw [applied_iff, applied_iff, first, second]
  obtain ⟨history, s, reached, balance, usage, rows⟩ := State.exists_of_play serially
    (requests twoSpends .empty (spendsApart 1 2))
    (schedule [0, 0, 0, 0, 0, 0, 0, 0, 1, 2, 2, 2, 2, 2, 2, 2, 2])
    (fun s => balanceOf s.db 1 = -60 ∧ usageOf s.db 1 = (60, 60) ∧
      s.db.balanceChanges.rows.map (fun c => (c.id, c.isApplied)) = [(1, true), (2, true)])
    (by decide +kernel)
  obtain ⟨history', s', reached', rows'⟩ := State.exists_of_play serially
    (requests twoSpends .empty (spendsApart 2 1))
    (schedule [0, 0, 0, 0, 0, 0, 0, 0, 1, 2, 2, 2, 2, 2, 2, 2, 2])
    (fun s => s.db.balanceChanges.rows.map (fun c => (c.id, c.isApplied)) = [(1, true), (2, true)])
    (by decide +kernel)
  obtain ⟨_, _, _, _, order⟩ := ledger_reconciled reached
  exact ⟨history, history', s, s', reached, reached', balance, usage,
    order _ _ _ _ _ reached' (marks rows rows') 1⟩

end Runs

end LLMPool.Billing
