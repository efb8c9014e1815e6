import LLMPool.Billing.AtMostOnce

/-! The sums that settlements are to keep: each wallet against the balance changes
settled for its account, each subscription against those recorded with it. -/
namespace LLMPool.Billing
open Relational Transactions

/-- An account without a wallet has a balance of zero. -/
def balanceOf (db : Db) (accountId : Int) : BigDecimal :=
  match db.wallets.lookup accountId with
  | some w => w.balance
  | none => 0

/-- The effect of a balance change, given the subscription it is recorded with. -/
def effect {M : Type} [Zero M] (f : Int → BalanceChangeContent → M) (c : BalanceChange) : M :=
  match BalanceChangeContent.fromValue c.content with
  | .ok content => f c.subscriptionId content
  | .error _ => 0

section Sums
variable {M : Type} [AddCommGroup M] {f : Int → BalanceChangeContent → M}
  {counts : BalanceChange → Prop} [DecidablePred counts]

/-- The summed effects of the balance changes that have been applied since `db`. -/
def settledSince (db : Db) (counts : BalanceChange → Prop) [DecidablePred counts]
    (f : Int → BalanceChangeContent → M) (db' : Db) : M :=
  db'.balanceChanges.sum (fun c =>
    if counts c ∧ c.isApplied = true ∧ ¬Applied db c.id then effect f c else 0)

theorem settledSince_start (db : Db) : settledSince db counts f db = 0 := by
  apply Table.sum_zero
  rintro c member
  rw [if_neg]
  rintro ⟨_, marked, unapplied⟩
  exact unapplied ⟨c, Table.find_of_mem member, marked⟩

variable {D : Discipline engine} {S : Settlement} {db₀ db : Db}

/-- A settlement adds its own effect to the sum. -/
theorem settledSince_writes (ready : S.Ready D db) (grows : Grows db₀ db) :
    settledSince db₀ counts f (engine.applyAll S.writes db) =
      settledSince db₀ counts f db +
        if counts (applied S.subscriptionId S.change) then f S.subscriptionId S.content else 0 := by
  have unapplied : ¬Applied db₀ S.change.id := by
    intro before
    obtain ⟨c, found, marked⟩ := before.grows grows
    cases found.symm.trans ready.found
    exact absurd (ready.unapplied.symm.trans marked) Bool.false_ne_true
  have content : effect f (applied S.subscriptionId S.change) = f S.subscriptionId S.content := by
    simp only [effect, applied, ready.parsed]
  rw [settledSince, writes_balanceChanges, Table.sum_modify _ ready.found, content]
  simp only [applied, ready.unapplied, unapplied, not_false_eq_true, and_true, and_self,
    Bool.false_eq_true, and_false, if_false, sub_zero]
  rfl

end Sums

variable {D : Discipline engine} {S : Settlement} {db : Db}

theorem writes_wallets (S : Settlement) (db : Db) :
    (engine.applyAll S.writes db).wallets =
      (engine.applyAll S.payment (engine.applyAll S.creation db)).wallets := by
  obtain ⟨change, content, wallet, created, charged, stored⟩ := S
  cases created <;> cases charged <;> cases stored <;> rfl

theorem balanceOf_some (found : db.wallets.lookup accountId = some w) :
    balanceOf db accountId = w.balance := by
  simp only [balanceOf, found]

theorem balanceOf_none (missing : db.wallets.lookup accountId = none) :
    balanceOf db accountId = 0 := by
  simp only [balanceOf, missing]

theorem balanceOf_congr (same : db.wallets.lookup accountId = db'.wallets.lookup accountId) :
    balanceOf db accountId = balanceOf db' accountId := by
  simp only [balanceOf, same]

theorem balanceOf_setWalletBalance (found : db.wallets.find w.id = some w) (accountId : Int) :
    balanceOf (apply (.setWalletBalance w.id balance) db) accountId =
      if accountId = w.accountId then balance else balanceOf db accountId := by
  have member := (Table.find_iff.mp found).1
  split
  · rename_i owner
    have known : db.wallets.lookup accountId = some w := Table.lookup_iff.mpr ⟨member, owner.symm⟩
    refine balanceOf_some (w := withBalance balance w) ?_
    simp only [apply, Table.lookup_modify, known, Option.map_some, Table.at_key]
    exact congrArg some (if_pos rfl)
  · rename_i other
    refine balanceOf_congr ?_
    simp only [apply, Table.lookup_modify]
    cases known : db.wallets.lookup accountId with
    | none => rfl
    | some w' =>
        obtain ⟨inside, owner⟩ := Table.lookup_iff.mp known
        have apart : key w' ≠ w.id := by
          intro at_id
          cases Table.eq_of_key inside member at_id
          exact other owner.symm
        rw [Option.map_some, Table.at_key, if_neg apart]

theorem balanceOf_insertWallet (free : db.wallets.free w) (accountId : Int) :
    balanceOf (apply (.insertWallet w) db) accountId =
      if accountId = w.accountId then w.balance else balanceOf db accountId := by
  split
  · rename_i owner
    subst owner
    exact balanceOf_some (Table.lookup_insert_self free)
  · rename_i other
    exact balanceOf_congr (Table.lookup_insert_ne _ (Ne.symm other))

theorem creation_found (found : S.created = false) (db : Db) :
    engine.applyAll S.creation db = db := by
  rw [Settlement.creation, found]
  rfl

theorem creation_created (created : S.created = true) (db : Db) :
    engine.applyAll S.creation db = apply (.insertWallet S.wallet) db := by
  rw [Settlement.creation, created]
  rfl

theorem payment_skipped (unstored : S.stored = false) (db : Db) :
    engine.applyAll S.payment db = db := by
  rw [Settlement.payment, unstored]
  rfl

theorem payment_stored (stored : S.stored = true) (db : Db) :
    engine.applyAll S.payment db = apply (.setWalletBalance S.wallet.id S.newBalance) db := by
  rw [Settlement.payment, stored]
  rfl

/-- The wallet of a settlement, found or created, before its balance is stored. -/
theorem wallet_creation (ready : S.Ready D db)
    (current : S.created = false → db.wallets.find S.wallet.id = some S.wallet) :
    (engine.applyAll S.creation db).wallets.find S.wallet.id = some S.wallet ∧
      balanceOf db S.wallet.accountId = S.wallet.balance := by
  cases new : S.created with
  | false =>
      have row := current new
      rw [creation_found new]
      exact ⟨row, balanceOf_some (Table.lookup_iff.mpr ⟨(Table.find_iff.mp row).1, rfl⟩)⟩
  | true =>
      obtain ⟨free, zero⟩ := ready.fresh new
      rw [creation_created new, zero]
      exact ⟨Table.find_insert_self free, balanceOf_none free.2⟩

theorem balanceOf_creation (ready : S.Ready D db) (accountId : Int) :
    balanceOf (engine.applyAll S.creation db) accountId = balanceOf db accountId := by
  cases new : S.created with
  | false => rw [creation_found new]
  | true =>
      obtain ⟨free, zero⟩ := ready.fresh new
      rw [creation_created new, balanceOf_insertWallet free]
      split
      · rename_i owner
        rw [zero, owner]
        exact (balanceOf_none free.2).symm
      · rfl

/-- A settlement that does not overwrite another's balance moves its effect into
the wallet of its account, and leaves every other balance alone. -/
theorem balanceOf_writes (ready : S.Ready D db) (final : S.Final D db)
    (current : S.stored = true → S.created = false → db.wallets.find S.wallet.id = some S.wallet)
    (accountId : Int) :
    balanceOf (engine.applyAll S.writes db) accountId = balanceOf db accountId +
      if S.change.accountId = accountId then walletEffect S.subscriptionId S.content else 0 := by
  have rows : balanceOf (engine.applyAll S.writes db) accountId =
      balanceOf (engine.applyAll S.payment (engine.applyAll S.creation db)) accountId :=
    balanceOf_congr (by rw [writes_wallets])
  have amount : S.newBalance = S.wallet.balance + walletEffect S.subscriptionId S.content := rfl
  rw [rows, ← ready.owner]
  cases stored : S.stored with
  | false =>
      have still : walletEffect S.subscriptionId S.content = 0 := by
        have equal : S.newBalance = S.wallet.balance := by
          by_contra different
          exact absurd (stored.symm.trans (final.stored.mpr different)) Bool.false_ne_true
        rw [amount] at equal
        exact add_eq_left.mp equal
      rw [payment_skipped stored, balanceOf_creation ready, still, ite_self, add_zero]
  | true =>
      obtain ⟨found, balance⟩ := wallet_creation ready (current stored)
      rw [payment_stored stored, balanceOf_setWalletBalance found, balanceOf_creation ready]
      by_cases owner : accountId = S.wallet.accountId
      · rw [if_pos owner, if_pos owner.symm, owner, balance, amount]
      · rw [if_neg owner, if_neg (Ne.symm owner), add_zero]

theorem writes_subscriptions (S : Settlement) (db : Db) :
    (engine.applyAll S.writes db).subscriptions = (engine.applyAll S.usage db).subscriptions := by
  obtain ⟨change, content, wallet, created, charged, stored⟩ := S
  cases created <;> cases charged <;> cases stored <;> rfl

theorem usage_charged (charged : S.charged = some s) (db : Db) :
    engine.applyAll S.usage db = apply (.setSubscriptionUsage s.id
      (s.usedTotalTokens + tokensEffect S.content) (s.usedMoney + moneyEffect S.content)) db := by
  rw [Settlement.usage, charged]
  rfl

theorem subscriptionId_charged (charged : S.charged = some s) : S.subscriptionId = s.id := by
  rw [Settlement.subscriptionId, charged]

theorem find_setSubscriptionUsage_ne {id : Int} (other : id ≠ j) (db : Db) :
    (apply (.setSubscriptionUsage j tokens money) db).subscriptions.find id =
      db.subscriptions.find id := by
  simp only [apply]
  exact Table.find_modify_ne _ other

theorem find_setSubscriptionUsage_self (db : Db) :
    (apply (.setSubscriptionUsage j tokens money) db).subscriptions.find j =
      (db.subscriptions.find j).map (withUsage tokens money) := by
  simp only [apply]
  exact Table.find_modify_self _

theorem sum_setSubscriptionUsage {M : Type} [AddCommGroup M] (g : Subscription → M)
    (found : db.subscriptions.find j = some r) :
    (apply (.setSubscriptionUsage j tokens money) db).subscriptions.sum g =
      db.subscriptions.sum g + (g (withUsage tokens money r) - g r) := by
  simp only [apply]
  exact Table.sum_modify g found

/-- The subscriptions that a settlement does not charge stay as they were. -/
theorem find_subscription_writes {id : Int} (apart : S.subscriptionId ≠ id) (db : Db) :
    (engine.applyAll S.writes db).subscriptions.find id = db.subscriptions.find id := by
  rw [writes_subscriptions]
  cases charged : S.charged with
  | none =>
      rw [Settlement.usage, charged]
      rfl
  | some s =>
      rw [subscriptionId_charged charged] at apart
      rw [usage_charged charged, find_setSubscriptionUsage_ne (Ne.symm apart)]

theorem find_charged_writes (charged : S.charged = some s) (found : db.subscriptions.find s.id = some r) :
    (engine.applyAll S.writes db).subscriptions.find s.id =
      some (withUsage (s.usedTotalTokens + tokensEffect S.content)
        (s.usedMoney + moneyEffect S.content) r) := by
  rw [writes_subscriptions, usage_charged charged, find_setSubscriptionUsage_self, found,
    Option.map_some]

end LLMPool.Billing
