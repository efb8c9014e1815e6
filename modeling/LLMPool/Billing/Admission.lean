import LLMPool.Billing.WalletCache
import LLMPool.ProxyViews.Anthropic

/-! Who may send a request, and who could pay for it: the proxies ask the wallet alone,
while a settlement charges the current subscription first. -/
namespace LLMPool.Billing
open Relational Transactions ProxyViews
variable {insufficient : String} {accountId : Int} {env : Env} {m : Solo engine}

/-- The check lets the handler run, whichever it is. -/
def Admits (insufficient : String) (accountId : Int) (env : Env) (m : Solo engine) : Prop :=
  ∃ m', ∀ (α : Type) (next : Action (Reply α)),
    (checkWalletBalance insufficient accountId next).alone env m = next.alone env m'

/-- The check answers in the handler's place. -/
def Rejects (insufficient : String) (accountId : Int) (env : Env) (m : Solo engine) : Prop :=
  ∃ m' message code, ∀ (α : Type) (next : Action (Reply α)),
    (checkWalletBalance insufficient accountId next).alone env m =
      some (.error .paymentRequired message "insufficient_wallets" code, m')

theorem not_admits_of_rejects (rejects : Rejects insufficient accountId env m) :
    ¬Admits insufficient accountId env m := by
  rintro ⟨m', admitted⟩
  obtain ⟨m₁, message, code, rejected⟩ := rejects
  have both := (admitted Unit (pure .events)).symm.trans (rejected Unit (pure .events))
  cases both

def hasMoney (db : Db) (accountId : Int) : Bool :=
  (db.wallets.lookup accountId).any (fun wallet => decide (0 < wallet.balance))

/-- The check decides by the wallet's balance. -/
theorem checkWalletBalance_decides (insufficient : String) (env : Env)
    (cached : Cached accountId m.db m.world) :
    if hasMoney m.db accountId then Admits insufficient accountId env m
    else Rejects insufficient accountId env m := by
  have known : ((accountWallet accountId).alone env m).map Prod.fst =
      some (.ok (m.db.wallets.lookup accountId)) := alone_accountWallet_cached cached
  obtain ⟨⟨found, m'⟩, read, same⟩ := Option.map_eq_some_iff.mp known
  cases same
  cases wallet : m.db.wallets.lookup accountId with
  | none =>
      have missing : hasMoney m.db accountId = false := by rw [hasMoney, wallet]; rfl
      rw [missing]
      refine ⟨m', [.string "No wallet record found for this account."], some "no_wallet_record",
        fun α next => ?_⟩
      rw [checkWalletBalance, alone_then read, wallet]
      rfl
  | some w =>
      have balance : hasMoney m.db accountId = decide (0 < w.balance) := by rw [hasMoney, wallet]; rfl
      by_cases positive : 0 < w.balance
      · rw [balance, decide_eq_true positive]
        refine ⟨m', fun α next => ?_⟩
        rw [checkWalletBalance, alone_then read, wallet]
        simp only [not_le.mpr positive, if_false]
      · rw [balance, decide_eq_false positive]
        refine ⟨m', [.string insufficient], some "insufficient_wallets", fun α next => ?_⟩
        rw [checkWalletBalance, alone_then read, wallet]
        simp only [not_lt.mp positive, if_true]
        rfl

/-- The account has a subscription with quota left, or money. -/
def CanPay (db : Db) (env : Env) (accountId : Int) : Prop :=
  currentSubscription db env accountId 1 ≠ none ∨ hasMoney db accountId = true

/-- The check admits the accounts that can pay, and no others. -/
def Agrees (insufficient : String) (accountId : Int) (env : Env) (m : Solo engine) : Prop :=
  (CanPay m.db env accountId → Admits insufficient accountId env m) ∧
    (¬CanPay m.db env accountId → Rejects insufficient accountId env m)

/-- Admission and settlement agree on the accounts with money, and on those that have
no current subscription. -/
theorem checkWalletBalance_agrees_iff (insufficient : String) (accountId : Int) (env : Env)
    (m : Solo engine) (cached : Cached accountId m.db m.world) :
    Agrees insufficient accountId env m ↔
      hasMoney m.db accountId = true ∨ currentSubscription m.db env accountId 1 = none := by
  have decided := checkWalletBalance_decides insufficient env cached
  cases rich : hasMoney m.db accountId with
  | true =>
      rw [rich] at decided
      have able : CanPay m.db env accountId := .inr rich
      exact ⟨fun _ => .inl rfl, fun _ => ⟨fun _ => decided, fun unable => absurd able unable⟩⟩
  | false =>
      rw [rich] at decided
      have onlySubscription : CanPay m.db env accountId ↔ currentSubscription m.db env accountId 1 ≠ none := by
        simp only [CanPay, rich, Bool.false_eq_true, or_false]
      constructor
      · rintro ⟨admitted, _⟩
        by_contra neither
        have subscribed := onlySubscription.mpr (fun missing => neither (.inr missing))
        exact not_admits_of_rejects decided (admitted subscribed)
      · rintro (never | unsubscribed)
        · cases never
        · exact ⟨fun able => absurd unsubscribed (onlySubscription.mp able), fun _ => decided⟩

/-- A subscriber whose wallet is empty. -/
def subscriber : Db :=
  { Db.empty with
    wallets := Table.empty.insert ⟨1, 1, 0⟩
    subscriptions := Table.empty.insert ⟨1, 1, 1, .active, some 0, some 9, 0, 100, 0, 0, Int.one_pos⟩ }

theorem a_subscriber_is_rejected :
    ¬ ∀ (insufficient : String) (accountId : Int) (env : Env) (m : Solo engine),
      Cached accountId m.db m.world → Agrees insufficient accountId env m := by
  intro agrees
  have subscribed : CanPay subscriber (.plain 1 1) 1 := .inl (by decide)
  obtain ⟨m', admitted⟩ := (agrees insufficientBalance 1 (.plain 1 1) ⟨[], subscriber, .empty⟩ (.inl rfl)).1
    subscribed
  have answered := admitted Unit (pure .events)
  cases answered

theorem checkWalletBalance_agrees_paying :
    Agrees insufficientBalance 1 (.plain 1 1)
      ⟨[], { Db.empty with wallets := Table.empty.insert ⟨1, 1, 5⟩ }, .empty⟩ :=
  (checkWalletBalance_agrees_iff insufficientBalance 1 _ _ (.inl rfl)).mpr (.inl (by decide +kernel))

end LLMPool.Billing
