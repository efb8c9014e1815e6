import LLMPool.Billing.Reconciliation
import LLMPool.Transactions.Alone

/-! Subscriptions bought through the admin endpoints, and the spends that are
settled after them. -/
namespace LLMPool.Billing
open Relational Transactions

section Settled
variable {env : Env} {db : Db} {m : Solo engine} {ws : List Write} {c : BalanceChange}
  {spend : SpendToken} {accountId : Int} {world : World}

/-- A program that runs by itself is inside a transaction that has written `ws`. -/
structure Inside (db : Db) (ws : List Write) (m : Solo engine) : Prop where
  rows : m.db = db
  running : (session m.calls).isOpen = true
  sound : (session m.calls).failed = false
  wrote : (session m.calls).writes = ws

theorem alone_query {s : Stmt} (answer : s.Answer) (inside : Inside db ws m)
    (drawn : possible s env (engine.applyAll ws db) = true)
    (executed : exec s env (engine.applyAll ws db) = some answer) :
    ∃ m', (Query.sql s).run.alone env m = some (.ok answer, m') ∧
      Inside db (ws ++ writes s answer) m' := by
  obtain ⟨rfl, running, sound, rfl⟩ := inside
  have performed : Op.perform env (session m.calls) m.db m.world (.sql s) = some (.ok answer) := by
    simp only [Op.perform, running, sound, Op.answer, Session.view, drawn, executed, Bool.not_false,
      Bool.and_self, if_true]
  refine ⟨⟨⟨.sql s, .ok answer⟩ :: m.calls, m.db, m.world⟩, ?_, rfl, running, sound, rfl⟩
  simp only [Query.sql, ExceptT.run_mk, alone_bind, Prog.sql, Prog.op, Prog.alone, Op.alone, performed]
  rfl

theorem alone_seq {x : Query α} {f : α → Query β} {I J : Solo engine → Prop}
    (first : ∃ m₁, x.run.alone env m = some (.ok value, m₁) ∧ I m₁)
    (rest : ∀ m₁, I m₁ → ∃ m', (f value).run.alone env m₁ = some (result, m') ∧ J m') :
    ∃ m', (x >>= f).run.alone env m = some (result, m') ∧ J m' := by
  obtain ⟨m₁, ran, here⟩ := first
  obtain ⟨m', ends, there⟩ := rest m₁ here
  refine ⟨m', ?_, there⟩
  rw [ExceptT.run_bind, alone_then ran]
  exact ends

/-- The wallet that a settlement finds, or creates with the id it draws. -/
def walletOf (env : Env) (db : Db) (accountId : Int) : Wallet :=
  (db.wallets.lookup accountId).getD ⟨env.serial, accountId, 0⟩

def chargeOf (env : Env) (db : Db) (c : BalanceChange) (spend : SpendToken) : Settlement where
  change := c
  content := .spendToken spend
  wallet := walletOf env db c.accountId
  created := (db.wallets.lookup c.accountId).isNone
  charged := currentSubscription db env c.accountId spend.consumedTokens
  stored := false

/-- The settlement of a spend that runs by itself. -/
def settlementOf (env : Env) (db : Db) (c : BalanceChange) (spend : SpendToken) : Settlement :=
  let S := chargeOf env db c spend
  { S with stored := S.newBalance ≠ S.wallet.balance }

theorem alone_accountWallet (spend : SpendToken) (inside : Inside db [] m)
    (drawn : 0 < env.serial ∧ db.wallets.find env.serial = none) :
    ∃ m', (accountWalletWithTx c.accountId).run.alone env m =
        some (.ok (settlementOf env db c spend).wallet, m') ∧
      Inside db (settlementOf env db c spend).creation m' := by
  have read : exec (.findAccountWallet c.accountId) env (engine.applyAll [] db) =
      some (db.wallets.lookup c.accountId) := rfl
  obtain known | ⟨w, known⟩ := Option.eq_none_or_eq_some (db.wallets.lookup c.accountId)
  all_goals simp only [accountWalletWithTx, settlementOf, Settlement.creation, chargeOf, walletOf, known]
  · refine alone_seq (alone_query none inside rfl (read.trans (congrArg some known)))
      (fun m₁ inside => ?_)
    exact alone_query (s := .insertWallet c.accountId 0) ⟨env.serial, c.accountId, 0⟩ inside
      (decide_eq_true drawn) (if_pos known)
  · exact alone_seq (alone_query (some w) inside rfl (read.trans (congrArg some known)))
      (fun m₁ inside => ⟨m₁, rfl, inside⟩)

theorem creation_subscriptions (S : Settlement) (db : Db) :
    (engine.applyAll S.creation db).subscriptions = db.subscriptions := by
  cases new : S.created with
  | false => rw [creation_found new]
  | true => rw [creation_created new]; rfl

theorem alone_charge (inside : Inside db (settlementOf env db c spend).creation m) :
    ∃ m', (chargeWithTx (settlementOf env db c spend).wallet c.accountId (.spendToken spend)).run.alone
        env m = some (.ok ((settlementOf env db c spend).newBalance,
          (settlementOf env db c spend).subscriptionId), m') ∧
      Inside db ((settlementOf env db c spend).creation ++ (settlementOf env db c spend).usage) m' := by
  have selected : exec (.getCurrentSubscription c.accountId spend.consumedTokens) env
      (engine.applyAll (settlementOf env db c spend).creation db) =
        some (settlementOf env db c spend).charged := by
    simp only [exec, currentSubscription, creation_subscriptions, settlementOf, chargeOf]
  have owed : (settlementOf env db c spend).content = .spendToken spend := rfl
  rw [chargeWithTx, Settlement.newBalance, Settlement.subscriptionId, Settlement.usage, owed]
  generalize settlementOf env db c spend = S at *
  cases chosen : S.charged with
  | some s =>
      refine alone_seq (alone_query (some s) inside rfl (selected.trans (congrArg some chosen)))
        (fun m₁ inside => ?_)
      rw [show writes _ _ = [] from rfl, List.append_nil] at inside
      refine alone_seq (alone_query () inside rfl rfl) (fun m₂ inside => ⟨m₂, ?_, inside⟩)
      dsimp only
      rw [walletEffect_charged, add_zero]
      rfl
  | none =>
      refine alone_seq (alone_query none inside rfl (selected.trans (congrArg some chosen)))
        (fun m₁ inside => ⟨m₁, ?_, inside⟩)
      dsimp only [walletEffect]
      rw [if_pos rfl, ← sub_eq_add_neg]
      rfl

theorem alone_storeBalance {wallet : Wallet} (balance : BigDecimal) (inside : Inside db ws m)
    (row : (engine.applyAll ws db).wallets.find wallet.id = some wallet) :
    ∃ m', (storeBalanceWithTx wallet balance).run.alone env m =
        some (.ok (withBalance balance wallet), m') ∧
      Inside db (ws ++ if balance ≠ wallet.balance then [.setWalletBalance wallet.id balance] else [])
        m' := by
  rw [storeBalanceWithTx]
  split
  · have stored : exec (.updateWalletBalance wallet.id balance) env (engine.applyAll ws db) =
        some (some (withBalance balance wallet)) := by
      simp only [exec, row, Option.map_some]
    refine alone_seq (alone_query (some (withBalance balance wallet)) inside rfl stored)
      (fun m₁ inside => ⟨m₁, rfl, ?_⟩)
    rw [show writes _ _ = [Write.setWalletBalance wallet.id balance] from rfl] at inside
    exact inside
  · rename_i same
    have equal : withBalance balance wallet = wallet := by
      rw [not_not.mp same]
      rfl
    exact ⟨m, by rw [equal]; rfl, by rwa [List.append_nil]⟩

/-- The wallet that was found or created is there when its balance is stored. -/
theorem find_wallet (drawn : 0 < env.serial ∧ db.wallets.find env.serial = none) :
    (engine.applyAll ((settlementOf env db c spend).creation ++ (settlementOf env db c spend).usage)
      db).wallets.find (settlementOf env db c spend).wallet.id =
        some (settlementOf env db c spend).wallet := by
  have usage : ∀ (S : Settlement) (db : Db), (engine.applyAll S.usage db).wallets = db.wallets := by
    intro S db
    rw [Settlement.usage]
    cases S.charged <;> rfl
  rw [Engine.applyAll_append, usage]
  obtain known | ⟨w, known⟩ := Option.eq_none_or_eq_some (db.wallets.lookup c.accountId)
  all_goals simp only [settlementOf, Settlement.creation, chargeOf, walletOf, known]
  · have free : db.wallets.free ⟨env.serial, c.accountId, 0⟩ := ⟨drawn.2, known⟩
    exact Table.find_insert_self free
  · exact Table.find_of_mem (Table.lookup_iff.mp known).1

theorem payment_settlementOf : (settlementOf env db c spend).payment =
    if (settlementOf env db c spend).newBalance ≠ (settlementOf env db c spend).wallet.balance then
      [.setWalletBalance (settlementOf env db c spend).wallet.id
        (settlementOf env db c spend).newBalance]
    else [] := by
  rw [Settlement.payment]
  exact if_congr decide_eq_true_iff rfl rfl

theorem alone_applyBalanceChange (c : BalanceChange) (spend : SpendToken) (inside : Inside db [] m)
    (drawn : 0 < env.serial ∧ db.wallets.find env.serial = none) :
    ∃ m', (applyBalanceChangeWithTx c (.spendToken spend)).run.alone env m =
        some (.ok (withBalance (settlementOf env db c spend).newBalance
          (settlementOf env db c spend).wallet), m') ∧
      Inside db (settlementOf env db c spend).writes m' := by
  refine alone_seq (alone_accountWallet spend inside drawn) (fun m₁ inside => ?_)
  refine alone_seq (alone_charge inside) (fun m₂ inside => ?_)
  refine alone_seq (alone_storeBalance _ inside (find_wallet drawn)) (fun m₃ inside => ?_)
  refine alone_seq (alone_query () inside rfl rfl) (fun m₄ inside => ⟨m₄, rfl, ?_⟩)
  rw [Settlement.writes, Settlement.pending, payment_settlementOf]
  exact inside

theorem alone_settleBalanceChange {id : Int} (found : db.balanceChanges.find id = some c)
    (unapplied : c.isApplied = false)
    (parsed : BalanceChangeContent.fromValue c.content = .ok (.spendToken spend))
    (drawn : 0 < env.serial ∧ db.wallets.find env.serial = none) :
    ∃ m', (settleBalanceChange ⟨id⟩).alone env ⟨[], db, world⟩ = some ((), m') ∧
      m'.db = engine.applyAll (settlementOf env db c spend).writes db := by
  obtain rfl : c.id = id := (Table.find_iff.mp found).2
  have begun : Inside db [] ⟨[⟨.begin, .ok ()⟩], db, world⟩ := ⟨rfl, rfl, rfl, rfl⟩
  have opened : Prog.begin.alone env ⟨[], db, world⟩ =
      some (.ok (), (⟨[⟨.begin, .ok ()⟩], db, world⟩ : Solo engine)) := rfl
  have query : ∃ m₁, (findBalanceChangeByIdWithTx c.id).run.alone env ⟨[⟨.begin, .ok ()⟩], db, world⟩ =
      some (.ok (some c), m₁) ∧ Inside db [] m₁ := by
    refine alone_query (s := .findBalanceChangeForUpdate c.id) (some c) begun rfl ?_
    exact congrArg some found
  obtain ⟨m₁, read, inside⟩ := query
  obtain ⟨m₂, ran, rows, running, sound, wrote⟩ :=
    alone_applyBalanceChange c spend inside drawn
  rw [settleBalanceChange, alone_then opened]
  dsimp only
  rw [alone_then read]
  simp only [unapplied, Bool.false_eq_true, if_false, parsed]
  rw [alone_then ran]
  refine ⟨_, rfl, ?_⟩
  simp only [Op.commits, sound, wrote, rows, Bool.false_eq_true, if_false]
  rfl

theorem ready_settlementOf {D : Discipline engine} (found : db.balanceChanges.find c.id = some c)
    (unapplied : c.isApplied = false)
    (parsed : BalanceChangeContent.fromValue c.content = .ok (.spendToken spend))
    (drawn : 0 < env.serial ∧ db.wallets.find env.serial = none) :
    (settlementOf env db c spend).Ready D db ∧ (settlementOf env db c spend).Final D db ∧
      ((settlementOf env db c spend).created = false →
        db.wallets.find (settlementOf env db c spend).wallet.id =
          some (settlementOf env db c spend).wallet) := by
  have wallet : (settlementOf env db c spend).wallet.accountId = c.accountId ∧
      ((settlementOf env db c spend).created = true →
        db.wallets.free (settlementOf env db c spend).wallet ∧
          (settlementOf env db c spend).wallet.balance = 0) ∧
      ((settlementOf env db c spend).created = false →
        db.wallets.lookup c.accountId = some (settlementOf env db c spend).wallet) := by
    obtain known | ⟨w, known⟩ := Option.eq_none_or_eq_some (db.wallets.lookup c.accountId)
    all_goals simp only [settlementOf, chargeOf, walletOf, known]
    · exact ⟨rfl, fun _ => ⟨⟨drawn.2, known⟩, rfl⟩, by rintro ⟨⟩⟩
    · exact ⟨(Table.lookup_iff.mp known).2, by rintro ⟨⟩, fun _ => rfl⟩
  obtain ⟨owner, fresh, read⟩ := wallet
  have row : (settlementOf env db c spend).created = false →
      db.wallets.find (settlementOf env db c spend).wallet.id =
        some (settlementOf env db c spend).wallet :=
    fun old => Table.find_of_mem (Table.lookup_iff.mp (read old)).1
  refine ⟨⟨found, unapplied, parsed, owner, fresh, ?_, fun _ _ => row⟩,
    ⟨decide_eq_true_iff, fun _ => read, fun _ spend' same => ?_⟩, row⟩
  · intro s charged
    obtain ⟨inside, mine, _, quota⟩ := currentSubscription_spec charged
    exact ⟨⟨spend, rfl⟩, mine, quota, s, inside, ⟨rfl, rfl, rfl⟩, fun _ => rfl⟩
  · cases same
    exact ⟨env, rfl⟩

/-- The law of a usable subscription: a spend is recorded with an eligible
subscription of its account, and the wallet keeps its balance. -/
def PaidBySubscription (now : Int) (c : BalanceChange) (spend : SpendToken) (db db' : Db) : Prop :=
  (∃ r ∈ db.subscriptions, eligible now c.accountId spend.consumedTokens r = true ∧
    ∃ c' ∈ db'.balanceChanges.find c.id, c'.isApplied = true ∧ c'.subscriptionId = r.id) ∧
  balanceOf db' c.accountId = balanceOf db c.accountId

theorem paid_settlementOf (found : db.balanceChanges.find c.id = some c)
    (unapplied : c.isApplied = false)
    (parsed : BalanceChangeContent.fromValue c.content = .ok (.spendToken spend))
    (drawn : 0 < env.serial ∧ db.wallets.find env.serial = none) :
    PaidBySubscription env.now c spend db (engine.applyAll (settlementOf env db c spend).writes db) ↔
      ∃ r ∈ db.subscriptions, eligible env.now c.accountId spend.consumedTokens r = true := by
  constructor
  · rintro ⟨⟨r, member, fits, _⟩, _⟩
    exact ⟨r, member, fits⟩
  · rintro ⟨r, member, fits⟩
    cases chosen : currentSubscription db env c.accountId spend.consumedTokens with
    | none =>
        have empty := Table.topBy_eq_none.mp chosen
        exact absurd (List.mem_filter.mpr ⟨member, fits⟩) (empty ▸ List.not_mem_nil)
    | some s =>
        have charged : (settlementOf env db c spend).charged = some s := chosen
        obtain ⟨ready, final, row⟩ :=
          ready_settlementOf (D := Discipline.any False) found unapplied parsed drawn
        have inside := List.mem_filter.mp (Table.topBy_mem chosen).1
        refine ⟨⟨s, inside.1, inside.2, applied s.id c, ?_, rfl, rfl⟩, ?_⟩
        · rw [writes_balanceChanges, subscriptionId_charged charged]
          exact (Table.find_modify_self _).trans (congrArg _ found)
        · rw [balanceOf_writes ready final (fun _ => row), subscriptionId_charged charged]
          have free : walletEffect s.id (settlementOf env db c spend).content = 0 :=
            walletEffect_charged s spend
          rw [free, ite_self, add_zero]

end Settled

section Bought
variable {ι : Type} {db : Db} {world : World}

def created : Call engine → Option Subscription
  | ⟨.auto (.insertSubscription _ _), .ok s⟩ => some s
  | _ => none

def activated : Call engine → Option Int
  | ⟨.auto (.updateSubscriptionStatus id .active), .ok (some _)⟩ => some id
  | _ => none

theorem created_spec {call : Call engine} {b : Subscription} (made : created call = some b) :
    ∃ accountId planId, call = ⟨.auto (.insertSubscription accountId planId), .ok b⟩ := by
  unfold created at made
  split at made
  · cases made
    exact ⟨_, _, rfl⟩
  · cases made

theorem exec_insertSubscription {env : Env} {b : Subscription}
    (drawn : possible (.insertSubscription accountId planId) env db = true)
    (executed : exec (.insertSubscription accountId planId) env db = some b) :
    db.subscriptions.find b.id = none ∧ b.startAt = none := by
  simp only [exec] at executed
  split at executed
  · cases executed
    exact ⟨(of_decide_eq_true drawn).2, rfl⟩
  · cases executed

/-- An account has been subscribed to an active plan with a limit and a span, and its
subscription has been set active. -/
structure Purchase (request : ι → Request) (s : State engine ι) (plan : SubscriptionPlan)
    (bought : Subscription) : Prop where
  plan_found : s.db.subscriptionPlans.find plan.id = some plan
  plan_active : plan.status = .active
  limited : 0 < plan.totalTokenLimit
  spanned : 0 < plan.timeSpan
  created : ∃ i accountId, request i = .createSubscription ⟨accountId, plan.id⟩ ∧
    ∃ call ∈ (s.procs i).calls, created call = some bought
  activated : ∃ i, request i = .updateSubscription bought.id "active" ∧
    ∃ call ∈ (s.procs i).calls, activated call = some bought.id

/-- A spend of the subscribed account, within the plan's limit and still to be settled. -/
structure Spends (db : Db) (plan : SubscriptionPlan) (bought : Subscription) (c : BalanceChange)
    (spend : SpendToken) : Prop where
  found : db.balanceChanges.find c.id = some c
  unapplied : c.isApplied = false
  parsed : BalanceChangeContent.fromValue c.content = .ok (.spendToken spend)
  owner : c.accountId = bought.accountId
  within : spend.consumedTokens ≤ plan.totalTokenLimit

variable [DecidableEq ι] {D : Discipline engine} {s s' : State engine ι} {i : ι} {ws : List Write}

/-- A subscription that was created in a run never gets a start. -/
def Unstarted (db : Db) (id : Int) : Prop :=
  ∃ r, db.subscriptions.find id = some r ∧ r.startAt = none

theorem Unstarted.grows {id : Int} (unstarted : Unstarted db id) (grows : Grows db db') :
    Unstarted db' id := by
  obtain ⟨r, found, never⟩ := unstarted
  obtain ⟨r', found', same⟩ := grows.subscriptions id r found
  exact ⟨r', found', same.startAt.trans never⟩

theorem Step.unstarted {b : Subscription}
    (before : ∀ j, ∀ call ∈ (s.procs j).calls, created call = some b → Unstarted s.db b.id)
    (stepped : Step D s i ws s') :
    ∀ j, ∀ call ∈ (s'.procs j).calls, created call = some b → Unstarted s'.db b.id := by
  intro j call member made
  have grows := Step.grows stepped
  obtain ⟨op, next, reply, world', ready, answers, _, _, _, rfl⟩ := stepped.advanced
  rcases s.mem_advance_calls.mp member with ⟨_, rfl⟩ | old
  · obtain ⟨accountId, planId, same⟩ := created_spec made
    cases same
    rcases answers with ⟨_, fault, _⟩ | ⟨_, env, _, performed⟩
    · cases fault
    obtain ⟨drawn, executed⟩ := Op.answer_ok performed
    obtain ⟨fresh, never⟩ := exec_insertSubscription drawn executed
    have free : s.db.subscriptions.free b := ⟨fresh, fresh⟩
    exact ⟨b, Table.find_insert_self free, never⟩
  · exact (before j call old made).grows grows

theorem Reaches.unstarted {program : ι → Action Unit} {b : Subscription}
    (reached : Reaches D (.starting db world program) history s) :
    ∀ j, ∀ call ∈ (s.procs j).calls, created call = some b → Unstarted s.db b.id := by
  induction reached with
  | start => exact fun j call member => absurd member List.not_mem_nil
  | step _ stepped ih => exact Step.unstarted ih stepped

/-- Whatever requests have run, a spend is paid by a subscription exactly when one
other than the bought one is eligible: the bought one has no start. -/
theorem purchase_usable_iff {request : ι → Request} {plan : SubscriptionPlan} {bought : Subscription}
    {c : BalanceChange} {spend : SpendToken} {env : Env}
    (reached : Reaches (Discipline.any True) (requests db world request) history s)
    (purchase : Purchase request s plan bought) (spends : Spends s.db plan bought c spend)
    (drawn : 0 < env.serial ∧ s.db.wallets.find env.serial = none) :
    ∃ m, (settleBalanceChange ⟨c.id⟩).alone env ⟨[], s.db, s.world⟩ = some ((), m) ∧
      (PaidBySubscription env.now c spend s.db m.db ↔
        ∃ other ∈ s.db.subscriptions, other.id ≠ bought.id ∧
          eligible env.now c.accountId spend.consumedTokens other = true) := by
  obtain ⟨m, ran, rows⟩ := alone_settleBalanceChange spends.found spends.unapplied spends.parsed drawn
  refine ⟨m, ran, ?_⟩
  rw [rows, paid_settlementOf spends.found spends.unapplied spends.parsed drawn]
  constructor
  · rintro ⟨r, member, fits⟩
    refine ⟨r, member, ?_, fits⟩
    intro here
    obtain ⟨i, _, _, call, inside, made⟩ := purchase.created
    obtain ⟨r', found, never⟩ := Reaches.unstarted reached i call inside made
    have row : s.db.subscriptions.find r.id = some r := Table.find_of_mem member
    cases row.symm.trans (here ▸ found)
    obtain ⟨_, _, ⟨start, begun, _⟩, _⟩ := of_decide_eq_true fits
    rw [never] at begun
    cases begun
  · rintro ⟨r, member, _, fits⟩
    exact ⟨r, member, fits⟩

end Bought

section Runs

def dayPlan : SubscriptionPlan := ⟨1, .active, 1000, 86400, 0, 0⟩

def sixtyTokens : SpendToken := ⟨50, 1, 50, 10, 1, 10, 60, 1⟩

/-- An account with a wallet, a plan of 1000 tokens for a day, and a spend of 60. -/
def planned (subscriptions : Table Subscription) : Db := { Db.empty with
  accounts := Table.empty.insert ⟨1, "account-1", true⟩
  wallets := Table.empty.insert ⟨1, 1, 100⟩
  subscriptionPlans := Table.empty.insert dayPlan
  subscriptions := subscriptions
  balanceChanges := Table.empty.insert
    (unsettled 1 1 "spendtoken-a-0" (.spendToken sixtyTokens)) }

/-- The account subscribes to the plan, and the subscription is set active. -/
def buys : Fin 2 → Request
  | 0 => .createSubscription ⟨1, 1⟩
  | 1 => .updateSubscription 3 "active"

def boughtThird : Subscription := newSubscription 3 1 1 (by decide)

/-- What a run of `buys` at time 0 has come to. -/
def Bought (s : State engine (Fin 2)) : Prop :=
  s.db.subscriptionPlans.find 1 = some dayPlan ∧
  (∃ call ∈ (s.procs 0).calls, created call = some boughtThird) ∧
  ∃ call ∈ (s.procs 1).calls, activated call = some 3

instance (s : State engine (Fin 2)) : Decidable (Bought s) := by
  unfold Bought
  infer_instance

theorem Bought.purchase {s : State engine (Fin 2)} (bought : Bought s) :
    Purchase buys s dayPlan boughtThird where
  plan_found := bought.1
  plan_active := rfl
  limited := by decide
  spanned := by decide
  created := ⟨0, 1, rfl, bought.2.1⟩
  activated := ⟨1, rfl, bought.2.2⟩

def aMinuteLater : Env := .plain 60 9

/-- A minute after its subscription is set active, the account pays from its wallet. -/
theorem purchase_is_unusable : ∃ history s m,
    Reaches (Discipline.any False) (requests (planned .empty) .empty buys) history s ∧
    Purchase buys s dayPlan boughtThird ∧
    (settleBalanceChange ⟨1⟩).alone aMinuteLater ⟨[], s.db, s.world⟩ = some ((), m) ∧
    balanceOf s.db 1 = 100 ∧ balanceOf m.db 1 = 40 ∧
    (m.db.balanceChanges.find 1).map (fun c => (c.isApplied, c.subscriptionId)) = some (true, 0) := by
  obtain ⟨history, s, reached, bought, before, settled⟩ := State.exists_of_play (Discipline.any False)
    (requests (planned .empty) .empty buys) (schedule [0, 0, 0, 1])
    (fun s => Bought s ∧ balanceOf s.db 1 = 100 ∧
      ((settleBalanceChange ⟨1⟩).alone aMinuteLater ⟨[], s.db, s.world⟩).map (fun (_, m) =>
        (balanceOf m.db 1, (m.db.balanceChanges.find 1).map (fun c => (c.isApplied, c.subscriptionId)))) =
          some (40, some (true, 0)))
    (by decide +kernel)
  obtain ⟨⟨⟨⟩, m⟩, ran, same⟩ := Option.map_eq_some_iff.mp settled
  exact ⟨history, s, m, reached, bought.purchase, ran, before, (Prod.mk.inj same).1, (Prod.mk.inj same).2⟩

def olderSubscription : Subscription :=
  ⟨1, 1, 1, .active, some 0, some 99, 0, 100, 0, 0, Int.one_pos⟩

/-- An older subscription of the account, with a start and an end, pays instead. -/
theorem purchase_usable_iff_older : ∃ history s m c,
    Reaches (Discipline.any True) (requests (planned (Table.empty.insert olderSubscription)) .empty buys)
      history s ∧
    (settleBalanceChange ⟨c.id⟩).alone aMinuteLater ⟨[], s.db, s.world⟩ = some ((), m) ∧
    PaidBySubscription 60 c sixtyTokens s.db m.db := by
  obtain ⟨history, s, reached, bought, unapplied, free, older⟩ := State.exists_of_play (Discipline.any True)
    (requests (planned (Table.empty.insert olderSubscription)) .empty buys) (schedule [0, 0, 0, 1])
    (fun s => Bought s ∧ (s.db.balanceChanges.find 1).map (·.isApplied) = some false ∧
      s.db.wallets.find 9 = none ∧ ∃ r ∈ s.db.subscriptions.rows, r.id ≠ 3 ∧ eligible 60 1 60 r = true)
    (by decide +kernel)
  obtain ⟨c, found, fresh⟩ := Option.map_eq_some_iff.mp unapplied
  have grows : Grows (planned (Table.empty.insert olderSubscription)) s.db :=
    (requests_chain reached).2.rel (R := growth) (fun _ _ _ => Request.grows)
  obtain ⟨c', found', same⟩ := grows.balanceChanges 1 _ rfl
  cases found.symm.trans found'
  have here : c.id = 1 := (Table.find_iff.mp found).2
  have owner : c.accountId = 1 := same.accountId
  have spends : Spends s.db dayPlan boughtThird c sixtyTokens :=
    ⟨here ▸ found, fresh, same.content ▸ rfl, owner, by decide⟩
  have drawn : 0 < aMinuteLater.serial ∧ s.db.wallets.find aMinuteLater.serial = none :=
    ⟨by decide, free⟩
  obtain ⟨m, ran, usable⟩ := purchase_usable_iff reached bought.purchase spends drawn
  exact ⟨history, s, m, c, reached, ran, usable.mpr (owner ▸ older)⟩

end Runs

end LLMPool.Billing
