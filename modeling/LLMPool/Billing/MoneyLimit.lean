import LLMPool.Billing.Overdraft
import LLMPool.Transactions.Paths

/-! What subscriptions may spend: their plans set a money limit, which the selection
of the subscription to charge does not look at. -/
namespace LLMPool.Billing
open Relational Transactions

/-- The balance change that a settlement's calls have read. -/
def changeRead : List (Call engine) → Option BalanceChange
  | [] => none
  | ⟨.sql (.findBalanceChangeForUpdate _), .ok (some c)⟩ :: _ => some c
  | _ :: older => changeRead older

/-- What charging a balance change adds to the used money of a subscription. -/
def cost (c : BalanceChange) : BigDecimal := effect (fun _ => moneyEffect) c

/-- The usage that a subscription is given is what was read, and the cost of the
balance change. -/
def Increments (calls : List (Call engine)) : Op engine → Prop
  | .sql (.updateSubscriptionUsage id _ money) => ∃ s c, subscriptionRead calls = some s ∧
      changeRead calls = some c ∧ s.id = id ∧ money = s.usedMoney + cost c
  | .auto (.updateSubscriptionUsage _ _ _) => False
  | _ => True

section Paths
variable {calls : List (Call engine)} {c : BalanceChange}

/-- A program that gives no subscription a usage. -/
def Unmetered : Op engine → Prop
  | .sql (.updateSubscriptionUsage _ _ _) | .auto (.updateSubscriptionUsage _ _ _) => False
  | _ => True

theorem Unmetered.increments {op : Op engine} (unmetered : Unmetered op) : Increments calls op := by
  cases op with
  | sql s | auto s =>
      cases s
      case updateSubscriptionUsage => exact unmetered.elim
      all_goals trivial
  | begin | commit | remote => trivial

theorem changeRead_sql {s : Stmt} (reply : Except Failure s.Answer)
    (other : ∀ id, s ≠ .findBalanceChangeForUpdate id) :
    changeRead (⟨.sql s, reply⟩ :: calls) = changeRead calls := by
  cases s
  case findBalanceChangeForUpdate id => exact absurd rfl (other id)
  all_goals rfl

/-- A balance change is still the one that was read, unless a query failed. -/
def Reading (c : BalanceChange) (result : Except SqlxError α) (calls : List (Call engine)) : Prop :=
  match result with
  | .ok _ => changeRead calls = some c
  | .error _ => True

theorem increments_query {s : Stmt} (made : Increments calls (.sql s))
    (other : ∀ id, s ≠ .findBalanceChangeForUpdate id) (read : changeRead calls = some c) :
    (Query.sql s).run.path Increments (Reading c) calls :=
  path_query made (fun answer _ _ => (changeRead_sql (.ok answer) other).trans read)
    (fun _ => trivial)

theorem increments_accountWallet (accountId : Int) (read : changeRead calls = some c) :
    (accountWalletWithTx accountId).run.path Increments (Reading c) calls := by
  refine path_seq (increments_query trivial (by rintro _ ⟨⟩) read) ?_ (fun _ _ _ => trivial)
  rintro (_ | wallet) calls read
  · exact increments_query trivial (by rintro _ ⟨⟩) read
  · exact read

theorem increments_charge {content : BalanceChangeContent} (wallet : Wallet) (accountId : Int)
    (parsed : BalanceChangeContent.fromValue c.content = .ok content)
    (read : changeRead calls = some c) :
    (chargeWithTx wallet accountId content).run.path Increments (Reading c) calls := by
  cases content with
  | deposit amount | addCredit amount | withdraw amount => exact read
  | spendToken spend =>
      have amount : cost c = spend.spendAmount := by
        simp only [cost, effect, parsed, moneyEffect]
      rw [chargeWithTx, getCurrentSubscriptionWithTx, path_run_bind]
      refine path_query trivial ?_ (fun _ => trivial)
      rintro (_ | s) _ _
      · exact read
      · refine path_seq (increments_query ⟨s, c, rfl, read, rfl, ?_⟩ (by rintro _ ⟨⟩) read) (fun _ _ read => read)
          (fun _ _ _ => trivial)
        rw [amount]
        rfl

theorem increments_storeBalance (wallet : Wallet) (balance : BigDecimal)
    (read : changeRead calls = some c) :
    (storeBalanceWithTx wallet balance).run.path Increments (Reading c) calls := by
  rw [storeBalanceWithTx]
  split
  · refine path_seq (increments_query trivial (by rintro _ ⟨⟩) read) ?_ (fun _ _ _ => trivial)
    rintro (_ | stored) calls read
    · trivial
    · exact read
  · exact read

theorem increments_applyBalanceChange {content : BalanceChangeContent}
    (parsed : BalanceChangeContent.fromValue c.content = .ok content)
    (read : changeRead calls = some c) :
    (applyBalanceChangeWithTx c content).run.path Increments (Reading c) calls := by
  refine path_seq (increments_accountWallet c.accountId read) ?_ (fun _ _ _ => trivial)
  intro wallet calls read
  refine path_seq (increments_charge wallet c.accountId parsed read) ?_ (fun _ _ _ => trivial)
  intro charged calls read
  refine path_seq (increments_storeBalance wallet charged.1 read) ?_ (fun _ _ _ => trivial)
  intro stored calls read
  exact path_seq (increments_query trivial (by rintro _ ⟨⟩) read) (fun _ _ read => read) (fun _ _ _ => trivial)

theorem increments_settleBalanceChange (task : BalanceChangeTask) :
    (settleBalanceChange task).path Increments (fun _ _ => True) calls := by
  refine path_bind.mpr (path_op (P := Increments) trivial ?_)
  rintro (reason | ⟨⟩) _
  · trivial
  dsimp only
  rw [path_bind]
  refine path_query (P := Increments) trivial ?_ (fun _ => trivial)
  rintro (_ | c) _ _
  · trivial
  dsimp only
  split
  · trivial
  split
  · trivial
  · rename_i content parsed
    rw [path_bind]
    refine path_mono (fun _ _ made => made) ?_ (increments_applyBalanceChange parsed rfl)
    rintro (e | wallet) calls _
    · trivial
    refine path_bind.mpr (path_op (P := Increments) trivial ?_)
    rintro (reason | ⟨⟩) _
    · trivial
    · exact path_bind.mpr (path_op (P := Increments) trivial (fun _ _ => trivial))

theorem unmetered_createSubscription (payload : AdminRestApi.CreateSubscriptionRequest) :
    (AdminRestApi.createSubscription payload).Only Unmetered := by
  refine ⟨trivial, ?_⟩
  rintro (reason | _ | account)
  · trivial
  · trivial
  refine ⟨trivial, ?_⟩
  rintro (reason | _ | plan)
  · trivial
  · trivial
  refine ⟨trivial, ?_⟩
  rintro (reason | subscription) <;> trivial

theorem unmetered_updateSubscription (id : Int) (status : String) :
    (AdminRestApi.updateSubscription id status).Only Unmetered := by
  rw [AdminRestApi.updateSubscription]
  split
  · trivial
  · refine ⟨trivial, ?_⟩
    rintro (reason | _ | subscription) <;> trivial

theorem unmetered_cancelSubscription (id : Int) :
    (AdminRestApi.cancelSubscription id).Only Unmetered := by
  refine ⟨trivial, ?_⟩
  rintro (reason | _ | subscription) <;> trivial

theorem Request.increments (request : Request) :
    request.program.path Increments (fun _ _ => True) calls := by
  have unmetered : ∀ {p : Action Unit}, p.Only Unmetered →
      p.path Increments (fun _ _ => True) calls := fun only =>
    path_mono (fun _ _ made => made.increments) (fun _ _ _ => trivial) only.made
  cases request with
  | settle task => exact increments_settleBalanceChange task
  | createSubscription payload =>
      exact unmetered (only_bind (unmetered_createSubscription payload) (fun _ => trivial))
  | updateSubscription id status =>
      exact unmetered (only_bind (unmetered_updateSubscription id status) (fun _ => trivial))
  | cancelSubscription id =>
      exact unmetered (only_bind (unmetered_cancelSubscription id) (fun _ => trivial))

end Paths

theorem writes_usage {id tokens : Int} {money : BigDecimal} {s : Stmt} {answer : s.Answer}
    (wrote : Write.setSubscriptionUsage id tokens money ∈ writes s answer) :
    s = .updateSubscriptionUsage id tokens money := by
  cases s
  case updateSubscriptionUsage => simpa [writes, eq_comm] using wrote
  all_goals first
    | simp [writes] at wrote; done
    | cases answer <;> simp [writes] at wrote

/-- Each `UPDATE subscriptions` of the usage finds that the plan's limit leaves room
for the balance change, beside the money that was read as used. -/
def moneyWithin (calls : List (Call engine)) (op : Op engine) (db : Db) : Prop :=
  match op with
  | .sql (.updateSubscriptionUsage id _ _) =>
      ∀ s ∈ subscriptionRead calls, ∀ c ∈ changeRead calls, ∀ r ∈ db.subscriptions.find id,
        ∀ plan ∈ db.subscriptionPlans.find r.planId, s.usedMoney + cost c ≤ plan.moneyLimit
  | _ => True

instance (calls : List (Call engine)) (op : Op engine) (db : Db) :
    Decidable (moneyWithin calls op db) := by
  rcases op with _ | s | _ | s | c
  case sql =>
    rcases s
    case updateSubscriptionUsage id usedTotalTokens usedMoney =>
      exact inferInstanceAs (Decidable (∀ s ∈ subscriptionRead calls, _))
    all_goals exact instDecidableTrue
  all_goals exact instDecidableTrue

/-- A subscription to a plan has used no more than `limit`. -/
structure WithinLimit (id : Int) (plan : SubscriptionPlan) (limit : BigDecimal) (db : Db) : Prop where
  known : db.subscriptionPlans.find plan.id = some plan
  row : ∃ r, db.subscriptions.find id = some r ∧ r.planId = plan.id ∧ r.usedMoney ≤ limit

/-- A write that gives the subscription no more used money than `limit`. -/
def SpendsAtMost (id : Int) (limit : BigDecimal) (w : Write) : Prop :=
  ∀ tokens money, w = .setSubscriptionUsage id tokens money → money ≤ limit

theorem WithinLimit.apply {id : Int} (w : Write) (db : Db) (spends : SpendsAtMost id limit w)
    (within : WithinLimit id plan limit db) : WithinLimit id plan limit (apply w db) := by
  obtain ⟨known, r, found, named, bound⟩ := within
  cases w
  case setSubscriptionUsage j tokens money =>
    refine ⟨known, ?_⟩
    by_cases here : id = j
    · subst here
      refine ⟨withUsage tokens money r, ?_, named, spends tokens money rfl⟩
      rw [find_setSubscriptionUsage_self, found, Option.map_some]
    · exact ⟨r, (find_setSubscriptionUsage_ne here db).trans found, named, bound⟩
  case insertSubscription s => exact ⟨known, r, Table.find_insert found, named, bound⟩
  case setSubscriptionStatus j status =>
    refine ⟨known, Table.at_key j (withStatus status) r, ?_, ?_⟩
    · simp only [LLMPool.apply, Table.find_modify, found, Option.map_some]
    · unfold Table.at_key
      split
      · exact ⟨named, bound⟩
      · exact ⟨named, bound⟩
  all_goals exact ⟨known, r, found, named, bound⟩

section Runs
variable {ι : Type} [DecidableEq ι] {db : Db} {world : World} {request : ι → Request}
  {s : State engine ι} {id : Int}

/-- Any interleaving, with any failures, in which the plan's limit leaves room for
each balance change that a subscription is charged with. -/
def limitedSpending : Discipline engine := ⟨fun _ => True, False, moneyWithin⟩

/-- In such a run a subscription never uses more money than its plan's limit. -/
theorem money_within_limit {r₀ : Subscription} {plan : SubscriptionPlan}
    (found : db.subscriptions.find id = some r₀) (unused : r₀.usedMoney = 0)
    (known : db.subscriptionPlans.find r₀.planId = some plan) (limited : 0 < plan.moneyLimit)
    (reached : Reaches limitedSpending (requests db world request) history s) :
    ∃ r, s.db.subscriptions.find id = some r ∧ r.usedMoney ≤ plan.moneyLimit := by
  have named : r₀.planId = plan.id := (Table.find_iff.mp known).2.symm
  have kept : s.Keeps (WithinLimit id plan plan.moneyLimit) (SpendsAtMost id plan.moneyLimit) := by
    refine reached.kept (P := fun _ => Increments) (Q := fun _ _ => True) WithinLimit.apply ?_
      (fun i => (request i).increments) ⟨?_, fun _ _ never => absurd never List.not_mem_nil⟩
    · rintro i calls op db reply increments admitted ⟨known, r, found, named, _⟩ w offered
      rintro tokens money rfl
      cases op with
      | sql s =>
          cases reply with
          | error reason => cases offered
          | ok answer =>
              cases writes_usage offered
              obtain ⟨s, c, selected, read, rfl, rfl⟩ := increments
              exact admitted s selected c read r found plan (named ▸ known)
      | auto s =>
          cases reply with
          | error reason => cases offered
          | ok answer =>
              cases writes_usage offered
              exact increments.elim
      | begin | commit | remote => cases reply <;> cases offered
    · exact ⟨named ▸ known, r₀, found, named, unused.le.trans limited.le⟩
  obtain ⟨_, r, found, _, bound⟩ := kept.rows
  exact ⟨r, found, bound⟩

/-- A plan that allows 1000 tokens, and money up to 10. -/
def tenPlan : SubscriptionPlan := ⟨1, .active, 1000, 86400, 10, 0⟩

/-- A subscription to it, and a spend of 60 tokens. -/
def smallBudget (price : BigDecimal) : Db := { Db.empty with
  wallets := Table.empty.insert ⟨1, 1, 0⟩
  subscriptionPlans := Table.empty.insert tenPlan
  subscriptions := Table.empty.insert
    ⟨1, 1, 1, .active, some 0, some 9, 0, 1000, 0, 0, Int.one_pos⟩
  balanceChanges := Table.empty.insert (unsettled 1 1 "spendtoken-a-0"
    (.spendToken ⟨50, price, price * 50, 10, price, price * 10, 60, 1⟩)) }

/-- A spend of 60 is charged to a subscription whose plan allows 10. -/
theorem the_money_limit_is_exceeded : ∃ history s,
    Reaches oneAtATime (requests (smallBudget 1) .empty (fun _ : Fin 1 => .settle ⟨1⟩)) history s ∧
    (s.db.subscriptions.find 1).map (·.usedMoney) = some 60 ∧
    (s.db.subscriptionPlans.find 1).map (·.moneyLimit) = some 10 :=
  State.exists_of_play _ _ (schedule [0, 0, 0, 0, 0, 0, 0, 0]) _ (by decide +kernel)

instance : Discipline.Decides limitedSpending where
  faults _ := inferInstanceAs (Decidable True)
  serial := inferInstanceAs (Decidable False)
  admits calls op db := inferInstanceAs (Decidable (moneyWithin calls op db))

/-- A spend of 6 fits. -/
theorem money_within_limit_small : ∃ history s,
    Reaches limitedSpending
      (requests (smallBudget (1 / 10)) .empty (fun _ : Fin 1 => .settle ⟨1⟩)) history s ∧
    Applied s.db 1 ∧ ∃ r, s.db.subscriptions.find 1 = some r ∧ r.usedMoney ≤ 10 := by
  obtain ⟨history, s, reached, applied⟩ := State.exists_of_play limitedSpending
    (requests (smallBudget (1 / 10)) .empty (fun _ : Fin 1 => .settle ⟨1⟩))
    (schedule [0, 0, 0, 0, 0, 0, 0, 0]) (fun s => Applied s.db 1) (by decide +kernel)
  have row : (smallBudget (1 / 10)).subscriptions.find 1 =
      some ⟨1, 1, 1, .active, some 0, some 9, 0, 1000, 0, 0, Int.one_pos⟩ := rfl
  have plan : (smallBudget (1 / 10)).subscriptionPlans.find 1 = some tenPlan := rfl
  exact ⟨history, s, reached, applied, money_within_limit row rfl plan (by decide +kernel) reached⟩

end Runs

end LLMPool.Billing
