import LLMPool.Billing.Ledger

/-! Concurrent settlements and a subscription's quota: the subscription is selected
without a lock and its usage written back from the row that was read. -/
namespace LLMPool.Billing
open Relational Transactions
variable {ι : Type} [DecidableEq ι] {D : Discipline engine} {db₀ db db' : Db} {world : World}
  {task : ι → BalanceChangeTask} {s : State engine ι} {id : Int}

/-- The tokens of the balance changes settled since `db` that are recorded with a
subscription. -/
def tokensSince (db : Db) (id : Int) (db' : Db) : Int :=
  settledSince db (·.subscriptionId = id) (fun _ => tokensEffect) db'

/-- A subscription has used the tokens that were settled with it, within its limit. -/
def Metered (db₀ : Db) (id limit : Int) (db : Db) : Prop :=
  ∃ r, db.subscriptions.find id = some r ∧ r.totalTokenLimit = limit ∧
    r.usedTotalTokens = tokensSince db₀ id db ∧ tokensSince db₀ id db ≤ limit

theorem Settles.metered {change : Int} (current : UsageCurrent D) (settles : Settles D change db db')
    (grows : Grows db₀ db) (metered : Metered db₀ id limit db) : Metered db₀ id limit db' := by
  obtain ⟨S, _, ready, _, rfl⟩ := settles
  obtain ⟨r, found, same, used, within⟩ := metered
  have tokens : tokensSince db₀ id (engine.applyAll S.writes db) = tokensSince db₀ id db +
      if S.subscriptionId = id then tokensEffect S.content else 0 := settledSince_writes ready grows
  cases charged : S.charged with
  | none =>
      have unrecorded : S.subscriptionId = 0 := by rw [Settlement.subscriptionId, charged]
      have other : S.subscriptionId ≠ id := by
        rw [unrecorded, ← (Table.find_iff.mp found).2]
        exact r.id_pos.ne
      rw [if_neg other, add_zero] at tokens
      refine ⟨r, ?_, same, used.trans tokens.symm, tokens.le.trans within⟩
      rw [find_subscription_writes other, found]
  | some s =>
      have recorded := subscriptionId_charged charged
      by_cases here : s.id = id
      · obtain ⟨_, _, quota, r', found', sameRow, unchanged⟩ := ready.charges s charged
        rw [here] at found'
        cases found.symm.trans found'
        have read : s.usedTotalTokens = tokensSince db₀ id db := (unchanged current).symm.trans used
        rw [recorded, if_pos here] at tokens
        rw [read, ← sameRow.totalTokenLimit, same] at quota
        have row := find_charged_writes charged (here.symm ▸ found)
        rw [here] at row
        refine ⟨_, row, same, ?_, tokens.le.trans quota⟩
        simp only [withUsage, tokens, read]
      · rw [recorded, if_neg here, add_zero] at tokens
        refine ⟨r, ?_, same, used.trans tokens.symm, tokens.le.trans within⟩
        rw [find_subscription_writes (recorded ▸ here), found]

/-- Two spends of 60 tokens, for a subscription to 100. -/
def twoSpends : Db := { Db.empty with
  wallets := Table.empty.insert ⟨1, 1, 0⟩
  subscriptions := Table.empty.insert
    ⟨1, 1, 1, .active, some 0, some 9, 0, 100, 0, 0, Int.one_pos⟩
  balanceChanges := (Table.empty.insert
      (unsettled 1 1 "spendtoken-a-0" (.spendToken ⟨50, 1, 50, 10, 1, 10, 60, 1⟩))).insert
    (unsettled 2 1 "spendtoken-b-0" (.spendToken ⟨50, 1, 50, 10, 1, 10, 60, 2⟩)) }

/-- Both spends select the subscription before either has recorded its usage. -/
theorem the_quota_is_oversold : ∃ history s,
    Reaches (Discipline.any False)
      (deliveries twoSpends .empty (fun i : Fin 2 => ⟨i.val + 1⟩)) history s ∧
    tokensSince twoSpends 1 s.db = 120 ∧
    (s.db.subscriptions.find 1).map (fun r => (r.usedTotalTokens, r.totalTokenLimit)) =
      some (60, 100) :=
  State.exists_of_play _ _
    (schedule [0, 0, 0, 0, 1, 1, 1, 1, 0, 0, 0, 0, 1, 1, 1, 1]) _ (by decide +kernel)

/-- Each `UPDATE subscriptions` of the usage finds the used tokens as they were read. -/
def currentUsage : Discipline engine := ⟨fun _ => True, False, usageCurrent⟩

/-- Under that condition, and whatever fails, concurrent settlements never oversell
a subscription that starts unused: in every state of a run it has used the tokens
settled with it, and they are within its limit. -/
theorem quota_kept {r₀ : Subscription} (found : db.subscriptions.find id = some r₀)
    (unused : r₀.usedTotalTokens = 0) (limited : 0 ≤ r₀.totalTokenLimit)
    (reached : Reaches currentUsage (deliveries db world task) history s) :
    ∃ r, s.db.subscriptions.find id = some r ∧ r.totalTokenLimit = r₀.totalTokenLimit ∧
      r.usedTotalTokens = tokensSince db id s.db ∧ tokensSince db id s.db ≤ r₀.totalTokenLimit := by
  obtain ⟨_, chain⟩ := deliveries_chain False.elim reached
  refine chain.invariant (I := fun _ => Metered db id r₀.totalTokenLimit) ?_ ?_
  · have start : tokensSince db id db = 0 := settledSince_start db
    exact ⟨r₀, found, rfl, unused.trans start.symm, start.le.trans limited⟩
  · intro history i writes mid earlier metered settles
    have grows : Grows db mid := earlier.rel (R := growth) settling_grows
    exact Settles.metered (fun _ _ _ admitted => admitted) settles grows metered

instance : Discipline.Decides currentUsage where
  faults _ := inferInstanceAs (Decidable True)
  serial := inferInstanceAs (Decidable False)
  admits calls op db := inferInstanceAs (Decidable (usageCurrent calls op db))

/-- One spend after the other: the second finds no quota left. -/
theorem quota_kept_serially : ∃ history s,
    Reaches currentUsage
      (deliveries twoSpends .empty (fun i : Fin 2 => ⟨i.val + 1⟩)) history s ∧
    Applied s.db 1 ∧ Applied s.db 2 ∧ tokensSince twoSpends 1 s.db ≤ 100 := by
  obtain ⟨history, s, reached, first, second⟩ := State.exists_of_play currentUsage
    (deliveries twoSpends .empty (fun i : Fin 2 => ⟨i.val + 1⟩))
    (schedule [0, 0, 0, 0, 0, 0, 0, 0, 1, 1, 1, 1, 1, 1, 1, 1])
    (fun s => Applied s.db 1 ∧ Applied s.db 2) (by decide +kernel)
  have row : twoSpends.subscriptions.find 1 =
      some ⟨1, 1, 1, .active, some 0, some 9, 0, 100, 0, 0, Int.one_pos⟩ := rfl
  obtain ⟨_, _, _, _, within⟩ := quota_kept row rfl (by decide) reached
  exact ⟨history, s, reached, first, second, within⟩

end LLMPool.Billing
