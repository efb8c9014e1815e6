import LLMPool.Billing.BilledOnce
import LLMPool.Billing.Reconciliation
import LLMPool.Pricing.NonnegativePrices

/-! What is billed at prices that the admin API has set is never a credit: its settlement
adds to no balance, and takes nothing off what a subscription has used. -/
namespace LLMPool.Billing
open Relational Transactions

/-- No balance has grown, and no usage has shrunk. -/
structure NeverCredits (db db' : Db) : Prop where
  balance : ∀ accountId, balanceOf db' accountId ≤ balanceOf db accountId
  usage : ∀ r ∈ db.subscriptions, ∃ r' ∈ db'.subscriptions, r'.id = r.id ∧
    r.usedTotalTokens ≤ r'.usedTotalTokens ∧ r.usedMoney ≤ r'.usedMoney

theorem NeverCredits.refl (db : Db) : NeverCredits db db :=
  ⟨fun _ => le_rfl, fun r member => ⟨r, member, rfl, le_rfl, le_rfl⟩⟩

section Bills
variable {event : EventTask EventData} {db db' : Db} {c : BalanceChange} {S : Settlement} {D : Discipline engine}

theorem extractUsage_nonneg {data : EventData} {usage : UsageInfo} (used : data.extractUsage = some usage) :
    0 ≤ usage.inputTokens ∧ 0 ≤ usage.outputTokens := by
  have responses : ∀ (u : Option ResponseUsage) isBatch, u.map (·.info isBatch) = some usage →
      0 ≤ usage.inputTokens ∧ 0 ≤ usage.outputTokens := by
    intro u isBatch used
    obtain ⟨_, _, rfl⟩ := Option.map_eq_some_iff.mp used
    exact ⟨Int.natCast_nonneg _, Int.natCast_nonneg _⟩
  have completions : ∀ u : Option CompletionUsage, u.map (·.info) = some usage →
      0 ≤ usage.inputTokens ∧ 0 ≤ usage.outputTokens := by
    intro u used
    obtain ⟨_, _, rfl⟩ := Option.map_eq_some_iff.mp used
    exact ⟨Int.natCast_nonneg _, Int.natCast_nonneg _⟩
  cases data with
  | openai data =>
      cases data with
      | createChatCompletionResponse body => exact completions _ used
      | createChatCompletionStreamResponse body => exact completions _ used
      | createEmbeddingResponse body =>
          cases used
          exact ⟨Int.natCast_nonneg _, le_rfl⟩
      | imagesResponse body => exact responses _ _ used
      | batch body => exact responses _ _ used
      | responsesResponse body => exact responses _ _ used
      | _ => cases used
  | anthropic data =>
      cases data with
      | createMessageResponse body =>
          cases used
          exact ⟨Int.natCast_nonneg _, Int.natCast_nonneg _⟩
      | createMessageStreamResponseDone inputTokens outputTokens =>
          cases used
          exact ⟨Int.natCast_nonneg _, Int.natCast_nonneg _⟩
      | _ => cases used

/-- Tokens that are not negative, at prices that are not. -/
theorem spendTokenOf_nonneg {usage : UsageInfo} {model : LLMModel} {eventId : Int}
    (tokens : 0 ≤ usage.inputTokens ∧ 0 ≤ usage.outputTokens) (prices : Pricing.Nonnegative model) :
    0 ≤ (spendTokenOf usage model eventId).consumedTokens ∧ 0 ≤ (spendTokenOf usage model eventId).spendAmount := by
  have input : (0 : BigDecimal) ≤ usage.inputTokens := by exact_mod_cast tokens.1
  have output : (0 : BigDecimal) ≤ usage.outputTokens := by exact_mod_cast tokens.2
  constructor
  · exact add_nonneg tokens.1 tokens.2
  · simp only [SpendToken.spendAmount, spendTokenOf]
    split
    · exact add_nonneg (mul_nonneg prices.batchInputTokenPrice input)
        (mul_nonneg prices.batchOutputTokenPrice output)
    · exact add_nonneg (mul_nonneg prices.inputTokenPrice input) (mul_nonneg prices.outputTokenPrice output)

theorem BillOf.nonneg (bill : BillOf event db c) (priced : ∀ m ∈ db.models, Pricing.Nonnegative m) :
    ∃ spend : SpendToken, c.content = (BalanceChangeContent.spendToken spend).toValue ∧
      0 ≤ spend.consumedTokens ∧ 0 ≤ spend.spendAmount := by
  obtain ⟨usage, model, eventId, used, known, _, _, made⟩ := bill
  have prices := priced model (Table.find_iff.mp known).1
  exact ⟨_, made, spendTokenOf_nonneg (extractUsage_nonneg used) prices⟩

theorem Settles.neverCredits {spend : SpendToken} (serial : D.serial) (settles : Settles D c.id db db')
    (found : db.balanceChanges.find c.id = some c)
    (spends : c.content = (BalanceChangeContent.spendToken spend).toValue)
    (tokens : 0 ≤ spend.consumedTokens) (amount : 0 ≤ spend.spendAmount) : NeverCredits db db' := by
  obtain ⟨S, here, ready, final, rfl⟩ := settles
  have change : S.change = c := by
    rw [← here] at found
    exact Option.some.inj (ready.found.symm.trans found)
  have content : S.content = .spendToken spend := by
    have parsed := ready.parsed
    rw [change, spends, BalanceChangeContent.fromValue_toValue] at parsed
    exact (Except.ok.inj parsed).symm
  have serially := S.serial serial ready final
  constructor
  · intro accountId
    rw [balanceOf_writes ready final serially.current, content]
    have effect : walletEffect S.subscriptionId (.spendToken spend) ≤ 0 := by
      simp only [walletEffect]
      split
      · exact neg_nonpos.mpr amount
      · exact le_rfl
    split
    · exact add_le_of_nonpos_right effect
    · exact (add_zero _).le
  · intro r member
    have stored : db.subscriptions.find r.id = some r := Table.find_of_mem member
    obtain ⟨r', found', _⟩ := (grows_applyAll S.writes db).subscriptions r.id r stored
    obtain ⟨member', same⟩ := Table.find_iff.mp found'
    have used := usageOf_writes serially r.id_pos
    rw [usageOf_some found', usageOf_some stored, content] at used
    refine ⟨r', member', same, ?_⟩
    split at used
    · have both := Prod.mk.inj used
      exact ⟨by rw [both.1]; exact le_add_of_nonneg_right tokens,
        by rw [both.2]; exact le_add_of_nonneg_right amount⟩
    · have both := Prod.mk.inj (used.trans (add_zero _))
      exact ⟨both.1.ge, both.2.ge⟩

end Bills

section Runs
variable {ι κ : Type} [DecidableEq ι] [DecidableEq κ] {start : Pricing.Db} {D : Discipline Pricing.engine}
  {display : Pricing.SaveError → String} {request : ι → Pricing.AdminRequest} {admin : State Pricing.engine ι}
  {program : κ → Action Unit} {db : Db} {world : World} {s s' : State engine κ} {i : κ}

/-- What a settlement that runs beside any programs commits. -/
theorem Step.settles {task : BalanceChangeTask} {writes : List Write} (settling : program i = settleBalanceChange task)
    (reached : Reaches serially (.starting db world program) history s) (stepped : Step serially s i writes s')
    (wrote : writes ≠ []) : Settles serially task.balanceChangeId s.db s'.db := by
  let G : κ → Db → Db → Prop := fun j db db' =>
    Grows db db' ∧ (j = i → Settles serially task.balanceChangeId db db')
  have settle : (settleBalanceChange task).wp serially growth (Settles serially task.balanceChangeId)
      (fun _ _ db => Healthy serially → False → Applied db task.balanceChangeId) [] db :=
    wp_settleBalanceChange (fun never => never.elim)
  have each : ∀ j, (program j).wp serially growth (G j) (fun _ _ _ => True) [] db := by
    intro j
    by_cases here : j = i
    · subst here
      rw [settling]
      exact wp_mono (fun _ _ settles => ⟨settles.grows, fun _ => settles⟩) (fun _ _ _ _ => trivial) settle
    · exact wp_mono (fun _ _ grows => ⟨grows, fun same => absurd same here⟩) (fun _ _ _ _ => trivial)
        (wp_any (fun writes db => grows_applyAll writes db))
  have verified := (reached.chain (.starting each) (fun _ _ _ step => step.1) (fun _ _ _ _ _ _ => trivial)).1
  exact ((stepped.guaranteed verified).1 wrote).2 rfl

/-- In every state that the admin API reaches no price is negative; so what is billed at the
prices of one is never a credit when it is settled, in a serial run beside any programs. -/
theorem spending_never_credits (priced : Pricing.Priced start)
    (administered : Reaches D (Pricing.administered start display request) history admin) :
    Pricing.Priced admin.db ∧
    ∀ (event : EventTask EventData) (billing : Db) (c : BalanceChange), billing.models = admin.db.models →
      BillOf event billing c →
      ∀ (κ : Type) [DecidableEq κ] (program : κ → Action Unit) (db : Db) (world : World)
        (settlements : History engine κ) (s : State engine κ),
        Reaches serially (.starting db world program) settlements s →
        ∀ i writes s', program i = settleBalanceChange ⟨c.id⟩ → Step serially s i writes s' →
          s.db.balanceChanges.find c.id = some c → NeverCredits s.db s'.db := by
  have kept := Pricing.priced_administered priced administered
  refine ⟨kept, ?_⟩
  intro event billing c same bill κ _ program db world settlements s reached i writes s' settling stepped found
  obtain ⟨spend, spends, tokens, amount⟩ := bill.nonneg (fun m member => kept m (same ▸ member))
  cases writes with
  | nil =>
      rw [stepped.db]
      exact .refl _
  | cons w ws =>
      have settles := Step.settles settling reached stepped (List.cons_ne_nil w ws)
      exact settles.neverCredits trivial found spends tokens amount

end Runs

/-- An upstream is added, and the price of the model that it lists is set meanwhile. -/
def newUpstream : Fin 2 → Pricing.AdminRequest
  | 0 => .createUpstream { name := "first", apiKey := "sk-1", apiBase := "https://a" }
  | 1 => .updateModelById 1 ⟨none, none, some 2, none, none, none⟩

def listing : Pricing.Env := ⟨1, 0, .ok ["gpt-4o"], []⟩

theorem spending_never_credits_new_upstream : ∃ history admin,
    Reaches (Discipline.any False)
      (Pricing.administered ⟨.empty, .empty⟩ (fun _ => "") newUpstream) history admin ∧
    admin.db.models.rows.map (fun m => (m.fullname, m.inputTokenPrice, m.outputTokenPrice)) =
      [("gpt-4o", 2, 1 / 1000000)] ∧ Pricing.Priced admin.db := by
  obtain ⟨history, admin, reached, prices⟩ := State.exists_of_play (Discipline.any False)
    (Pricing.administered ⟨.empty, .empty⟩ (fun _ => "") newUpstream)
    ([0, 0, 0, 0, 0, 1, 0, 0, 1].map (fun i => (i, .run listing)))
    (fun admin => admin.db.models.rows.map (fun m => (m.fullname, m.inputTokenPrice, m.outputTokenPrice)) =
      [("gpt-4o", 2, 1 / 1000000)]) (by decide +kernel)
  have fresh : Pricing.Priced ⟨.empty, .empty⟩ := fun _ never => absurd never List.not_mem_nil
  exact ⟨history, admin, reached, prices, (spending_never_credits fresh reached).1⟩

end LLMPool.Billing
