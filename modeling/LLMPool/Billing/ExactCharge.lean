import LLMPool.Billing.BilledOnce
import LLMPool.Billing.Purchase

/-! One event from its handler to its settlement: what the wallet loses is the usage
at the prices that the handler has read, whatever the prices are by then. -/
namespace LLMPool.Billing
open Relational Transactions

/-- No call was answered with an error. -/
def Succeeded (calls : List (Call engine)) : Prop := ∀ call ∈ calls, call.reply.toBool = true

instance (calls : List (Call engine)) : Decidable (Succeeded calls) :=
  inferInstanceAs (Decidable (∀ call ∈ calls, _))

section Paths
variable {calls : List (Call engine)} {event : EventTask EventData}

theorem Succeeded.older {call : Call engine} (succeeded : Succeeded (call :: calls)) :
    Succeeded calls :=
  fun c member => succeeded c (List.mem_cons_of_mem _ member)

theorem not_succeeded {op : Op engine} (reason : Failure) :
    ¬Succeeded (⟨op, .error reason⟩ :: calls) :=
  fun succeeded => absurd (succeeded _ List.mem_cons_self) Bool.false_ne_true

/-- Unless a call has failed, there is something to commit. -/
def Writing (calls : List (Call engine)) : Prop :=
  Succeeded calls → (session calls).failed = false ∧ (session calls).writes ≠ []

/-- Unless a call has failed, something has been committed. -/
def Committed (calls : List (Call engine)) : Prop := Succeeded calls → permanent calls ≠ []

theorem committed_failed {op : Op engine} (reason : Failure) :
    Committed (⟨op, .error reason⟩ :: calls) :=
  fun succeeded => absurd succeeded (not_succeeded reason)

theorem writing_answered {s : Stmt} (answer : s.Answer) (sound : (session calls).failed = false)
    (wrote : writes s answer ≠ []) : Writing (⟨.sql s, .ok answer⟩ :: calls) := by
  intro _
  rw [session_answered]
  exact ⟨sound, List.append_ne_nil_of_right_ne_nil _ wrote⟩

theorem Writing.commit (writing : Writing calls) : Committed (⟨.commit, .ok ()⟩ :: calls) := by
  intro succeeded nothing
  obtain ⟨sound, wrote⟩ := writing succeeded.older
  simp only [permanent, Op.commits, sound, Bool.false_eq_true, if_false,
    List.append_eq_nil_iff] at nothing
  exact wrote nothing.2

theorem Committed.remote {c : Remote} {reply : Except Failure c.Reply} (committed : Committed calls) :
    Committed (⟨.remote c, reply⟩ :: calls) := by
  intro succeeded
  rw [permanent_remote]
  exact committed succeeded.older

theorem committed_billUsage (provider : Provider) (accountId : Int) (e : SessionEvent)
    (usage : UsageInfo) (model : LLMModel) :
    (billUsage provider accountId e usage model).path anyCall (fun _ => Committed) calls := by
  simp only [billUsage, NewBalanceChange.fromContent, createBalanceChangeWithTx]
  refine path_bind.mpr (path_query (P := anyCall) trivial ?_ committed_failed)
  intro c sound _
  refine path_bind.mpr (path_op (P := anyCall) trivial ?_)
  rintro (reason | ⟨⟩) _
  · exact committed_failed reason
  · have recorded := writing_answered (s := .insertBalanceChange _) c sound (List.cons_ne_nil _ _)
    exact path_bind.mpr (path_op (P := anyCall) trivial (fun _ _ => recorded.commit.remote))

theorem committed_handleEvent :
    (handleEvent event).path anyCall (fun _ => Committed) calls := by
  rw [handleEvent, path_bind]
  have counted : ∀ (Q : Unit → List (Call engine) → Prop), (∀ calls, Q () calls) →
      (countUsage event.modelId event.eventData.extractUsage).path anyCall Q calls := by
    intro Q goes
    cases event.eventData.extractUsage with
    | none => exact goes _
    | some u => exact path_bind.mpr (path_op (P := anyCall) trivial (fun _ _ => goes _))
  refine counted _ (fun calls => path_bind.mpr (path_op (P := anyCall) trivial ?_))
  rintro (reason | ⟨⟩) _
  · exact committed_failed reason
  dsimp only
  rw [path_bind]
  have looked : ∀ (Q : Except SqlxError LLMModel → List (Call engine) → Prop),
      (∀ result calls, Q result calls) → ∀ calls,
      (getModelWithTx event.modelId).run.path anyCall Q calls := by
    intro Q goes calls
    rw [getModelWithTx, path_run_bind]
    exact path_query (P := anyCall) trivial (fun _ _ _ => path_fetchOne (fun _ => goes _ _))
      (fun _ => goes _ _)
  refine looked _ (fun found calls => ?_) _
  rw [path_bind]
  refine path_query (P := anyCall) trivial ?_ committed_failed
  intro e sound _
  have stored := writing_answered (s := .upsertSessionEvent _) e sound (List.cons_ne_nil _ _)
  dsimp only
  split
  · exact committed_billUsage _ _ _ _ _
  · refine path_bind.mpr (path_op (P := anyCall) trivial ?_)
    rintro (reason | ⟨⟩) _
    · exact committed_failed reason
    · exact stored.commit

end Paths

section Run
variable {D : Discipline engine} {s : State engine Unit} {db db' : Db} {world : World}
  {event : EventTask EventData} {usage : UsageInfo} {model : LLMModel}

/-- A handler of a billable event that returns with no call failed has billed it. -/
theorem bills_succeeded (billable : Billable event db)
    (reached : Reaches (Discipline.any False) (.starting db world (fun _ => handleEvent event))
      history s)
    (returned : (s.procs ()).Returned) (succeeded : Succeeded (s.procs ()).calls) :
    Bills event db s.db := by
  obtain ⟨_, chain⟩ : Verified _ growth (fun _ => Bills event) (fun _ _ => Handled _ event) s ∧
      Chain (fun _ => Bills event) db history s.db :=
    reached.chain (.starting (fun _ => wp_handleEvent event)) (fun _ _ _ => Bills.grows)
      (fun _ _ _ _ handled grows faultless billable =>
        (handled faultless ((billable_grows grows).mp billable)).grows grows)
  have once : history = [] ∨ Bills event db s.db ∧ Billed event s.db := by
    refine (chain.invariant (I := fun history db' => history = [] ∧ db' = db ∨
      Bills event db db' ∧ Billed event db') (.inl ⟨rfl, rfl⟩) ?_).imp And.left id
    rintro history i writes mid _ (⟨rfl, rfl⟩ | ⟨first, billed⟩) bills
    · obtain ⟨_, c, _, found, _⟩ := bills.both billable
      exact .inr ⟨bills, c, found⟩
    · exact absurd billed (bills.absent ((billable_grows first.grows).mpr billable))
  rcases once with rfl | ⟨bills, _⟩
  · have path := reached.paths (P := fun _ => anyCall) (Q := fun _ => Committed)
      (fun _ => committed_handleEvent) ()
    rw [returned] at path
    exact absurd (reached.silent ()) (path succeeded)
  · exact bills

/-- The prices of an event: a batch has prices of its own. -/
def inputPrice (event : EventTask EventData) (model : LLMModel) : BigDecimal :=
  match event.eventData with
  | .openai (.batch _) => model.batchInputTokenPrice
  | _ => model.inputTokenPrice

def outputPrice (event : EventTask EventData) (model : LLMModel) : BigDecimal :=
  match event.eventData with
  | .openai (.batch _) => model.batchOutputTokenPrice
  | _ => model.outputTokenPrice

/-- What a handler bills is the usage of its event, at the prices of that event. -/
theorem spendTokenOf_prices (bears : event.eventData.extractUsage = some usage) (eventId : Int) :
    spendTokenOf usage model eventId = {
      inputTokens := usage.inputTokens
      inputTokenPrice := inputPrice event model
      inputSpendAmount := inputPrice event model * usage.inputTokens
      outputTokens := usage.outputTokens
      outputTokenPrice := outputPrice event model
      outputSpendAmount := outputPrice event model * usage.outputTokens
      totalTokens := usage.totalTokens
      eventId := eventId } := by
  obtain ⟨_, _, _, _, _, data⟩ := event
  cases data with
  | openai data =>
      cases data <;> simp only [EventData.extractUsage, OpenAIEventData.extractUsage,
        Option.map_eq_some_iff, Option.some.injEq, reduceCtorEq] at bears
      case createEmbeddingResponse =>
        subst bears
        rfl
      all_goals
        obtain ⟨u, _, rfl⟩ := bears
        rfl
  | anthropic data =>
      cases data <;> simp only [EventData.extractUsage, AnthropicEventData.extractUsage,
        Option.some.injEq, reduceCtorEq] at bears
      all_goals
        subst bears
        rfl

theorem Bills.made (bills : Bills event db db') (bears : event.eventData.extractUsage = some usage)
    (known : db.models.find event.modelId = some model) :
    ∃ (e : SessionEvent) (c : BalanceChange), db.balanceChanges.free c ∧
      c = ⟨c.id, event.accountId, eventRequestId event,
        (BalanceChangeContent.spendToken (spendTokenOf usage model e.id)).toValue, false, 0⟩ ∧
      db'.balanceChanges = db.balanceChanges.insert c := by
  cases bills with
  | logged e row puts unbillable => exact absurd ⟨⟨usage, bears⟩, model, known⟩ unbillable
  | billed e c usage' model' row puts used known' free made =>
      cases bears.symm.trans used
      cases known.symm.trans known'
      exact ⟨e, c, free, made, rfl⟩

theorem bills_subscriptions (bills : Bills event db db') : db'.subscriptions = db.subscriptions := by
  cases bills <;> rfl

theorem bills_wallets (bills : Bills event db db') : db'.wallets = db.wallets := by
  cases bills <;> rfl

def repriced : Table LLMModel :=
  Table.empty.insert ⟨1, 1, "gpt-4o", "gpt-4o", true, ["chat"], 100000, 2, 4, 2, 2, ""⟩

end Run

end LLMPool.Billing
