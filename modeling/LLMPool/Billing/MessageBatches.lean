import LLMPool.Billing.Attribution
import Mathlib.Algebra.Order.BigOperators.Group.List
import Mathlib.Algebra.Order.Monoid.Prod

/-! Message batches in the ledger: what their requests succeed in using is charged to nobody. -/
namespace LLMPool.Billing
open Relational Transactions ProxyViews

/-- The request creates the message batch, with a request at least. -/
def CreatesMessageBatch (batchId : String) : Activity → Prop
  | .request context (.createMessageBatch payload) =>
      payload.requests ≠ [] ∧ mintedId "msgbatch-" (context.minted 0) = batchId
  | _ => False

/-- The requests on a message batch. -/
def OnMessageBatch (batchId : String) : Activity → Prop
  | .request _ (.retrieveMessageBatch asked) | .request _ (.cancelMessageBatch asked)
  | .request _ (.retrieveMessageBatchResults asked) => asked = batchId
  | activity => CreatesMessageBatch batchId activity

/-- The results of message batches that the calls so far have fetched. -/
def fetchedResults : List (Call engine) → List (List MessageBatchIndividualResponse)
  | [] => []
  | ⟨.remote (.upstream _ (.messageBatchResults _)), .ok (.ok items)⟩ :: older =>
      items :: fetchedResults older
  | _ :: older => fetchedResults older

/-- Only a result that has succeeded has a usage. -/
def resultTokens (item : MessageBatchIndividualResponse) : Int × Int :=
  match item.result with
  | .succeeded message => (message.usage.inputTokens, message.usage.outputTokens)
  | _ => 0

section Untraced
variable {ι : Type} [DecidableEq ι] {D : Discipline engine} {activity : ι → Activity} {initial : Db} {world : World}
  {history : History engine ι} {s : State engine ι} {i : ι} {batchId : String}

theorem OnMessageBatch.request {activity : Activity} (on : OnMessageBatch batchId activity) :
    ∃ context served, activity = .request context served ∧ served.untraced = true := by
  unfold OnMessageBatch at on
  split at on
  · exact ⟨_, _, rfl, rfl⟩
  · exact ⟨_, _, rfl, rfl⟩
  · exact ⟨_, _, rfl, rfl⟩
  · unfold CreatesMessageBatch at on
    split at on
    · exact ⟨_, _, rfl, rfl⟩
    · exact absurd on id

theorem enqueued_untraced {context : RequestContext} {served : ProxyRequest}
    (reached : Reaches D (.starting initial world (programs activity)) history s)
    (requested : activity i = .request context served) (silent : served.untraced = true) :
    enqueued (s.procs i).calls = [] := by
  refine List.eq_nil_iff_forall_not_mem.mpr (fun event member => ?_)
  obtain ⟨reply, inside⟩ := mem_enqueued member
  obtain ⟨older, inside⟩ := exists_older inside
  have path : (programs activity i).path (fun _ => Untraced) (fun _ _ => True) [] := by
    rw [programs, requested]
    exact (served.only_untraced silent).made
  exact (reached.follows path inside).1

/-- The sessions of requests that trace nothing are charged nothing. -/
theorem chargedTokens_untraced {sessions : List String} (attributable : Attributable activity initial s)
    (reached : Reaches D (.starting initial world (programs activity)) history s)
    (silent : ∀ sessionId ∈ sessions, ∃ i context served, activity i = .request context served ∧
      served.untraced = true ∧ (activity i).Opens sessionId) : chargedTokens sessions s.db = 0 := by
  refine Table.sum_zero (fun c member => ?_)
  split
  · rename_i charged
    obtain ⟨_, spend, charge, e, named, session⟩ := charged
    obtain ⟨i, context, served, requested, untraced, opens⟩ := silent _ session
    obtain ⟨event, pushed, _⟩ := attributable.charged_event reached member charge named opens
    rw [enqueued_untraced reached requested untraced] at pushed
    cases pushed
  · rfl

theorem resultTokens_nonneg (item : MessageBatchIndividualResponse) : 0 ≤ resultTokens item := by
  unfold resultTokens
  split
  · exact ⟨Int.natCast_nonneg _, Int.natCast_nonneg _⟩
  · exact le_refl 0

/-- Whatever is asked of a message batch, and whatever its results are: what they have used is
charged where they have used nothing, and only there. -/
theorem message_batch_charged_iff {requests : List ι} {sessions : List String}
    (attributable : Attributable activity initial s)
    (reached : Reaches D (.starting initial world (programs activity)) history s)
    (on : ∀ i ∈ requests, OnMessageBatch batchId (activity i))
    (drawn : ∀ sessionId ∈ sessions, ∃ i ∈ requests, (activity i).Opens sessionId)
    (items : List MessageBatchIndividualResponse) :
    (∃ i ∈ requests, CreatesMessageBatch batchId (activity i)) →
    (∃ i ∈ requests, items ∈ fetchedResults (s.procs i).calls) →
    (∀ event ∈ enqueuedBy s requests, HandledEvent activity s event) → AllSettled s.db →
      (chargedTokens sessions s.db = (items.map resultTokens).sum ↔ ∀ item ∈ items, resultTokens item = 0) := by
  intro _ _ _ _
  have uncharged : chargedTokens sessions s.db = 0 := by
    refine chargedTokens_untraced attributable reached (fun sessionId member => ?_)
    obtain ⟨i, inside, opens⟩ := drawn sessionId member
    obtain ⟨context, served, requested, silent⟩ := (on i inside).request
    exact ⟨i, context, served, requested, silent, opens⟩
  rw [uncharged]
  constructor
  · intro nothing item member
    have nonneg : ∀ tokens ∈ items.map resultTokens, 0 ≤ tokens := by
      intro tokens inside
      obtain ⟨item, _, rfl⟩ := List.mem_map.mp inside
      exact resultTokens_nonneg item
    exact List.all_zero_of_le_zero_le_of_sum_eq_zero nonneg nothing.symm (List.mem_map_of_mem member)
  · intro unused
    refine (List.sum_eq_zero (fun tokens inside => ?_)).symm
    obtain ⟨item, member, rfl⟩ := List.mem_map.mp inside
    exact unused item member

end Untraced

/-- One upstream, with a model for messages and one without a name, which is what the handlers
on a stored message batch ask for. -/
def oneClaude : Db := { Db.empty with
  wallets := Table.empty.insert ⟨1, 1, 100⟩
  upstreams := Table.empty.insert ⟨1, "claude", "https://a", "", "anthropic", [], [], "online", ""⟩
  models := (Table.empty.insert ⟨1, 1, "claude", "claude", true, [featureMessages], 100000, 1, 2, 1, 1, ""⟩).insert
    ⟨2, 1, "", "", true, [featureMessages], 100000, 1, 2, 1, 1, ""⟩ }

/-- Of two requests one succeeds. -/
def halfSucceeded (usage : Usage) : List MessageBatchIndividualResponse :=
  [⟨"first", .succeeded ⟨usage⟩⟩, ⟨"second", .errored⟩]

def batchUpstream (usage : Usage) : Env := { Env.plain 0 1 with
  answers := fun
    | .createMessageBatch _ => .ok ⟨"b1", "in_progress"⟩
    | .messageBatchResults _ => .ok (halfSucceeded usage)
    | _ => .error .network }

/-- A batch is created, and its results are fetched. -/
def batching : Fin 2 → ProxyRequest
  | 0 => .createMessageBatch ⟨[⟨"first", ⟨"claude", none⟩⟩, ⟨"second", ⟨"claude", none⟩⟩]⟩
  | 1 => .retrieveMessageBatchResults "msgbatch-m"

/-- No event is delivered, and nothing is settled. -/
def batched : Fin 2 ⊕ Fin 0 ⊕ Fin 0 → Activity := scenario batching Fin.elim0

theorem batched_creates : CreatesMessageBatch "msgbatch-m" (batched (.inl 0)) :=
  ⟨List.cons_ne_nil _ _, by decide +kernel⟩

theorem batched_on : ∀ i ∈ (List.finRange 2).map Sum.inl, OnMessageBatch "msgbatch-m" (batched i) := by
  have each : ∀ k, OnMessageBatch "msgbatch-m" (batched (.inl k)) := Fin.forall_fin_two.mpr ⟨batched_creates, rfl⟩
  exact List.forall_mem_map.mpr (fun k _ => each k)

/-- Each request has a session of its own. -/
theorem batched_opens : ∀ k, (batched (.inl k)).Opens (numberedSessions k.val 0) :=
  Fin.forall_fin_two.mpr ⟨⟨0, rfl⟩, ⟨0, rfl⟩⟩

/-- Both models of the upstream have been used this hour, so that its client is known. -/
def claudeUsed : World := { World.empty with tokenUsage := [(0, 1, 1, 1), (0, 2, 1, 1)] }

def BatchedRun (usage : Usage) (s : State engine (Fin 2 ⊕ Fin 0 ⊕ Fin 0)) : Prop :=
  PlayedOut Fin.elim0 s ∧ ∃ k, halfSucceeded usage ∈ fetchedResults (s.procs (.inl k)).calls

instance (usage : Usage) : DecidablePred (BatchedRun usage) :=
  fun _ => inferInstanceAs (Decidable (_ ∧ _))

def batchedStart : State engine (Fin 2 ⊕ Fin 0 ⊕ Fin 0) := .starting oneClaude claudeUsed (programs batched)

/-- The usage of the one result that has succeeded is not charged, with all events handled and
all charges settled. -/
theorem succeeded_results_are_free : ∃ history s,
    Reaches (Discipline.any False) (.starting oneClaude claudeUsed (programs batched)) history s ∧
    Attributable batched oneClaude s ∧
    (∀ i ∈ (List.finRange 2).map Sum.inl, OnMessageBatch "msgbatch-m" (batched i)) ∧
    CreatesMessageBatch "msgbatch-m" (batched (.inl 0)) ∧
    (∃ k, halfSucceeded ⟨10, 5⟩ ∈ fetchedResults (s.procs (.inl k)).calls) ∧
    (∀ event ∈ enqueuedBy s ((List.finRange 2).map Sum.inl), HandledEvent batched s event) ∧ AllSettled s.db ∧
    chargedTokens [numberedSessions 0 0, numberedSessions 1 0] s.db = 0 ∧
    ((halfSucceeded ⟨10, 5⟩).map resultTokens).sum = (10, 5) := by
  obtain ⟨history, s, reached, played, k, fetched⟩ := State.exists_of_play (Discipline.any False) batchedStart
    (inOrder (fun _ => batchUpstream ⟨10, 5⟩) [7, 6]) (BatchedRun ⟨10, 5⟩) (by decide +kernel)
  have attributable : Attributable batched oneClaude s := played.attributable rfl
  refine ⟨history, s, reached, attributable, batched_on, batched_creates, ⟨k, fetched⟩, played.handled _,
    played.settled, ?_, by decide⟩
  refine chargedTokens_untraced attributable reached (fun sessionId member => ?_)
  rcases List.mem_pair.mp member with rfl | rfl
  · exact ⟨.inl 0, _, _, rfl, rfl, 0, rfl⟩
  · exact ⟨.inl 1, _, _, rfl, rfl, 0, rfl⟩

/-- A batch none of whose requests uses any token. -/
theorem message_batch_charged_iff_unused : ∃ history s,
    Reaches (Discipline.any False) (.starting oneClaude claudeUsed (programs batched)) history s ∧
    (∃ k, halfSucceeded ⟨0, 0⟩ ∈ fetchedResults (s.procs (.inl k)).calls) ∧
    (∀ k, (batched (.inl k)).Opens (numberedSessions k.val 0)) ∧
    chargedTokens [numberedSessions 0 0, numberedSessions 1 0] s.db =
      ((halfSucceeded ⟨0, 0⟩).map resultTokens).sum := by
  obtain ⟨history, s, reached, played, k, fetched⟩ := State.exists_of_play (Discipline.any False) batchedStart
    (inOrder (fun _ => batchUpstream ⟨0, 0⟩) [7, 6]) (BatchedRun ⟨0, 0⟩) (by decide +kernel)
  refine ⟨history, s, reached, ⟨k, fetched⟩, batched_opens, ?_⟩
  have drawn : ∀ sessionId ∈ [numberedSessions 0 0, numberedSessions 1 0],
      ∃ i ∈ (List.finRange 2).map Sum.inl, (batched i).Opens sessionId := by
    intro sessionId member
    rcases List.mem_pair.mp member with rfl | rfl
    · exact ⟨_, List.mem_map_of_mem (List.mem_finRange 0), batched_opens 0⟩
    · exact ⟨_, List.mem_map_of_mem (List.mem_finRange 1), batched_opens 1⟩
  exact (message_batch_charged_iff (played.attributable rfl) reached batched_on drawn (halfSucceeded ⟨0, 0⟩)
    ⟨.inl 0, List.mem_map_of_mem (List.mem_finRange 0), batched_creates⟩
    ⟨.inl k, List.mem_map_of_mem (List.mem_finRange k), fetched⟩ (played.handled _) played.settled).mpr (by decide)

end LLMPool.Billing
