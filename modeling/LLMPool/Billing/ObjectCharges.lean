import LLMPool.Billing.ReportedCharges
import Mathlib.Tactic.FinCases

/-! Responses and batches in the ledger: every answer that reports a usage is charged, however
often the object is asked for. -/
namespace LLMPool.Billing
open Relational Transactions ProxyViews

/-- By its id in the pool. -/
inductive PoolObject where
  | response (responseId : String)
  | batch (batchId : String)

/-- The requests on an object: the one that its id was minted for, and those that name it. -/
def OnObject : PoolObject → Activity → Prop
  | .response responseId, .request context (.createResponse _) => mintedId "resp-" (context.minted 0) = responseId
  | .response responseId, .request _ (.retrieveResponse asked) => asked = responseId
  | .batch batchId, .request context (.createBatch _) => mintedId "batch-" (context.minted 0) = batchId
  | .batch batchId, .request _ (.retrieveBatch asked) => asked = batchId
  | .batch batchId, .request _ (.cancelBatch asked) => asked = batchId
  | _, _ => False

theorem OnObject.request {object : PoolObject} {activity : Activity} (on : OnObject object activity) :
    ∃ context served, activity = .request context served := by
  cases activity with
  | request context served => exact ⟨context, served, rfl⟩
  | delivery | settlement => cases object <;> exact absurd on id

section Objects
variable {ι : Type} [DecidableEq ι] {D : Discipline engine} {activity : ι → Activity} {initial : Db} {world : World}
  {history : History engine ι} {s : State engine ι} {object : PoolObject} {requests : List ι} {sessions : List String}

/-- However an object is created, retrieved and cancelled: it is charged at most its final usage
where the answers that the queue takes and that have a model report at most this in all, and
only there. -/
theorem object_charged_at_most_iff (attributable : Attributable activity initial s)
    (reached : Reaches D (.starting initial world (programs activity)) history s) (once : requests.Nodup)
    (on : ∀ i ∈ requests, OnObject object (activity i))
    (covered : ∀ event ∈ enqueuedBy s requests, event.sessionId ∈ sessions)
    (covers : ∀ sessionId ∈ sessions, ∃ i ∈ requests, (activity i).Opens sessionId) (final : Int × Int) :
    (∀ event ∈ enqueuedBy s requests, HandledEvent activity s event) → AllSettled s.db →
      (chargedTokens sessions s.db ≤ final ↔
        (requests.flatMap (chargedReports activity initial s)).sum ≤ final) := by
  intro handled settled
  rw [attributable.chargedTokens_reports reached once (fun i member => (on i member).request) covered covers handled
    settled]

end Objects

/-- The upstream has a model of its own id, and a file for the batch. -/
def batchFile : Db := { Db.empty with
  wallets := Table.empty.insert ⟨1, 1, 100⟩
  upstreams := Table.empty.insert ⟨1, "gpt", "https://a", "", "openai", [], [], "online", ""⟩
  models := Table.empty.insert ⟨1, 1, "gpt-4o", "gpt-4o", true, ["batch"], 100000, 1, 2, 1, 1, ""⟩
  fileMetas := Table.empty.insert ⟨1, "file-1", "f1", "batch", 1, false⟩ }

def runningBatch : Batch := ⟨"b1", "f1", none, none, .inProgress, none⟩

/-- The batch has been completed once it is retrieved. -/
def batchAnswer (serial : Int) : Env := { Env.plain 0 (serial + 1) with
  answers := fun
    | .createBatch _ => .ok runningBatch
    | .retrieveBatch _ => .ok completedBatch
    | _ => .error .network }

/-- The batch is created and retrieved twice. -/
def onBatch : Fin 3 → ProxyRequest
  | 0 => .createBatch ⟨"file-1"⟩
  | 1 | 2 => .retrieveBatch "batch-m"

def batchEvent : Fin 4 → EventTask EventData
  | 0 => ⟨numberedSessions 0 0, 0, 1, 1, 1, .openai (.batchRequest ⟨"file-1"⟩)⟩
  | 1 => ⟨numberedSessions 0 0, 1, 1, 1, 1, .openai (.batch { runningBatch with id := "batch-m" })⟩
  | 2 => ⟨numberedSessions 1 0, 0, 1, 1, 1, .openai (.batch { completedBatch with id := "batch-m" })⟩
  | 3 => ⟨numberedSessions 2 0, 0, 1, 1, 1, .openai (.batch { completedBatch with id := "batch-m" })⟩

def polled : Fin 3 ⊕ Fin 4 ⊕ Fin 2 → Activity := scenario onBatch batchEvent

def polledStart : State engine (Fin 3 ⊕ Fin 4 ⊕ Fin 2) := .starting batchFile World.empty (programs polled)

/-- The creation and the first retrieval. -/
def polledOnce : List (Fin 3) := (List.finRange 3).take 2

def polledSessions (requests : List (Fin 3)) : List String := requests.map (fun k : Fin 3 => numberedSessions k 0)

def PolledRun (s : State engine (Fin 3 ⊕ Fin 4 ⊕ Fin 2)) : Prop :=
  PlayedOut batchEvent s ∧
    (∀ k, ∀ event ∈ enqueued (s.procs (.inl k)).calls, event.sessionId = numberedSessions k 0) ∧
    (∀ k, (answeredReports (s.procs (.inl k)).calls).sum ≤ ((10, 5) : Int × Int)) ∧
    chargedTokens (polledSessions polledOnce) s.db = (10, 5) ∧
    chargedTokens (polledSessions (List.finRange 3)) s.db = (20, 10)

instance : DecidablePred PolledRun := fun _ => inferInstanceAs (Decidable (_ ∧ _))

theorem exists_polledRun : ∃ history s, Reaches (Discipline.any False) polledStart history s ∧ PolledRun s :=
  State.exists_of_play (Discipline.any False) polledStart
    (inOrder batchAnswer [9, 7, 7, 4, 4, 7, 7, 10, 10]) PolledRun (by decide +kernel)

theorem polled_on (requests : List (Fin 3)) :
    ∀ i ∈ requests.map Sum.inl, OnObject (.batch "batch-m") (polled i) := by
  intro i member
  obtain ⟨k, _, rfl⟩ := List.mem_map.mp member
  fin_cases k
  · exact show mintedId "batch-" "m" = "batch-m" by decide +kernel
  · rfl
  · rfl

theorem PolledRun.covered {s : State engine (Fin 3 ⊕ Fin 4 ⊕ Fin 2)} (run : PolledRun s) (requests : List (Fin 3)) :
    ∀ event ∈ enqueuedBy s (requests.map Sum.inl), event.sessionId ∈ polledSessions requests := by
  intro event member
  obtain ⟨i, inside, pushed⟩ := List.mem_flatMap.mp member
  obtain ⟨k, asked, rfl⟩ := List.mem_map.mp inside
  exact List.mem_map.mpr ⟨k, asked, (run.2.1 k event pushed).symm⟩

theorem polled_covers (requests : List (Fin 3)) :
    ∀ sessionId ∈ polledSessions requests, ∃ i ∈ requests.map Sum.inl, (polled i).Opens sessionId := by
  intro sessionId member
  obtain ⟨k, asked, rfl⟩ := List.mem_map.mp member
  exact ⟨.inl k, List.mem_map_of_mem asked, 0, rfl⟩

/-- A completed batch is charged its usage each time that it is retrieved. -/
theorem polled_batch_is_charged_again : ∃ history s, Reaches (Discipline.any False) polledStart history s ∧
    Attributable polled batchFile s ∧ (∀ i ∈ (List.finRange 3).map Sum.inl, OnObject (.batch "batch-m") (polled i)) ∧
    (∀ event ∈ enqueuedBy s ((List.finRange 3).map Sum.inl),
      event.sessionId ∈ polledSessions (List.finRange 3) ∧ HandledEvent polled s event) ∧ AllSettled s.db ∧
    (∀ k, (answeredReports (s.procs (.inl k)).calls).sum ≤ ((10, 5) : Int × Int)) ∧
    ¬chargedTokens (polledSessions (List.finRange 3)) s.db ≤ (10, 5) := by
  obtain ⟨history, s, reached, run⟩ := exists_polledRun
  refine ⟨history, s, reached, run.1.attributable rfl, polled_on _, fun event member => ?_, run.1.settled,
    run.2.2.1, ?_⟩
  · exact ⟨run.covered _ event member, run.1.handled _ event member⟩
  · rw [run.2.2.2.2]
    decide

/-- It is charged once where it is retrieved once. -/
theorem object_charged_at_most_iff_once : ∃ s : State engine (Fin 3 ⊕ Fin 4 ⊕ Fin 2),
    chargedTokens (polledSessions polledOnce) s.db = (10, 5) ∧
      ((polledOnce.map Sum.inl).flatMap (chargedReports polled batchFile s)).sum ≤ ((10, 5) : Int × Int) := by
  obtain ⟨history, s, reached, run⟩ := exists_polledRun
  have charged := run.2.2.2.1
  refine ⟨s, charged, ?_⟩
  exact (object_charged_at_most_iff (run.1.attributable rfl) reached (by decide +kernel) (polled_on _) (run.covered _)
    (polled_covers _) (10, 5) (run.1.handled _) run.1.settled).mp (by rw [charged])

end LLMPool.Billing
