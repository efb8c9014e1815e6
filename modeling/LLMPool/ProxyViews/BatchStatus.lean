import LLMPool.ProxyViews.BatchRequests

/-! The status in a batch's row: after every request that returns the batch it is the
object's, unless a cancellation has changed what the row does not record. -/
namespace LLMPool.ProxyViews
open Relational Transactions

def Returned.object : Returned → Option (String × String)
  | .none => Option.none
  | .openai batch => some (batch.id, BatchStatus.asStr batch.status)
  | .anthropic batch => some (batch.id, batch.processingStatus)

def notedStatus (db : Db) (batchId : String) : Option String :=
  (db.batchMetas.lookup batchId).map (fun row => row.status)

/-- A cancellation is answered with the status that the row had before. -/
def CancelledAsNoted (turn : BatchTurn) : Prop :=
  ∀ batchId, turn.index.2 = .cancelBatch batchId →
    ∃ answer, reportedBatch turn.after.calls = some answer ∧
      notedStatus turn.before batchId = some (BatchStatus.asStr answer.status)

section Runs
variable {faults : Op engine → Prop} {initial db : Db} {turns : List BatchTurn}

/-- In every run of requests on batches, with arbitrary answers of the upstreams, the row
of a batch that is returned has the object's status, exactly if the request is no
cancellation at an OpenAI upstream or the cancellation changes no status. -/
theorem batch_status_follows (healthy : ∀ s, ¬faults (.auto s)) (run : BatchRun faults initial turns db) :
    ∀ turn ∈ turns, ∀ batchId status, turn.value.object = some (batchId, status) →
      (notedStatus turn.after.db batchId = some status ↔ CancelledAsNoted turn) := by
  intro turn member batchId status returned
  have handled := run.handled healthy turn member
  obtain ⟨⟨context, call⟩, before, value, m⟩ := turn
  cases value with
  | none => cases returned
  | anthropic batch =>
      cases returned
      obtain ⟨⟨row, stored, same⟩, other⟩ := handled
      refine iff_of_true ?_ (fun batchId cancel => absurd cancel (other batchId))
      simp only [notedStatus, stored, Option.map_some, same]
  | openai batch =>
      cases returned
      obtain ⟨answer, row, output, answers, noted⟩ := handled
      have status : batch.status = answer.status := by rw [answers.object]
      simp only [notedStatus, answers.stored, Option.map_some, Option.some.injEq, status]
      cases call with
      | cancelBatch batchId =>
          constructor
          · rintro same _ ⟨⟩
            exact ⟨answer, answers.reported, by rw [notedStatus, noted, Option.map_some, same]⟩
          · intro cancelled
            obtain ⟨answer', reported, before⟩ := cancelled batchId rfl
            obtain rfl := Option.some.inj (answers.reported.symm.trans reported)
            rw [notedStatus, noted, Option.map_some] at before
            exact Option.some.inj before
      | _ =>
          refine iff_of_true noted ?_
          rintro _ ⟨⟩

end Runs

def batchInputs : Db := { Db.empty with
  wallets := Table.empty.insert ⟨1, 1, 100⟩
  upstreams := Table.empty.insert ⟨1, "first", "https://a", "", "openai", [], [], "online", ""⟩
  fileMetas := Table.empty.insert ⟨1, "file-1", "file_abc", "batch", 1, false⟩ }

def upstreamBatch (status : BatchStatus) : Batch := ⟨"batch_abc", "file_abc", none, none, status, none⟩

def batchAnswers (first last : BatchStatus) : Env :=
  ⟨0, 1, 0, false, fun call =>
    match call with
    | .createBatch _ => .ok (upstreamBatch first)
    | .cancelBatch _ => .ok (upstreamBatch last)
    | _ => .error .network⟩

def batchContext : RequestContext := ⟨1, 1, fun _ => "s", fun _ => "1", .direct⟩

def createThenCancel (first last : BatchStatus) :
    List ((RequestContext × BatchCall) × Env × World) :=
  [((batchContext, .createBatch ⟨"file-1"⟩), batchAnswers first last, World.empty),
    ((batchContext, .cancelBatch "batch-1"), batchAnswers first last, World.empty)]

def Cancels (returned noted : String) (turn : BatchTurn) : Prop :=
  turn.index.2 = .cancelBatch "batch-1" ∧ turn.value.object = some ("batch-1", returned) ∧
    notedStatus turn.after.db "batch-1" = some noted

instance (returned noted : String) : DecidablePred (Cancels returned noted) := by
  unfold Cancels
  infer_instance

/-- A batch is cancelled, and its row stays in progress. -/
theorem a_cancelled_batch_stays_in_progress : ∃ turns db,
    BatchRun (fun _ => False) batchInputs turns db ∧ ∃ turn ∈ turns, Cancels "cancelling" "in_progress" turn :=
  Sequence.exists_of_script (createThenCancel .inProgress .cancelling)
    (fun turns _ => ∃ turn ∈ turns, Cancels "cancelling" "in_progress" turn) .start (by decide +kernel)

/-- A batch that has failed before it is cancelled keeps its status. -/
theorem batch_status_follows_failed : ∃ turns db,
    BatchRun (fun _ => False) batchInputs turns db ∧
    ∃ turn ∈ turns, Cancels "failed" "failed" turn ∧ CancelledAsNoted turn := by
  have ran : ∃ turns db, BatchRun (fun _ => False) batchInputs turns db ∧
      ∃ turn ∈ turns, Cancels "failed" "failed" turn :=
    Sequence.exists_of_script (createThenCancel .failed .failed)
      (fun turns _ => ∃ turn ∈ turns, Cancels "failed" "failed" turn) .start (by decide +kernel)
  obtain ⟨turns, db, run, turn, member, cancels⟩ := ran
  exact ⟨turns, db, run, turn, member, cancels,
    (batch_status_follows (fun _ => id) run turn member _ _ cancels.2.1).mp cancels.2.2⟩

end LLMPool.ProxyViews
