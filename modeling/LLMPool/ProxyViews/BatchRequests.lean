import LLMPool.ProxyViews.Requests
import LLMPool.Transactions.Sequence

/-! The requests of both providers' APIs on batches, one after another, with the batch
that each has returned and the one that its upstream had answered. -/
namespace LLMPool.ProxyViews
open Relational Transactions

/-- A request on a batch, or any other one. -/
inductive BatchCall where
  | createBatch (payload : BatchRequest)
  | retrieveBatch (batchId : String)
  | cancelBatch (batchId : String)
  | createMessageBatch (payload : CreateMessageBatchParams)
  | retrieveMessageBatch (batchId : String)
  | cancelMessageBatch (batchId : String)
  | other (request : ProxyRequest)
  deriving DecidableEq

/-- The batch object of a response. -/
inductive Returned where
  | none
  | openai (batch : Batch)
  | anthropic (batch : MessageBatch)
  deriving DecidableEq

def Returned.ofReply (returned : α → Returned) : Reply α → Returned
  | .json body => returned body
  | _ => .none

def BatchCall.handle (context : RequestContext) : BatchCall → Action Returned
  | createBatch payload => do return .ofReply .openai (← ProxyViews.createBatch context payload)
  | retrieveBatch batchId => do return .ofReply .openai (← ProxyViews.retrieveBatch context batchId)
  | cancelBatch batchId => do return .ofReply .openai (← ProxyViews.cancelBatch context batchId)
  | createMessageBatch payload => do
      return .ofReply .anthropic (← ProxyViews.createMessageBatch context payload)
  | retrieveMessageBatch batchId => do
      return .ofReply .anthropic (← ProxyViews.retrieveMessageBatch context batchId)
  | cancelMessageBatch batchId => do
      return .ofReply .anthropic (← ProxyViews.cancelMessageBatch context batchId)
  | other request => do
      request.handle context
      return .none

/-- One request, with its account, its key and the ids that it draws. -/
abbrev BatchTurn := Turned engine (RequestContext × BatchCall) Returned

/-- Requests that are handled one at a time. -/
def BatchRun (faults : Op engine → Prop) (initial : Db) : List BatchTurn → Db → Prop :=
  Sequence faults (fun request => request.2.handle request.1) initial

/-- The batch that an OpenAI upstream has answered last. -/
def reportedBatch : List (Call engine) → Option Batch
  | [] => none
  | ⟨.remote (.upstream _ (.createBatch _)), .ok (.ok batch)⟩ :: _ => some batch
  | ⟨.remote (.upstream _ (.retrieveBatch _)), .ok (.ok batch)⟩ :: _ => some batch
  | ⟨.remote (.upstream _ (.cancelBatch _)), .ok (.ok batch)⟩ :: _ => some batch
  | _ :: older => reportedBatch older

/-- The rows, and the upstream's batch. -/
def seen (m : Solo engine) : Db × Option Batch := (m.db, reportedBatch m.calls)

theorem seen_db {m m' : Solo engine} (same : seen m' = seen m) : m'.db = m.db := congrArg Prod.fst same

/-- A call that writes nothing and contacts no upstream. -/
def Looks : Op engine → Prop
  | .auto s => ∀ answer, writes s answer = []
  | .remote (.upstream _ _) => False
  | .remote _ => True
  | _ => False

theorem Looks.keeps {op : Op engine} (looks : Looks op) : op.Keeps seen := by
  intro m reply world
  cases op with
  | auto s =>
      cases reply with
      | ok answer =>
          have still : writes s answer = [] := looks answer
          simp only [seen, Solo.after, Op.commits, still, reportedBatch]
          rfl
      | error reason => rfl
  | remote c =>
      cases c with
      | upstream u call => exact absurd looks id
      | _ => cases reply <;> rfl
  | begin | sql | commit => exact absurd looks id

section Parts

theorem looks_accountWallet (accountId : Int) : (accountWallet accountId).Only Looks := by
  refine only_bind (only_op trivial) ?_
  rintro (reason | (_ | wallet))
  · exact only_queryAuto (fun _ => rfl)
  · exact only_queryAuto (fun _ => rfl)
  · trivial

theorem looks_getUpstream (upstreamId : Int) : (getUpstream upstreamId).run.Only Looks :=
  only_run_bind (only_queryAuto (fun _ => rfl)) (fun _ => only_fetchOne _)

theorem looks_reportNetworkError (client : UpstreamClient) (e : ClientError) :
    (reportNetworkError client e).Only Looks := by
  rw [reportNetworkError]
  split
  · exact only_bind (only_op trivial) (fun _ => trivial)
  · trivial

theorem looks_selectModelClients (builds : Nat → LLMUpstream → Bool) (modelName provider feature : String)
    (count : Nat) : (selectModelClients builds modelName provider feature count).Only Looks := by
  refine only_bind (only_queryAuto (s := .findModelsByNameAndCapacity modelName provider feature) (fun _ => rfl)) ?_
  rintro (e | models)
  · trivial
  · dsimp only
    split
    · trivial
    · refine only_bind ?_ (fun _ => trivial)
      rw [getOutputTokenUsageBatch]
      split
      · trivial
      · refine only_bind (only_op trivial) ?_
        rintro (reason | values) <;> trivial

/-- What is promised of a body, where one is returned. -/
def Returns (Q : α → Solo engine → Prop) : Reply α → Solo engine → Prop
  | .json body, m => Q body m
  | _, _ => True

variable {faults : Op engine → Prop} {m : Solo engine} {Q : α → Solo engine → Prop}

theorem yields_looks {p : Action β} {f : β → Action γ} {Q : γ → Solo engine → Prop} (looks : p.Only Looks)
    (rest : ∀ value m', seen m' = seen m → (f value).yields faults Q m') : (p >>= f).yields faults Q m :=
  yields_after (looks.mono (fun _ looks => looks.keeps)) rest

theorem yields_queryAuto {s : Stmt} {Q : Except SqlxError s.Answer → Solo engine → Prop}
    (healthy : ∀ s, ¬faults (.auto s))
    (answered : ∀ env answer m', possible s env m.db = true → exec s env m.db = some answer →
      m'.db = engine.applyAll (writes s answer) m.db → reportedBatch m'.calls = reportedBatch m.calls →
      Q (.ok answer) m')
    (refused : ∀ reason m', (∃ env, exec s env m.db = none) → Q (.error (.database reason)) m') :
    (Query.auto s).run.yields faults Q m := by
  refine yields_pooled (E := engine) (s := s) (fun env answer drawn executed => ?_) (fun never => ?_)
    (fun faulty => absurd faulty (healthy s))
  · exact answered env answer _ drawn executed rfl rfl
  · exact refused _ _ never

theorem yields_checkWalletBalance {insufficient : String} {accountId : Int} {next : Action (Reply α)}
    (rest : ∀ m', seen m' = seen m → next.yields faults (Returns Q) m') :
    (checkWalletBalance insufficient accountId next).yields faults (Returns Q) m := by
  refine yields_looks (looks_accountWallet accountId) ?_
  rintro (e | (_ | wallet)) m' same
  · trivial
  · trivial
  · dsimp only
    split
    · trivial
    · exact rest m' same

theorem yields_withUpstream {upstreamId : Int} {next : LLMUpstream → Action (Reply α)}
    (rest : ∀ upstream m', seen m' = seen m → (next upstream).yields faults (Returns Q) m') :
    (withUpstream upstreamId next).yields faults (Returns Q) m := by
  refine yields_looks (looks_getUpstream upstreamId) ?_
  rintro ((reason | _) | upstream) m' same
  · trivial
  · trivial
  · exact rest upstream m' same

/-- A client that cannot be built ends the request, which then returns no body. -/
theorem yields_withClient {context : RequestContext} {upstream : LLMUpstream} {next : Action (Reply α)}
    (rest : next.yields faults (Returns Q) m) :
    (withClient context upstream next).yields faults (Returns Q) m := by
  rw [withClient]
  split
  · exact rest
  · trivial

theorem yields_withAnthropicClient {context : RequestContext} {modelName unavailable : String}
    {next : UpstreamClient → Action (Reply α)}
    (rest : ∀ client m', seen m' = seen m → (next client).yields faults (Returns Q) m') :
    (withAnthropicClient context modelName unavailable next).yields faults (Returns Q) m := by
  refine yields_looks (looks_selectModelClients _ _ _ _ _) ?_
  rintro (_ | _ | ⟨client, others⟩) m' same
  · trivial
  · trivial
  · exact rest client m' same

/-- Only a call to an upstream changes the batch that was answered last. -/
theorem yields_callUpstream {upstream : LLMUpstream} {call : UpstreamCall}
    {Q : Except ClientError call.Answer → Solo engine → Prop}
    (failed : ∀ e m', Q (.error e) m')
    (answered : ∀ answer m', m'.db = m.db →
      reportedBatch m'.calls =
        reportedBatch (⟨.remote (.upstream upstream call), .ok (.ok answer)⟩ :: m.calls) →
      Q (.ok answer) m') : (callUpstream upstream call).yields faults Q m := by
  refine yields_bind.mpr (yields_remote ?_)
  rintro (reason | (e | answer)) world
  · exact failed _ _
  · exact failed _ _
  · exact answered answer _ rfl rfl

/-- The row of a batch, its upstream and the body that the upstream answers. -/
theorem yields_withBatch {context : RequestContext} {batchId : String}
    {next : BatchMeta → LLMUpstream → SessionTracer → Action (Reply Batch)} {Q : Batch → Solo engine → Prop}
    (healthy : ∀ s, ¬faults (.auto s))
    (rest : ∀ row upstream tracer m', m.db.batchMetas.lookup batchId = some row → m'.db = m.db →
      (next row upstream tracer).yields faults (Returns Q) m') :
    (withBatch context batchId next).yields faults (Returns Q) m := by
  refine yields_checkWalletBalance (fun m₁ same => yields_bind.mpr (yields_queryAuto healthy ?_ ?_))
  · rintro env (_ | row) m₂ _ found db _
    · trivial
    · refine yields_withUpstream (fun upstream m₃ same' => yields_withClient (rest row upstream _ m₃ ?_ ?_))
      · exact (congrArg (fun v : Db × Option Batch => v.1.batchMetas.lookup batchId) same).symm.trans
          (Option.some.inj found)
      · exact ((seen_db same').trans db).trans (seen_db same)
  · intro reason m' _
    trivial

theorem yields_withStored {context : RequestContext} {kind batchId : String}
    {next : BatchMeta → UpstreamClient → Action (Reply α)} (healthy : ∀ s, ¬faults (.auto s))
    (rest : ∀ row client m', m.db.batchMetas.lookup batchId = some row → m'.db = m.db →
      (next row client).yields faults (Returns Q) m') :
    (withStored context kind batchId (resolveBatchMeta batchId) next).yields faults (Returns Q) m := by
  refine yields_checkWalletBalance (fun m₁ same => yields_bind.mpr (yields_queryAuto healthy ?_ ?_))
  · rintro env (_ | row) m₂ _ found db _
    · trivial
    · refine yields_withAnthropicClient (fun client m₃ same' => rest row client m₃ ?_ ?_)
      · exact (congrArg (fun v : Db × Option Batch => v.1.batchMetas.lookup batchId) same).symm.trans
          (Option.some.inj found)
      · exact ((seen_db same').trans db).trans (seen_db same)
  · intro reason m' _
    trivial

theorem yields_insertBatchMeta {batchId originalBatchId provider : String} {upstreamId : Int}
    {Q : Except SqlxError BatchMeta → Solo engine → Prop} (healthy : ∀ s, ¬faults (.auto s))
    (rest : ∀ row m', m'.db.batchMetas.lookup batchId = some row → row.upstreamId = upstreamId →
      m'.db.fileMetas = m.db.fileMetas → reportedBatch m'.calls = reportedBatch m.calls → Q (.ok row) m')
    (failed : ∀ e m', Q (.error e) m') :
    (Query.auto (.insertBatchMeta batchId originalBatchId upstreamId provider)).run.yields faults Q m := by
  refine yields_queryAuto healthy (fun env row m' drawn executed db calls => ?_) (fun _ _ _ => failed _ _)
  simp only [exec] at executed
  split at executed
  · rename_i unused
    cases executed
    simp only [possible, decide_eq_true_eq] at drawn
    let row : BatchMeta := ⟨env.serial, batchId, originalBatchId, upstreamId, "pending", provider⟩
    have inserted : m'.db = engine.applyAll [.insertBatchMeta row] m.db := db
    have free : m.db.batchMetas.free row := ⟨drawn.2, unused⟩
    refine rest row m' ?_ rfl (by rw [inserted]; rfl) calls
    rw [inserted]
    exact Table.lookup_insert_self free
  · cases executed

/-- The row of a batch takes the status of the object that is answered. -/
theorem yields_synced {batchId status : String} {row : BatchMeta}
    {Q : Except SqlxError (Option BatchMeta) → Solo engine → Prop} (healthy : ∀ s, ¬faults (.auto s))
    (stored : m.db.batchMetas.lookup batchId = some row)
    (rest : ∀ answer m', m'.db.batchMetas.lookup batchId = some (withBatchStatus status row) →
      m'.db.fileMetas = m.db.fileMetas → reportedBatch m'.calls = reportedBatch m.calls → Q (.ok answer) m') :
    (Query.auto (.updateBatchMetaStatus batchId status)).run.yields faults Q m := by
  refine yields_queryAuto healthy (fun env answer m' _ executed db calls => ?_) (fun reason m' never => ?_)
  · have updated : (m.db.batchMetas.lookup batchId).map (withBatchStatus status) = answer :=
      Option.some.inj executed
    rw [stored, Option.map_some] at updated
    subst updated
    refine rest _ m' ?_ (by rw [db]; rfl) calls
    have modified : (m.db.batchMetas.modify row.id (withBatchStatus status) (withBatchStatus_keeps status)).lookup
        batchId = some (withBatchStatus status row) := by
      rw [Table.lookup_modify, stored, Option.map_some, Table.at_key]
      exact congrArg some (if_pos rfl)
    rw [db]
    exact modified
  · obtain ⟨env, never⟩ := never
    cases never

end Parts

/-- What wrapping a file does: an id that has a mapping is mapped to it, and one that has
none gets a new one. -/
inductive Wrapped (context : RequestContext) (upstreamId : Int) (files : Table FileMeta) :
    Option String → Option FileMeta → Table FileMeta → Prop
  | absent : Wrapped context upstreamId files none none files
  | reused {f : FileMeta} (stored : f ∈ files) (live : f.deleted = false) (here : f.upstreamId = upstreamId) :
      Wrapped context upstreamId files (some f.originalFileId) (some f) files
  | stored {f : FileMeta} (unmapped : ∀ g ∈ files,
        ¬(g.originalFileId = f.originalFileId ∧ g.upstreamId = upstreamId ∧ g.deleted = false))
      (minted : f.fileId = mintedId "file-" (context.minted 1)) (live : f.deleted = false)
      (here : f.upstreamId = upstreamId) (free : files.free f) :
      Wrapped context upstreamId files (some f.originalFileId) (some f) (files.insert f)

section Parts
variable {faults : Op engine → Prop} {m : Solo engine} {context : RequestContext} {upstreamId : Int}

theorem yields_wrapFile {fileId : Option String} {Q : Except SqlxError (Option FileMeta) → Solo engine → Prop}
    (healthy : ∀ s, ¬faults (.auto s))
    (wrapped : ∀ output m', Wrapped context upstreamId m.db.fileMetas fileId output m'.db.fileMetas →
      m'.db.batchMetas = m.db.batchMetas → reportedBatch m'.calls = reportedBatch m.calls →
      Q (.ok output) m')
    (failed : ∀ e m', Q (.error e) m') : (wrapFile context fileId upstreamId).run.yields faults Q m := by
  cases fileId with
  | none => exact wrapped none m .absent rfl rfl
  | some originalFileId =>
      refine yields_run_bind.mpr (yields_queryAuto healthy ?_ (fun _ _ _ => failed _ _))
      intro env found m₁ _ executed db calls
      have newest : Table.topBy FileMeta.id env.pick (m.db.fileMetas.rows.filter (fun f =>
          f.originalFileId = originalFileId ∧ f.upstreamId = upstreamId ∧ f.deleted = false)) = found :=
        Option.some.inj executed
      have same : m₁.db = m.db := db
      cases found with
      | some f =>
          have member := (Table.topBy_mem newest).1
          simp only [List.mem_filter, decide_eq_true_eq] at member
          obtain ⟨stored, rfl, here, live⟩ := member
          exact wrapped (some f) m₁ (by rw [same]; exact .reused stored live here)
            (congrArg Db.batchMetas same) calls
      | none =>
          refine yields_run_bind.mpr (yields_queryAuto healthy ?_ (fun _ _ _ => failed _ _))
          intro env' f m₂ drawn executed' db' calls'
          simp only [exec, same] at executed'
          split at executed'
          · rename_i unused
            cases executed'
            have unmapped := Table.topBy_eq_none.mp newest
            simp only [List.filter_eq_nil_iff, decide_eq_true_eq] at unmapped
            simp only [possible, decide_eq_true_eq, same] at drawn
            let f : FileMeta := ⟨env'.serial, mintedId "file-" (context.minted 1), originalFileId, "batch_output",
              upstreamId, false⟩
            have inserted : m₂.db = engine.applyAll [.insertFileMeta f] m.db := by
              rw [db', same]
              rfl
            refine wrapped (some f) m₂ ?_ (by rw [inserted]; rfl) (calls'.trans calls)
            rw [inserted]
            exact Wrapped.stored (f := f) unmapped rfl rfl rfl ⟨drawn.2, unused⟩
          · cases executed'

end Parts

/-- A batch that is returned is the upstream's, under the pool's id and with its output
file wrapped. -/
structure Answers (context : RequestContext) (files : Table FileMeta) (batch : Batch) (m : Solo engine)
    (answer : Batch) (row : BatchMeta) (output : Option FileMeta) : Prop where
  reported : reportedBatch m.calls = some answer
  stored : m.db.batchMetas.lookup batch.id = some row
  wrapped : Wrapped context row.upstreamId files answer.outputFileId output m.db.fileMetas
  object : batch = { answer with id := batch.id, outputFileId := output.map (fun f => f.fileId) }

/-- A batch as it is returned, with what is promised of the upstream's batch and the row. -/
def Batched (context : RequestContext) (files : Table FileMeta) (P : Batch → BatchMeta → Prop) (batch : Batch)
    (m : Solo engine) : Prop :=
  ∃ answer row output, Answers context files batch m answer row output ∧ P answer row

section Handlers
variable {faults : Op engine → Prop} {m : Solo engine} {context : RequestContext} {upstreamId : Int}

theorem yields_answerBatch {tracer : SessionTracer} {files : Table FileMeta} {answer batch : Batch}
    {row : BatchMeta} {P : Batch → BatchMeta → Prop} (healthy : ∀ s, ¬faults (.auto s))
    (kept : m.db.fileMetas = files) (reported : reportedBatch m.calls = some answer)
    (stored : m.db.batchMetas.lookup batch.id = some row) (here : row.upstreamId = upstreamId)
    (described : P answer row) (object : batch = { answer with id := batch.id }) :
    (answerBatch context tracer upstreamId batch).yields faults (Returns (Batched context files P)) m := by
  subst here
  refine yields_bind.mpr (yields_wrapFile healthy ?_ (fun _ _ => trivial))
  intro output m₁ wrapped rows calls
  refine yields_looks (only_bind (only_op trivial) (fun _ => trivial)) (fun tracer' m₂ same => ?_)
  have db : m₂.db = m₁.db := seen_db same
  refine ⟨answer, row, output, ⟨?_, ?_, ?_, ?_⟩, described⟩
  · exact (congrArg Prod.snd same).trans (calls.trans reported)
  · rw [db, rows]
    exact stored
  · rw [db, ← kept]
    rw [object] at wrapped
    exact wrapped
  · conv_lhs => rw [object]

/-- The status is written to the row before the batch is returned. -/
theorem yields_syncThenAnswer {tracer : SessionTracer} {files : Table FileMeta} {answer : Batch}
    {row : BatchMeta} (batchId : String) (healthy : ∀ s, ¬faults (.auto s)) (kept : m.db.fileMetas = files)
    (reported : reportedBatch m.calls = some answer) (stored : m.db.batchMetas.lookup batchId = some row)
    (here : row.upstreamId = upstreamId) :
    (do
      syncBatchStatus batchId { answer with id := batchId }
      answerBatch context tracer upstreamId { answer with id := batchId }).yields faults
        (Returns (Batched context files (fun answer row => row.status = BatchStatus.asStr answer.status))) m := by
  refine yields_bind.mpr (yields_bind.mpr (yields_synced healthy stored ?_))
  intro result m₁ updated files calls
  have described : (withBatchStatus (BatchStatus.asStr answer.status) row).status =
      BatchStatus.asStr answer.status := rfl
  exact yields_answerBatch healthy (files.trans kept) (calls.trans reported) updated here described rfl

theorem yields_createBatch (healthy : ∀ s, ¬faults (.auto s)) (payload : BatchRequest) :
    (createBatch context payload).yields faults (Returns (Batched context m.db.fileMetas
      (fun answer row => row.status = BatchStatus.asStr answer.status))) m := by
  refine yields_checkWalletBalance (fun m₁ same => yields_bind.mpr (yields_queryAuto healthy ?_ ?_))
  · rintro env (_ | fileMeta) m₂ _ _ db _
    · trivial
    refine yields_withUpstream (fun upstream m₃ same' => ?_)
    refine yields_looks (only_bind (only_op trivial) (fun _ => trivial)) (fun tracer m₄ same'' => ?_)
    refine yields_withClient (yields_bind.mpr ?_)
    refine (yields_callUpstream (fun e m' => trivial) (fun answer m₅ db' reported => ?_))
    have before : m₅.db = m.db := by
      rw [db', seen_db same'', seen_db same', db, ← seen_db same]
      rfl
    refine yields_bind.mpr (yields_insertBatchMeta healthy ?_ (fun _ _ => trivial))
    rintro row m₆ stored here files calls
    exact yields_syncThenAnswer _ healthy (by rw [files, before]) (calls.trans reported) stored here
  · intro reason m' _
    trivial

theorem yields_retrieveBatch (healthy : ∀ s, ¬faults (.auto s)) (batchId : String) :
    (retrieveBatch context batchId).yields faults (Returns (Batched context m.db.fileMetas
      (fun answer row => row.status = BatchStatus.asStr answer.status))) m := by
  refine yields_withBatch healthy (fun row upstream tracer m₁ stored db => ?_)
  refine yields_bind.mpr (yields_callUpstream (fun e m' => trivial) (fun answer m₂ db' reported => ?_))
  have before : m₂.db = m.db := db'.trans db
  exact yields_syncThenAnswer batchId healthy (by rw [before]) reported (by rw [before]; exact stored) rfl

theorem yields_cancelBatch (healthy : ∀ s, ¬faults (.auto s)) (batchId : String) :
    (cancelBatch context batchId).yields faults (Returns (Batched context m.db.fileMetas
      (fun _ row => m.db.batchMetas.lookup batchId = some row))) m := by
  refine yields_withBatch healthy (fun row upstream tracer m₁ stored db => ?_)
  refine yields_bind.mpr (yields_callUpstream (fun e m' => trivial) (fun answer m₂ db' reported => ?_))
  have before : m₂.db = m.db := db'.trans db
  exact yields_answerBatch healthy (by rw [before]) reported (by rw [before]; exact stored) rfl
    stored rfl

/-- The row of a message batch has the status of the object. -/
def Tracked (batch : MessageBatch) (m : Solo engine) : Prop :=
  ∃ row, m.db.batchMetas.lookup batch.id = some row ∧ row.status = batch.processingStatus

theorem yields_anthropicSdkRequest {client : UpstreamClient} {call : UpstreamCall}
    {Q : Except ClientError call.Answer → Solo engine → Prop} (failed : ∀ e m', Q (.error e) m')
    (answered : ∀ answer m', m'.db = m.db → Q (.ok answer) m') :
    (anthropicSdkRequest client call).yields faults Q m := by
  refine yields_bind.mpr (yields_callUpstream ?_ (fun answer m' db _ => answered answer m' db))
  rintro (_ | _ | _) m' <;> exact failed _ _

theorem yields_answerSdkError {client : UpstreamClient} {e : ClientError} {Q : α → Solo engine → Prop} :
    (answerSdkError client e).yields faults (Returns Q) m :=
  yields_looks (looks_reportNetworkError client e) (fun _ _ _ => trivial)

theorem yields_syncThenReturn {answer : MessageBatch} {row : BatchMeta} (batchId : String)
    (healthy : ∀ s, ¬faults (.auto s)) (stored : m.db.batchMetas.lookup batchId = some row) :
    (do
      syncMessageBatchStatus batchId { answer with id := batchId }
      return .json { answer with id := batchId } : Action (Reply MessageBatch)).yields faults
        (Returns Tracked) m := by
  refine yields_bind.mpr (yields_bind.mpr (yields_synced healthy stored ?_))
  intro result m' updated _ _
  exact ⟨_, updated, rfl⟩

theorem yields_createMessageBatch (healthy : ∀ s, ¬faults (.auto s)) (payload : CreateMessageBatchParams) :
    (createMessageBatch context payload).yields faults (Returns Tracked) m := by
  refine yields_checkWalletBalance (fun m₁ _ => yields_withAnthropicClient (fun client m₂ _ => ?_))
  refine yields_bind.mpr (yields_anthropicSdkRequest (fun e m' => yields_answerSdkError) (fun answer m₃ _ => ?_))
  refine yields_bind.mpr (yields_insertBatchMeta healthy ?_ (fun _ _ => trivial))
  intro row m₄ stored _ _ _
  exact yields_syncThenReturn _ healthy stored

theorem yields_onMessageBatch (healthy : ∀ s, ¬faults (.auto s)) (batchId : String)
    (request : String → MessageBatchRequest) :
    (onMessageBatch context batchId request).yields faults (Returns Tracked) m := by
  refine yields_withStored healthy (fun row client m₁ stored db => ?_)
  refine yields_bind.mpr (yields_anthropicSdkRequest (fun e m' => yields_answerSdkError) (fun answer m₂ db' => ?_))
  have kept : m₂.db.batchMetas.lookup batchId = some row := by rw [db', db]; exact stored
  exact yields_syncThenReturn batchId healthy kept

/-- What a request notes in the row of a batch that an OpenAI upstream has answered: a
cancellation leaves the row as it was. -/
def Noted (before : Db) (call : BatchCall) (answer : Batch) (row : BatchMeta) : Prop :=
  match call with
  | .cancelBatch batchId => before.batchMetas.lookup batchId = some row
  | _ => row.status = BatchStatus.asStr answer.status

/-- What a request that returns a batch has brought about. -/
def Handled (context : RequestContext) (call : BatchCall) (before : Db) : Returned → Solo engine → Prop
  | .none, _ => True
  | .openai batch, m => Batched context before.fileMetas (Noted before call) batch m
  | .anthropic batch, m => Tracked batch m ∧ ∀ batchId, call ≠ .cancelBatch batchId

theorem yields_ofReply {p : Action (Reply α)} {returned : α → Returned} {Q : α → Solo engine → Prop}
    {call : BatchCall} {before : Db} (yields : p.yields faults (Returns Q) m)
    (handled : ∀ body m', Q body m' → Handled context call before (returned body) m') :
    (do return .ofReply returned (← p) : Action Returned).yields faults (Handled context call before) m := by
  refine yields_bind.mpr (yields_mono ?_ yields)
  intro reply m' shown
  cases reply with
  | json body => exact handled body m' shown
  | _ => trivial

theorem yields_handle (healthy : ∀ s, ¬faults (.auto s)) (context : RequestContext) (call : BatchCall) :
    (call.handle context).yields faults (Handled context call m.db) m := by
  cases call with
  | createBatch payload => exact yields_ofReply (yields_createBatch healthy payload) (fun _ _ shown => shown)
  | retrieveBatch batchId => exact yields_ofReply (yields_retrieveBatch healthy batchId) (fun _ _ shown => shown)
  | cancelBatch batchId => exact yields_ofReply (yields_cancelBatch healthy batchId) (fun _ _ shown => shown)
  | createMessageBatch payload =>
      exact yields_ofReply (yields_createMessageBatch healthy payload) (fun _ _ shown => ⟨shown, nofun⟩)
  | retrieveMessageBatch batchId | cancelMessageBatch batchId =>
      exact yields_ofReply (yields_onMessageBatch healthy batchId _) (fun _ _ shown => ⟨shown, nofun⟩)
  | other request =>
      exact yields_bind.mpr (yields_mono (fun _ _ _ => trivial) yields_any)

theorem BatchRun.handled {initial db : Db} {turns : List BatchTurn} (healthy : ∀ s, ¬faults (.auto s))
    (run : BatchRun faults initial turns db) :
    ∀ turn ∈ turns, Handled turn.index.1 turn.index.2 turn.before turn.value turn.after := by
  refine Sequence.each (fun request db world => ?_) run
  have handled : (request.2.handle request.1).yields faults (Handled request.1 request.2 db) ⟨[], db, world⟩ :=
    yields_handle (m := ⟨[], db, world⟩) healthy request.1 request.2
  exact handled

end Handlers

end LLMPool.ProxyViews
