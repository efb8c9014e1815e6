import LLMPool.Growth
import LLMPool.ProxyViews.Untraced

/-! Which model the traced usage is priced with: in every run, that of the upstream
that was contacted or, where the handler passes the upstream's id for a model's,
whatever model has this id. -/
namespace LLMPool.ProxyViews
open Relational Transactions

namespace ProxyRequest

/-- The requests whose upstream is chosen by a model. -/
def modelRouted : ProxyRequest → Bool
  | chatCompletions _ | createEmbeddings _ | generateImages _ | createSpeech _ => true
  | createResponse _ | createMessage _ | countMessageTokens _ | createMessageBatch _ => true
  | _ => false

/-- The upstream that the row of the request's object names. -/
def owner (db : Db) : ProxyRequest → Option Int
  | createBatch payload => (db.fileMetas.lookup payload.inputFileId).map (fun f => f.upstreamId)
  | retrieveFileHandler fileId | deleteFileHandler fileId | fileContentHandler fileId
  | retrieveFile fileId | deleteFile fileId | fileContent fileId =>
      (db.fileMetas.lookup fileId).map (fun f => f.upstreamId)
  | retrieveBatch batchId | cancelBatch batchId | retrieveMessageBatch batchId
  | cancelMessageBatch batchId | retrieveMessageBatchResults batchId =>
      (db.batchMetas.lookup batchId).map (fun b => b.upstreamId)
  | retrieveResponse responseId =>
      (db.responseMetas.lookup responseId).map (fun r => r.upstreamId)
  | _ => none

/-- What a handler's calls have shown of the model id under which it traces a usage. -/
def Served : ProxyRequest → List (Call engine) → Int → LLMUpstream → Prop
  | chatCompletions _ | createEmbeddings _ | generateImages _ => Routed
  | createResponse _ | createMessage _ => Routed
  | createBatch payload => Owned (fun calls => FileRead calls payload.inputFileId)
  | retrieveBatch batchId | cancelBatch batchId => Owned (fun calls => BatchRead calls batchId)
  | retrieveResponse responseId => Owned (fun calls => ResponseRead calls responseId)
  | _ => fun _ _ _ => False

theorem path_handle (context : RequestContext) (request : ProxyRequest) {calls : List (Call engine)} :
    (request.handle context).path (Traced request.Served) (fun _ _ => True) calls := by
  by_cases silent : request.untraced = true
  · exact path_untraced (request.only_untraced silent)
  · cases request with
    | chatCompletions payload =>
        exact path_discard (path_checkWalletBalance (fun _ => path_routeRequest
          (fun i client => attempts_chatCompletions client (.new context i client.modelDbId) _)
          quiet_reportNetworkError))
    | createEmbeddings payload =>
        exact path_discard (path_checkWalletBalance (fun _ => path_routeRequest
          (fun i client => attempts_createEmbeddings client (.new context i client.modelDbId) _)
          quiet_reportNetworkError))
    | generateImages payload =>
        exact path_discard (path_checkWalletBalance (fun _ => path_routeRequest
          (fun i client => attempts_generateImages client (.new context i client.modelDbId) _)
          (fun _ _ => trivial)))
    | createResponse payload => exact path_discard (path_createResponse context payload)
    | createMessage payload => exact path_discard (path_createMessage context payload)
    | retrieveResponse responseId => exact path_discard (path_retrieveResponse context responseId)
    | createBatch payload => exact path_discard (path_createBatch context payload)
    | retrieveBatch batchId => exact path_discard (path_retrieveBatch context batchId)
    | cancelBatch batchId => exact path_discard (path_cancelBatch context batchId)
    | _ => exact absurd rfl silent

end ProxyRequest

/-- What the answer of a statement shows of the rows from then on. -/
def Shown : (s : Stmt) → s.Answer → Db → Prop
  | .findModelsByNameAndCapacity _ _ _, rows, db =>
      ∀ candidate ∈ rows, candidate.1 ∈ db.models ∧ candidate.1.upstreamId = candidate.2.id
  | .getFileMetaByFileId fileId, found, db => ∀ f ∈ found,
      (db.fileMetas.lookup fileId).map (fun f => f.upstreamId) = some f.upstreamId
  | .getBatchMetaByBatchId batchId, found, db => ∀ b ∈ found,
      (db.batchMetas.lookup batchId).map (fun b => b.upstreamId) = some b.upstreamId
  | .getResponseMetaByResponseId responseId, found, db => ∀ r ∈ found,
      (db.responseMetas.lookup responseId).map (fun r => r.upstreamId) = some r.upstreamId
  | _, _, _ => True

theorem shown_exec {s : Stmt} {env : Env} {db : Db} {answer : s.Answer}
    (executed : exec s env db = some answer) : Shown s answer db := by
  cases s with
  | findModelsByNameAndCapacity name provider feature =>
      cases executed
      intro ⟨m, u⟩ member
      have offered := mem_candidates.mp (Table.mem_arrange.mp member)
      exact ⟨offered.model, offered.belongs⟩
  | getFileMetaByFileId fileId =>
      cases executed
      intro f member
      obtain ⟨found, _⟩ := Option.filter_eq_some_iff.mp member
      simp only [found, Option.map_some]
  | getBatchMetaByBatchId batchId =>
      cases executed
      intro b found
      simp only [Option.mem_def.mp found, Option.map_some]
  | getResponseMetaByResponseId responseId =>
      cases executed
      intro r member
      obtain ⟨found, _⟩ := Option.filter_eq_some_iff.mp member
      simp only [found, Option.map_some]
  | _ => trivial

theorem shown_grows {s : Stmt} {answer : s.Answer} {db db' : Db} (grows : Grows db db')
    (shown : Shown s answer db) : Shown s answer db' := by
  cases s with
  | findModelsByNameAndCapacity name provider feature =>
      intro candidate member
      rw [grows.models]
      exact shown candidate member
  | getFileMetaByFileId fileId =>
      intro f member
      obtain ⟨f', found, same⟩ := Option.map_eq_some_iff.mp (shown f member)
      obtain ⟨f'', found', kept⟩ := grows.fileMetas.lookup (fun same => same.fileId) found
      simp only [found', Option.map_some, kept.upstreamId, same]
  | getBatchMetaByBatchId batchId =>
      intro b member
      obtain ⟨b', found, same⟩ := Option.map_eq_some_iff.mp (shown b member)
      obtain ⟨b'', found', kept⟩ := grows.batchMetas.lookup (fun same => same.batchId) found
      simp only [found', Option.map_some, kept.upstreamId, same]
  | getResponseMetaByResponseId responseId =>
      intro r member
      obtain ⟨r', found, same⟩ := Option.map_eq_some_iff.mp (shown r member)
      obtain ⟨r'', found', kept⟩ := grows.responseMetas.lookup (fun same => same.responseId) found
      simp only [found', Option.map_some, kept.upstreamId, same]
  | _ => trivial

section Pricing
variable {calls : List (Call engine)} {db : Db} {modelId : Int} {u : LLMUpstream}
  (shown : ∀ {stmt : Stmt} {answer : stmt.Answer},
    (⟨.auto stmt, .ok answer⟩ : Call engine) ∈ calls → Shown stmt answer db)

include shown in
theorem routed_model (routed : Routed calls modelId u) :
    ∃ m ∈ db.models, m.id = modelId ∧ m.upstreamId = u.id := by
  obtain ⟨client, chosen, rfl, rfl⟩ := routed
  obtain ⟨name, provider, feature, rows, m, asked, inside, same⟩ := chosen
  obtain ⟨known, belongs⟩ := shown asked _ inside
  exact ⟨m, known, same.symm, belongs⟩

theorem owned_model {request : ProxyRequest} (unrouted : request.modelRouted = false)
    (same : modelId = u.id) (owner : request.owner db = some u.id) :
    (∃ m ∈ db.models, m.id = modelId ∧ m.upstreamId = u.id) ↔ request.modelRouted = true ∨
      ∃ id, request.owner db = some id ∧ ∃ m ∈ db.models, m.id = id ∧ m.upstreamId = id := by
  subst same
  simp only [unrouted, owner, Bool.false_eq_true, false_or, Option.some.injEq, exists_eq_left']

include shown in
theorem served_model (request : ProxyRequest) (served : request.Served calls modelId u) :
    (∃ m ∈ db.models, m.id = modelId ∧ m.upstreamId = u.id) ↔ request.modelRouted = true ∨
      ∃ id, request.owner db = some id ∧ ∃ m ∈ db.models, m.id = id ∧ m.upstreamId = id := by
  cases request with
  | chatCompletions | createEmbeddings | generateImages | createResponse | createMessage =>
      exact iff_of_true (routed_model shown served) (.inl rfl)
  | createBatch payload =>
      obtain ⟨same, f, asked, owns⟩ := served
      have owner := shown asked f rfl
      rw [owns] at owner
      exact owned_model rfl same owner
  | retrieveBatch batchId | cancelBatch batchId =>
      obtain ⟨same, b, asked, owns⟩ := served
      have owner := shown asked b rfl
      rw [owns] at owner
      exact owned_model rfl same owner
  | retrieveResponse responseId =>
      obtain ⟨same, r, asked, owns⟩ := served
      have owner := shown asked r rfl
      rw [owns] at owner
      exact owned_model rfl same owner
  | _ => exact absurd served id

end Pricing

section Runs
variable {ι : Type} [DecidableEq ι] {D : Discipline engine} {db : Db} {world : World}
  {program : ι → Action Unit} {history : History engine ι} {s : State engine ι} {i : ι}

theorem Reaches.shown (reached : Reaches D (.starting db world program) history s) {stmt : Stmt}
    {answer : stmt.Answer} (asked : (⟨.auto stmt, .ok answer⟩ : Call engine) ∈ (s.procs i).calls) :
    Shown stmt answer s.db :=
  reached.recalled (F := Shown) (fun _ _ _ _ executed => shown_exec executed)
    (fun _ _ w db shown => shown_grows (grows_apply w db) shown) asked

/-- A usage that is traced for a request is priced with a model of the upstream that
served it, for the requests that are routed by a model, and for the others exactly where
the model with that upstream's own id belongs to it. -/
theorem priced_with_serving_model {context : RequestContext} {request : ProxyRequest}
    {e : EventTask EventData} {reply : Except Failure Unit} {older : List (Call engine)}
    (handles : program i = request.handle context)
    (reached : Reaches D (.starting db world program) history s)
    (pushed : (⟨.remote (.pushEvent e), reply⟩ : Call engine) :: older <:+ (s.procs i).calls)
    (bears : e.eventData.extractUsage.isSome) :
    ∃ u, contacted older = some u ∧ ((∃ m ∈ db.models, m.id = e.modelId ∧ m.upstreamId = u.id) ↔
      request.modelRouted = true ∨
        ∃ id, request.owner s.db = some id ∧ ∃ m ∈ db.models, m.id = id ∧ m.upstreamId = id) := by
  have path : (program i).path (Traced request.Served) (fun _ _ => True) [] :=
    handles ▸ request.path_handle context
  obtain ⟨u, contacted, served⟩ := (reached.follows path pushed).1 bears
  refine ⟨u, contacted, ?_⟩
  have seen : ∀ {call : Call engine}, call ∈ older → call ∈ (s.procs i).calls :=
    fun member => pushed.subset (List.mem_cons_of_mem _ member)
  have same : s.db.models = db.models := (Reaches.grows reached).models
  rw [← same]
  exact served_model (fun asked => Reaches.shown reached (seen asked)) request served

end Runs

/-- Two upstreams, the first with two models; the batch is stored at the second, whose
own model has id 3. -/
def batchAtSecond (second : LLMModel) : Db := { Db.empty with
  wallets := Table.empty.insert ⟨1, 1, 100⟩
  upstreams := (Table.empty.insert ⟨1, "first", "https://a", "", "openai", [], [], "online", ""⟩).insert
    ⟨2, "second", "https://b", "", "openai", [], [], "online", ""⟩
  models := ((Table.empty.insert ⟨1, 1, "gpt-4o", "gpt-4o", true, ["batch"], 100000, 1, 2, 1, 1, ""⟩).insert
    second).insert ⟨3, 2, "gpt-4o", "gpt-4o", true, ["batch"], 100000, 5, 9, 5, 9, ""⟩
  batchMetas := Table.empty.insert ⟨1, "batch-1", "b1", 2, "completed", "openai"⟩ }

def completedBatch : Batch := ⟨"b1", "f1", none, none, .completed, some ⟨10, 5, 15⟩⟩

/-- Every retrieved batch is answered as completed. -/
def batchAnswered : Env where
  now := 0
  serial := 1
  pick := 0
  expired := false
  answers := fun
    | .retrieveBatch _ => .ok completedBatch
    | _ => .error .network

def retrievesBatch : RequestContext := ⟨1, 1, fun _ => "s", fun _ => "u", .direct⟩

/-- The event that was traced last, with the upstream that was contacted for it. -/
def lastTraced : List (Call engine) → Option (EventTask EventData × Option LLMUpstream)
  | ⟨.remote (.pushEvent e), _⟩ :: older => some (e, contacted older)
  | _ => none

theorem lastTraced_iff {calls : List (Call engine)} (traced : lastTraced calls = some (e, u)) :
    ∃ reply older, calls = ⟨.remote (.pushEvent e), reply⟩ :: older ∧ contacted older = u := by
  unfold lastTraced at traced
  split at traced
  · rename_i e' reply older
    cases traced
    exact ⟨reply, older, rfl, rfl⟩
  · cases traced

def retrieval (second : LLMModel) : State engine Unit :=
  .starting (batchAtSecond second) World.empty
    (fun _ => (ProxyRequest.retrieveBatch "batch-1").handle retrievesBatch)

def retrieved : List (Unit × Turn engine) := List.replicate 7 ((), .run batchAnswered)

def TracedModel (modelId : Int) (s : State engine Unit) : Prop :=
  ∃ traced ∈ lastTraced (s.procs ()).calls,
    traced.1.eventData.extractUsage = some ⟨10, 5, 15, true⟩ ∧ traced.1.modelId = modelId ∧
    (∃ u ∈ traced.2, u.id = 2) ∧ (ProxyRequest.retrieveBatch "batch-1").owner s.db = some 2

instance (modelId : Int) : DecidablePred (TracedModel modelId) := by
  unfold TracedModel
  infer_instance

theorem TracedModel.pushed (traced : TracedModel modelId s) : ∃ e reply older u,
    (⟨.remote (.pushEvent e), reply⟩ : Call engine) :: older <:+ (s.procs ()).calls ∧
    e.eventData.extractUsage = some ⟨10, 5, 15, true⟩ ∧ e.modelId = modelId ∧
    contacted older = some u ∧ u.id = 2 := by
  obtain ⟨⟨e, found⟩, last, bears, named, there, _⟩ := traced
  obtain ⟨reply, older, calls, rfl⟩ := lastTraced_iff last
  obtain ⟨u, known, same⟩ := there
  exact ⟨e, reply, older, u, calls ▸ List.suffix_rfl, bears, named, known, same⟩

/-- A batch of the second upstream is priced with the model whose id is the upstream's,
which belongs to the first upstream. -/
theorem priced_with_another_upstream : ∃ history s e reply older u,
    Reaches (Discipline.any False)
      (retrieval ⟨2, 1, "gpt-5", "gpt-5", true, ["batch"], 100000, 3, 4, 3, 4, ""⟩) history s ∧
    (⟨.remote (.pushEvent e), reply⟩ : Call engine) :: older <:+ (s.procs ()).calls ∧
    e.eventData.extractUsage.isSome ∧ contacted older = some u ∧
    (∃ m ∈ s.db.models, m.id = e.modelId ∧ m.upstreamId ≠ u.id) ∧
    ¬∃ m ∈ s.db.models, m.id = e.modelId ∧ m.upstreamId = u.id := by
  obtain ⟨history, s, reached, traced, other⟩ := State.exists_of_play (Discipline.any False)
    (retrieval ⟨2, 1, "gpt-5", "gpt-5", true, ["batch"], 100000, 3, 4, 3, 4, ""⟩) retrieved
    (fun s => TracedModel 2 s ∧ (∃ m ∈ s.db.models.rows, m.id = 2 ∧ m.upstreamId ≠ 2) ∧
      ∀ m ∈ s.db.models.rows, ¬(m.id = 2 ∧ m.upstreamId = 2)) (by decide +kernel)
  obtain ⟨e, reply, older, u, pushed, bears, named, there, second⟩ := traced.pushed
  refine ⟨history, s, e, reply, older, u, reached, pushed, ?_, there, ?_, ?_⟩
  · rw [bears]
    rfl
  · rw [named, second]
    exact other.1
  · rintro ⟨m, member, here, belongs⟩
    exact other.2 m member ⟨here.trans named, belongs.trans second⟩

/-- Where the model with the upstream's id is its own, the batch is priced with it. -/
theorem priced_with_serving_model_own : ∃ history s e reply older u,
    Reaches (Discipline.any False)
      (retrieval ⟨2, 2, "gpt-5", "gpt-5", true, ["batch"], 100000, 3, 4, 3, 4, ""⟩) history s ∧
    (⟨.remote (.pushEvent e), reply⟩ : Call engine) :: older <:+ (s.procs ()).calls ∧
    contacted older = some u ∧
    ∃ m ∈ (batchAtSecond ⟨2, 2, "gpt-5", "gpt-5", true, ["batch"], 100000, 3, 4, 3, 4, ""⟩).models,
      m.id = e.modelId ∧ m.upstreamId = u.id := by
  obtain ⟨history, s, reached, traced⟩ := State.exists_of_play (Discipline.any False)
    (retrieval ⟨2, 2, "gpt-5", "gpt-5", true, ["batch"], 100000, 3, 4, 3, 4, ""⟩) retrieved
    (TracedModel 2) (by decide +kernel)
  obtain ⟨e, reply, older, u, pushed, bears, named, there, second⟩ := traced.pushed
  obtain ⟨u', there', priced⟩ := priced_with_serving_model (i := ()) rfl reached pushed
    (by rw [bears]; rfl)
  obtain rfl := Option.some.inj (there.symm.trans there')
  obtain ⟨_, _, _, _, _, owner⟩ := traced
  have own : ∃ m ∈ (batchAtSecond ⟨2, 2, "gpt-5", "gpt-5", true, ["batch"], 100000, 3, 4, 3, 4, ""⟩).models.rows,
      m.id = 2 ∧ m.upstreamId = 2 := by decide +kernel
  exact ⟨history, s, e, reply, older, u, reached, pushed, there, priced.mpr (.inr ⟨2, owner, own⟩)⟩

end LLMPool.ProxyViews
