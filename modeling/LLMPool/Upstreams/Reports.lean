import LLMPool.ProxyViews.AnthropicObjects

/-! What the replies to a program's calls tell of the upstreams, and of the objects that they keep. -/
namespace LLMPool.Upstreams
open Transactions

inductive ObjectKind where
  | file
  | batch
  | response

/-- The objects that a call of the OpenAI API names. -/
def named : UpstreamCall → List (ObjectKind × String)
  | .retrieveResponse originalResponseId | .deleteResponse originalResponseId => [(.response, originalResponseId)]
  | .createBatch request => [(.file, request.inputFileId)]
  | .retrieveBatch originalBatchId | .cancelBatch originalBatchId => [(.batch, originalBatchId)]
  | .retrieveFile originalFileId | .deleteFile originalFileId | .fileContent originalFileId => [(.file, originalFileId)]
  | _ => []

/-- The objects that an answer names, by the ids of the upstream. -/
def given : (call : UpstreamCall) → call.Answer → List (ObjectKind × String)
  | .createFile _, file => [(.file, file.id)]
  | .anthropicFile .list, _ => []
  | .anthropicFile _, response => response.json.toList.map (fun file => (.file, ProxyViews.idOf file))
  | .createBatch _, batch | .retrieveBatch _, batch | .cancelBatch _, batch =>
      (.batch, batch.id) :: batch.outputFileId.toList.map (fun originalFileId => (.file, originalFileId))
  | .createMessageBatch _, batch => [(.batch, batch.id)]
  | .createResponse _, response => [(.response, response.id)]
  | _, _ => []

/-- A row that was read, by its id or otherwise, or listed as offline, or is to be checked; an upstream
that was not reached, that is to be marked offline, or that has answered its health check; an object
that is stored under an upstream, or that an upstream has named. -/
inductive Fact where
  | row (upstream : LLMUpstream)
  | found (upstreamId : Int) (upstream : LLMUpstream)
  | offline (upstream : LLMUpstream)
  | due (upstream : LLMUpstream)
  | unreachable (upstreamId : Int)
  | reported (upstreamId : Int)
  | healthy (upstream : LLMUpstream)
  | stored (kind : ObjectKind) (upstreamId : Int) (originalId : String)
  | given (upstream : LLMUpstream) (kind : ObjectKind) (originalId : String)

/-- No answer, or none that the client could read. Where a file is sent for, every error of the client
counts. -/
inductive Unreached (call : UpstreamCall) : Except Failure (Except ClientError call.Answer) → Prop
  | lost (reason : Failure) : Unreached call (.error reason)
  | broken {e : ClientError} (broken : e ≠ .api ∨ ∃ request, call = .anthropicFile request) :
      Unreached call (.ok (.error e))

inductive Tells : Call engine → Fact → Prop
  | row {upstreamId : Int} {u : LLMUpstream} : Tells ⟨.auto (.getUpstream upstreamId), .ok (some u)⟩ (.row u)
  | found {upstreamId : Int} {u : LLMUpstream} :
      Tells ⟨.auto (.getUpstream upstreamId), .ok (some u)⟩ (.found upstreamId u)
  | listed {us : List LLMUpstream} {u : LLMUpstream} (member : u ∈ us) : Tells ⟨.auto .listUpstreams, .ok us⟩ (.row u)
  | candidate {modelName provider feature : String} {rows : List (LLMModel × LLMUpstream)} {m : LLMModel}
      {u : LLMUpstream} (member : (m, u) ∈ rows) :
      Tells ⟨.auto (.findModelsByNameAndCapacity modelName provider feature), .ok rows⟩ (.row u)
  | offline {us : List LLMUpstream} {u : LLMUpstream} (member : u ∈ us) :
      Tells ⟨.auto .listOfflineUpstreams, .ok us⟩ (.offline u)
  | due {u : LLMUpstream} : Tells ⟨.remote .fetchHealthCheck, .ok (some u)⟩ (.due u)
  | unreached {u : LLMUpstream} {call : UpstreamCall} {reply : Except Failure (Except ClientError call.Answer)}
      (unreached : Unreached call reply) : Tells ⟨.remote (.upstream u call), reply⟩ (.unreachable u.id)
  | reported {upstreamId : Int} : Tells ⟨.remote .fetchSpawned, .ok (some upstreamId)⟩ (.reported upstreamId)
  | healthy {u : LLMUpstream} {response : RawResponse} (success : response.isSuccess = true) :
      Tells ⟨.remote (.upstream u .getModels), .ok (.ok response)⟩ (.healthy u)
  | file {fileId : String} {f : FileMeta} : Tells ⟨.auto (.getFileMetaByFileId fileId), .ok (some f)⟩
      (.stored .file f.upstreamId f.originalFileId)
  | batch {batchId : String} {b : BatchMeta} : Tells ⟨.auto (.getBatchMetaByBatchId batchId), .ok (some b)⟩
      (.stored .batch b.upstreamId b.originalBatchId)
  | response {responseId : String} {r : ResponseMeta} :
      Tells ⟨.auto (.getResponseMetaByResponseId responseId), .ok (some r)⟩
        (.stored .response r.upstreamId r.originalResponseId)
  | given {u : LLMUpstream} {call : UpstreamCall} {answer : call.Answer} {kind : ObjectKind} {originalId : String}
      (member : (kind, originalId) ∈ given call answer) :
      Tells ⟨.remote (.upstream u call), .ok (.ok answer)⟩ (.given u kind originalId)

/-- What the calls so far have told. -/
def told (calls : List (Call engine)) (fact : Fact) : Prop := ∃ call ∈ calls, Tells call fact

section Objects
variable {K : Fact → Prop} {u : LLMUpstream} {call : UpstreamCall}

/-- The call names objects that are stored under the id by which the upstream was found. -/
def Finds (K : Fact → Prop) (u : LLMUpstream) (call : UpstreamCall) : Prop :=
  ∀ kind originalId, (kind, originalId) ∈ named call →
    ∃ upstreamId, K (.found upstreamId u) ∧ K (.stored kind upstreamId originalId)

theorem Finds.unnamed (nothing : named call = []) : Finds K u call := by
  intro kind originalId member
  rw [nothing] at member
  cases member

theorem Finds.single {kind : ObjectKind} {originalId : String} {upstreamId : Int}
    (one : named call = [(kind, originalId)]) (found : K (.found upstreamId u))
    (stored : K (.stored kind upstreamId originalId)) : Finds K u call := by
  intro _ _ member
  rw [one] at member
  cases List.mem_singleton.mp member
  exact ⟨upstreamId, found, stored⟩

theorem Finds.mono {K' : Fact → Prop} (finds : Finds K u call) (more : ∀ fact, K fact → K' fact) : Finds K' u call := by
  intro kind originalId member
  obtain ⟨upstreamId, found, stored⟩ := finds kind originalId member
  exact ⟨upstreamId, more _ found, more _ stored⟩

/-- An upstream of this id has named the object. -/
def Gave (K : Fact → Prop) (upstreamId : Int) (kind : ObjectKind) (originalId : String) : Prop :=
  ∃ u : LLMUpstream, (u.id = upstreamId ∨ K (.found upstreamId u)) ∧ K (.given u kind originalId)

theorem Gave.mono {K' : Fact → Prop} {upstreamId : Int} {kind : ObjectKind} {originalId : String}
    (gave : Gave K upstreamId kind originalId) (more : ∀ fact, K fact → K' fact) :
    Gave K' upstreamId kind originalId := by
  obtain ⟨u, here, given⟩ := gave
  exact ⟨u, here.imp id (more _), more _ given⟩

end Objects

section Walks
variable {needs : Op engine → (Fact → Prop) → Prop} {K : Fact → Prop}

theorem within_getUpstream {upstreamId : Int} (needed : needs (.auto (.getUpstream upstreamId)) K) :
    (ProxyViews.getUpstream upstreamId).run.Within ⟨Tells, needs⟩ K
      (fun result => ∀ u, result = .ok u → K (.row u) ∧ K (.found upstreamId u)) := by
  refine within_run_bind (M := fun result => ∀ u, result = .ok (some u) → K (.row u) ∧ K (.found upstreamId u))
    (within_queryAuto (s := .getUpstream upstreamId) needed ?_ nofun) ?_ nofun
  · rintro _ tells u ⟨⟩
    exact ⟨tells _ .row, tells _ .found⟩
  · rintro found tells
    refine within_fetchOne ?_ nofun
    rintro row rfl _ ⟨⟩
    exact tells row rfl

/-- A call that is lost is an error of the network. -/
theorem within_callUpstream {u : LLMUpstream} {call : UpstreamCall} (needed : needs (.remote (.upstream u call)) K) :
    (ProxyViews.callUpstream u call).Within ⟨Tells, needs⟩ K
      (fun answer => ∀ fact, Tells ⟨.remote (.upstream u call), .ok answer⟩ fact → K fact) := by
  refine within_bind (M := fun reply : Except Failure (Except ClientError call.Answer) =>
    ∀ fact, Tells ⟨.remote (.upstream u call), reply⟩ fact → K fact) (within_op needed (fun _ tells => tells)) ?_
  rintro (reason | answer) tells
  · intro fact told
    cases told with
    | unreached => exact tells _ (.unreached (.lost reason))
  · exact tells

end Walks

end LLMPool.Upstreams
