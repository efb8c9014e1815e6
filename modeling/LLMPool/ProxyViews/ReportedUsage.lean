import LLMPool.ProxyViews.Retries
import LLMPool.ProxyViews.SessionIndices

/-! The usage that upstreams report, on its way into the queue: every handler traces what the
answer that it has received reports, item by item, and no other usage. -/
namespace LLMPool.ProxyViews
open Transactions Snapshots

/-- Input and output tokens of the usage of an event. -/
def eventTokens (data : EventData) : Int × Int :=
  match data.extractUsage with
  | some usage => (usage.inputTokens, usage.outputTokens)
  | none => 0

def completionTokens : Option CompletionUsage → Int × Int
  | some usage => (usage.promptTokens, usage.completionTokens)
  | none => 0

def responseTokens : Option ResponseUsage → Int × Int
  | some usage => (usage.inputTokens, usage.outputTokens)
  | none => 0

/-- What an answer to a traced call reports, item by item. -/
def answerTokens : (call : UpstreamCall) → call.Answer → List (Int × Int)
  | .createChat _, response => [completionTokens response.usage]
  | .createChatStream _, items => (consumed items).map (fun chunk => completionTokens chunk.usage)
  | .createEmbedding _, response => [(response.usage.promptTokens, 0)]
  | .generateImages _, response => [responseTokens response.usage]
  | .createResponse _, response => [responseTokens response.usage]
  | .retrieveResponse _, response => [responseTokens response.usage]
  | .createBatch _, batch => [responseTokens batch.usage]
  | .retrieveBatch _, batch => [responseTokens batch.usage]
  | .cancelBatch _, batch => [responseTokens batch.usage]
  | .createMessage _, message => [(message.usage.inputTokens, message.usage.outputTokens)]
  | .createMessageStream _, items =>
      (snapshots metered isStop (0, 0) (consumed items)).map (fun counters => (counters.1, counters.2))
  | _, _ => []

/-- What the last answer reports and no event has been traced for. -/
def pendingReports : List (Call engine) → List (Int × Int)
  | [] => []
  | ⟨.remote (.upstream _ call), .ok (.ok answer)⟩ :: _ => answerTokens call answer
  | ⟨.remote (.upstream _ _), _⟩ :: _ => []
  | ⟨.remote (.pushEvent _), _⟩ :: older => (pendingReports older).tail
  | _ :: older => pendingReports older

/-- An event has the usage of the next item that the last answer reports, or none. -/
def Owing (calls : List (Call engine)) : Op engine → Prop
  | .remote (.pushEvent event) => eventTokens event.eventData = (pendingReports calls).headD 0
  | _ => True

/-- And an upstream is contacted when nothing is pending. -/
def Tracks (calls : List (Call engine)) : Op engine → Prop
  | .remote (.upstream _ _) => pendingReports calls = []
  | op => Owing calls op

theorem Tracks.owing {calls : List (Call engine)} {op : Op engine} (tracks : Tracks calls op) : Owing calls op := by
  cases op with
  | remote c =>
      cases c with
      | upstream u call => trivial
      | _ => exact tracks
  | _ => exact tracks

/-- A program that traces what is due. -/
def Reports (due : List (Int × Int)) (p : Action α) (Q : List (Int × Int) → Prop) : Prop :=
  ∀ calls, pendingReports calls = due → p.path Tracks (fun _ later => Q (pendingReports later)) calls

section Rules
variable {due : List (Int × Int)} {Q : List (Int × Int) → Prop}

theorem pendingReports_quiet {calls : List (Call engine)} {op : Op engine} (reply : Except Failure op.Reply)
    (quiet : Quiet op) : pendingReports (⟨op, reply⟩ :: calls) = pendingReports calls ∧ Tracks calls op := by
  cases op with
  | remote c =>
      cases c with
      | pushEvent e => exact absurd quiet id
      | upstream u call => exact absurd quiet id
      | _ => exact ⟨rfl, trivial⟩
  | _ => exact ⟨rfl, trivial⟩

theorem Reports.pure (value : α) (left : Q due) : Reports due (pure value : Action α) Q := by
  rintro calls rfl
  exact left

theorem Reports.weaken {p : Action α} {Q' : List (Int × Int) → Prop} (reports : Reports due p Q)
    (weaker : ∀ left, Q left → Q' left) : Reports due p Q' :=
  fun calls here => path_mono (fun _ _ made => made) (fun _ _ left => weaker _ left) (reports calls here)

theorem Reports.bind {M : List (Int × Int) → Prop} {p : Action α} {f : α → Action β} (first : Reports due p M)
    (rest : ∀ value left, M left → Reports left (f value) Q) : Reports due (p >>= f) Q :=
  fun calls here => path_bind.mpr (path_mono (fun _ _ made => made)
    (fun value _ left => rest value _ left _ rfl) (first calls here))

theorem Reports.quiet {p : Action α} (quiet : p.Only Quiet) : Reports due p (fun left => left = due) := by
  induction p with
  | done value => exact fun _ here => here
  | call op next ih =>
      intro calls here
      exact ⟨(pendingReports_quiet (.error .fault) quiet.1).2, fun reply _ =>
        ih reply (quiet.2 reply) _ ((pendingReports_quiet reply quiet.1).1.trans here)⟩

theorem Reports.after {p : Action α} {f : α → Action β} (quiet : p.Only Quiet)
    (rest : ∀ value, Reports due (f value) Q) : Reports due (p >>= f) Q := by
  refine (Reports.quiet quiet).bind ?_
  rintro value _ rfl
  exact rest value

theorem Reports.add {tracer : SessionTracer} {data : EventData} {f : SessionTracer → Action α}
    (next : eventTokens data = due.headD 0) (rest : Reports due.tail (f tracer.bump) Q) :
    Reports due (tracer.add data >>= f) Q := by
  rintro calls rfl
  exact path_bind.mpr (path_bind.mpr (path_op (P := Tracks) next (fun reply _ => rest _ rfl)))

/-- An event without a usage, where nothing is due. -/
theorem Reports.bare {tracer : SessionTracer} {data : EventData} {f : SessionTracer → Action α}
    (bare : data.extractUsage = none) (rest : Reports [] (f tracer.bump) Q) :
    Reports [] (tracer.add data >>= f) Q :=
  .add (by rw [eventTokens, bare]; rfl) rest

theorem Reports.call {u : LLMUpstream} {call : UpstreamCall} {f : Except ClientError call.Answer → Action α}
    (answers : ∀ answer, Reports (answerTokens call answer) (f (.ok answer)) Q)
    (fails : ∀ e, Reports [] (f (.error e)) Q) : Reports [] (callUpstream u call >>= f) Q := by
  intro calls here
  refine path_bind.mpr (path_bind.mpr (path_op (P := Tracks) here ?_))
  rintro (reason | e | answer) -
  · exact fails _ _ rfl
  · exact fails _ _ rfl
  · exact answers _ _ rfl

theorem owing_untraced {calls : List (Call engine)} {op : Op engine} (untraced : Untraced op) : Owing calls op := by
  cases op with
  | remote c =>
      cases c with
      | pushEvent e => exact absurd untraced id
      | _ => trivial
  | _ => trivial

end Rules

section Handlers
variable {due : List (Int × Int)} {Q : List (Int × Int) → Prop}

theorem reports_traceAll {tracer : SessionTracer} {data : List EventData} {bare : Nat}
    (same : data.map eventTokens = due ++ List.replicate bare 0) :
    Reports due (traceAll tracer data) (fun left => left = []) := by
  induction data generalizing due bare tracer with
  | nil => exact .pure _ (List.append_eq_nil_iff.mp same.symm).1
  | cons first rest ih =>
      cases due with
      | nil =>
          cases bare with
          | zero => cases same
          | succ bare =>
              obtain ⟨none, others⟩ := List.cons.inj same
              have rest : Reports [] (traceAll tracer.bump rest) (fun left => left = []) := ih others
              exact .add none rest
      | cons next others =>
          obtain ⟨this, others⟩ := List.cons.inj same
          exact .add this (ih others)

/-- What an endpoint traces of an answer is what it reports; events without a usage may follow. -/
structure Endpoint.Reporting (endpoint : Endpoint α) : Prop where
  request : ∀ client, (endpoint.request client).extractUsage = none
  responses : ∀ client answer, ∃ bare, (endpoint.responses client answer).map eventTokens =
    answerTokens (endpoint.call client) answer ++ List.replicate bare 0

theorem quiet_conclude (endpoint : Endpoint α) (client : UpstreamClient) (answer : (endpoint.call client).Answer) :
    (endpoint.conclude client answer).Only Quiet := by
  rw [Endpoint.conclude]
  split
  · trivial
  · refine only_bind (quiet_auto rfl) ?_
    rintro (e | stored) <;> trivial

theorem reports_attempt {endpoint : Endpoint α} (reporting : endpoint.Reporting) (context : RequestContext) (i : Nat)
    (client : UpstreamClient) : Reports [] (endpoint.attempt context i client) (fun left => left = []) := by
  refine .bare (reporting.request client) (.call (fun answer => ?_) (fun e => .pure _ rfl))
  obtain ⟨bare, same⟩ := reporting.responses client answer
  refine (reports_traceAll same).bind ?_
  rintro _ _ rfl
  exact .after (quiet_conclude endpoint client answer) (fun reply => .pure _ rfl)

theorem reports_tryClients {attempts : Nat → UpstreamClient → Action (Except ClientError (Reply α))}
    {failed : UpstreamClient → ClientError → Action Unit} {exhausted : Reply α}
    {clients : List UpstreamClient} {i : Nat}
    (each : ∀ i client, Reports [] (attempts i client) (fun left => left = []))
    (failing : ∀ client e, (failed client e).Only Quiet) :
    Reports [] (tryClients attempts failed exhausted i clients) (fun left => left = []) := by
  induction clients generalizing i with
  | nil => exact .pure _ rfl
  | cons client rest ih =>
      refine (each i client).bind ?_
      rintro (e | reply) _ rfl
      · refine .after (failing client e) (fun _ => ?_)
        split
        · exact .pure _ rfl
        · exact ih
      · exact .pure _ rfl

theorem quiet_selectModelClients (builds : Nat → LLMUpstream → Bool) (modelName provider feature : String)
    (count : Nat) : (selectModelClients builds modelName provider feature count).Only Quiet := by
  refine only_bind (quiet_auto (s := .findModelsByNameAndCapacity modelName provider feature) rfl) ?_
  rintro (e | rows)
  · trivial
  · dsimp only
    split
    · trivial
    · exact only_bind (quiet_getOutputTokenUsageBatch _) (fun _ => trivial)

theorem reports_checkWalletBalance {insufficient : String} {accountId : Int} {next : Action (Reply α)}
    (stops : Q due) (rest : Reports due next Q) : Reports due (checkWalletBalance insufficient accountId next) Q := by
  refine .after (quiet_accountWallet accountId) ?_
  rintro (e | (_ | wallet))
  · exact .pure _ stops
  · exact .pure _ stops
  · dsimp only
    split
    · exact .pure _ stops
    · exact rest

theorem reports_discard {p : Action α} (reports : Reports due p Q) : Reports due (discard p) Q :=
  reports.bind (fun _ _ left => .pure _ left)

theorem reporting_chatEndpoint (payload : CreateChatCompletionRequest) : (chatEndpoint payload).Reporting := by
  unfold chatEndpoint
  split
  · refine ⟨fun _ => rfl, fun client stream => ⟨1, ?_⟩⟩
    rw [List.map_append, List.map_map]
    refine congrArg (· ++ _) (List.map_congr_left (fun chunk _ => ?_))
    obtain ⟨_ | usage⟩ := chunk <;> rfl
  · refine ⟨fun _ => rfl, fun client response => ⟨0, ?_⟩⟩
    obtain ⟨_ | usage⟩ := response <;> rfl

theorem reporting_messageEndpoint (payload : CreateMessageParams) : (messageEndpoint payload).Reporting := by
  unfold messageEndpoint
  split
  · refine ⟨fun _ => rfl, fun client stream => ⟨0, ?_⟩⟩
    rw [List.map_map, List.replicate_zero, List.append_nil]
    rfl
  · exact ⟨fun _ => rfl, fun client message => ⟨0, rfl⟩⟩

theorem reporting_responseEndpoint (context : RequestContext) (payload : CreateResponse)
    (originalPreviousResponseId : Option String) :
    (responseEndpoint context payload originalPreviousResponseId).Reporting := by
  refine ⟨fun _ => rfl, fun client response => ⟨0, ?_⟩⟩
  obtain ⟨_, _, _ | usage⟩ := response <;> rfl

theorem RetriedRequest.reporting (request : RetriedRequest) (context : RequestContext)
    (originalPreviousResponseId : Option String) :
    (request.endpoint context originalPreviousResponseId).Reporting := by
  cases request with
  | chatCompletions payload => exact reporting_chatEndpoint payload
  | createEmbeddings payload => exact ⟨fun _ => rfl, fun _ _ => ⟨0, rfl⟩⟩
  | generateImages payload =>
      refine ⟨fun _ => rfl, fun client response => ⟨0, ?_⟩⟩
      obtain ⟨_ | usage⟩ := response <;> rfl
  | createMessage payload => exact reporting_messageEndpoint payload
  | createResponse payload => exact reporting_responseEndpoint context payload originalPreviousResponseId

theorem RetriedRequest.reports_route {context : RequestContext} (request : RetriedRequest)
    {next : Option String → List UpstreamClient → Action (Reply request.Body)}
    (rest : ∀ original clients, Reports [] (next original clients) (fun left => left = [])) :
    Reports [] (request.route context next) (fun left => left = []) := by
  have selected : ∀ {α : Type} {unavailable : Reply α} {f : List UpstreamClient → Action (Reply α)}
      (builds : Nat → LLMUpstream → Bool) (modelName provider feature : String),
      (∀ clients, Reports [] (f clients) (fun left => left = [])) →
      Reports [] (withModelClients builds modelName provider feature 2 (fun clients =>
        if clients = [] then return unavailable else f clients)) (fun left => left = []) := by
    intro α unavailable f builds modelName provider feature each
    refine .after (quiet_selectModelClients builds modelName provider feature 2) ?_
    rintro (_ | clients)
    · exact .pure _ rfl
    · dsimp only
      split
      · exact .pure _ rfl
      · exact each clients
  cases request with
  | chatCompletions | createEmbeddings | generateImages =>
      exact reports_checkWalletBalance rfl (selected _ _ _ _ (fun clients => rest none clients))
  | createMessage payload =>
      exact reports_checkWalletBalance rfl (selected _ _ _ _ (fun clients => rest none clients))
  | createResponse payload =>
      refine reports_checkWalletBalance rfl ?_
      cases payload.model with
      | none => exact .pure _ rfl
      | some modelName =>
          refine selected _ _ _ _ (fun clients => ?_)
          unfold withPreviousResponse
          split
          · exact rest none clients
          · refine .after (only_run_bind (quiet_auto rfl) (fun _ => trivial)) ?_
            rintro (e | (_ | originalId))
            · exact .pure _ rfl
            · exact .pure _ rfl
            · exact rest (some originalId) clients

theorem RetriedRequest.reports {context : RequestContext} (request : RetriedRequest) :
    Reports [] (request.handle context) (fun left => left = []) := by
  rw [request.handle_eq]
  refine request.reports_route (fun original clients => ?_)
  rw [request.loop_eq]
  refine reports_tryClients (fun i client => ?_) (fun client e => request.only_failed (fun _ => trivial) client e)
  exact reports_attempt (request.reporting context original) context i client

end Handlers

section Objects
variable {context : RequestContext}

theorem reports_withUpstream {upstreamId : Int} {next : LLMUpstream → Action (Reply α)}
    (rest : ∀ upstream, Reports [] (next upstream) (fun _ => True)) :
    Reports [] (withUpstream upstreamId next) (fun _ => True) := by
  refine .after (quiet_getUpstream upstreamId) ?_
  rintro ((reason | _) | upstream)
  · exact .pure _ trivial
  · exact .pure _ trivial
  · exact rest upstream

theorem reports_withClient {upstream : LLMUpstream} {next : Action (Reply α)}
    (rest : Reports [] next (fun _ => True)) : Reports [] (withClient context upstream next) (fun _ => True) := by
  rw [withClient]
  split
  · exact rest
  · exact .pure _ trivial

theorem reports_retrieveResponse (responseId : String) :
    Reports [] (retrieveResponse context responseId) (fun _ => True) := by
  refine reports_checkWalletBalance trivial (.after (quiet_auto (s := .getResponseMetaByResponseId responseId) rfl) ?_)
  rintro (e | (_ | responseMeta))
  · exact .pure _ trivial
  · exact .pure _ trivial
  refine reports_withUpstream (fun upstream => .call (fun response => ?_) (fun e => .pure _ trivial))
  refine .add ?_ (.after (quiet_ourPreviousResponse response) ?_)
  · obtain ⟨_, _, _ | usage⟩ := response <;> rfl
  · rintro (e | previous) <;> exact .pure _ trivial

/-- The file of a batch's output is renamed, its usage is not. -/
theorem reports_answerBatch {due : List (Int × Int)} {tracer : SessionTracer} {upstreamId : Int} {batch : Batch}
    (same : due = [responseTokens batch.usage]) :
    Reports due (answerBatch context tracer upstreamId batch) (fun _ => True) := by
  subst same
  refine .after (quiet_wrapFile context batch.outputFileId upstreamId) ?_
  rintro (e | fileMeta)
  · exact .pure _ trivial
  · refine .add ?_ (.pure _ trivial)
    obtain ⟨_, _, _, _, _, _ | usage⟩ := batch <;> rfl

theorem reports_createBatch (payload : BatchRequest) :
    Reports [] (createBatch context payload) (fun _ => True) := by
  refine reports_checkWalletBalance trivial (.after (quiet_auto (s := .getFileMetaByFileId payload.inputFileId) rfl) ?_)
  rintro (e | (_ | fileMeta))
  · exact .pure _ trivial
  · exact .pure _ trivial
  refine reports_withUpstream (fun upstream => .bare rfl (reports_withClient
    (.call (fun batch => ?_) (fun e => .pure _ trivial))))
  refine .after (quiet_auto rfl) ?_
  rintro (e | stored)
  · exact .pure _ trivial
  · exact .after (quiet_syncBatchStatus _ _) (fun _ => reports_answerBatch rfl)

theorem reports_withBatch {batchId : String}
    {next : BatchMeta → LLMUpstream → SessionTracer → Action (Reply Batch)}
    (rest : ∀ batchMeta upstream tracer, Reports [] (next batchMeta upstream tracer) (fun _ => True)) :
    Reports [] (withBatch context batchId next) (fun _ => True) := by
  refine reports_checkWalletBalance trivial (.after (quiet_auto (s := .getBatchMetaByBatchId batchId) rfl) ?_)
  rintro (e | (_ | batchMeta))
  · exact .pure _ trivial
  · exact .pure _ trivial
  · exact reports_withUpstream (fun upstream => reports_withClient (rest batchMeta upstream _))

theorem reports_retrieveBatch (batchId : String) :
    Reports [] (retrieveBatch context batchId) (fun _ => True) :=
  reports_withBatch (fun _ _ _ => .call
    (fun _ => .after (quiet_syncBatchStatus _ _) (fun _ => reports_answerBatch rfl)) (fun _ => .pure _ trivial))

theorem reports_cancelBatch (batchId : String) :
    Reports [] (cancelBatch context batchId) (fun _ => True) :=
  reports_withBatch (fun _ _ _ => .call (fun _ => reports_answerBatch rfl) (fun _ => .pure _ trivial))

end Objects

/-- A handler that traces anything traces what it is answered, and all of it before it asks again. -/
theorem ProxyRequest.reports {context : RequestContext} (request : ProxyRequest) (traced : request.untraced = false) :
    Reports [] (request.handle context) (fun _ => True) := by
  have retried : ∀ request : RetriedRequest, Reports [] (discard (request.handle context)) (fun _ => True) :=
    fun request => reports_discard (request.reports.weaken (fun _ _ => trivial))
  cases request with
  | chatCompletions payload => exact retried (.chatCompletions payload)
  | createEmbeddings payload => exact retried (.createEmbeddings payload)
  | generateImages payload => exact retried (.generateImages payload)
  | createMessage payload => exact retried (.createMessage payload)
  | createResponse payload => exact retried (.createResponse payload)
  | retrieveResponse responseId => exact reports_discard (reports_retrieveResponse responseId)
  | createBatch payload => exact reports_discard (reports_createBatch payload)
  | retrieveBatch batchId => exact reports_discard (reports_retrieveBatch batchId)
  | cancelBatch batchId => exact reports_discard (reports_cancelBatch batchId)
  | _ => cases traced

theorem ProxyRequest.owing {context : RequestContext} (request : ProxyRequest) :
    (request.handle context).path Owing (fun _ _ => True) [] := by
  cases traces : request.untraced with
  | false => exact path_mono (fun _ _ tracks => tracks.owing) (fun _ _ _ => trivial) (request.reports traces [] rfl)
  | true =>
      exact path_mono (fun _ _ untraced => owing_untraced untraced) (fun _ _ _ => trivial)
        (request.only_untraced traces).made

section Accounts

/-- What all answers have reported. -/
def answeredReports : List (Call engine) → List (Int × Int)
  | [] => []
  | ⟨.remote (.upstream _ call), .ok (.ok answer)⟩ :: older => answerTokens call answer ++ answeredReports older
  | _ :: older => answeredReports older

/-- The reports whose events the queue has taken, newest first. -/
def takenReports : List (Call engine) → List (Int × Int)
  | [] => []
  | ⟨.remote (.pushEvent _), .ok _⟩ :: older => (pendingReports older).take 1 ++ takenReports older
  | _ :: older => takenReports older

/-- The reports whose events were lost on their way to the queue. -/
def lostReports : List (Call engine) → List (Int × Int)
  | [] => []
  | ⟨.remote (.pushEvent _), .error _⟩ :: older => (pendingReports older).take 1 ++ lostReports older
  | _ :: older => lostReports older

/-- Each report is taken or lost, or it is still to be traced. -/
theorem sum_answeredReports {calls : List (Call engine)}
    (each : ∀ call older, call :: older <:+ calls → Tracks older call.op) :
    (answeredReports calls).sum = (takenReports calls).sum + (lostReports calls).sum + (pendingReports calls).sum := by
  induction calls with
  | nil => rfl
  | cons call older ih =>
      have before := ih (fun call' older' inside => each call' older' (inside.trans (List.suffix_cons _ _)))
      have tracks := each call older List.suffix_rfl
      have next : (pendingReports older).sum =
          ((pendingReports older).take 1).sum + (pendingReports older).tail.sum := by
        cases pendingReports older with
        | nil => rfl
        | cons report rest => simp
      obtain ⟨op, reply⟩ := call
      cases op with
      | remote c =>
          cases c with
          | upstream u call =>
              have nothing : pendingReports older = [] := tracks
              rw [nothing] at before
              rcases reply with reason | e | answer
              · exact before
              · exact before
              · change (answerTokens call answer ++ answeredReports older).sum =
                  (takenReports older).sum + (lostReports older).sum + (answerTokens call answer).sum
                rw [List.sum_append, before, List.sum_nil, add_zero, add_comm]
          | pushEvent event =>
              cases reply with
              | error reason =>
                  change (answeredReports older).sum = (takenReports older).sum +
                    ((pendingReports older).take 1 ++ lostReports older).sum + (pendingReports older).tail.sum
                  rw [List.sum_append, before, next]
                  abel
              | ok _ =>
                  change (answeredReports older).sum = ((pendingReports older).take 1 ++ takenReports older).sum +
                    (lostReports older).sum + (pendingReports older).tail.sum
                  rw [List.sum_append, before, next]
                  abel
          | _ => exact before
      | _ => exact before

end Accounts

end LLMPool.ProxyViews
