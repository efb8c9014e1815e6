import LLMPool.ProxyViews.Routing

/-! The routes of the requests that a handler sends to an upstream of its own choice. -/
namespace LLMPool.ProxyViews
open Transactions

/-- The upstream's own id of a previous response, as the handler has read it. -/
def Translated (calls : List (Call engine)) (previousResponseId original : Option String) : Prop :=
  match previousResponseId with
  | none => original = none
  | some prevId => ∃ row : ResponseMeta,
      (⟨.auto (.getResponseMetaByResponseId prevId), .ok (some row)⟩ : Call engine) ∈ calls ∧
        original = some row.originalResponseId

theorem Translated.subset {calls more : List (Call engine)} {previousResponseId original : Option String}
    (translated : Translated calls previousResponseId original) (inside : calls ⊆ more) :
    Translated more previousResponseId original := by
  cases previousResponseId with
  | none => exact translated
  | some prevId =>
      obtain ⟨row, read, same⟩ := translated
      exact ⟨row, inside read, same⟩

theorem Translated.later {calls later : List (Call engine)} {previousResponseId original : Option String}
    (translated : Translated calls previousResponseId original) (reached : calls <:+ later) :
    Translated later previousResponseId original :=
  translated.subset reached.subset

/-- One provider's models with a feature; `speech` and the Anthropic API but for its
messages try one client. -/
def ProxyRequest.route : ProxyRequest → Option Route
  | chatCompletions payload => some {
      modelName := payload.model
      provider := "openai"
      feature := featureChatCompletions
      count := 2
      sends := fun _ client call =>
        call = .createChat { payload with model := client.fullname } ∨
        call = .createChatStream { payload with model := client.fullname }
      reports := fun e => e = .network }
  | createEmbeddings payload => some {
      modelName := payload.model
      provider := "openai"
      feature := featureEmbeddings
      count := 2
      sends := fun _ client call => call = .createEmbedding { payload with model := client.fullname }
      reports := fun e => e = .network }
  | generateImages payload => some {
      modelName := imageModelToString payload.model
      provider := "openai"
      feature := featureImages
      count := 2
      sends := fun _ _ call => call = .generateImages payload
      reports := fun _ => false }
  | createSpeech payload => some {
      modelName := speechModelToString payload.model
      provider := "openai"
      feature := featureAudioSpeech
      count := 1
      sends := fun _ _ call => call = .createSpeech payload
      reports := fun e => e = .network }
  | createResponse payload => some {
      modelName := payload.model.getD ""
      provider := "openai"
      feature := featureResponses
      count := 2
      sends := fun calls client call => ∃ original, Translated calls payload.previousResponseId original ∧
        call = .createResponse
          { payload with model := some client.fullname, previousResponseId := original }
      reports := fun e => e = .network }
  | createMessage payload => some {
      modelName := payload.model
      provider := "anthropic"
      feature := featureMessages
      count := 2
      sends := fun _ client call =>
        call = .createMessage { payload with model := client.fullname } ∨
        call = .createMessageStream { payload with model := client.fullname }
      reports := fun e => e = .network }
  | countMessageTokens payload => some {
      modelName := payload.model
      provider := "anthropic"
      feature := featureMessages
      count := 1
      sends := fun _ _ call => call = .countMessageTokens payload
      reports := fun e => e = .network ∨ e = .deserialize }
  | createMessageBatch payload => some {
      modelName := (payload.requests.head?.map (fun r => r.params.model)).getD ""
      provider := "anthropic"
      feature := featureMessages
      count := 1
      sends := fun _ _ call => call = .createMessageBatch payload
      reports := fun e => e = .network ∨ e = .deserialize }
  | uploadFile _ => some {
      modelName := ""
      provider := "anthropic"
      feature := featureMessages
      count := 1
      sends := fun _ _ call => ∃ form, call = .anthropicFile (.upload form)
      reports := fun _ => true }
  | listFiles => some {
      modelName := ""
      provider := "anthropic"
      feature := featureMessages
      count := 1
      sends := fun _ _ call => call = .anthropicFile .list
      reports := fun _ => true }
  | listMessageBatches => some {
      modelName := ""
      provider := "anthropic"
      feature := featureMessages
      count := 1
      sends := fun _ _ call => call = .listMessageBatches
      reports := fun e => e = .network ∨ e = .deserialize }
  | _ => none

section Attempts
variable {r : Route} {calls later : List (Call engine)} {client : UpstreamClient} {tracer : SessionTracer}

/-- An attempt traces its request and contacts its upstream. -/
theorem path_attempt {data : EventData} {call : UpstreamCall}
    {f : SessionTracer → Except ClientError call.Answer → Action (Except ClientError β)}
    (next : r.Next calls client) (sent : ∀ later, Later calls later → r.sends later client call)
    (fails : ∀ tracer e, f tracer (.error e) = pure (.error e))
    (answers : ∀ tracer answer middle, (f tracer (.ok answer)).path r.Follows
      (fun result later => Unrouted middle later ∧ errorOf result = none) middle) :
    (tracer.add data >>= fun tracer => callUpstream client.upstream call >>= f tracer).path r.Follows
      (fun result later => Contacted calls client.upstream (errorOf result) later) calls := by
  refine path_after_still (still_add tracer data) (fun tracer traced unrouted => ?_)
  refine path_callUpstream (unrouted.next next) (sent traced unrouted.reached) ?_
  rintro (e | answer) middle contacted
  · rw [fails]
    exact contacted.before unrouted
  · refine path_mono (fun _ _ made => made) ?_ (answers tracer answer middle)
    rintro result later ⟨same, worked⟩
    rw [worked]
    exact (contacted.before unrouted).after same

/-- Answering a request that an upstream has answered. -/
theorem path_answer {p : Action α} {reply : β} (still : p.Only Still) :
    (p >>= fun _ => pure (.ok reply) : Action (Except ClientError β)).path r.Follows
      (fun result later => Unrouted calls later ∧ errorOf result = none) calls :=
  path_after_still still (fun _ _ same => ⟨same, rfl⟩)

theorem path_networkFailure (network : ∀ e, r.reports e = true ↔ e = .network) (client : UpstreamClient)
    (e : ClientError) (failed : ∃ c ∈ contacts calls, c.upstream = client.upstream ∧ c.failure = some e) :
    (reportNetworkError client e).path r.Follows
      (fun _ later => Marked calls client.upstream.id (r.reports e) later) calls := by
  have same : r.reports e = decide (e = .network) := by
    rw [Bool.eq_iff_iff, network, decide_eq_true_iff]
  rw [same]
  refine path_reportNetworkError (fun was => ?_)
  obtain ⟨c, member, at_client, failure⟩ := failed
  exact ⟨c, member, congrArg (·.id) at_client, by simp [failure, network, was]⟩

theorem path_chatCompletionsWithClient (payload : CreateChatCompletionRequest)
    (next : r.Next calls client)
    (sent : ∀ later, r.sends later client (.createChat payload) ∧ r.sends later client (.createChatStream payload)) :
    (chatCompletionsWithClient client tracer payload).path r.Follows
      (fun result later => Contacted calls client.upstream (errorOf result) later) calls := by
  unfold chatCompletionsWithClient
  by_cases streams : payload.stream.getD false = true
  · simp only [streams, if_true]
    refine path_attempt next (fun later _ => (sent later).2) (fun _ _ => rfl) (fun tracer stream middle => ?_)
    exact path_answer (still_transformStream stream tracer)
  · simp only [streams]
    refine path_attempt next (fun later _ => (sent later).1) (fun _ _ => rfl) (fun tracer response middle => ?_)
    exact path_answer (still_add _ _)

theorem path_createMessageWithClient (isStream : Bool) (payload : CreateMessageParams)
    (next : r.Next calls client)
    (sent : ∀ later, r.sends later client (.createMessage payload) ∧
      r.sends later client (.createMessageStream payload)) :
    (createMessageWithClient client tracer isStream payload).path r.Follows
      (fun result later => Contacted calls client.upstream (errorOf result) later) calls := by
  cases isStream with
  | true =>
      refine path_attempt next (fun later _ => (sent later).2) (fun _ _ => rfl) (fun tracer stream middle => ?_)
      exact path_answer (still_transformSdkStream 0 0 stream tracer)
  | false =>
      refine path_attempt next (fun later _ => (sent later).1) (fun _ _ => rfl) (fun tracer message middle => ?_)
      exact path_answer (still_add _ _)

/-- What `anthropic_sdk_request` makes of an error. -/
def sdkError (e : ClientError) : ClientError := if e = .deserialize then .network else e

theorem path_anthropicSdkRequest {call : UpstreamCall} {f : Except ClientError call.Answer → Action α}
    {Q : α → List (Call engine) → Prop} (next : r.Next calls client) (sent : r.sends calls client call)
    (failed : ∀ e later, Contacted calls client.upstream (some e) later →
      (f (.error (sdkError e))).path r.Follows Q later)
    (answered : ∀ answer later, Contacted calls client.upstream none later →
      (f (.ok answer)).path r.Follows Q later) :
    (anthropicSdkRequest client call >>= f).path r.Follows Q calls := by
  refine path_bind.mpr (path_callUpstream next sent ?_)
  rintro ((_ | _ | _) | answer) later contacted
  · exact failed _ later contacted
  · exact failed _ later contacted
  · exact failed _ later contacted
  · exact answered answer later contacted

theorem path_reported {e : ClientError} {failure : Option ClientError} {f : Unit → Action α}
    (settled : r.Settled calls) (contacted : Contacted calls client.upstream failure later)
    (marks : decide (e = .network) = failure.any r.reports)
    (rest : ∀ after, r.Settled after → (f ()).path r.Follows (fun _ => r.Settled) after) :
    (reportNetworkError client e >>= f).path r.Follows (fun _ => r.Settled) later := by
  obtain ⟨call, same⟩ := contacted.contacts
  refine path_bind.mpr (path_mono (fun _ _ made => made) ?_ (path_reportNetworkError (fun network => ?_)))
  · intro _ after marked
    exact rest after (settled.marked contacted (marks ▸ marked))
  · refine ⟨_, same ▸ List.mem_cons_self, rfl, ?_⟩
    rw [← marks, network]
    rfl

/-- An answer that cannot be read is reported like a failed connection. -/
theorem marks_sdkError (either : ∀ e, r.reports e = true ↔ e = .network ∨ e = .deserialize) (e : ClientError) :
    decide (sdkError e = .network) = (some e).any r.reports := by
  rw [Option.any_some, Bool.eq_iff_iff, decide_eq_true_iff, either]
  cases e <;> decide

/-- What comes after the contacts leaves the route settled. -/
theorem path_settled {p : Action α} (still : p.Only Still) (settled : r.Settled calls) :
    p.path r.Follows (fun _ => r.Settled) calls :=
  path_mono (fun _ _ made => made)
    (fun _ _ unrouted => settled.after unrouted)
    (path_still still)

theorem path_sendFileRequest {request : AnthropicFileRequest} {f : RawResponse → Action (Reply Value)}
    (next : r.Next calls client) (sent : r.sends calls client (.anthropicFile request))
    (all : ∀ e, r.reports e = true) (settled : r.Settled calls) (still : ∀ response, (f response).Only Still) :
    (sendFileRequest client request f).path r.Follows (fun _ => r.Settled) calls := by
  refine path_callUpstream next sent ?_
  rintro (e | response) later contacted
  · exact path_reported settled contacted (by simp [errorOf, all]) (fun _ ended => ended)
  · have answered := settled.succeeded contacted
    dsimp only
    split
    · exact path_settled (still response) answered
    · exact answered

theorem still_storeUpload (context : RequestContext) (client : UpstreamClient) (purpose : String)
    (file : Value) : (storeUpload context client purpose file).Only Still := by
  rw [storeUpload]
  split
  · trivial
  · refine only_bind (still_auto trivial) ?_
    rintro (e | stored)
    · trivial
    · dsimp only
      split <;> trivial

theorem path_withForm {code : Option String} {body : List MultipartField}
    {f : UploadedForm → List UInt8 → Action (Reply β)} (settled : r.Settled calls)
    (rest : ∀ form bytes, (f form bytes).path r.Follows (fun _ => r.Settled) calls) :
    (withForm code body f).path r.Follows (fun _ => r.Settled) calls := by
  rw [withForm]
  split
  · exact settled
  · split
    · exact settled
    · exact rest _ _

/-- The previous response's row is read before any upstream is contacted. -/
theorem path_withPreviousResponse {previousResponseId : Option String} {Q : List (Call engine) → Prop}
    {f : Option String → Action (Reply Response)} (refused : ∀ later, Unrouted calls later → Q later)
    (rest : ∀ original later, Unrouted calls later → Translated later previousResponseId original →
      (f original).path r.Follows (fun _ => Q) later) :
    (withPreviousResponse previousResponseId f).path r.Follows (fun _ => Q) calls := by
  cases previousResponseId with
  | none => exact rest none calls .refl rfl
  | some prevId =>
      refine path_bind.mpr (path_run_bind.mpr (path_queryAuto (P := r.Follows)
        (s := .getResponseMetaByResponseId prevId) trivial ?_ ?_))
      · intro answer _
        have unrouted : Unrouted calls
            (⟨.auto (.getResponseMetaByResponseId prevId), .ok answer⟩ :: calls) :=
          ⟨⟨List.suffix_cons _ _, rfl, rfl⟩, rfl, rfl⟩
        cases answer with
        | none => exact refused _ unrouted
        | some row => exact rest _ _ unrouted ⟨row, List.mem_cons_self, rfl⟩
      · exact fun reason => refused _ ⟨⟨List.suffix_cons _ _, rfl, rfl⟩, rfl, rfl⟩

end Attempts

section Handlers
variable {context : RequestContext}

theorem path_discard_routed {r : Route} {p : Action α} {calls : List (Call engine)}
    (path : p.path r.Follows (fun _ => r.Settled) calls) :
    (discard p).path r.Follows (fun _ => r.Settled) calls :=
  path_bind.mpr path

theorem path_createResponse_routed {r : Route} (payload : CreateResponse)
    (routed : (ProxyRequest.createResponse payload).route = some r) :
    ((ProxyRequest.createResponse payload).handle context).path r.Follows
      (fun _ later => r.Settled later ∧ r.Exhausted later) [] := by
  have idle : ∀ later, contacts later = [] → r.Settled later ∧ r.Exhausted later :=
    fun later none => ⟨Route.settled_idle none, .inl none⟩
  cases routed
  refine path_bind.mpr (still_wallet (fun reply later unrouted => idle later unrouted.contacts)
    (fun later unrouted => ?_))
  cases payload with
  | mk model previousResponseId =>
  cases model with
  | none => exact idle later unrouted.contacts
  | some modelName =>
      refine path_withModelClients_routed (r := ⟨_, _, _, _, _, _⟩) rfl unrouted.contacts idle
        (fun clients middle unmet chosen => ?_)
      split
      · exact idle middle unmet
      rename_i some
      refine path_withPreviousResponse (fun after reading => idle after (reading.contacts.trans unmet))
        (fun original here reading translated => ?_)
      refine path_tryClients_routed (fun i client after reached next => ?_) (fun client e after => ?_)
        ((chosen.resolve_left some).extend reading.reached) (reading.contacts.trans unmet)
      · refine path_bind.mpr (path_mono (fun _ _ made => made) ?_ (path_attempt next
          (fun later more => ⟨original, translated.later (reached.trans more).suffix, rfl⟩)
          (fun _ _ => rfl) (fun _ _ _ => path_answer (still_add _ _))))
        rintro (e | response) last contacted
        · exact contacted
        · exact path_after_still (still_storeResponse _ _ _ _) (fun _ _ stored => contacted.after stored)
      · exact path_networkFailure (by simp) client e

theorem Route.Settled.unrouted {r : Route} {later : List (Call engine)} (unrouted : Unrouted [] later) :
    r.Settled later :=
  Route.settled_idle unrouted.contacts

theorem path_chatCompletions_routed {r : Route} (payload : CreateChatCompletionRequest)
    (routed : (ProxyRequest.chatCompletions payload).route = some r) :
    ((ProxyRequest.chatCompletions payload).handle context).path r.Follows (fun _ => r.Settled) [] := by
  cases routed
  refine path_discard_routed (still_wallet (fun _ _ => .unrouted) (fun later unrouted => ?_))
  refine path_routeRequest_routed (r := ⟨_, _, _, _, _, _⟩) rfl unrouted.contacts
    (fun i client after next => ?_) (fun client e after => ?_)
  · exact path_chatCompletionsWithClient _ next (fun _ => ⟨.inl rfl, .inr rfl⟩)
  · exact path_networkFailure (by simp) client e

theorem path_createEmbeddings_routed {r : Route} (payload : CreateEmbeddingRequest)
    (routed : (ProxyRequest.createEmbeddings payload).route = some r) :
    ((ProxyRequest.createEmbeddings payload).handle context).path r.Follows (fun _ => r.Settled) [] := by
  cases routed
  refine path_discard_routed (still_wallet (fun _ _ => .unrouted) (fun later unrouted => ?_))
  refine path_routeRequest_routed (r := ⟨_, _, _, _, _, _⟩) rfl unrouted.contacts
    (fun i client after next => ?_) (fun client e after => ?_)
  · exact path_attempt next (fun _ _ => rfl) (fun _ _ => rfl)
      (fun _ _ _ => path_answer (still_add _ _))
  · exact path_networkFailure (by simp) client e

theorem path_generateImages_routed {r : Route} (payload : CreateImageRequest)
    (routed : (ProxyRequest.generateImages payload).route = some r) :
    ((ProxyRequest.generateImages payload).handle context).path r.Follows (fun _ => r.Settled) [] := by
  cases routed
  refine path_discard_routed (still_wallet (fun _ _ => .unrouted) (fun later unrouted => ?_))
  refine path_routeRequest_routed (r := ⟨_, _, _, _, _, _⟩) rfl unrouted.contacts
    (fun i client after next => ?_) (fun client e after _ => ?_)
  · exact path_attempt next (fun _ _ => rfl) (fun _ _ => rfl)
      (fun _ _ _ => path_answer (still_add _ _))
  · exact ⟨.refl after, rfl, rfl⟩

theorem path_createSpeech_routed {r : Route} (payload : CreateSpeechRequest)
    (routed : (ProxyRequest.createSpeech payload).route = some r) :
    ((ProxyRequest.createSpeech payload).handle context).path r.Follows (fun _ => r.Settled) [] := by
  cases routed
  refine path_discard_routed (still_wallet (fun _ _ => .unrouted) (fun later unrouted => ?_))
  refine path_withModelClients_routed (r := ⟨_, _, _, _, _, _⟩) rfl unrouted.contacts
    (fun _ => Route.settled_idle) ?_
  rintro (_ | ⟨client, others⟩) middle idle chosen
  · exact Route.settled_idle idle
  · have next := (chosen.resolve_left (List.cons_ne_nil _ _)).first idle
    refine path_callUpstream next rfl ?_
    rintro (e | bytes) after contacted
    · exact path_reported (Route.settled_idle idle) contacted (by simp [errorOf]) (fun _ ended => ended)
    · exact (Route.settled_idle idle).succeeded contacted

theorem path_createMessage_routed {r : Route} (payload : CreateMessageParams)
    (routed : (ProxyRequest.createMessage payload).route = some r) :
    ((ProxyRequest.createMessage payload).handle context).path r.Follows (fun _ => r.Settled) [] := by
  cases routed
  refine path_discard_routed (still_wallet (fun _ _ => .unrouted) (fun later unrouted => ?_))
  refine path_withModelClients_routed (r := ⟨_, _, _, _, _, _⟩) rfl unrouted.contacts
    (fun _ => Route.settled_idle) (fun clients middle idle chosen => ?_)
  split
  · exact Route.settled_idle idle
  · rename_i some
    refine path_mono (fun _ _ made => made) (fun _ _ ended => ended.1) (path_tryClients_routed
      (fun i client after _ next => ?_) (fun client e after => ?_) (chosen.resolve_left some) idle)
    · exact path_createMessageWithClient _ _ next (fun _ => ⟨.inl rfl, .inr rfl⟩)
    · exact path_networkFailure (by simp) client e

theorem path_countMessageTokens_routed {r : Route} (payload : CountMessageTokensParams)
    (routed : (ProxyRequest.countMessageTokens payload).route = some r) :
    ((ProxyRequest.countMessageTokens payload).handle context).path r.Follows (fun _ => r.Settled) [] := by
  cases routed
  refine path_discard_routed (still_wallet (fun _ _ => .unrouted) (fun later unrouted => ?_))
  refine path_withAnthropicClient_routed (r := ⟨_, _, _, _, _, _⟩) ⟨rfl, rfl, rfl⟩ unrouted.contacts
    (fun client middle next settled => ?_)
  refine path_anthropicSdkRequest next rfl (fun e after contacted => ?_) (fun answer after contacted => ?_)
  · exact path_reported settled contacted (marks_sdkError (by simp) e) (fun _ ended => ended)
  · exact settled.succeeded contacted

theorem path_createMessageBatch_routed {r : Route} (payload : CreateMessageBatchParams)
    (routed : (ProxyRequest.createMessageBatch payload).route = some r) :
    ((ProxyRequest.createMessageBatch payload).handle context).path r.Follows (fun _ => r.Settled) [] := by
  cases routed
  refine path_discard_routed (still_wallet (fun _ _ => .unrouted) (fun later unrouted => ?_))
  refine path_withAnthropicClient_routed (r := ⟨_, _, _, _, _, _⟩) ⟨rfl, rfl, rfl⟩ unrouted.contacts
    (fun client middle next settled => ?_)
  refine path_anthropicSdkRequest next rfl (fun e after contacted => ?_) (fun answer after contacted => ?_)
  · exact path_reported settled contacted (marks_sdkError (by simp) e) (fun _ ended => ended)
  · refine path_settled (only_bind (still_auto trivial) ?_) (settled.succeeded contacted)
    rintro (e | stored)
    · trivial
    · exact only_bind (only_bind (still_auto trivial) (fun _ => trivial)) (fun _ => trivial)

theorem path_uploadFile_routed {r : Route} (body : List MultipartField)
    (routed : (ProxyRequest.uploadFile body).route = some r) :
    ((ProxyRequest.uploadFile body).handle context).path r.Follows (fun _ => r.Settled) [] := by
  cases routed
  refine path_discard_routed (still_wallet (fun _ _ => .unrouted) (fun later unrouted => ?_))
  refine path_withAnthropicClient_routed (r := ⟨_, _, _, _, _, _⟩) ⟨rfl, rfl, rfl⟩ unrouted.contacts
    (fun client middle next settled => path_withForm settled (fun form bytes => ?_))
  dsimp only
  split
  · exact settled
  · refine path_sendFileRequest next ⟨_, rfl⟩ (fun _ => rfl) settled (fun response => ?_)
    split
    · trivial
    · exact still_storeUpload context client _ _

theorem path_listFiles_routed {r : Route} (routed : ProxyRequest.listFiles.route = some r) :
    (ProxyRequest.listFiles.handle context).path r.Follows (fun _ => r.Settled) [] := by
  cases routed
  refine path_discard_routed (still_wallet (fun _ _ => .unrouted) (fun later unrouted => ?_))
  refine path_withAnthropicClient_routed (r := ⟨_, _, _, _, _, _⟩) ⟨rfl, rfl, rfl⟩ unrouted.contacts
    (fun client middle next settled => ?_)
  exact path_sendFileRequest next rfl (fun _ => rfl) settled (fun _ => trivial)

theorem path_listMessageBatches_routed {r : Route} (routed : ProxyRequest.listMessageBatches.route = some r) :
    (ProxyRequest.listMessageBatches.handle context).path r.Follows (fun _ => r.Settled) [] := by
  cases routed
  refine path_discard_routed (still_wallet (fun _ _ => .unrouted) (fun later unrouted => ?_))
  refine path_withAnthropicClient_routed (r := ⟨_, _, _, _, _, _⟩) ⟨rfl, rfl, rfl⟩ unrouted.contacts
    (fun client middle next settled => ?_)
  refine path_anthropicSdkRequest next rfl (fun e after contacted => ?_) (fun answer after contacted => ?_)
  · exact path_reported settled contacted (marks_sdkError (by simp) e) (fun _ ended => ended)
  · exact settled.succeeded contacted

/-- A request follows its route to the end. -/
theorem ProxyRequest.path_route {r : Route} (request : ProxyRequest) (routed : request.route = some r) :
    (request.handle context).path r.Follows (fun _ => r.Settled) [] := by
  cases request with
  | chatCompletions payload => exact path_chatCompletions_routed payload routed
  | createEmbeddings payload => exact path_createEmbeddings_routed payload routed
  | generateImages payload => exact path_generateImages_routed payload routed
  | createSpeech payload => exact path_createSpeech_routed payload routed
  | createResponse payload =>
      exact path_mono (fun _ _ made => made) (fun _ _ ended => ended.1) (path_createResponse_routed payload routed)
  | createMessage payload => exact path_createMessage_routed payload routed
  | countMessageTokens payload => exact path_countMessageTokens_routed payload routed
  | createMessageBatch payload => exact path_createMessageBatch_routed payload routed
  | uploadFile body => exact path_uploadFile_routed body routed
  | listFiles => exact path_listFiles_routed routed
  | listMessageBatches => exact path_listMessageBatches_routed routed
  | _ => cases routed

end Handlers

end LLMPool.ProxyViews
