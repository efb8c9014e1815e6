import LLMPool.ProxyViews.Untraced

/-! Where a request on a stored file or batch goes: a handler of the OpenAI API asks the
upstream that the object's row names, one of the Anthropic API whichever upstream the
load-based selection gives for no model, both only where the client can be built. -/
namespace LLMPool.ProxyViews
open Relational Transactions

inductive ObjectRequest where
  | retrieveFileHandler
  | deleteFileHandler
  | fileContentHandler
  | retrieveBatch
  | cancelBatch
  | retrieveFile
  | deleteFile
  | fileContent
  | retrieveMessageBatch
  | cancelMessageBatch
  | retrieveMessageBatchResults
  deriving DecidableEq

namespace ObjectRequest

def on (objectId : String) : ObjectRequest → ProxyRequest
  | retrieveFileHandler => .retrieveFileHandler objectId
  | deleteFileHandler => .deleteFileHandler objectId
  | fileContentHandler => .fileContentHandler objectId
  | retrieveBatch => .retrieveBatch objectId
  | cancelBatch => .cancelBatch objectId
  | retrieveFile => .retrieveFile objectId
  | deleteFile => .deleteFile objectId
  | fileContent => .fileContent objectId
  | retrieveMessageBatch => .retrieveMessageBatch objectId
  | cancelMessageBatch => .cancelMessageBatch objectId
  | retrieveMessageBatchResults => .retrieveMessageBatchResults objectId

def isAnthropic : ObjectRequest → Bool
  | retrieveFileHandler | deleteFileHandler | fileContentHandler | retrieveBatch | cancelBatch => false
  | _ => true

/-- Whether the handler's client of an upstream can be built. -/
def builds (libraries : ClientLibraries) (upstream : LLMUpstream) (request : ObjectRequest) : Bool :=
  if request.isAnthropic then libraries.buildsAnthropic 0 upstream else libraries.buildsOpenAI 0 upstream

/-- What an upstream is asked about the object that it knows by another id. -/
def forward (originalId : String) : ObjectRequest → UpstreamCall
  | retrieveFileHandler => .retrieveFile originalId
  | deleteFileHandler => .deleteFile originalId
  | fileContentHandler => .fileContent originalId
  | retrieveBatch => .retrieveBatch originalId
  | cancelBatch => .cancelBatch originalId
  | retrieveFile => .anthropicFile (.retrieve originalId)
  | deleteFile => .anthropicFile (.delete originalId)
  | fileContent => .anthropicFile (.content originalId)
  | retrieveMessageBatch => .messageBatch (.retrieve originalId)
  | cancelMessageBatch => .messageBatch (.cancel originalId)
  | retrieveMessageBatchResults => .messageBatchResults originalId

/-- The original id and the upstream of a file that is not deleted, or of a batch. -/
def stored (db : Db) (objectId : String) : ObjectRequest → Option (String × Int)
  | retrieveFileHandler | deleteFileHandler | fileContentHandler
  | retrieveFile | deleteFile | fileContent =>
      ((db.fileMetas.lookup objectId).filter (fun f => !f.deleted)).map
        (fun f => (f.originalFileId, f.upstreamId))
  | _ => (db.batchMetas.lookup objectId).map (fun b => (b.originalBatchId, b.upstreamId))

end ObjectRequest

/-- The requests that upstreams have been sent, newest first. -/
def forwarded : List (Call engine) → List (LLMUpstream × UpstreamCall)
  | [] => []
  | ⟨.remote (.upstream u call), _⟩ :: older => (u, call) :: forwarded older
  | _ :: older => forwarded older

/-- The wallet that the check finds: the cached one first. -/
def walletSeen (env : Env) (db : Db) (world : World) (accountId : Int) : Option Wallet :=
  if env.expired then db.wallets.lookup accountId
  else (world.walletInfo accountId).orElse (fun _ => db.wallets.lookup accountId)

def Paid (env : Env) (db : Db) (world : World) (accountId : Int) : Prop :=
  ∃ wallet ∈ walletSeen env db world accountId, 0 < wallet.balance

instance : Decidable (Paid env db world accountId) := by unfold Paid; infer_instance

/-- The models without a `cname` that can serve Anthropic messages, and their counters. -/
def nameless (env : Env) (db : Db) : List (LLMModel × LLMUpstream) :=
  Table.arrange env.pick (candidates db "" "anthropic" featureMessages)

def counted (env : Env) (db : Db) (world : World) : List (Int × LLMModel × LLMUpstream) :=
  ((redisGet (outputUsage world env.now) ((nameless env db).map (fun (m, _) => m.id))).map
    (fun value => value.getD 0)).zip (nameless env db)

/-- The upstream of the first of these models that has been used least. -/
def leastUsed (env : Env) (db : Db) (world : World) : Option LLMUpstream :=
  ((counted env db world).minOn? (fun entry => entry.1)).map (fun entry => entry.2.2)

/-- The head of a stable sort is the first of the least. -/
theorem head_insertionSort (f : ρ → Int) (rows : List ρ) :
    (rows.insertionSort (fun a b => f a ≤ f b)).head? = rows.minOn? f := by
  induction rows with
  | nil => rfl
  | cons r rows ih =>
      rw [List.insertionSort_cons, List.minOn?_cons, ← ih]
      cases rows.insertionSort (fun a b => f a ≤ f b) with
      | nil => rfl
      | cons first rest =>
          rw [List.orderedInsert_cons]
          by_cases less : f r ≤ f first
          · simp [less, minOn_eq_left less]
          · simp [less, minOn_eq_right less]

theorem leastLoaded_one (usages : List Int) (models : List (LLMModel × LLMUpstream)) :
    leastLoaded 1 usages models =
      (((usages.zip models).minOn? (fun entry => entry.1)).map (fun entry => entry.2)).toList := by
  rw [leastLoaded, ← head_insertionSort]
  cases (usages.zip models).insertionSort (fun a b => a.1 ≤ b.1) <;> rfl

/-- A call that contacts no upstream. -/
def Local : Op engine → Prop
  | .remote (.upstream _ _) => False
  | _ => True

theorem Quiet.local {op : Op engine} (quiet : Quiet op) : Local op := by
  cases op with
  | remote c =>
      cases c with
      | upstream u call => exact quiet
      | _ => trivial
  | _ => trivial

section Alone
variable {env : Env} {m : Solo engine} {u upstream : LLMUpstream} {call : UpstreamCall}
  {context : RequestContext}

theorem Local.forwarded {op : Op engine} {reply : Except Failure op.Reply} {calls : List (Call engine)}
    (here : Local op) : forwarded (⟨op, reply⟩ :: calls) = forwarded calls := by
  cases op with
  | remote c =>
      cases c with
      | upstream u call => exact absurd here id
      | _ => rfl
  | _ => rfl

theorem ends_local {p : Action α} (only : p.Only Local) :
    p.ends env (fun _ m' => forwarded m'.calls = forwarded m.calls) m := by
  induction p generalizing m with
  | done value => exact ends_pure rfl
  | call op next ih =>
      intro value m' ran
      simp only [Prog.alone, Op.alone] at ran
      split at ran
      · rename_i reply middle answered
        split at answered
        · cases answered
          exact (ih reply (only.2 reply) value m' ran).trans only.1.forwarded
        · cases answered
      · cases ran

theorem local_of_quiet {p : Action α} (quiet : p.Only Quiet) : p.Only Local :=
  quiet.mono (fun _ made => made.local)

/-- What is sent to an upstream once it has been chosen. -/
theorem ends_callUpstream {f : Except ClientError call.Answer → Action α}
    (rest : ∀ answer, (f answer).Only Local) :
    (callUpstream u call >>= f).ends env
      (fun _ m' => forwarded m'.calls = (u, call) :: forwarded m.calls) m :=
  ends_bind (ends_bind (ends_remote (ends_pure (ends_local (rest _)))))

/-- What the calls before a request is forwarded leave as it is. -/
structure Unmoved (m m' : Solo engine) : Prop where
  db : m'.db = m.db
  tokenUsage : m'.world.tokenUsage = m.world.tokenUsage
  forwarded : ProxyViews.forwarded m'.calls = ProxyViews.forwarded m.calls

theorem Unmoved.trans {m₁ m₂ : Solo engine} (first : Unmoved m m₁) (second : Unmoved m₁ m₂) :
    Unmoved m m₂ :=
  ⟨second.db.trans first.db, second.tokenUsage.trans first.tokenUsage,
    second.forwarded.trans first.forwarded⟩

theorem ends_accountWallet (accountId : Int) :
    (accountWallet accountId).ends env (fun result m' => Unmoved m m' ∧
      result = .ok (walletSeen env m.db m.world accountId)) m := by
  refine ends_bind (ends_remote ?_)
  simp only [remote, walletSeen]
  cases env.expired with
  | true =>
      exact ends_read (s := .findAccountWallet accountId) rfl rfl rfl ⟨⟨rfl, rfl, rfl⟩, rfl⟩
  | false =>
      cases m.world.walletInfo accountId with
      | none => exact ends_read (s := .findAccountWallet accountId) rfl rfl rfl ⟨⟨rfl, rfl, rfl⟩, rfl⟩
      | some wallet => exact ends_pure ⟨⟨rfl, rfl, rfl⟩, rfl⟩

theorem ends_checkWalletBalance {insufficient : String} {accountId : Int} {next : Action (Reply α)}
    {Q : Reply α → Solo engine → Prop}
    (served : Paid env m.db m.world accountId → ∀ m', Unmoved m m' → next.ends env Q m')
    (refused : ¬Paid env m.db m.world accountId → ∀ reply m', Unmoved m m' → Q reply m') :
    (checkWalletBalance insufficient accountId next).ends env Q m := by
  refine ends_bind (fun result m' ran => ?_)
  obtain ⟨unmoved, rfl⟩ := ends_accountWallet accountId result m' ran
  cases seen : walletSeen env m.db m.world accountId with
  | none =>
      exact ends_pure (refused (fun ⟨_, found, _⟩ => by rw [seen] at found; cases found) _ _ unmoved)
  | some wallet =>
      dsimp only
      split
      · rename_i empty
        refine ends_pure (refused ?_ _ _ unmoved)
        rintro ⟨_, found, positive⟩
        rw [seen] at found
        cases found
        exact absurd empty (not_le.mpr positive)
      · rename_i positive
        exact served ⟨wallet, seen, not_le.mp positive⟩ _ unmoved

theorem ends_withUpstream {upstreamId : Int} {next : LLMUpstream → Action (Reply α)}
    {Q : Reply α → Solo engine → Prop} (registered : m.db.upstreams.find upstreamId = some upstream)
    (rest : ∀ m', Unmoved m m' → (next upstream).ends env Q m') :
    (withUpstream upstreamId next).ends env Q m := by
  refine ends_bind ?_
  have found : (getUpstream upstreamId).run.ends env
      (fun result m' => Unmoved m m' ∧ result = .ok upstream) m := by
    refine ends_run_bind (ends_read (s := .getUpstream upstreamId) rfl (congrArg some registered) rfl ?_)
    exact ends_pure ⟨⟨rfl, rfl, rfl⟩, rfl⟩
  rintro result m' ran
  obtain ⟨unmoved, rfl⟩ := found result m' ran
  exact rest m' unmoved

/-- What is sent where the client of the chosen upstream has to be built first. -/
theorem ends_withClient {next : Action (Reply α)}
    (sends : next.ends env (fun _ m' => forwarded m'.calls = (upstream, call) :: forwarded m.calls) m) :
    (withClient context upstream next).ends env (fun _ m' => forwarded m'.calls =
      (((some upstream).filter (context.libraries.buildsOpenAI 0)).map (fun u => (u, call))).toList ++
        forwarded m.calls) m := by
  rw [withClient, Option.filter_some]
  split
  · exact sends
  · exact ends_pure rfl

theorem ends_getOutputTokenUsageBatch {modelIds : List Int} (some : modelIds ≠ []) :
    (getOutputTokenUsageBatch modelIds).ends env (fun usages m' => Unmoved m m' ∧
      usages = (redisGet (outputUsage m.world env.now) modelIds).map (fun value => value.getD 0)) m := by
  rw [getOutputTokenUsageBatch, if_neg some]
  exact ends_bind (ends_remote (ends_pure ⟨⟨rfl, rfl, rfl⟩, rfl⟩))

/-- The client for no model is one of the upstream that the counters prefer, where it can be built. -/
theorem ends_selectNameless (libraries : ClientLibraries) :
    (selectAnthropicClients libraries "" 1).ends env (fun selected m' => Unmoved m m' ∧
      (selected.getD []).map (fun client => client.upstream) =
        ((leastUsed env m.db m.world).filter (libraries.buildsAnthropic 0)).toList) m := by
  have found : exec (.findModelsByNameAndCapacity "" "anthropic" featureMessages) env m.db =
      some (nameless env m.db) := rfl
  refine ends_bind (ends_read rfl found rfl ?_)
  dsimp only
  split
  · rename_i empty
    refine ends_pure ⟨⟨rfl, rfl, rfl⟩, ?_⟩
    simp only [leastUsed, counted, empty, List.zip_nil_right, List.minOn?_nil, Option.map_none,
      Option.filter_none, Option.toList_none, Option.getD_some, List.map_nil]
  · rename_i offered
    refine ends_bind (fun usages m' ran => ?_)
    obtain ⟨unmoved, rfl⟩ := ends_getOutputTokenUsageBatch (by simpa using offered) usages m' ran
    refine ends_pure ⟨⟨unmoved.db, unmoved.tokenUsage, unmoved.forwarded⟩, ?_⟩
    rw [leastLoaded_one, leastUsed, counted]
    generalize List.zip _ (nameless env m.db) = entries
    cases entries.minOn? (fun entry => entry.1) with
    | none => rfl
    | some entry =>
        rw [Option.map_some, Option.map_some, Option.filter_some, Option.toList_some, buildClients]
        cases built : libraries.buildsAnthropic 0 entry.2.2 <;> simp [built, buildClient]

/-- What is sent where the load-based selection chooses the upstream. -/
theorem ends_withAnthropicClient {unavailable : String} {next : UpstreamClient → Action (Reply α)}
    (sends : ∀ client m', (next client).ends env
      (fun _ last => forwarded last.calls = (client.upstream, call) :: forwarded m'.calls) m') :
    (withAnthropicClient context "" unavailable next).ends env (fun _ m' => forwarded m'.calls =
      (((leastUsed env m.db m.world).filter (context.libraries.buildsAnthropic 0)).map
        (fun u => (u, call))).toList ++ forwarded m.calls) m := by
  refine ends_bind (fun selected m' ran => ?_)
  obtain ⟨unmoved, chosen⟩ := ends_selectNameless context.libraries selected m' ran
  generalize (leastUsed env m.db m.world).filter (context.libraries.buildsAnthropic 0) = used at chosen
  rcases selected with _ | _ | ⟨client, rest⟩
  · cases used with
    | none => exact ends_pure unmoved.forwarded
    | some u => cases chosen
  · cases used with
    | none => exact ends_pure unmoved.forwarded
    | some u => cases chosen
  · cases used with
    | none => cases chosen
    | some u =>
        have same : client.upstream = u := (List.cons.inj chosen).1
        intro value last ended
        rw [sends client m' value last ended, unmoved.forwarded, same]
        rfl

end Alone

section Destinations
variable {env : Env} {db : Db} {world : World} {context : RequestContext} {objectId : String}
  {upstream : LLMUpstream} {call : UpstreamCall}

/-- What reaches the upstreams of a request that is sent to `destination` at most. -/
def Sends (env : Env) (db : Db) (world : World) (accountId : Int) (destination : Option LLMUpstream)
    (call : UpstreamCall) (p : Action α) : Prop :=
  p.ends env (fun _ m => forwarded m.calls =
    if Paid env db world accountId then (destination.map (fun u => (u, call))).toList else [])
    ⟨[], db, world⟩

theorem sends_checkWalletBalance {insufficient : String} {destination : Option LLMUpstream}
    {next : Action (Reply α)}
    (sends : ∀ calls world', world'.tokenUsage = world.tokenUsage → next.ends env
      (fun _ m => forwarded m.calls = (destination.map (fun u => (u, call))).toList ++ forwarded calls)
      ⟨calls, db, world'⟩) :
    Sends env db world context.accountId destination call
      (checkWalletBalance insufficient context.accountId next) := by
  refine ends_checkWalletBalance (fun paid m unmoved => ?_) (fun unpaid reply m unmoved => ?_)
  · obtain ⟨calls, _, world'⟩ := m
    obtain ⟨rfl, same, nothing⟩ := unmoved
    intro value m' ended
    rw [if_pos paid, sends calls world' same value m' ended]
    exact (congrArg _ nothing).trans (List.append_nil _)
  · rw [if_neg unpaid]
    exact unmoved.forwarded

theorem sends_withFile {next : FileMeta → LLMUpstream → Action (Reply α)}
    (stored : (db.fileMetas.lookup objectId).filter (fun f => !f.deleted) = some fileMeta)
    (registered : db.upstreams.find fileMeta.upstreamId = some upstream)
    (sends : ∀ m, (next fileMeta upstream).ends env
      (fun _ m' => forwarded m'.calls = (upstream, call) :: forwarded m.calls) m) :
    Sends env db world context.accountId ((some upstream).filter (context.libraries.buildsOpenAI 0)) call
      (withFile context objectId next) := by
  refine sends_checkWalletBalance (fun calls world' _ => ?_)
  refine ends_bind (ends_read (s := .getFileMetaByFileId objectId) rfl (congrArg some stored) rfl ?_)
  exact ends_withUpstream registered (fun m unmoved value last ended =>
    (ends_withClient (sends m) value last ended).trans (congrArg _ unmoved.forwarded))

theorem sends_withBatch {next : BatchMeta → LLMUpstream → SessionTracer → Action (Reply Batch)}
    (stored : db.batchMetas.lookup objectId = some batchMeta)
    (registered : db.upstreams.find batchMeta.upstreamId = some upstream)
    (sends : ∀ tracer m, (next batchMeta upstream tracer).ends env
      (fun _ m' => forwarded m'.calls = (upstream, call) :: forwarded m.calls) m) :
    Sends env db world context.accountId ((some upstream).filter (context.libraries.buildsOpenAI 0)) call
      (withBatch context objectId next) := by
  refine sends_checkWalletBalance (fun calls world' _ => ?_)
  refine ends_bind (ends_read (s := .getBatchMetaByBatchId objectId) rfl (congrArg some stored) rfl ?_)
  exact ends_withUpstream registered (fun m unmoved value last ended =>
    (ends_withClient (sends _ m) value last ended).trans (congrArg _ unmoved.forwarded))

theorem sends_withStored {kind : String} {resolve : Query (Option β)} (row : β)
    {next : β → UpstreamClient → Action (Reply α)}
    (resolves : ∀ calls world', resolve.run.ends env (fun result m => result = .ok (some row) ∧
      m.db = db ∧ m.world = world' ∧ forwarded m.calls = forwarded calls) ⟨calls, db, world'⟩)
    (sends : ∀ client m, (next row client).ends env
      (fun _ m' => forwarded m'.calls = (client.upstream, call) :: forwarded m.calls) m) :
    Sends env db world context.accountId
      ((leastUsed env db world).filter (context.libraries.buildsAnthropic 0)) call
      (withStored context kind objectId resolve next) := by
  refine sends_checkWalletBalance (fun calls world' same => ?_)
  refine ends_bind (fun result m ran => ?_)
  obtain ⟨rfl, rfl, rfl, none⟩ := resolves calls world' result m ran
  have counters : outputUsage m.world env.now = outputUsage world env.now := by
    funext modelId
    simp only [outputUsage, same]
  have preferred : leastUsed env m.db world = leastUsed env m.db m.world := by
    simp only [leastUsed, counted, counters]
  rw [← none, preferred]
  exact ends_withAnthropicClient sends

theorem local_answerBatch (tracer : SessionTracer) (upstreamId : Int) (batch : Batch) :
    (answerBatch context tracer upstreamId batch).Only Local := by
  refine only_bind (local_of_quiet (quiet_wrapFile _ _ _)) ?_
  rintro (e | fileMeta)
  · trivial
  · exact only_bind (only_bind (only_op trivial) (fun _ => trivial)) (fun _ => trivial)

theorem local_markFileMetaDeleted (fileId : String) : (markFileMetaDeleted fileId).Only Local :=
  only_bind (local_of_quiet (quiet_auto rfl)) (fun _ => trivial)

theorem local_reportNetworkError (client : UpstreamClient) (e : ClientError) :
    (reportNetworkError client e).Only Local :=
  local_of_quiet (quiet_reportNetworkError client e)

theorem local_answerSdkError (client : UpstreamClient) (e : ClientError) :
    (answerSdkError client e : Action (Reply α)).Only Local :=
  only_bind (local_reportNetworkError client e) (fun _ => trivial)

theorem sends_retrieveBatch {batchMeta : BatchMeta}
    (stored : db.batchMetas.lookup objectId = some batchMeta)
    (registered : db.upstreams.find batchMeta.upstreamId = some upstream) :
    Sends env db world context.accountId ((some upstream).filter (context.libraries.buildsOpenAI 0))
      (.retrieveBatch batchMeta.originalBatchId) (retrieveBatch context objectId) := by
  refine sends_withBatch stored registered (fun tracer m => ends_callUpstream ?_)
  rintro (e | batch)
  · trivial
  · exact only_bind (local_of_quiet (quiet_syncBatchStatus _ _)) (fun _ => local_answerBatch _ _ _)

theorem sends_cancelBatch {batchMeta : BatchMeta}
    (stored : db.batchMetas.lookup objectId = some batchMeta)
    (registered : db.upstreams.find batchMeta.upstreamId = some upstream) :
    Sends env db world context.accountId ((some upstream).filter (context.libraries.buildsOpenAI 0))
      (.cancelBatch batchMeta.originalBatchId) (cancelBatch context objectId) := by
  refine sends_withBatch stored registered (fun tracer m => ends_callUpstream ?_)
  rintro (e | batch)
  · trivial
  · exact local_answerBatch _ _ _

theorem ends_sendFileRequest {client : UpstreamClient} {request : AnthropicFileRequest}
    {next : RawResponse → Action (Reply Value)} {m : Solo engine}
    (rest : ∀ response, (next response).Only Local) :
    (sendFileRequest client request next).ends env
      (fun _ m' => forwarded m'.calls = (client.upstream, .anthropicFile request) :: forwarded m.calls)
      m := by
  refine ends_callUpstream ?_
  rintro (e | response)
  · exact only_bind (local_reportNetworkError client .network) (fun _ => trivial)
  · dsimp only
    split
    · exact rest response
    · trivial

theorem sends_anthropicFile {fileMeta : FileMeta} {request : String → AnthropicFileRequest}
    {next : RawResponse → Action (Reply Value)}
    (stored : (db.fileMetas.lookup objectId).filter (fun f => !f.deleted) = some fileMeta)
    (rest : ∀ response, (next response).Only Local) :
    Sends env db world context.accountId
      ((leastUsed env db world).filter (context.libraries.buildsAnthropic 0))
      (.anthropicFile (request fileMeta.originalFileId))
      (withStored context "File" objectId (getFileMetaByFileId objectId) (fun fileMeta client =>
        sendFileRequest client (request fileMeta.originalFileId) next)) := by
  refine sends_withStored fileMeta (fun calls world' => ?_)
    (fun client m => ends_sendFileRequest rest)
  exact ends_read (s := .getFileMetaByFileId objectId) rfl (congrArg some stored) rfl
    ⟨rfl, rfl, rfl, rfl⟩

theorem ends_anthropicSdkRequest {client : UpstreamClient} {m : Solo engine}
    {f : Except ClientError call.Answer → Action α} (rest : ∀ answer, (f answer).Only Local) :
    (anthropicSdkRequest client call >>= f).ends env
      (fun _ m' => forwarded m'.calls = (client.upstream, call) :: forwarded m.calls) m := by
  have asked : (anthropicSdkRequest client call).ends env
      (fun _ m' => forwarded m'.calls = (client.upstream, call) :: forwarded m.calls) m := by
    refine ends_callUpstream ?_
    rintro ((_ | _ | _) | answer) <;> trivial
  refine ends_bind (fun answer m' ran value last ended => ?_)
  exact (ends_local (rest answer) value last ended).trans (asked answer m' ran)

theorem sends_onMessageBatch {batchMeta : BatchMeta} {request : String → MessageBatchRequest}
    (stored : db.batchMetas.lookup objectId = some batchMeta) :
    Sends env db world context.accountId
      ((leastUsed env db world).filter (context.libraries.buildsAnthropic 0))
      (.messageBatch (request batchMeta.originalBatchId)) (onMessageBatch context objectId request) := by
  refine sends_withStored batchMeta (fun calls world' => ?_)
    (fun client m => ends_anthropicSdkRequest ?_)
  · exact ends_read (s := .getBatchMetaByBatchId objectId) rfl (congrArg some stored) rfl
      ⟨rfl, rfl, rfl, rfl⟩
  · rintro (e | batch)
    · exact local_answerSdkError client e
    · exact only_bind (only_bind (local_of_quiet (quiet_auto rfl)) (fun _ => trivial))
        (fun _ => trivial)

theorem sends_retrieveMessageBatchResults {batchMeta : BatchMeta}
    (stored : db.batchMetas.lookup objectId = some batchMeta) :
    Sends env db world context.accountId
      ((leastUsed env db world).filter (context.libraries.buildsAnthropic 0))
      (.messageBatchResults batchMeta.originalBatchId) (retrieveMessageBatchResults context objectId) := by
  refine sends_withStored batchMeta (fun calls world' => ?_) (fun client m => ends_callUpstream ?_)
  · exact ends_read (s := .getBatchMetaByBatchId objectId) rfl (congrArg some stored) rfl
      ⟨rfl, rfl, rfl, rfl⟩
  · rintro (e | items)
    · exact local_answerSdkError client e
    · trivial

theorem Sends.discard {destination : Option LLMUpstream} {p : Action α}
    (sends : Sends env db world context.accountId destination call p) :
    Sends env db world context.accountId destination call (discard p) := by
  refine ends_bind (fun value m ran => ends_pure ?_)
  exact sends value m ran

/-- The upstream that a request on an object is sent to. -/
def ObjectRequest.destination (libraries : ClientLibraries) (env : Env) (db : Db) (world : World)
    (owner : LLMUpstream) (request : ObjectRequest) : Option LLMUpstream :=
  if request.isAnthropic then (leastUsed env db world).filter (libraries.buildsAnthropic 0)
  else (some owner).filter (libraries.buildsOpenAI 0)

/-- Each handler sends the original id to its destination, and nothing anywhere else. -/
theorem ObjectRequest.sends (request : ObjectRequest)
    (stored : request.stored db objectId = some (originalId, upstreamId))
    (registered : db.upstreams.find upstreamId = some upstream) :
    Sends env db world context.accountId (request.destination context.libraries env db world upstream)
      (request.forward originalId) ((request.on objectId).handle context) := by
  cases request with
  | retrieveFileHandler =>
      obtain ⟨fileMeta, found, same⟩ := Option.map_eq_some_iff.mp stored
      cases same
      refine Sends.discard (sends_withFile found registered (fun m => ends_callUpstream ?_))
      rintro (e | file) <;> trivial
  | deleteFileHandler =>
      obtain ⟨fileMeta, found, same⟩ := Option.map_eq_some_iff.mp stored
      cases same
      refine Sends.discard (sends_withFile found registered (fun m => ends_callUpstream ?_))
      rintro (e | file)
      · trivial
      · exact only_bind (local_markFileMetaDeleted objectId) (fun _ => trivial)
  | fileContentHandler =>
      obtain ⟨fileMeta, found, same⟩ := Option.map_eq_some_iff.mp stored
      cases same
      refine Sends.discard (sends_withFile found registered (fun m => ends_callUpstream ?_))
      rintro (e | bytes) <;> trivial
  | retrieveBatch =>
      obtain ⟨batchMeta, found, same⟩ := Option.map_eq_some_iff.mp stored
      cases same
      exact Sends.discard (sends_retrieveBatch found registered)
  | cancelBatch =>
      obtain ⟨batchMeta, found, same⟩ := Option.map_eq_some_iff.mp stored
      cases same
      exact Sends.discard (sends_cancelBatch found registered)
  | retrieveFile =>
      obtain ⟨fileMeta, found, same⟩ := Option.map_eq_some_iff.mp stored
      cases same
      exact Sends.discard (sends_anthropicFile found (fun response => trivial))
  | deleteFile =>
      obtain ⟨fileMeta, found, same⟩ := Option.map_eq_some_iff.mp stored
      cases same
      exact Sends.discard (sends_anthropicFile found (fun response =>
        only_bind (local_markFileMetaDeleted objectId) (fun _ => trivial)))
  | fileContent =>
      obtain ⟨fileMeta, found, same⟩ := Option.map_eq_some_iff.mp stored
      cases same
      exact Sends.discard (sends_anthropicFile found (fun response => trivial))
  | retrieveMessageBatch | cancelMessageBatch =>
      obtain ⟨batchMeta, found, same⟩ := Option.map_eq_some_iff.mp stored
      cases same
      exact Sends.discard (sends_onMessageBatch found)
  | retrieveMessageBatchResults =>
      obtain ⟨batchMeta, found, same⟩ := Option.map_eq_some_iff.mp stored
      cases same
      exact Sends.discard (sends_retrieveMessageBatchResults found)

end Destinations

def firstUpstream : LLMUpstream := ⟨1, "first", "https://a", "sk-a", "anthropic", [], [], "online", ""⟩

def secondUpstream : LLMUpstream := ⟨2, "second", "https://b", "sk-b", "anthropic", [], [], "online", ""⟩

/-- A file of the first upstream, whose one model has the name `fullname`. -/
def oneFile (upstreamId : Int) (fullname : String) : Db := { Db.empty with
  wallets := Table.empty.insert ⟨1, 1, 100⟩
  upstreams := (Table.empty.insert firstUpstream).insert secondUpstream
  models := Table.empty.insert
    ⟨1, upstreamId, fullname, deriveCname fullname, true, [featureMessages], 100000, 1, 2, 1, 1, ""⟩
  fileMetas := Table.empty.insert ⟨1, "file-1", "file_abc", "user_data", 1, false⟩ }

/-- The same file, where no client of its upstream can be built. -/
def badProxy : Db := { oneFile 1 "claude/" with
  upstreams := Table.empty.insert { firstUpstream with proxies := ["::bad"] } }

/-- The model has been used within the hour. -/
def lately : World := { World.empty with tokenUsage := [(0, 1, 1, 1)] }

def anyContext : RequestContext := ⟨1, 1, fun _ => "s", fun _ => "u", .direct⟩

/-- The request has run by itself to an end of a given kind. -/
def Ran (request : ObjectRequest) (db : Db) (P : Solo engine → Prop) : Prop :=
  ∃ m, ((request.on "file-1").handle anyContext).alone (Env.plain 1 1) ⟨[], db, lately⟩ = some ((), m) ∧ P m

theorem ran_of_any {request : ObjectRequest} {P : Solo engine → Prop} [DecidablePred P]
    (ran : (((request.on "file-1").handle anyContext).alone (Env.plain 1 1) ⟨[], db, lately⟩).any
      (fun ended => decide (P ended.2)) = true) : Ran request db P := by
  obtain ⟨⟨_, m⟩, ended, shown⟩ := (Option.any_eq_true _ _).mp ran
  exact ⟨m, ended, of_decide_eq_true shown⟩

end LLMPool.ProxyViews
