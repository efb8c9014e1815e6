import LLMPool.Billing.Attribution
import LLMPool.Deployment.EventHandling
import LLMPool.Deployment.Parties

/-! The order in which the parties call each other's queues, the ledger and the caches, whatever
their calls are answered. -/
namespace LLMPool.Deployment
open Relational Transactions Billing ProxyViews

/-- The key that the party presents has been admitted under these ids. -/
def Behind (hashToken : String → String) (party : Party) (accountId apiKeyId : Int) (calls : List (Call engine)) : Prop :=
  ∃ apiKeyHash, party.presents hashToken = some apiKeyHash ∧ Auth.Admitted apiKeyHash accountId apiKeyId calls

/-- The event is of a session of the party, and the account that it is for had money. -/
structure Requested (hashToken : String → String) (party : Party) (event : EventTask EventData)
    (calls : List (Call engine)) : Prop where
  behind : Behind hashToken party event.accountId event.apiKeyId calls
  paid : Affords event.accountId calls
  session : ∃ uuids ∈ party.uuids, ∃ attempt, event.sessionId = uuids.sessions attempt

/-- A request contacts an upstream for the account of its key. Other than to delete a response, the
account had money. -/
def Authorised (hashToken : String → String) (party : Party) (calls : List (Call engine)) : Prop :=
  ∀ request, party.asks = some request → ∃ accountId apiKeyId, Behind hashToken party accountId apiKeyId calls ∧
    (Affords accountId calls ∨ ∃ responseId, request = .deleteResponse responseId)

/-- The party is an administrator's request for just this balance change, of a positive amount. -/
structure Transferring (party : Party) (accountId : Int) (uniqueRequestId : String) (content : Value) : Prop where
  asked : ∃ payload change, party.transfers = some (payload, change) ∧ payload.accountId = accountId ∧
    payload.uniqueRequestId = uniqueRequestId ∧ content = change.toValue ∧ 0 < payload.amount

/-- What a call answers for. A charge is for an event that was delivered, every other balance change is
what an administrator asks for, and an event is acknowledged when it has been handled. -/
def Answers (hashToken : String → String) (party : Party) (calls : List (Call engine)) : Op engine → Prop
  | .sql (.insertBalanceChange new) => ∃ event, Delivered event calls ∧ Bill event new calls
  | .auto (.insertBalanceChange new) => Transferring party new.accountId new.uniqueRequestId new.content
  | .remote (.ackEvent event) => Delivered event calls ∧ Handled event calls
  | .remote (.pushEvent event) => Requested hashToken party event calls
  | .remote (.upstream _ _) => Authorised hashToken party calls
  | _ => True

/-- What every party keeps to. -/
structure Conforms (hashToken : String → String) (party : Party) (calls : List (Call engine)) (op : Op engine) :
    Prop where
  orderly : Orderly calls op
  sourced : Auth.Sourced calls op
  caches : Caches calls op
  tends : Tends party op (Upstreams.told calls)
  answers : Answers hashToken party calls op

variable {hashToken : String → String} {party : Party}

section Pooled
variable {calls : List (Call engine)} {op : Op engine}

/-- The calls of endpoints and tasks that open no transaction. -/
inductive Pooled (hashToken : String → String) (party : Party) (calls : List (Call engine)) : Op engine → Prop
  | plain {op : Op engine} (plain : Plain op) : Pooled hashToken party calls op
  | upkeep {op : Op engine} (keeps : upkeep op = true) (tends : Tends party op (Upstreams.told calls)) :
      Pooled hashToken party calls op
  | looks {op : Op engine} (looks : Auth.Looks calls op) : Pooled hashToken party calls op
  | contacts {u : LLMUpstream} {call : UpstreamCall}
      (tends : Tends party (.remote (.upstream u call)) (Upstreams.told calls))
      (authorised : Authorised hashToken party calls) : Pooled hashToken party calls (.remote (.upstream u call))
  | pushes {event : EventTask EventData} (requested : Requested hashToken party event calls) :
      Pooled hashToken party calls (.remote (.pushEvent event))

/-- A call outside of transactions that records no balance change. -/
def Recordless (op : Op engine) : Prop := op.Pooled ∧ Unrecording op

theorem Pooled.recordless (pooled : Pooled hashToken party calls op) : Recordless op := by
  cases op with
  | remote c => exact ⟨trivial, fun _ => ⟨nofun, nofun⟩⟩
  | begin | sql | commit =>
      cases pooled with
      | plain plain => cases plain
      | upkeep keeps => cases keeps
      | looks looks => exact absurd looks id
  | auto s =>
      refine ⟨trivial, fun new => ⟨nofun, ?_⟩⟩
      rintro ⟨⟩
      cases pooled with
      | plain plain => cases plain
      | upkeep keeps => cases keeps
      | looks looks => exact absurd looks id

theorem conforms_plain (idle : session calls = .idle) (plain : Plain op) : Conforms hashToken party calls op := by
  cases op with
  | remote c => cases c <;> first | exact ⟨trivial, trivial, trivial, trivial, trivial⟩ | cases plain
  | auto s =>
      have unwritten : (session calls).writes = [] := by rw [idle]; rfl
      cases s <;> first | exact ⟨⟨unwritten, trivial⟩, trivial, trivial, trivial, trivial⟩ | cases plain
  | begin | sql | commit => cases plain

theorem conforms_looks (idle : session calls = .idle) (looks : Auth.Looks calls op) :
    Conforms hashToken party calls op := by
  cases op with
  | remote c =>
      cases c <;> first | exact ⟨trivial, trivial, trivial, trivial, trivial⟩ |
        exact ⟨trivial, looks, trivial, trivial, trivial⟩ | exact absurd looks id
  | auto s =>
      have unwritten : (session calls).writes = [] := by rw [idle]; rfl
      cases s <;> first | exact ⟨⟨unwritten, trivial⟩, trivial, trivial, trivial, trivial⟩ | exact absurd looks id
  | begin | sql | commit => exact absurd looks id

theorem conforms_upkeep (idle : session calls = .idle) (keeps : upkeep op = true)
    (tends : Tends party op (Upstreams.told calls)) : Conforms hashToken party calls op := by
  cases op with
  | remote c => cases c <;> first | exact ⟨trivial, trivial, trivial, tends, trivial⟩ | cases keeps
  | auto s =>
      have unwritten : (session calls).writes = [] := by rw [idle]; rfl
      cases s <;> first | exact ⟨⟨unwritten, trivial⟩, trivial, trivial, tends, trivial⟩ | cases keeps
  | begin | sql | commit => cases keeps

theorem Pooled.conforms (idle : session calls = .idle) (pooled : Pooled hashToken party calls op) :
    Conforms hashToken party calls op := by
  cases pooled with
  | plain plain => exact conforms_plain idle plain
  | upkeep keeps tends => exact conforms_upkeep idle keeps tends
  | looks looks => exact conforms_looks idle looks
  | contacts tends authorised => exact ⟨trivial, trivial, trivial, tends, authorised⟩
  | pushes requested => exact ⟨trivial, trivial, trivial, trivial, requested⟩

theorem conforms_pooled {p : Action Unit} (path : p.path (Pooled hashToken party) (fun _ _ => True) []) :
    p.path (Conforms hashToken party) (fun _ => Forwarded) [] := by
  have noting : p.path (fun calls op => Recordless op ∧
      ((∀ call ∈ calls, Recordless call.op) → Conforms hashToken party calls op)) (fun _ _ => True) [] :=
    path_mono (fun _ _ pooled => ⟨pooled.recordless, fun noted =>
      pooled.conforms (session_pooled (fun call member => (noted call member).1))⟩) (fun _ _ ended => ended) path
  refine path_mono (fun _ _ made => made) ?_ (path_noting (fun _ never => absurd never List.not_mem_nil) noting)
  exact fun _ _ noted => forwarded_unrecording (fun call member => (noted.1 call member).2)

end Pooled

section Transfers

/-- The calls of the endpoints that record what is not a charge. -/
def Transfers (party : Party) : Op engine → Prop
  | .auto (.insertBalanceChange new) => Transferring party new.accountId new.uniqueRequestId new.content
  | .auto (.getAccountById _) | .auto (.findAccountWallet _) | .remote (.pushBalanceChange _) => True
  | _ => False

theorem Transfers.onPool {op : Op engine} (transfers : Transfers party op) : op.Pooled := by
  cases op with
  | auto | remote => trivial
  | begin | sql | commit => exact absurd transfers id

theorem Transfers.conforms {calls : List (Call engine)} {op : Op engine} (transfers : Transfers party op)
    (orderly : Orderly calls op) : Conforms hashToken party calls op := by
  cases op with
  | remote c => cases c <;> first | exact ⟨orderly, trivial, trivial, trivial, trivial⟩ | exact absurd transfers id
  | auto s => cases s <;> first | exact ⟨orderly, trivial, trivial, trivial, trivial⟩ |
      exact ⟨orderly, trivial, trivial, trivial, transfers⟩ | exact absurd transfers id
  | begin | sql | commit => exact absurd transfers id

theorem transfers_withPositiveAmount {amount : BigDecimal} {next : Action (AdminRestApi.Response α)}
    (only : 0 < amount → next.Only (Transfers party)) :
    (AdminRestApi.withPositiveAmount amount next).Only (Transfers party) := by
  rw [AdminRestApi.withPositiveAmount]
  split
  · trivial
  · rename_i positive
    exact only (not_le.mp positive)

theorem transfers_withAccount {next : Action (AdminRestApi.Response α)} (only : next.Only (Transfers party)) :
    (AdminRestApi.withAccount accountId next).Only (Transfers party) := by
  refine only_bind (only_queryAuto (s := .getAccountById accountId) trivial) ?_
  rintro (e | (_ | account))
  · trivial
  · trivial
  · exact only

theorem transfers_recordBalanceChange {payload : AdminRestApi.CreateBalanceChangeRequest}
    {content : BalanceChangeContent} {unserialized unrecorded unqueued : String}
    (asked : party.transfers = some (payload, content)) (positive : 0 < payload.amount) :
    (AdminRestApi.recordBalanceChange payload content unserialized unrecorded unqueued).Only (Transfers party) := by
  have transferring : Transferring party payload.accountId payload.uniqueRequestId content.toValue :=
    ⟨payload, content, asked, rfl, rfl, rfl, positive⟩
  refine only_bind (only_queryAuto (s := .insertBalanceChange _) transferring) ?_
  rintro (e | c)
  · trivial
  refine only_bind (only_op trivial) ?_
  rintro (reason | ⟨⟩) <;> trivial

theorem transfers_createDeposit (payload : AdminRestApi.CreateBalanceChangeRequest) :
    (AdminRestApi.createDeposit payload).Only (Transfers (.createDeposit payload)) :=
  transfers_withPositiveAmount (fun positive => transfers_withAccount (transfers_recordBalanceChange rfl positive))

theorem transfers_createCredit (payload : AdminRestApi.CreateBalanceChangeRequest) :
    (AdminRestApi.createCredit payload).Only (Transfers (.createCredit payload)) :=
  transfers_withPositiveAmount (fun positive => transfers_withAccount (transfers_recordBalanceChange rfl positive))

theorem transfers_createWithdraw (payload : AdminRestApi.CreateBalanceChangeRequest) :
    (AdminRestApi.createWithdraw payload).Only (Transfers (.createWithdraw payload)) := by
  refine transfers_withPositiveAmount (fun positive => transfers_withAccount ?_)
  refine only_bind (only_queryAuto (s := .findAccountWallet payload.accountId) trivial) ?_
  rintro (e | (_ | wallet))
  · trivial
  · trivial
  · dsimp only
    split
    · trivial
    · exact transfers_recordBalanceChange rfl positive

theorem conforms_job (job : Job) (only : job.program.Only (Transfers party)) :
    job.program.path (Conforms hashToken party) (fun _ => Forwarded) [] :=
  path_mono (fun _ _ made => made.2.conforms made.1) (fun _ _ ended => ended.1) (path_and job.path_program only.made)

end Transfers

section Workers
variable {calls own older : List (Call engine)} {op : Op engine} {event : EventTask EventData}

/-- The handler of a task by itself. -/
theorem conforms_settlement (orderly : Orderly calls op) (caches : Caches calls op) (settles : OfSettlement op) :
    Conforms hashToken party calls op := by
  cases op with
  | begin | commit => exact ⟨orderly, trivial, caches, trivial, trivial⟩
  | sql s => cases s <;> first | exact ⟨orderly, trivial, caches, trivial, trivial⟩ | exact absurd settles id
  | auto s => exact absurd settles id
  | remote c => cases c <;> first | exact ⟨orderly, trivial, caches, trivial, trivial⟩ | exact absurd settles id

theorem conforms_balanceChangeWorker : balanceChangeWorker.path (Conforms hashToken party) (fun _ => Forwarded) [] := by
  have forwards : balanceChangeWorker.path (fun _ _ => True) (fun _ calls => ∀ call ∈ calls, Unrecording call.op) [] :=
    only_balanceChangeWorker.path (fun _ never => absurd never List.not_mem_nil)
  suffices conforms : balanceChangeWorker.path (Conforms hashToken party) (fun _ _ => True) [] from
    path_mono (fun _ _ made => made.1) (fun _ _ ended => forwarded_unrecording ended.2) (path_and conforms forwards)
  refine path_bind.mpr (path_op (P := Conforms hashToken party) ⟨trivial, trivial, trivial, trivial, trivial⟩ ?_)
  rintro (reason | (_ | task)) _
  · trivial
  · trivial
  dsimp only
  rw [path_bind]
  have fetched : Fetched [⟨.remote .fetchBalanceChange, .ok (some task)⟩] task := List.mem_cons_self
  have settles := path_and (path_and (path_settleBalanceChange fetched) (caching_settleBalanceChange task))
    (only_settleBalanceChange task).made
  refine path_mono (fun _ _ made => conforms_settlement made.1.1 made.1.2 made.2) ?_ settles
  rintro _ calls ⟨⟨ended, _⟩, _⟩
  exact path_bind.mpr
    (path_op (P := Conforms hashToken party) ⟨ended, trivial, trivial, trivial, trivial⟩ (fun _ _ => trivial))

theorem conforms_handler (idle : session older = .idle) (delivered : Delivered event older)
    (orderly : Orderly own op) (shape : Handles event own op) :
    Conforms hashToken party (own ++ older) op := by
  cases op with
  | begin | commit => exact ⟨trivial, trivial, trivial, trivial, trivial⟩
  | auto s => exact absurd shape id
  | sql s =>
      have appended : session (own ++ older) = session own := session_append idle
      have unrecorded : Unrecorded (session (own ++ older)).writes := appended.symm ▸ orderly.1
      cases s <;> first | exact absurd shape id | skip
      case insertBalanceChange new =>
        obtain ⟨account, named, usage, model, eventId, used, known, content⟩ := shape
        exact ⟨⟨unrecorded, orderly.2⟩, trivial, trivial, trivial, event, List.mem_append_right _ delivered,
          account, named, usage, model, eventId, used, List.mem_append_left _ known, content⟩
      case getModel | upsertSessionEvent => exact ⟨⟨unrecorded, trivial⟩, trivial, trivial, trivial, trivial⟩
  | remote c =>
      cases c <;> first | exact absurd shape id | skip
      case incrementTokenUsage => exact ⟨trivial, trivial, trivial, trivial, trivial⟩
      case pushBalanceChange task =>
        obtain ⟨c, recorded, here⟩ := orderly
        refine ⟨⟨c, ?_, here⟩, trivial, trivial, trivial, trivial⟩
        rw [permanent_append idle]
        exact List.mem_append_right _ recorded

theorem conforms_eventWorker : eventWorker.path (Conforms hashToken party) (fun _ => Forwarded) [] := by
  refine path_bind.mpr (path_op (P := Conforms hashToken party) ⟨trivial, trivial, trivial, trivial, trivial⟩ ?_)
  rintro (reason | (_ | event)) _
  · exact forwarded_nil rfl
  · exact forwarded_nil rfl
  dsimp only
  rw [path_bind]
  have handled := path_and (path_and (orderly_handleEvent event) (billing_event event)) (path_handled event)
  have idle : session [(⟨.remote .fetchEvent, .ok (some event)⟩ : Call engine)] = .idle := rfl
  have alone := path_after idle handled
  refine path_mono ?_ ?_ alone
  · rintro _ op ⟨own, rfl, ⟨made, shape⟩, _⟩
    exact conforms_handler rfl List.mem_cons_self made shape
  · rintro _ _ ⟨own, rfl, ⟨forwarded, _⟩, handled⟩
    have delivered : Delivered event (own ++ [⟨.remote .fetchEvent, .ok (some event)⟩]) :=
      List.mem_append_right _ List.mem_cons_self
    refine path_bind.mpr (path_op (P := Conforms hashToken party)
      ⟨trivial, trivial, trivial, trivial, delivered, handled.append idle⟩ ?_)
    intro reply _ c member
    rw [permanent_remote, permanent_append rfl] at member
    obtain ⟨pushed, inside⟩ := forwarded c member
    exact ⟨pushed, List.mem_cons_of_mem _ (List.mem_append_left _ inside)⟩

end Workers

section Requests
variable {calls later : List (Call engine)} {accountId apiKeyId : Int} {uuids : Uuids} {request : ApiRequest}
  {apiKeyHash : String}

theorem Behind.suffix (behind : Behind hashToken party accountId apiKeyId calls) (reached : calls <:+ later) :
    Behind hashToken party accountId apiKeyId later := by
  obtain ⟨apiKeyHash, presents, admitted⟩ := behind
  exact ⟨apiKeyHash, presents, admitted.mono reached.subset⟩

/-- A request of this party that goes to the account and the key that it was admitted with. -/
structure Asks (party : Party) (uuids : Uuids) (request : ApiRequest) : Prop where
  asks : party.asks = some request
  uuids : party.uuids = some uuids

theorem path_tending {p : Action Unit} (within : ∀ K, p.Within (tending party) K (fun _ => True)) :
    p.path (fun calls op => Tending op ∧ Tends party op (Upstreams.told calls)) (fun _ _ => True) calls :=
  path_of_within within

theorem pooled_serves {op : Op engine} (asks : Asks party uuids request)
    (behind : Behind hashToken party accountId apiKeyId calls)
    (serves : Serves (uuids.context accountId apiKeyId) calls op) : Pooled hashToken party calls op := by
  cases serves with
  | cached | stored => exact .plain rfl
  | paid affords serving =>
      cases op with
      | remote c =>
          cases c with
          | upstream u call =>
              exact .contacts ⟨.inl serving.1, serving.2⟩ (fun _ _ => ⟨accountId, apiKeyId, behind, .inl affords⟩)
          | pushEvent event =>
              obtain ⟨session, account, apiKey⟩ := serving
              have own : accountId = event.accountId ∧ apiKeyId = event.apiKeyId := ⟨account.symm, apiKey.symm⟩
              obtain ⟨rfl, rfl⟩ := own
              exact .pushes ⟨behind, affords, uuids, asks.uuids, session⟩
          | getOutputTokenUsage => exact .plain rfl
          | spawnMarkOffline => exact .upkeep rfl serving
          | _ => exact absurd serving id
      | auto s => cases s <;> first | exact .plain rfl | exact .upkeep rfl serving | cases serving
      | begin | sql | commit => exact absurd serving id

theorem pooled_handle (asks : Asks party uuids request) (behind : Behind hashToken party accountId apiKeyId calls) :
    (request.handle (uuids.context accountId apiKeyId)).path (Pooled hashToken party) (fun _ _ => True) calls := by
  cases request with
  | proxied request =>
      refine path_mono ?_ (fun _ _ _ => trivial) (path_extends request.serves)
      exact fun _ _ ⟨reached, serves⟩ => pooled_serves asks (behind.suffix reached) serves
  | deleteResponse responseId =>
      have within : ∀ K, (ApiRequest.handle (uuids.context accountId apiKeyId) (.deleteResponse responseId)).Within
          (tending party) K (fun _ => True) := fun K => tends_discard (tends_deleteResponse responseId)
      refine path_mono ?_ (fun _ _ _ => trivial) (path_extends (path_tending within))
      rintro later op ⟨reached, plain | keeps | ⟨u, call, rfl⟩, tends⟩
      · exact .plain plain
      · exact .upkeep keeps tends
      · refine .contacts tends
          (fun request asked => ⟨accountId, apiKeyId, behind.suffix reached, .inr ⟨responseId, ?_⟩⟩)
        exact Option.some.inj (asked.symm.trans asks.asks)

theorem pooled_authenticate (asks : Asks party uuids request) (presents : party.presents hashToken = some apiKeyHash) :
    (Middlewares.authenticate apiKeyHash
      (fun accountId apiKeyId => request.handle (uuids.context accountId apiKeyId))).path
      (Pooled hashToken party) (fun _ _ => True) [] :=
  Auth.path_authenticate (I := fun _ => True) trivial (fun _ _ _ looks => ⟨.looks looks, fun _ => trivial⟩)
    (fun _ _ _ _ admitted => pooled_handle asks ⟨apiKeyHash, presents, admitted⟩)

end Requests

/-- How a party uses the database: without a transaction, or as one of the workers. -/
inductive Kind (hashToken : String → String) (party : Party) : Action Unit → Prop
  | pooled {p : Action Unit} (path : p.path (Pooled hashToken party) (fun _ _ => True) []) : Kind hashToken party p
  | transfers (job : Job) (only : job.program.Only (Transfers party)) : Kind hashToken party job.program
  | eventWorker : Kind hashToken party eventWorker
  | balanceChangeWorker : Kind hashToken party balanceChangeWorker

theorem kind_plain {p : Action Unit} (only : p.Only Plain) : Kind hashToken party p :=
  .pooled (path_mono (fun _ _ plain => .plain plain) (fun _ _ ended => ended) only.made)

theorem kind_tending {p : Action Unit} (asks : party.asks = none)
    (within : ∀ K, p.Within (tending party) K (fun _ => True)) : Kind hashToken party p := by
  refine .pooled (path_mono ?_ (fun _ _ ended => ended) (path_tending within))
  rintro _ _ ⟨plain | keeps | ⟨u, call, rfl⟩, tends⟩
  · exact .plain plain
  · exact .upkeep keeps tends
  · exact .contacts tends (fun request asked => by cases asks.symm.trans asked)

theorem Party.kind (hashToken : String → String) (party : Party) :
    Kind hashToken party (party.program hashToken) := by
  cases party with
  | openAI authorization uuids request =>
      refine .pooled (path_bind.mpr ?_)
      unfold Middlewares.authOpenAIApi
      split
      · rename_i token read
        exact pooled_authenticate ⟨rfl, rfl⟩ (congrArg (Option.map hashToken) read)
      · trivial
  | anthropic xApiKey uuids request =>
      refine .pooled (path_bind.mpr ?_)
      unfold Middlewares.authAnthropicApi
      split
      · rename_i token read
        exact pooled_authenticate ⟨rfl, rfl⟩ (congrArg (Option.map hashToken) read)
      · trivial
  | key request =>
      refine .pooled (path_mono ?_ (fun _ _ ended => ended) (Auth.passedOn_request request))
      rintro _ _ ⟨plain | looks, _⟩
      · exact .plain plain
      · exact .looks looks
  | createDeposit payload =>
      exact .transfers (.createDeposit payload) (only_bind (transfers_createDeposit payload) (fun _ => trivial))
  | createWithdraw payload =>
      exact .transfers (.createWithdraw payload) (only_bind (transfers_createWithdraw payload) (fun _ => trivial))
  | createCredit payload =>
      exact .transfers (.createCredit payload) (only_bind (transfers_createCredit payload) (fun _ => trivial))
  | createSubscription payload => exact kind_plain (only_discard (plain_createSubscription payload))
  | updateSubscription subscriptionId status =>
      exact kind_plain (only_discard (plain_updateSubscription subscriptionId status))
  | cancelSubscription subscriptionId => exact kind_plain (only_discard (plain_cancelSubscription subscriptionId))
  | updateUpstreamById upstreamId payload =>
      exact kind_tending rfl (fun K => tends_discard (tends_updateUpstreamById upstreamId payload))
  | addUpstreamTag upstreamId tag => exact kind_plain (only_discard (plain_addUpstreamTag upstreamId tag))
  | removeUpstreamTag upstreamId tag => exact kind_plain (only_discard (plain_removeUpstreamTag upstreamId tag))
  | eventWorker => exact .eventWorker
  | balanceChangeWorker => exact .balanceChangeWorker
  | markSpawnedOffline => exact kind_tending rfl (fun K => tends_markSpawnedOffline)
  | checkOfflineUpstreams => exact kind_tending rfl (fun K => tends_checkOfflineUpstreams)
  | healthCheck => exact kind_tending rfl (fun K => tends_healthCheck)

/-- Every party keeps to the order, and has forwarded what it has committed when it returns. -/
theorem Kind.conforms {p : Action Unit} (kind : Kind hashToken party p) :
    p.path (Conforms hashToken party) (fun _ => Forwarded) [] := by
  cases kind with
  | pooled path => exact conforms_pooled path
  | transfers job only => exact conforms_job job only
  | eventWorker => exact conforms_eventWorker
  | balanceChangeWorker => exact conforms_balanceChangeWorker

end LLMPool.Deployment
