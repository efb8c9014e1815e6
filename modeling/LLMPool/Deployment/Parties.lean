import LLMPool.Auth.Provenance
import LLMPool.Billing.Ledger
import LLMPool.Billing.Pipeline
import LLMPool.ProxyViews.Serving
import LLMPool.Upstreams.Maintenance

/-! The server and its workers while the upstreams that are registered and the catalogue of models stay as
they are: the requests that reach the proxies through their middlewares, the administrators' endpoints for
keys, accounts, money, subscriptions, upstreams and their tags, the workers of the two queues and the
upstreams' background tasks. Registrations, changes and tests of models, new accounts, the plans and the
passthrough are no parties here. -/
namespace LLMPool.Deployment
open Transactions Billing ProxyViews Upstreams

/-- What a request draws: a session for each of its attempts, the ids that it mints, and the proxies
of its clients. -/
structure Uuids where
  sessions : Nat → String
  minted : Nat → String
  libraries : ClientLibraries

def Uuids.context (uuids : Uuids) (accountId apiKeyId : Int) : RequestContext :=
  ⟨accountId, apiKeyId, uuids.sessions, uuids.minted, uuids.libraries⟩

/-- The requests behind the middlewares, but for the listings of models. To delete a response no balance is
asked for. -/
inductive ApiRequest where
  | proxied (request : ProxyRequest)
  | deleteResponse (responseId : String)

def ApiRequest.handle (context : RequestContext) : ApiRequest → Action Unit
  | proxied request => request.handle context
  | deleteResponse responseId => ProxyViews.discard (ProxyViews.deleteResponse responseId)

/-- One round of an event worker. The queue keeps an event until its handler has returned. -/
def eventWorker : Action Unit := do
  match ← Prog.remote (E := engine) .fetchEvent with
  | .error _ => return ()
  | .ok none => return ()
  | .ok (some event) =>
      handleEvent event
      let _ ← Prog.remote (E := engine) (.ackEvent event)

inductive Party where
  | openAI (authorization : Option String) (uuids : Uuids) (request : ApiRequest)
  | anthropic (xApiKey : Option String) (uuids : Uuids) (request : ApiRequest)
  | key (request : Auth.KeyRequest)
  | createDeposit (payload : AdminRestApi.CreateBalanceChangeRequest)
  | createWithdraw (payload : AdminRestApi.CreateBalanceChangeRequest)
  | createCredit (payload : AdminRestApi.CreateBalanceChangeRequest)
  | createSubscription (payload : AdminRestApi.CreateSubscriptionRequest)
  | updateSubscription (subscriptionId : Int) (status : String)
  | cancelSubscription (subscriptionId : Int)
  | updateUpstreamById (upstreamId : Int) (payload : Upstreams.AdminRestApi.UpdateUpstreamRequest)
  | addUpstreamTag (upstreamId : Int) (tag : String)
  | removeUpstreamTag (upstreamId : Int) (tag : String)
  | eventWorker
  | balanceChangeWorker
  | markSpawnedOffline
  | checkOfflineUpstreams
  | healthCheck

def Party.program (hashToken : String → String) : Party → Action Unit
  | openAI authorization uuids request => ProxyViews.discard (Middlewares.authOpenAIApi hashToken authorization
      (fun accountId apiKeyId => request.handle (uuids.context accountId apiKeyId)))
  | anthropic xApiKey uuids request => ProxyViews.discard (Middlewares.authAnthropicApi hashToken xApiKey
      (fun accountId apiKeyId => request.handle (uuids.context accountId apiKeyId)))
  | key request => request.program hashToken
  | createDeposit payload => (Job.createDeposit payload).program
  | createWithdraw payload => (Job.createWithdraw payload).program
  | createCredit payload => (Job.createCredit payload).program
  | createSubscription payload => (Request.createSubscription payload).program
  | updateSubscription subscriptionId status => (Request.updateSubscription subscriptionId status).program
  | cancelSubscription subscriptionId => (Request.cancelSubscription subscriptionId).program
  | updateUpstreamById upstreamId payload => (Upstreams.Job.updateUpstreamById upstreamId payload).program
  | addUpstreamTag upstreamId tag => (Upstreams.Job.addUpstreamTag upstreamId tag).program
  | removeUpstreamTag upstreamId tag => (Upstreams.Job.removeUpstreamTag upstreamId tag).program
  | eventWorker => Deployment.eventWorker
  | balanceChangeWorker => Billing.balanceChangeWorker
  | markSpawnedOffline => ProxyViews.markUpstreamOffline
  | checkOfflineUpstreams => Upstreams.checkOfflineUpstreams
  | healthCheck => Upstreams.healthCheck

/-- The hash of the key that a request presents. -/
def Party.presents (hashToken : String → String) : Party → Option String
  | openAI authorization _ _ => (authorization.bind Middlewares.bearerToken).map hashToken
  | anthropic xApiKey _ _ => (xApiKey.filter (fun token => token ≠ "")).map hashToken
  | _ => none

def Party.uuids : Party → Option Uuids
  | openAI _ uuids _ | anthropic _ uuids _ => some uuids
  | _ => none

def Party.asks : Party → Option ApiRequest
  | openAI _ _ request | anthropic _ _ request => some request
  | _ => none

/-- The transfer that an administrator asks for. -/
def Party.transfers : Party → Option (AdminRestApi.CreateBalanceChangeRequest × BalanceChangeContent)
  | createDeposit payload => some (payload, .deposit payload.amount)
  | createWithdraw payload => some (payload, .withdraw payload.amount)
  | createCredit payload => some (payload, .addCredit payload.amount)
  | _ => none

/-- Everything runs at once, and nothing has begun. -/
def deployment (hashToken : String → String) (db : Db) (world : World) (party : ι → Party) : State engine ι :=
  .starting db world (fun i => (party i).program hashToken)

section Calls

/-- The calls that look after the upstreams, and those that store an object. -/
def upkeep : Op engine → Bool
  | .auto (.markUpstreamOffline _) | .auto (.markUpstreamOnline _) | .auto (.updateUpstream _ _) => true
  | .auto (.insertFileMeta _ _ _ _) | .auto (.insertBatchMeta _ _ _ _) | .auto (.insertResponseMeta _ _ _) => true
  | .remote (.spawnMarkOffline _) | .remote (.spawnHealthCheck _) => true
  | _ => false

/-- Those calls and the ones to an upstream, and whatever leaves what is shared to others. -/
def Tending (op : Op engine) : Prop :=
  Plain op ∨ upkeep op = true ∨ ∃ u call, op = .remote (.upstream u call)

/-- Upstreams are contacted whose rows were read, or that are due for a check. One is marked offline
when it has been reported, which it is when it was not reached, and online when it was due and has
answered. An administrator's update writes over the row that it has read. An object is stored under an
upstream that has named it. All this is done without a transaction. -/
def Tends (party : Party) : Op engine → (Fact → Prop) → Prop
  | .remote (.upstream u call), K => (K (.row u) ∨ K (.due u)) ∧ Finds K u call
  | .remote (.spawnMarkOffline upstreamId), K => K (.unreachable upstreamId)
  | .remote (.spawnHealthCheck u), K => K (.offline u)
  | .auto (.markUpstreamOffline upstreamId), K => K (.reported upstreamId)
  | .auto (.markUpstreamOnline upstreamId), K => ∃ u, u.id = upstreamId ∧ K (.due u) ∧ K (.healthy u)
  | .auto (.updateUpstream current update), K => ∃ upstreamId payload,
      party = .updateUpstreamById upstreamId payload ∧ update = payload.update ∧
      (∀ status ∈ payload.status, status ∈ Upstreams.AdminRestApi.validEndpointStatuses) ∧
      K (.found upstreamId current)
  | .auto (.insertFileMeta _ originalFileId _ upstreamId), K => Gave K upstreamId .file originalFileId
  | .auto (.insertBatchMeta _ originalBatchId upstreamId _), K => Gave K upstreamId .batch originalBatchId
  | .auto (.insertResponseMeta _ originalResponseId upstreamId), K => Gave K upstreamId .response originalResponseId
  | .sql (.insertFileMeta _ _ _ _), _ | .sql (.insertBatchMeta _ _ _ _), _ | .sql (.insertResponseMeta _ _ _), _ => False
  | .sql (.markUpstreamOffline _), _ | .sql (.markUpstreamOnline _), _ | .sql (.updateUpstream _ _), _ => False
  | .sql (.addUpstreamTag _ _), _ | .sql (.removeUpstreamTag _ _), _ => False
  | _, _ => True

theorem Tends.mono {party : Party} {op : Op engine} {K K' : Fact → Prop} (tends : Tends party op K)
    (more : ∀ fact, K fact → K' fact) : Tends party op K' := by
  cases op with
  | begin | commit => trivial
  | sql s => cases s <;> trivial
  | auto s =>
      cases s
      case markUpstreamOffline => exact more _ tends
      case markUpstreamOnline =>
        obtain ⟨u, here, due, healthy⟩ := tends
        exact ⟨u, here, more _ due, more _ healthy⟩
      case updateUpstream =>
        obtain ⟨upstreamId, payload, asked, same, valid, found⟩ := tends
        exact ⟨upstreamId, payload, asked, same, valid, more _ found⟩
      case insertFileMeta | insertBatchMeta | insertResponseMeta => exact Gave.mono tends more
      all_goals trivial
  | remote c =>
      cases c
      case upstream => exact ⟨tends.1.imp (more _) (more _), Finds.mono tends.2 more⟩
      case spawnMarkOffline | spawnHealthCheck => exact more _ tends
      all_goals trivial

def tending (party : Party) : Knowledge engine Fact := ⟨Tells, fun op K => Tending op ∧ Tends party op K⟩

section Upkeep
variable {party : Party} {K : Fact → Prop}

theorem tends_deleteResponse (responseId : String) :
    (ProxyViews.deleteResponse responseId).Within (tending party) K (fun _ => True) := by
  refine within_bind (M := fun answer => ∀ row, answer = .ok (some row) →
    K (.stored .response row.upstreamId row.originalResponseId)) (within_queryAuto
      (s := .getResponseMetaByResponseId responseId) ⟨.inl rfl, trivial⟩ ?_ (fun reason => nofun)) ?_
  · rintro _ tells row ⟨⟩
    exact tells _ .response
  rintro (e | (_ | responseMeta)) read
  · trivial
  · trivial
  refine within_bind (within_getUpstream ⟨.inl rfl, trivial⟩) ?_
  rintro ((reason | _) | upstream) known
  · trivial
  · trivial
  obtain ⟨row, found⟩ := known upstream rfl
  refine within_bind (within_callUpstream ⟨.inr (.inr ⟨_, _, rfl⟩), .inl row, .single rfl found (read _ rfl)⟩) ?_
  rintro (e | deleted) _
  · trivial
  refine within_bind (M := fun _ => True)
    (within_queryAuto ⟨.inl rfl, trivial⟩ (fun _ _ => trivial) (fun _ => trivial)) ?_
  rintro (e | marked) _ <;> trivial

theorem tends_updateUpstreamById (upstreamId : Int) (payload : Upstreams.AdminRestApi.UpdateUpstreamRequest) :
    (Upstreams.AdminRestApi.updateUpstreamById upstreamId payload).Within
      (tending (.updateUpstreamById upstreamId payload)) K (fun _ => True) := by
  rw [Upstreams.AdminRestApi.updateUpstreamById]
  split
  · trivial
  rename_i unfit
  have valid : ∀ status ∈ payload.status, status ∈ Upstreams.AdminRestApi.validEndpointStatuses := by
    intro status named
    simpa using Option.filter_eq_none_iff.mp unfit status named
  split
  · trivial
  refine within_bind (M := fun _ => True) (within_run_bind (within_getUpstream ⟨.inl rfl, trivial⟩) ?_
    (fun _ _ => trivial)) (fun _ _ => trivial)
  intro current known
  have tends : Tends (.updateUpstreamById upstreamId payload) (.auto (.updateUpstream current payload.update)) K :=
    ⟨upstreamId, payload, rfl, rfl, valid, (known current rfl).2⟩
  refine within_run_bind (M := fun _ => True) (within_queryAuto ⟨.inr (.inl rfl), tends⟩ (fun _ _ => trivial)
    (fun _ => trivial)) ?_ (fun _ _ => trivial)
  exact fun _ _ => within_fetchOne (fun _ _ => trivial) trivial

theorem tends_markSpawnedOffline : ProxyViews.markUpstreamOffline.Within (tending party) K (fun _ => True) := by
  refine within_bind (M := fun reply => ∀ upstreamId, reply = .ok (some upstreamId) → K (.reported upstreamId))
    (within_op ⟨.inl rfl, trivial⟩ ?_) ?_
  · rintro _ tells upstreamId rfl
    exact tells _ .reported
  rintro (reason | (_ | upstreamId)) reported
  · trivial
  · trivial
  · exact within_bind (M := fun _ => True) (within_queryAuto ⟨.inr (.inl rfl), reported upstreamId rfl⟩
      (fun _ _ => trivial) (fun _ => trivial)) (fun _ _ => trivial)

theorem tends_spawnHealthChecks (upstreams : List LLMUpstream) (offline : ∀ u ∈ upstreams, K (.offline u)) :
    (spawnHealthChecks upstreams).Within (tending party) K (fun _ => True) := by
  induction upstreams with
  | nil => trivial
  | cons upstream rest ih =>
      refine within_bind (M := fun _ => True) (within_op ⟨.inr (.inl rfl), offline upstream List.mem_cons_self⟩
        (fun _ _ => trivial)) (fun _ _ => ih (fun u member => offline u (List.mem_cons_of_mem _ member)))

theorem tends_checkOfflineUpstreams : checkOfflineUpstreams.Within (tending party) K (fun _ => True) := by
  refine within_bind (M := fun answer => ∀ us, answer = .ok us → ∀ u ∈ us, K (.offline u))
    (within_queryAuto (s := .listOfflineUpstreams) ⟨.inl rfl, trivial⟩ ?_ nofun) ?_
  · rintro us tells _ ⟨⟩ u member
    exact tells _ (.offline member)
  rintro (e | upstreams) offline
  · trivial
  · exact tends_spawnHealthChecks upstreams (offline upstreams rfl)

theorem tends_checkUpstreamHealth {upstream : LLMUpstream} (due : K (.due upstream)) :
    (checkUpstreamHealth upstream).Within (tending party) K
      (fun isHealthy => isHealthy = true → K (.healthy upstream)) := by
  refine within_bind (within_callUpstream ⟨.inr (.inr ⟨_, _, rfl⟩), .inr due, .unnamed rfl⟩) ?_
  rintro (e | response) tells
  · exact nofun
  · exact fun success => tells _ (.healthy success)

theorem tends_healthCheck : healthCheck.Within (tending party) K (fun _ => True) := by
  refine within_bind (M := fun reply => ∀ u, reply = .ok (some u) → K (.due u)) (within_op ⟨.inl rfl, trivial⟩ ?_) ?_
  · rintro _ tells u rfl
    exact tells _ .due
  rintro (reason | (_ | upstream)) due
  · trivial
  · trivial
  refine within_bind (tends_checkUpstreamHealth (due upstream rfl)) (fun isHealthy healthy => ?_)
  split
  · rename_i answered
    exact within_bind (M := fun _ => True) (within_queryAuto
      ⟨.inr (.inl rfl), upstream, rfl, due upstream rfl, healthy answered⟩ (fun _ _ => trivial) (fun _ => trivial))
      (fun _ _ => trivial)
  · trivial

theorem tends_discard {p : Action α} (within : p.Within (tending party) K (fun _ => True)) :
    (ProxyViews.discard p).Within (tending party) K (fun _ => True) :=
  within_bind within (fun _ _ => trivial)

end Upkeep

theorem only_discard {P : Op engine → Prop} {p : Action α} (only : p.Only P) : (ProxyViews.discard p).Only P :=
  only_bind only (fun _ => trivial)

theorem plain_withAccount {next : Action (AdminRestApi.Response α)} (only : next.Only Plain) :
    (AdminRestApi.withAccount accountId next).Only Plain := by
  refine only_bind (only_queryAuto (s := .getAccountById accountId) rfl) ?_
  rintro (e | (_ | account))
  · trivial
  · trivial
  · exact only

theorem plain_createSubscription (payload : AdminRestApi.CreateSubscriptionRequest) :
    (AdminRestApi.createSubscription payload).Only Plain := by
  refine plain_withAccount (only_bind (only_queryAuto (s := .getSubscriptionPlanById payload.planId) rfl) ?_)
  rintro (e | (_ | plan))
  · trivial
  · trivial
  · refine only_bind (only_queryAuto rfl) ?_
    rintro (e | s) <;> trivial

theorem plain_updateSubscription (subscriptionId : Int) (status : String) :
    (AdminRestApi.updateSubscription subscriptionId status).Only Plain := by
  rw [AdminRestApi.updateSubscription]
  split
  · trivial
  · refine only_bind (only_run_bind (only_queryAuto rfl) (fun found => only_fetchOne found)) ?_
    rintro ((_ | _) | _) <;> trivial

theorem plain_cancelSubscription (subscriptionId : Int) :
    (AdminRestApi.cancelSubscription subscriptionId).Only Plain := by
  refine only_bind (only_run_bind (only_queryAuto rfl) (fun found => only_fetchOne found)) ?_
  rintro ((_ | _) | _) <;> trivial

theorem plain_addUpstreamTag (upstreamId : Int) (tag : String) :
    (Upstreams.AdminRestApi.addUpstreamTag upstreamId tag).Only Plain := by
  unfold Upstreams.AdminRestApi.addUpstreamTag
  generalize Auth.trim tag = trimmed
  split
  · trivial
  · exact only_bind (only_run_bind (only_queryAuto rfl) (fun _ => only_fetchOne _)) (fun _ => trivial)

theorem plain_removeUpstreamTag (upstreamId : Int) (tag : String) :
    (Upstreams.AdminRestApi.removeUpstreamTag upstreamId tag).Only Plain :=
  only_bind (only_run_bind (only_queryAuto rfl) (fun _ => only_fetchOne _)) (fun _ => trivial)

end Calls

end LLMPool.Deployment
