import LLMPool.Clients
import LLMPool.Models
import LLMPool.Transactions.Contract

/-! The tables in PostgreSQL and the statements that the pool runs on them: what
each answers, writes and locks. -/
namespace LLMPool
open Relational

structure Db where
  accounts : Table Account
  apiCredentials : Table ApiCredential
  wallets : Table Wallet
  balanceChanges : Table BalanceChange
  subscriptionPlans : Table SubscriptionPlan
  subscriptions : Table Subscription
  sessionEvents : Table SessionEvent
  models : Table LLMModel
  upstreams : Table LLMUpstream
  fileMetas : Table FileMeta
  batchMetas : Table BatchMeta
  responseMetas : Table ResponseMeta

def Db.empty : Db :=
  ⟨.empty, .empty, .empty, .empty, .empty, .empty, .empty, .empty, .empty, .empty, .empty, .empty⟩

/-- What a call does not choose: the clock, the serial id that a new row draws, the
order of rows and tasks that none is promised for, whether a Redis key has expired,
and what an upstream answers. -/
structure Env where
  now : Int
  serial : Int
  pick : Nat
  expired : Bool
  answers : (call : UpstreamCall) → Except ClientError call.Answer

/-- An environment in which no upstream can be reached. -/
def Env.plain (now serial : Int) : Env := ⟨now, serial, 0, false, fun _ => .error .network⟩

/-- The columns that `updateUpstream` writes are bound from the row that was read and
the update that was asked for. -/
inductive Stmt where
  | getAccountById (id : Int)
  | updateAccount (id : Int) (update : UpdateAccount)
  | findActiveApiCredentialByApiKeyHash (apiKeyHash : String)
  | insertApiCredential (accountId : Option Int) (apiKeyHash label : String)
  | deactivateApiCredential (apiKeyHash : String)
  | findAccountWallet (accountId : Int)
  | insertWallet (accountId : Int) (balance : BigDecimal)
  | updateWalletBalance (id : Int) (balance : BigDecimal)
  | markBalanceChangeApplied (id subscriptionId : Int)
  | findBalanceChangeForUpdate (id : Int)
  | insertBalanceChange (new : NewBalanceChange)
  | getCurrentSubscription (accountId consumedTokens : Int)
  | updateSubscriptionUsage (id usedTotalTokens : Int) (usedMoney : BigDecimal)
  | getModel (id : Int)
  | upsertSessionEvent (new : NewSessionEvent)
  | getSubscriptionPlanById (id : Int)
  | insertSubscription (accountId planId : Int)
  | updateSubscriptionStatus (id : Int) (status : SubscriptionStatus)
  | listModels (provider : String) (feature : Option String)
  | findModelsByNameAndCapacity (modelName provider feature : String)
  | getUpstream (id : Int)
  | markUpstreamOffline (id : Int)
  | markUpstreamOnline (id : Int)
  | listOfflineUpstreams
  | listUpstreams
  | updateUpstream (current : LLMUpstream) (update : UpdateLLMUpstream)
  | addUpstreamTag (id : Int) (tag : String)
  | removeUpstreamTag (id : Int) (tag : String)
  | getFileMetaByFileId (fileId : String)
  | getFileMetaByOriginalFileId (originalFileId : String) (upstreamId : Int)
  | insertFileMeta (fileId originalFileId purpose : String) (upstreamId : Int)
  | markFileMetaDeleted (fileId : String)
  | getBatchMetaByBatchId (batchId : String)
  | insertBatchMeta (batchId originalBatchId : String) (upstreamId : Int) (provider : String)
  | updateBatchMetaStatus (batchId status : String)
  | getResponseMetaByResponseId (responseId : String)
  | getResponseIdFromOriginalResponseId (originalResponseId : String)
  | insertResponseMeta (responseId originalResponseId : String) (upstreamId : Int)
  | markResponseMetaDeleted (responseId : String)

@[reducible] def Stmt.Answer : Stmt → Type
  | .getAccountById _ => Option Account
  | .updateAccount _ _ => Option Account
  | .findActiveApiCredentialByApiKeyHash _ => Option ApiCredential
  | .insertApiCredential _ _ _ => ApiCredential
  | .deactivateApiCredential _ => Option ApiCredential
  | .findAccountWallet _ => Option Wallet
  | .insertWallet _ _ => Wallet
  | .updateWalletBalance _ _ => Option Wallet
  | .markBalanceChangeApplied _ _ => Unit
  | .findBalanceChangeForUpdate _ => Option BalanceChange
  | .insertBalanceChange _ => BalanceChange
  | .getCurrentSubscription _ _ => Option Subscription
  | .updateSubscriptionUsage _ _ _ => Unit
  | .getModel _ => Option LLMModel
  | .upsertSessionEvent _ => SessionEvent
  | .getSubscriptionPlanById _ => Option SubscriptionPlan
  | .insertSubscription _ _ => Subscription
  | .updateSubscriptionStatus _ _ => Option Subscription
  | .listModels _ _ => List LLMModel
  | .findModelsByNameAndCapacity _ _ _ => List (LLMModel × LLMUpstream)
  | .getUpstream _ => Option LLMUpstream
  | .markUpstreamOffline _ => Unit
  | .markUpstreamOnline _ => Unit
  | .listOfflineUpstreams => List LLMUpstream
  | .listUpstreams => List LLMUpstream
  | .updateUpstream _ _ => Option LLMUpstream
  | .addUpstreamTag _ _ => Option LLMUpstream
  | .removeUpstreamTag _ _ => Option LLMUpstream
  | .getFileMetaByFileId _ => Option FileMeta
  | .getFileMetaByOriginalFileId _ _ => Option FileMeta
  | .insertFileMeta _ _ _ _ => FileMeta
  | .markFileMetaDeleted _ => Option FileMeta
  | .getBatchMetaByBatchId _ => Option BatchMeta
  | .insertBatchMeta _ _ _ _ => BatchMeta
  | .updateBatchMetaStatus _ _ => Option BatchMeta
  | .getResponseMetaByResponseId _ => Option ResponseMeta
  | .getResponseIdFromOriginalResponseId _ => Option String
  | .insertResponseMeta _ _ _ => ResponseMeta
  | .markResponseMetaDeleted _ => Option ResponseMeta

/-- The `WHERE` clause of `get_current_subscription`; a comparison with NULL does
not hold. -/
def eligible (now accountId consumedTokens : Int) (s : Subscription) : Bool :=
  s.accountId = accountId ∧ s.status = .active ∧ (∃ start ∈ s.startAt, start ≤ now) ∧
    (∃ stop ∈ s.endAt, now < stop) ∧ s.usedTotalTokens + consumedTokens ≤ s.totalTokenLimit

def currentSubscription (db : Db) (env : Env) (accountId consumedTokens : Int) :
    Option Subscription :=
  Table.topBy Subscription.sortOrder env.pick
    (db.subscriptions.rows.filter (eligible env.now accountId consumedTokens))

/-- `m.upstream_id = e.id` and `e.provider = $1`: an upstream is joined once at most. -/
def belongsTo (db : Db) (provider : String) (m : LLMModel) : Bool :=
  db.upstreams.rows.any (fun u => m.upstreamId = u.id ∧ u.provider = provider)

/-- The four queries of `list_models`. -/
def listedModels (db : Db) (provider : String) (feature : Option String) : List LLMModel :=
  match decide (provider = ""), feature with
  | true, none => db.models.rows
  | true, some feature => db.models.rows.filter (fun m => feature ∈ m.features)
  | false, none => db.models.rows.filter (belongsTo db provider)
  | false, some feature =>
      db.models.rows.filter (fun m => belongsTo db provider m ∧ feature ∈ m.features)

/-- The join of `find_models_by_name_and_capacity`. -/
def candidates (db : Db) (modelName provider feature : String) : List (LLMModel × LLMUpstream) :=
  db.models.rows.flatMap (fun m => (db.upstreams.rows.filter (fun u =>
    m.upstreamId = u.id ∧ m.cname = modelName ∧ u.provider = provider ∧ u.status = "online" ∧
      m.isActive ∧ feature ∈ m.features)).map (fun u => (m, u)))

/-- A model that its upstream offers under a name. -/
structure Offered (db : Db) (modelName provider feature : String) (m : LLMModel) (u : LLMUpstream) : Prop where
  model : m ∈ db.models
  upstream : u ∈ db.upstreams
  belongs : m.upstreamId = u.id
  named : m.cname = modelName
  provider : u.provider = provider
  online : u.status = "online"
  active : m.isActive = true
  capable : feature ∈ m.features

theorem mem_candidates {db : Db} {modelName provider feature : String} :
    (m, u) ∈ candidates db modelName provider feature ↔ Offered db modelName provider feature m u := by
  simp only [candidates, List.mem_flatMap, List.mem_map, List.mem_filter, decide_eq_true_eq]
  constructor
  · rintro ⟨_, model, _, ⟨upstream, belongs, named, provider, online, active, capable⟩, ⟨⟩⟩
    exact ⟨model, upstream, belongs, named, provider, online, active, capable⟩
  · rintro ⟨model, upstream, belongs, named, provider, online, active, capable⟩
    exact ⟨m, model, u, ⟨upstream, belongs, named, provider, online, active, capable⟩, rfl⟩

/-- `INSERT INTO subscriptions (account_id, plan_id)`: every other column takes
the default of the schema. -/
def newSubscription (id accountId planId : Int) (id_pos : 0 < id) : Subscription where
  id := id
  accountId := accountId
  planId := planId
  status := .pending
  startAt := none
  endAt := none
  usedTotalTokens := 0
  totalTokenLimit := 0
  sortOrder := 0
  usedMoney := 0
  id_pos := id_pos

def NewSessionEvent.row (new : NewSessionEvent) (id : Int) : SessionEvent where
  id := id
  sessionId := new.sessionId
  sessionIndex := new.sessionIndex
  accountId := new.accountId
  modelId := new.modelId
  apiKeyId := new.apiKeyId
  inputTokenPrice := new.inputTokenPrice
  inputTokens := new.inputTokens
  outputTokenPrice := new.outputTokenPrice
  outputTokens := new.outputTokens
  eventData := new.eventData

def withBalance (balance : BigDecimal) (w : Wallet) : Wallet := { w with balance := balance }

def applied (subscriptionId : Int) (c : BalanceChange) : BalanceChange :=
  { c with isApplied := true, subscriptionId := subscriptionId }

def withUsage (usedTotalTokens : Int) (usedMoney : BigDecimal) (s : Subscription) : Subscription :=
  { s with usedTotalTokens := usedTotalTokens, usedMoney := usedMoney }

def withStatus (status : SubscriptionStatus) (s : Subscription) : Subscription :=
  { s with status := status }

/-- What one `UPDATE` does to an upstream's row. -/
inductive UpstreamChange where
  | status (value : String)
  | addTag (tag : String)
  | removeTag (tag : String)
  | columns (new : LLMUpstream)

def UpstreamChange.on : UpstreamChange → LLMUpstream → LLMUpstream
  | .status value, u => { u with status := value }
  | .addTag tag, u => { u with tags := if tag ∈ u.tags then u.tags else u.tags ++ [tag] }
  | .removeTag tag, u => { u with tags := u.tags.filter (fun t => t ≠ tag) }
  | .columns new, u => { new with id := u.id }

def deactivated (c : ApiCredential) : ApiCredential := { c with isActive := false }

def deletedFile (f : FileMeta) : FileMeta := { f with deleted := true }

def deletedResponse (r : ResponseMeta) : ResponseMeta := { r with deleted := true }

def withBatchStatus (status : String) (b : BatchMeta) : BatchMeta := { b with status := status }

/-- The `DO UPDATE SET` columns. -/
def overwrite (new : SessionEvent) (old : SessionEvent) : SessionEvent :=
  { old with
    eventData := new.eventData
    inputTokenPrice := new.inputTokenPrice
    inputTokens := new.inputTokens
    outputTokenPrice := new.outputTokenPrice
    outputTokens := new.outputTokens }

theorem withBalance_keeps (balance : BigDecimal) (w : Wallet) :
    key (withBalance balance w) = key w ∧ index (withBalance balance w) = index w := ⟨rfl, rfl⟩

theorem applied_keeps (subscriptionId : Int) (c : BalanceChange) :
    key (applied subscriptionId c) = key c ∧ index (applied subscriptionId c) = index c := ⟨rfl, rfl⟩

theorem withUsage_keeps (tokens : Int) (money : BigDecimal) (s : Subscription) :
    key (withUsage tokens money s) = key s ∧ index (withUsage tokens money s) = index s := ⟨rfl, rfl⟩

theorem withStatus_keeps (status : SubscriptionStatus) (s : Subscription) :
    key (withStatus status s) = key s ∧ index (withStatus status s) = index s := ⟨rfl, rfl⟩

theorem change_keeps (change : UpstreamChange) (u : LLMUpstream) :
    key (change.on u) = key u ∧ index (change.on u) = index u := by
  cases change <;> exact ⟨rfl, rfl⟩

theorem deactivated_keeps (c : ApiCredential) :
    key (deactivated c) = key c ∧ index (deactivated c) = index c := ⟨rfl, rfl⟩

theorem deletedResponse_keeps (r : ResponseMeta) :
    key (deletedResponse r) = key r ∧ index (deletedResponse r) = index r := ⟨rfl, rfl⟩

theorem deletedFile_keeps (f : FileMeta) :
    key (deletedFile f) = key f ∧ index (deletedFile f) = index f := ⟨rfl, rfl⟩

theorem over_keeps (update : UpdateAccount) (a : Account) : key (update.over a) = key a := rfl

theorem withBatchStatus_keeps (status : String) (b : BatchMeta) :
    key (withBatchStatus status b) = key b ∧ index (withBatchStatus status b) = index b := ⟨rfl, rfl⟩

theorem overwrite_keeps (new old : SessionEvent) :
    key (overwrite new old) = key old ∧ index (overwrite new old) = index old := ⟨rfl, rfl⟩

/-- A sequence draws a positive id that no row has. -/
def possible (s : Stmt) (env : Env) (db : Db) : Bool :=
  match s with
  | .insertWallet _ _ => 0 < env.serial ∧ db.wallets.find env.serial = none
  | .insertBalanceChange _ => 0 < env.serial ∧ db.balanceChanges.find env.serial = none
  | .upsertSessionEvent _ => 0 < env.serial ∧ db.sessionEvents.find env.serial = none
  | .insertSubscription _ _ => 0 < env.serial ∧ db.subscriptions.find env.serial = none
  | .insertApiCredential _ _ _ => 0 < env.serial ∧ db.apiCredentials.find env.serial = none
  | .insertFileMeta _ _ _ _ => 0 < env.serial ∧ db.fileMetas.find env.serial = none
  | .insertBatchMeta _ _ _ _ => 0 < env.serial ∧ db.batchMetas.find env.serial = none
  | .insertResponseMeta _ _ _ => 0 < env.serial ∧ db.responseMetas.find env.serial = none
  | _ => true

def exec (s : Stmt) (env : Env) (db : Db) : Option s.Answer :=
  match s with
  | .getAccountById id => some (db.accounts.find id)
  | .updateAccount id update =>
      match db.accounts.find id with
      | none => some none
      | some current =>
          if (db.accounts.lookup (update.over current).name).all (fun a => a.id = id) then
            some (some (update.over current))
          else none
  | .findActiveApiCredentialByApiKeyHash apiKeyHash =>
      some ((db.apiCredentials.lookup apiKeyHash).filter (fun c => c.isActive))
  | .insertApiCredential accountId apiKeyHash label =>
      if db.apiCredentials.lookup apiKeyHash = none then
        some ⟨env.serial, accountId, apiKeyHash, label, true⟩
      else none
  | .deactivateApiCredential apiKeyHash =>
      some ((db.apiCredentials.lookup apiKeyHash).map deactivated)
  | .findAccountWallet accountId => some (db.wallets.lookup accountId)
  | .insertWallet accountId balance =>
      if db.wallets.lookup accountId = none then some ⟨env.serial, accountId, balance⟩ else none
  | .updateWalletBalance id balance =>
      some ((db.wallets.find id).map (withBalance balance))
  | .markBalanceChangeApplied _ _ => some ()
  | .findBalanceChangeForUpdate id => some (db.balanceChanges.find id)
  | .insertBalanceChange new =>
      if (db.balanceChanges.lookup new.uniqueRequestId).isNone then
        some ⟨env.serial, new.accountId, new.uniqueRequestId, new.content, false, 0⟩
      else none
  | .getCurrentSubscription accountId consumedTokens =>
      some (currentSubscription db env accountId consumedTokens)
  | .updateSubscriptionUsage _ _ _ => some ()
  | .getModel id => some (db.models.find id)
  | .upsertSessionEvent new =>
      match db.sessionEvents.lookup (new.sessionId, new.sessionIndex) with
      | some old => some (overwrite (NewSessionEvent.row new old.id) old)
      | none => some (NewSessionEvent.row new env.serial)
  | .getSubscriptionPlanById id => some (db.subscriptionPlans.find id)
  | .insertSubscription accountId planId =>
      if id_pos : 0 < env.serial then some (newSubscription env.serial accountId planId id_pos)
      else none
  | .updateSubscriptionStatus id status =>
      some ((db.subscriptions.find id).map (withStatus status))
  | .listModels provider feature => some (Table.arrange env.pick (listedModels db provider feature))
  | .findModelsByNameAndCapacity modelName provider feature =>
      some (Table.arrange env.pick (candidates db modelName provider feature))
  | .getUpstream id => some (db.upstreams.find id)
  | .markUpstreamOffline _ => some ()
  | .markUpstreamOnline _ => some ()
  | .listOfflineUpstreams =>
      some (Table.arrange env.pick (db.upstreams.rows.filter (fun u => u.status = "offline")))
  | .listUpstreams => some (Table.arrange env.pick db.upstreams.rows)
  | .updateUpstream current update =>
      some ((db.upstreams.find current.id).map (UpstreamChange.columns (update.over current)).on)
  | .addUpstreamTag id tag => some ((db.upstreams.find id).map (UpstreamChange.addTag tag).on)
  | .removeUpstreamTag id tag => some ((db.upstreams.find id).map (UpstreamChange.removeTag tag).on)
  | .getFileMetaByFileId fileId =>
      some ((db.fileMetas.lookup fileId).filter (fun f => !f.deleted))
  | .getFileMetaByOriginalFileId originalFileId upstreamId =>
      some (Table.topBy FileMeta.id env.pick (db.fileMetas.rows.filter (fun f =>
        f.originalFileId = originalFileId ∧ f.upstreamId = upstreamId ∧ f.deleted = false)))
  | .insertFileMeta fileId originalFileId purpose upstreamId =>
      if db.fileMetas.lookup fileId = none then
        some ⟨env.serial, fileId, originalFileId, purpose, upstreamId, false⟩
      else none
  | .markFileMetaDeleted fileId => some ((db.fileMetas.lookup fileId).map deletedFile)
  | .getBatchMetaByBatchId batchId => some (db.batchMetas.lookup batchId)
  | .insertBatchMeta batchId originalBatchId upstreamId provider =>
      if db.batchMetas.lookup batchId = none then
        some ⟨env.serial, batchId, originalBatchId, upstreamId, "pending", provider⟩
      else none
  | .updateBatchMetaStatus batchId status =>
      some ((db.batchMetas.lookup batchId).map (withBatchStatus status))
  | .getResponseMetaByResponseId responseId =>
      some ((db.responseMetas.lookup responseId).filter (fun r => !r.deleted))
  | .getResponseIdFromOriginalResponseId originalResponseId =>
      some (((Table.arrange env.pick db.responseMetas.rows).find? (fun r =>
        r.originalResponseId = originalResponseId ∧ r.deleted = false)).map (·.responseId))
  | .insertResponseMeta responseId originalResponseId upstreamId =>
      if db.responseMetas.lookup responseId = none then
        some ⟨env.serial, responseId, originalResponseId, upstreamId, false⟩
      else none
  | .markResponseMetaDeleted responseId =>
      some ((db.responseMetas.lookup responseId).map deletedResponse)

inductive Write where
  | insertWallet (w : Wallet)
  | setWalletBalance (id : Int) (balance : BigDecimal)
  | insertBalanceChange (c : BalanceChange)
  | markApplied (id subscriptionId : Int)
  | setSubscriptionUsage (id usedTotalTokens : Int) (usedMoney : BigDecimal)
  | insertSubscription (s : Subscription)
  | setSubscriptionStatus (id : Int) (status : SubscriptionStatus)
  | putSessionEvent (e : SessionEvent)
  | setAccount (id : Int) (update : UpdateAccount)
  | insertApiCredential (c : ApiCredential)
  | deactivateApiCredential (id : Int)
  | changeUpstream (id : Int) (change : UpstreamChange)
  | insertFileMeta (f : FileMeta)
  | deleteFile (id : Int)
  | insertBatchMeta (b : BatchMeta)
  | setBatchStatus (id : Int) (status : String)
  | insertResponseMeta (r : ResponseMeta)
  | deleteResponse (id : Int)

def writes (s : Stmt) (answer : s.Answer) : List Write :=
  match s, answer with
  | .insertWallet _ _, w => [.insertWallet w]
  | .updateWalletBalance id balance, some _ => [.setWalletBalance id balance]
  | .markBalanceChangeApplied id subscriptionId, _ => [.markApplied id subscriptionId]
  | .insertBalanceChange _, c => [.insertBalanceChange c]
  | .updateSubscriptionUsage id tokens money, _ => [.setSubscriptionUsage id tokens money]
  | .upsertSessionEvent _, e => [.putSessionEvent e]
  | .insertSubscription _ _, s => [.insertSubscription s]
  | .updateSubscriptionStatus id status, some _ => [.setSubscriptionStatus id status]
  | .updateAccount id update, some _ => [.setAccount id update]
  | .insertApiCredential _ _ _, c => [.insertApiCredential c]
  | .deactivateApiCredential _, some c => [.deactivateApiCredential c.id]
  | .markUpstreamOffline id, _ => [.changeUpstream id (.status "offline")]
  | .markUpstreamOnline id, _ => [.changeUpstream id (.status "online")]
  | .updateUpstream current update, some _ =>
      [.changeUpstream current.id (.columns (update.over current))]
  | .addUpstreamTag id tag, some _ => [.changeUpstream id (.addTag tag)]
  | .removeUpstreamTag id tag, some _ => [.changeUpstream id (.removeTag tag)]
  | .insertFileMeta _ _ _ _, f => [.insertFileMeta f]
  | .markFileMetaDeleted _, some f => [.deleteFile f.id]
  | .insertBatchMeta _ _ _ _, b => [.insertBatchMeta b]
  | .updateBatchMetaStatus _ status, some b => [.setBatchStatus b.id status]
  | .insertResponseMeta _ _ _, r => [.insertResponseMeta r]
  | .markResponseMetaDeleted _, some r => [.deleteResponse r.id]
  | _, _ => []

def apply (w : Write) (db : Db) : Db :=
  match w with
  | .insertWallet w => { db with wallets := db.wallets.insert w }
  | .setWalletBalance id balance =>
      { db with wallets := db.wallets.modify id (withBalance balance) (withBalance_keeps balance) }
  | .insertBalanceChange c => { db with balanceChanges := db.balanceChanges.insert c }
  | .markApplied id subscriptionId =>
      { db with balanceChanges :=
          db.balanceChanges.modify id (applied subscriptionId) (applied_keeps subscriptionId) }
  | .setSubscriptionUsage id tokens money =>
      { db with subscriptions :=
          db.subscriptions.modify id (withUsage tokens money) (withUsage_keeps tokens money) }
  | .insertSubscription s => { db with subscriptions := db.subscriptions.insert s }
  | .setSubscriptionStatus id status =>
      { db with subscriptions := db.subscriptions.modify id (withStatus status) (withStatus_keeps status) }
  | .putSessionEvent e =>
      { db with sessionEvents :=
          if (db.sessionEvents.find e.id).isSome then
            db.sessionEvents.modify e.id (overwrite e) (overwrite_keeps e)
          else db.sessionEvents.insert e }
  | .setAccount id update =>
      { db with accounts := db.accounts.update id update.over (over_keeps update) }
  | .insertApiCredential c => { db with apiCredentials := db.apiCredentials.insert c }
  | .deactivateApiCredential id =>
      { db with apiCredentials := db.apiCredentials.modify id deactivated deactivated_keeps }
  | .changeUpstream id change =>
      { db with upstreams := db.upstreams.modify id change.on (change_keeps change) }
  | .insertFileMeta f => { db with fileMetas := db.fileMetas.insert f }
  | .deleteFile id => { db with fileMetas := db.fileMetas.modify id deletedFile deletedFile_keeps }
  | .insertBatchMeta b => { db with batchMetas := db.batchMetas.insert b }
  | .setBatchStatus id status =>
      { db with batchMetas :=
          db.batchMetas.modify id (withBatchStatus status) (withBatchStatus_keeps status) }
  | .insertResponseMeta r => { db with responseMetas := db.responseMetas.insert r }
  | .deleteResponse id =>
      { db with responseMetas := db.responseMetas.modify id deletedResponse deletedResponse_keeps }

/-- Row locks, and the locks of unique index entries that are being inserted. The
accounts, the keys, the upstreams and the metas are written by statements on the pool
only, which hold no lock once they have returned. -/
inductive Lock where
  | wallet (id : Int)
  | walletOf (accountId : Int)
  | balanceChange (id : Int)
  | request (uniqueRequestId : String)
  | subscription (id : Int)
  | sessionEvent (id : Int)
  | sessionIndex (sessionId : String) (sessionIndex : Int)
  deriving DecidableEq

/-- `FOR UPDATE` and `UPDATE` lock the rows they find; `INSERT` locks the new row
and its unique index entry. -/
def locks (s : Stmt) (answer : s.Answer) : List Lock :=
  match s, answer with
  | .insertWallet _ _, w => [.wallet w.id, .walletOf w.accountId]
  | .updateWalletBalance id _, some _ => [.wallet id]
  | .markBalanceChangeApplied id _, _ => [.balanceChange id]
  | .findBalanceChangeForUpdate id, some _ => [.balanceChange id]
  | .insertBalanceChange _, c => [.balanceChange c.id, .request c.uniqueRequestId]
  | .updateSubscriptionUsage id _ _, _ => [.subscription id]
  | .upsertSessionEvent _, e => [.sessionEvent e.id, .sessionIndex e.sessionId e.sessionIndex]
  | .insertSubscription _ _, s => [.subscription s.id]
  | .updateSubscriptionStatus id _, some _ => [.subscription id]
  | _, _ => []

def touches : Write → List Lock
  | .insertWallet w => [.wallet w.id, .walletOf w.accountId]
  | .setWalletBalance id _ => [.wallet id]
  | .insertBalanceChange c => [.balanceChange c.id, .request c.uniqueRequestId]
  | .markApplied id _ => [.balanceChange id]
  | .setSubscriptionUsage id _ _ => [.subscription id]
  | .insertSubscription s => [.subscription s.id]
  | .setSubscriptionStatus id _ => [.subscription id]
  | .putSessionEvent e => [.sessionEvent e.id, .sessionIndex e.sessionId e.sessionIndex]
  | _ => []

/-- A row lock guards the row; an index lock guards whether the entry is there. -/
def same (l : Lock) (db db' : Db) : Prop :=
  match l with
  | .wallet id => db.wallets.find id = db'.wallets.find id
  | .walletOf accountId =>
      (db.wallets.lookup accountId).isSome = (db'.wallets.lookup accountId).isSome
  | .balanceChange id => db.balanceChanges.find id = db'.balanceChanges.find id
  | .request id =>
      (db.balanceChanges.lookup id).isSome = (db'.balanceChanges.lookup id).isSome
  | .subscription id => db.subscriptions.find id = db'.subscriptions.find id
  | .sessionEvent id => db.sessionEvents.find id = db'.sessionEvents.find id
  | .sessionIndex id index =>
      (db.sessionEvents.lookup (id, index)).isSome = (db'.sessionEvents.lookup (id, index)).isSome

theorem covered (s : Stmt) (answer : s.Answer) :
    ∀ w ∈ writes s answer, ∀ l ∈ touches w, l ∈ locks s answer := by
  intro w member l touched
  cases s
  case updateWalletBalance | updateSubscriptionStatus =>
    cases answer with
    | none => cases member
    | some _ =>
        obtain rfl := List.mem_singleton.mp member
        exact touched
  case insertWallet | markBalanceChangeApplied | insertBalanceChange | updateSubscriptionUsage
      | upsertSessionEvent | insertSubscription =>
    obtain rfl := List.mem_singleton.mp member
    exact touched
  case updateBatchMetaStatus | updateAccount | deactivateApiCredential | updateUpstream
      | addUpstreamTag | removeUpstreamTag | markFileMetaDeleted | markResponseMetaDeleted =>
    cases answer with
    | none => cases member
    | some _ =>
        obtain rfl := List.mem_singleton.mp member
        cases touched
  case markUpstreamOffline | markUpstreamOnline | insertApiCredential | insertFileMeta
      | insertBatchMeta | insertResponseMeta =>
    obtain rfl := List.mem_singleton.mp member
    cases touched
  all_goals cases member

theorem apply_same (w : Write) (l : Lock) (db : Db) (apart : l ∉ touches w) :
    same l db (apply w db) := by
  cases w <;> simp only [touches, List.mem_cons, List.not_mem_nil, or_false, not_or] at apart
  case insertWallet w =>
    cases l with
    | wallet id =>
        exact (Table.find_insert_ne _ (fun at_id => apart.1 (congrArg Lock.wallet at_id.symm))).symm
    | walletOf id =>
        exact congrArg Option.isSome
          (Table.lookup_insert_ne _ (fun at_id => apart.2 (congrArg Lock.walletOf at_id.symm))).symm
    | _ => rfl
  case setWalletBalance id balance =>
    cases l with
    | wallet j =>
        simp only [same, apply]
        exact (Table.find_modify_ne _ (fun at_id => apart (congrArg Lock.wallet at_id))).symm
    | walletOf id => simp only [same, apply, Table.lookup_modify, Option.isSome_map]
    | _ => rfl
  case insertBalanceChange c =>
    cases l with
    | balanceChange id =>
        exact (Table.find_insert_ne _
          (fun at_id => apart.1 (congrArg Lock.balanceChange at_id.symm))).symm
    | request id =>
        exact congrArg Option.isSome
          (Table.lookup_insert_ne _ (fun at_id => apart.2 (congrArg Lock.request at_id.symm))).symm
    | _ => rfl
  case markApplied id subscriptionId =>
    cases l with
    | balanceChange j =>
        simp only [same, apply]
        exact (Table.find_modify_ne _ (fun at_id => apart (congrArg Lock.balanceChange at_id))).symm
    | request id => simp only [same, apply, Table.lookup_modify, Option.isSome_map]
    | _ => rfl
  case setSubscriptionUsage | setSubscriptionStatus =>
    cases l with
    | subscription j =>
        simp only [same, apply]
        exact (Table.find_modify_ne _ (fun at_id => apart (congrArg Lock.subscription at_id))).symm
    | _ => rfl
  case insertSubscription s =>
    cases l with
    | subscription id =>
        exact (Table.find_insert_ne _
          (fun at_id => apart (congrArg Lock.subscription at_id.symm))).symm
    | _ => rfl
  case putSessionEvent e =>
    cases l with
    | sessionEvent id =>
        simp only [same, apply]
        split
        · exact (Table.find_modify_ne _
            (fun at_id => apart.1 (congrArg Lock.sessionEvent at_id))).symm
        · exact (Table.find_insert_ne _
            (fun at_id => apart.1 (congrArg Lock.sessionEvent at_id.symm))).symm
    | sessionIndex id number =>
        simp only [same, apply]
        split
        · simp only [Table.lookup_modify, Option.isSome_map]
        · refine congrArg Option.isSome (Table.lookup_insert_ne _ (fun at_id => apart.2 ?_)).symm
          simp only [index, Prod.mk.injEq] at at_id
          rw [at_id.1, at_id.2]
    | _ => rfl
  all_goals cases l <;> rfl

/-- Everything that the pool keeps outside the database: the task queues, the
Redis keys, and the spawned tasks that mark upstreams offline or check their health. -/
structure World where
  queue : List BalanceChangeTask
  inflight : List BalanceChangeTask
  walletInfo : Int → Option Wallet
  tokenUsage : List (Int × Int × Int × Int)
  events : List (EventTask EventData)
  spawned : List Int
  apiKeyInfo : String → Option ApiKeyInfo
  checks : List LLMUpstream

def World.empty : World := ⟨[], [], fun _ => none, [], [], [], fun _ => none, []⟩

/-- The task queues, the Redis keys and the upstreams. A worker fetches a queued
balance change, and the queue drops it when its handler has returned. An event is
kept, and may be delivered again, until it is acknowledged. `nextRun` is the handler
behind the middleware; nothing ever fills the account cache that `deleteAccountInfo`
deletes from. -/
inductive Remote where
  | pushBalanceChange (task : BalanceChangeTask)
  | fetchBalanceChange
  | ackBalanceChange (task : BalanceChangeTask)
  | setWalletInfo (accountId : Int) (info : Wallet)
  | incrementTokenUsage (modelId inputTokens outputTokens : Int)
  | pushEvent (event : EventTask EventData)
  | fetchEvent
  | ackEvent (event : EventTask EventData)
  | getWalletInfo (accountId : Int)
  | getOutputTokenUsage (modelIds : List Int)
  | upstream (upstream : LLMUpstream) (call : UpstreamCall)
  | spawnMarkOffline (upstreamId : Int)
  | fetchSpawned
  | getApiKeyInfo (apiKeyHash : String)
  | setApiKeyInfo (apiKeyHash : String) (info : ApiKeyInfo)
  | deleteApiKeyInfo (apiKeyHash : String)
  | deleteAccountInfo (accountId : Int)
  | spawnHealthCheck (upstream : LLMUpstream)
  | fetchHealthCheck
  | nextRun (accountId apiKeyId : Int)

@[reducible] def Remote.Reply : Remote → Type
  | .fetchBalanceChange => Option BalanceChangeTask
  | .fetchEvent => Option (EventTask EventData)
  | .getWalletInfo _ => Option Wallet
  | .getOutputTokenUsage _ => List (Option Int)
  | .upstream _ call => Except ClientError call.Answer
  | .fetchSpawned => Option Int
  | .getApiKeyInfo _ => Option ApiKeyInfo
  | .fetchHealthCheck => Option LLMUpstream
  | _ => Unit

/-- The counter of a model's output tokens in the hour of `now`; a key is created by
its first positive increment. -/
def outputUsage (world : World) (now modelId : Int) : Option Int :=
  let added := world.tokenUsage.filter (fun (moment, id, _, outputTokens) =>
    moment / 3600 = now / 3600 ∧ id = modelId ∧ 0 < outputTokens)
  if added = [] then none else some (added.map (fun (_, _, _, outputTokens) => outputTokens)).sum

/-- `get` on a slice of keys: `GET` for one key, whose nil reply decodes to an empty
list, and `MGET` for more. -/
def redisGet (counter : Int → Option Int) : List Int → List (Option Int)
  | [id] => (counter id).toList.map some
  | ids => ids.map counter

def remote (c : Remote) (env : Env) (world : World) : c.Reply × World :=
  match c with
  | .pushBalanceChange task => ((), { world with queue := world.queue ++ [task] })
  | .fetchBalanceChange =>
      match world.queue[env.pick % world.queue.length]? with
      | none => (none, world)
      | some task =>
          (some task, { world with
            queue := world.queue.eraseIdx (env.pick % world.queue.length)
            inflight := task :: world.inflight })
  | .ackBalanceChange task => ((), { world with inflight := world.inflight.erase task })
  | .setWalletInfo accountId info =>
      ((), { world with walletInfo := Function.update world.walletInfo accountId (some info) })
  | .incrementTokenUsage modelId inputTokens outputTokens =>
      ((), { world with
        tokenUsage := (env.now, modelId, inputTokens, outputTokens) :: world.tokenUsage })
  | .pushEvent event => ((), { world with events := world.events ++ [event] })
  | .fetchEvent => (world.events[env.pick % world.events.length]?, world)
  | .ackEvent event => ((), { world with events := world.events.erase event })
  | .getWalletInfo accountId =>
      if env.expired then
        (none, { world with walletInfo := Function.update world.walletInfo accountId none })
      else (world.walletInfo accountId, world)
  | .getOutputTokenUsage modelIds => (redisGet (outputUsage world env.now) modelIds, world)
  | .upstream _ call => (env.answers call, world)
  | .spawnMarkOffline upstreamId => ((), { world with spawned := upstreamId :: world.spawned })
  | .fetchSpawned =>
      match world.spawned[env.pick % world.spawned.length]? with
      | none => (none, world)
      | some upstreamId => (some upstreamId, { world with spawned := world.spawned.erase upstreamId })
  | .getApiKeyInfo apiKeyHash =>
      if env.expired then
        (none, { world with apiKeyInfo := Function.update world.apiKeyInfo apiKeyHash none })
      else (world.apiKeyInfo apiKeyHash, world)
  | .setApiKeyInfo apiKeyHash info =>
      ((), { world with apiKeyInfo := Function.update world.apiKeyInfo apiKeyHash (some info) })
  | .deleteApiKeyInfo apiKeyHash =>
      ((), { world with apiKeyInfo := Function.update world.apiKeyInfo apiKeyHash none })
  | .deleteAccountInfo _ => ((), world)
  | .spawnHealthCheck upstream => ((), { world with checks := upstream :: world.checks })
  | .fetchHealthCheck =>
      match world.checks[env.pick % world.checks.length]? with
      | none => (none, world)
      | some upstream => (some upstream, { world with checks := world.checks.erase upstream })
  | .nextRun _ _ => ((), world)

@[reducible] def engine : Transactions.Engine where
  Db := Db
  World := World
  Env := Env
  Stmt := Stmt
  Answer := Stmt.Answer
  Write := Write
  Lock := Lock
  Remote := Remote
  Reply := Remote.Reply
  possible := possible
  exec := exec
  writes := writes
  locks := locks
  apply := apply
  touches := touches
  remote := remote
  same := same
  same_refl l db := by cases l <;> rfl
  same_trans l _ _ _ first second := by cases l <;> exact Eq.trans first second
  covered := covered
  apply_same := apply_same

abbrev Action := Transactions.Prog engine

/-- Turns at a clock that stands still, each with a serial id of its own. -/
def schedule (turns : List ι) : List (ι × Transactions.Turn engine) :=
  turns.zipIdx.map (fun (i, n) => (i, .run (.plain 0 (n + 1))))

end LLMPool
