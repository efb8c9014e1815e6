import LLMPool.Database

/-! No statement of the pool deletes a row of the billing tables, takes an
applied mark back, or moves a row to another owner. -/
namespace LLMPool
open Relational Transactions

/-- What every later version of a balance change has in common with it. -/
structure SameChange (c c' : BalanceChange) : Prop where
  accountId : c'.accountId = c.accountId
  uniqueRequestId : c'.uniqueRequestId = c.uniqueRequestId
  content : c'.content = c.content
  applied : c.isApplied = true → c'.isApplied = true

structure SameWallet (w w' : Wallet) : Prop where
  accountId : w'.accountId = w.accountId

structure SameSubscription (s s' : Subscription) : Prop where
  accountId : s'.accountId = s.accountId
  totalTokenLimit : s'.totalTokenLimit = s.totalTokenLimit
  startAt : s'.startAt = s.startAt

structure SameEvent (e e' : SessionEvent) : Prop where
  sessionId : e'.sessionId = e.sessionId
  sessionIndex : e'.sessionIndex = e.sessionIndex
  accountId : e'.accountId = e.accountId

/-- A row of a stored object keeps both ids and the upstream; it may be marked as deleted. -/
structure SameFile (f f' : FileMeta) : Prop where
  fileId : f'.fileId = f.fileId
  originalFileId : f'.originalFileId = f.originalFileId
  upstreamId : f'.upstreamId = f.upstreamId

structure SameBatch (b b' : BatchMeta) : Prop where
  batchId : b'.batchId = b.batchId
  originalBatchId : b'.originalBatchId = b.originalBatchId
  upstreamId : b'.upstreamId = b.upstreamId

structure SameResponse (r r' : ResponseMeta) : Prop where
  responseId : r'.responseId = r.responseId
  originalResponseId : r'.originalResponseId = r.originalResponseId
  upstreamId : r'.upstreamId = r.upstreamId

theorem SameChange.refl (c : BalanceChange) : SameChange c c := ⟨rfl, rfl, rfl, id⟩

theorem SameChange.trans (first : SameChange a b) (second : SameChange b c) : SameChange a c where
  accountId := second.accountId.trans first.accountId
  uniqueRequestId := second.uniqueRequestId.trans first.uniqueRequestId
  content := second.content.trans first.content
  applied := second.applied ∘ first.applied

theorem SameWallet.trans (first : SameWallet a b) (second : SameWallet b c) : SameWallet a c :=
  ⟨second.accountId.trans first.accountId⟩

theorem SameSubscription.trans (first : SameSubscription a b) (second : SameSubscription b c) :
    SameSubscription a c where
  accountId := second.accountId.trans first.accountId
  totalTokenLimit := second.totalTokenLimit.trans first.totalTokenLimit
  startAt := second.startAt.trans first.startAt

theorem SameEvent.trans (first : SameEvent a b) (second : SameEvent b c) : SameEvent a c where
  sessionId := second.sessionId.trans first.sessionId
  sessionIndex := second.sessionIndex.trans first.sessionIndex
  accountId := second.accountId.trans first.accountId

theorem SameFile.trans (first : SameFile a b) (second : SameFile b c) : SameFile a c where
  fileId := second.fileId.trans first.fileId
  originalFileId := second.originalFileId.trans first.originalFileId
  upstreamId := second.upstreamId.trans first.upstreamId

theorem SameBatch.trans (first : SameBatch a b) (second : SameBatch b c) : SameBatch a c where
  batchId := second.batchId.trans first.batchId
  originalBatchId := second.originalBatchId.trans first.originalBatchId
  upstreamId := second.upstreamId.trans first.upstreamId

theorem SameResponse.trans (first : SameResponse a b) (second : SameResponse b c) :
    SameResponse a c where
  responseId := second.responseId.trans first.responseId
  originalResponseId := second.originalResponseId.trans first.originalResponseId
  upstreamId := second.upstreamId.trans first.upstreamId

/-- Every row of the billing tables and of the stored objects is still there, and the models are the same. -/
structure Grows (db db' : Db) : Prop where
  wallets : db.wallets.Persists SameWallet db'.wallets
  balanceChanges : db.balanceChanges.Persists SameChange db'.balanceChanges
  subscriptions : db.subscriptions.Persists SameSubscription db'.subscriptions
  sessionEvents : db.sessionEvents.Persists SameEvent db'.sessionEvents
  models : db'.models = db.models
  fileMetas : db.fileMetas.Persists SameFile db'.fileMetas
  batchMetas : db.batchMetas.Persists SameBatch db'.batchMetas
  responseMetas : db.responseMetas.Persists SameResponse db'.responseMetas

theorem Grows.refl (db : Db) : Grows db db where
  wallets := .refl (fun _ => ⟨rfl⟩) _
  balanceChanges := .refl .refl _
  subscriptions := .refl (fun _ => ⟨rfl, rfl, rfl⟩) _
  sessionEvents := .refl (fun _ => ⟨rfl, rfl, rfl⟩) _
  models := rfl
  fileMetas := .refl (fun _ => ⟨rfl, rfl, rfl⟩) _
  batchMetas := .refl (fun _ => ⟨rfl, rfl, rfl⟩) _
  responseMetas := .refl (fun _ => ⟨rfl, rfl, rfl⟩) _

theorem Grows.trans (first : Grows db db') (second : Grows db' db'') : Grows db db'' where
  wallets := .trans .trans first.wallets second.wallets
  balanceChanges := .trans .trans first.balanceChanges second.balanceChanges
  subscriptions := .trans .trans first.subscriptions second.subscriptions
  sessionEvents := .trans .trans first.sessionEvents second.sessionEvents
  models := second.models.trans first.models
  fileMetas := .trans .trans first.fileMetas second.fileMetas
  batchMetas := .trans .trans first.batchMetas second.batchMetas
  responseMetas := .trans .trans first.responseMetas second.responseMetas

/-- Every write only adds rows or changes the columns that may change. -/
theorem grows_apply (w : Write) (db : Db) : Grows db (apply w db) := by
  have same := Grows.refl db
  cases w with
  | insertWallet w => exact { same with wallets := .insert (fun _ => ⟨rfl⟩) _ w }
  | setWalletBalance id balance =>
      exact { same with
        wallets := .modify (withBalance_keeps balance) (fun _ => ⟨rfl⟩) (fun _ => ⟨rfl⟩) _ id }
  | insertBalanceChange c => exact { same with balanceChanges := .insert .refl _ c }
  | markApplied id subscriptionId =>
      exact { same with
        balanceChanges := .modify (applied_keeps subscriptionId) .refl
          (fun _ => ⟨rfl, rfl, rfl, fun _ => rfl⟩) _ id }
  | setSubscriptionUsage id tokens money =>
      exact { same with
        subscriptions := .modify (withUsage_keeps tokens money) (fun _ => ⟨rfl, rfl, rfl⟩)
          (fun _ => ⟨rfl, rfl, rfl⟩) _ id }
  | insertSubscription s =>
      exact { same with subscriptions := .insert (fun _ => ⟨rfl, rfl, rfl⟩) _ s }
  | setSubscriptionStatus id status =>
      exact { same with
        subscriptions := .modify (withStatus_keeps status) (fun _ => ⟨rfl, rfl, rfl⟩)
          (fun _ => ⟨rfl, rfl, rfl⟩) _ id }
  | putSessionEvent e =>
      refine { same with sessionEvents := ?_ }
      simp only [apply]
      split
      · exact .modify (overwrite_keeps e) (fun _ => ⟨rfl, rfl, rfl⟩) (fun _ => ⟨rfl, rfl, rfl⟩) _ e.id
      · exact .insert (fun _ => ⟨rfl, rfl, rfl⟩) _ e
  | setAccount | insertApiCredential | deactivateApiCredential | changeUpstream =>
      exact { same with }
  | insertFileMeta f =>
      exact { same with fileMetas := .insert (fun _ => ⟨rfl, rfl, rfl⟩) _ f }
  | deleteFile id =>
      exact { same with
        fileMetas := .modify deletedFile_keeps (fun _ => ⟨rfl, rfl, rfl⟩) (fun _ => ⟨rfl, rfl, rfl⟩) _ id }
  | insertBatchMeta b =>
      exact { same with batchMetas := .insert (fun _ => ⟨rfl, rfl, rfl⟩) _ b }
  | setBatchStatus id status =>
      exact { same with
        batchMetas := .modify (withBatchStatus_keeps status) (fun _ => ⟨rfl, rfl, rfl⟩)
          (fun _ => ⟨rfl, rfl, rfl⟩) _ id }
  | insertResponseMeta r =>
      exact { same with responseMetas := .insert (fun _ => ⟨rfl, rfl, rfl⟩) _ r }
  | deleteResponse id =>
      exact { same with
        responseMetas := .modify deletedResponse_keeps (fun _ => ⟨rfl, rfl, rfl⟩)
          (fun _ => ⟨rfl, rfl, rfl⟩) _ id }

theorem grows_applyAll (writes : List Write) (db : Db) : Grows db (engine.applyAll writes db) := by
  induction writes generalizing db with
  | nil => exact .refl db
  | cons w ws ih => exact (grows_apply w db).trans (ih (apply w db))

theorem Step.grows {ι : Type} [DecidableEq ι] {D : Discipline engine} {s s' : State engine ι} {i : ι}
    {ws : List Write} (stepped : Step D s i ws s') : Grows s.db s'.db :=
  stepped.db ▸ grows_applyAll ws s.db

theorem Reaches.grows {ι : Type} [DecidableEq ι] {D : Discipline engine} {s s' : State engine ι}
    {history : History engine ι}
    (reached : Reaches D s history s') : Grows s.db s'.db := by
  induction reached with
  | start => exact .refl s.db
  | step _ stepped ih => exact ih.trans (Step.grows stepped)

section Stored
variable {ι : Type} [DecidableEq ι] {D : Discipline engine} {program : ι → Prog engine Unit} {db : Db}
  {world : World} {history : History engine ι} {s : State engine ι} {i : ι}

/-- A response that was stored is found with what was stored of it. -/
theorem Reaches.stored_response {responseId originalResponseId : String} {upstreamId : Int} {row : ResponseMeta}
    (reached : Reaches D (.starting db world program) history s)
    (stores : (⟨.auto (.insertResponseMeta responseId originalResponseId upstreamId), .ok row⟩ : Call engine) ∈
      (s.procs i).calls) :
    ∃ r, s.db.responseMetas.lookup responseId = some r ∧ r.originalResponseId = originalResponseId ∧
      r.upstreamId = upstreamId := by
  obtain ⟨middle, after, later, env, drawn, executed, rows, rest⟩ := reached.stored stores
  simp only [engine, exec] at executed
  split at executed
  · rename_i unused
    cases executed
    simp only [engine, possible, decide_eq_true_eq] at drawn
    have found := Table.lookup_insert_self (t := middle.db.responseMetas)
      (r := ⟨env.serial, responseId, originalResponseId, upstreamId, false⟩) ⟨drawn.2, unused⟩
    have inserted : after.db.responseMetas.lookup responseId =
        some ⟨env.serial, responseId, originalResponseId, upstreamId, false⟩ := by
      rw [rows]
      exact found
    obtain ⟨r, lookup, same⟩ := (Reaches.grows rest).responseMetas.lookup (fun same => same.responseId) inserted
    exact ⟨r, lookup, same.originalResponseId, same.upstreamId⟩
  · cases executed

/-- A response that was read keeps its upstream and the upstream's id. -/
theorem Reaches.read_response {responseId : String} {row : ResponseMeta}
    (reached : Reaches D (.starting db world program) history s)
    (reads : (⟨.auto (.getResponseMetaByResponseId responseId), .ok (some row)⟩ : Call engine) ∈
      (s.procs i).calls) :
    ∃ r, s.db.responseMetas.lookup responseId = some r ∧ SameResponse row r := by
  obtain ⟨_, middle, _, env, _, _, second, _, executed⟩ := reached.asked reads
  have live : (middle.db.responseMetas.lookup responseId).filter (fun r => !r.deleted) = some row :=
    Option.some.inj executed
  exact (Reaches.grows second).responseMetas.lookup (fun same => same.responseId)
    (Option.filter_eq_some_iff.mp live).1

/-- An upstream that is found by an id has it. -/
theorem Reaches.found_upstream {upstreamId : Int} {u : LLMUpstream}
    (reached : Reaches D (.starting db world program) history s)
    (finds : (⟨.auto (.getUpstream upstreamId), .ok (some u)⟩ : Call engine) ∈ (s.procs i).calls) :
    u.id = upstreamId := by
  obtain ⟨_, _, _, _, _, _, _, _, executed⟩ := reached.asked finds
  exact (Table.find_iff.mp (Option.some.inj executed)).2

end Stored

theorem exec_insert {env : Env} {new : NewBalanceChange} {c : BalanceChange}
    (drawn : possible (.insertBalanceChange new) env db = true)
    (executed : exec (.insertBalanceChange new) env db = some c) : db.balanceChanges.free c := by
  simp only [exec] at executed
  split at executed
  · rename_i absent
    cases executed
    simp only [possible, decide_eq_true_eq] at drawn
    exact ⟨drawn.2, Option.isNone_iff_eq_none.mp absent⟩
  · cases executed

theorem insert_content {env : Env} {new : NewBalanceChange} {c : BalanceChange}
    (executed : exec (.insertBalanceChange new) env db = some c) : c.content = new.content := by
  simp only [exec] at executed
  split at executed <;> cases executed
  rfl

/-- What any program on these statements may do to the rows. -/
def growth : Rely engine := ⟨Grows, Grows.refl, Grows.trans⟩

end LLMPool
