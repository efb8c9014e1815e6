import LLMPool.Auth.Revocation
import LLMPool.Transactions.Earlier

/-! Where the identity of an authenticated request comes from. The cache of API keys may be
stale, but whatever interleaves, an entry names the key and the account that the hash stands for,
and both were active at some time. -/
namespace LLMPool
open Transactions

/-- Calls that leave the ledger, the queues, the caches, the upstreams and their objects to others, and
open no transaction. -/
def plain : Op engine → Bool
  | .remote (.setApiKeyInfo _ _) | .remote (.setWalletInfo _ _) => false
  | .remote (.upstream _ _) | .remote (.spawnMarkOffline _) | .remote (.spawnHealthCheck _) => false
  | .remote (.pushEvent _) => false
  | .remote (.pushBalanceChange _) | .remote (.ackBalanceChange _) | .remote (.ackEvent _) => false
  | .remote _ => true
  | .auto (.insertBalanceChange _) | .auto (.findBalanceChangeForUpdate _) => false
  | .auto (.markBalanceChangeApplied _ _) | .auto (.updateSubscriptionUsage _ _ _) => false
  | .auto (.insertWallet _ _) | .auto (.updateWalletBalance _ _) | .auto (.upsertSessionEvent _) => false
  | .auto (.markUpstreamOffline _) | .auto (.markUpstreamOnline _) | .auto (.updateUpstream _ _) => false
  | .auto (.insertFileMeta _ _ _ _) | .auto (.insertBatchMeta _ _ _ _) | .auto (.insertResponseMeta _ _ _) => false
  | .auto _ => true
  | _ => false

abbrev Plain (op : Op engine) : Prop := plain op = true

end LLMPool

namespace LLMPool.Auth
open Relational Transactions Middlewares

/-- The entry that is cached for a key. -/
def cacheEntry (apiKeyHash : String) (accessKey : ApiCredential) (account : Account) : ApiKeyInfo where
  id := accessKey.id
  accountId := accessKey.accountId
  apiKeyHash := apiKeyHash
  label := accessKey.label
  isActive := accessKey.isActive
  accountIsActive := account.isActive

/-- The rows of an active key and of its account have been read. -/
structure Found (apiKeyHash : String) (accessKey : ApiCredential) (account : Account)
    (calls : List (Call engine)) : Prop where
  key : (⟨.auto (.findActiveApiCredentialByApiKeyHash apiKeyHash), .ok (some accessKey)⟩ : Call engine) ∈ calls
  owner : accessKey.accountId = some account.id
  account : (⟨.auto (.getAccountById account.id), .ok (some account)⟩ : Call engine) ∈ calls

/-- A key has been inserted for an account whose row has been read. -/
structure Created (apiKeyHash : String) (accessKey : ApiCredential) (account : Account)
    (calls : List (Call engine)) : Prop where
  key : ∃ label, (⟨.auto (.insertApiCredential (some account.id) apiKeyHash label), .ok accessKey⟩ :
    Call engine) ∈ calls
  account : (⟨.auto (.getAccountById account.id), .ok (some account)⟩ : Call engine) ∈ calls

/-- The cache or the rows have told the ids that a request is passed on with. -/
def Admitted (apiKeyHash : String) (accountId apiKeyId : Int) (calls : List (Call engine)) : Prop :=
  (∃ info, (⟨.remote (.getApiKeyInfo apiKeyHash), .ok (some info)⟩ : Call engine) ∈ calls ∧
    info.accountId = some accountId ∧ info.id = apiKeyId ∧ info.accountIsActive = true) ∨
  ∃ accessKey account, Found apiKeyHash accessKey account calls ∧ account.isActive = true ∧
    account.id = accountId ∧ accessKey.id = apiKeyId

/-- What is written to the cache of keys comes from the rows. -/
def Sourced (calls : List (Call engine)) : Op engine → Prop
  | .remote (.setApiKeyInfo apiKeyHash info) => ∃ accessKey account,
      (Found apiKeyHash accessKey account calls ∨ Created apiKeyHash accessKey account calls) ∧
        info = cacheEntry apiKeyHash accessKey account
  | _ => True

/-- The calls of the middleware itself, and of the endpoint that creates a key. -/
def Looks (calls : List (Call engine)) : Op engine → Prop
  | .remote (.setApiKeyInfo apiKeyHash info) => Sourced calls (.remote (.setApiKeyInfo apiKeyHash info))
  | .remote (.getApiKeyInfo _) => True
  | .auto (.findActiveApiCredentialByApiKeyHash _) | .auto (.getAccountById _) => True
  | .auto (.insertApiCredential _ _ _) => True
  | _ => False

section Paths
variable {P : List (Call engine) → Op engine → Prop} {I : List (Call engine) → Prop}
  {next : Int → Int → Action α} {apiKeyHash : String} {calls later : List (Call engine)}

theorem Admitted.mono (admitted : Admitted apiKeyHash accountId apiKeyId calls) (inside : calls ⊆ later) :
    Admitted apiKeyHash accountId apiKeyId later := by
  rcases admitted with ⟨info, cached, told⟩ | ⟨accessKey, account, found, told⟩
  · exact .inl ⟨info, inside cached, told⟩
  · exact .inr ⟨accessKey, account, ⟨inside found.key, found.owner, inside found.account⟩, told⟩

theorem path_passCached {info : ApiKeyInfo} (start : I calls)
    (cached : (⟨.remote (.getApiKeyInfo apiKeyHash), .ok (some info)⟩ : Call engine) ∈ calls)
    (passed : ∀ later accountId apiKeyId, I later → Admitted apiKeyHash accountId apiKeyId later →
      (next accountId apiKeyId).path P (fun _ _ => True) later) :
    (passCached apiKeyHash next info).path P (fun _ _ => True) calls := by
  unfold passCached
  split
  · trivial
  split
  · trivial
  · rename_i accountId owner
    split
    · trivial
    · rename_i active
      exact path_bind.mpr (path_mono (fun _ _ made => made) (fun _ _ _ => trivial)
        (passed _ accountId info.id start (.inl ⟨info, cached, owner, rfl, Bool.eq_true_of_not_eq_false active⟩)))

theorem path_passActive {accessKey : ApiCredential} {account : Account} (start : I calls)
    (found : Found apiKeyHash accessKey account calls)
    (own : ∀ later op, I later → Looks later op → P later op ∧ ∀ reply, I (⟨op, reply⟩ :: later))
    (passed : ∀ later accountId apiKeyId, I later → Admitted apiKeyHash accountId apiKeyId later →
      (next accountId apiKeyId).path P (fun _ _ => True) later) :
    (passActive apiKeyHash next accessKey account).path P (fun _ _ => True) calls := by
  unfold passActive
  split
  · trivial
  · rename_i active
    obtain ⟨made, later⟩ := own _ (.remote (.setApiKeyInfo apiKeyHash _)) start ⟨accessKey, account, .inl found, rfl⟩
    refine path_bind.mpr (path_op made (fun reply _ => ?_))
    refine path_bind.mpr (path_mono (fun _ _ made => made) (fun _ _ _ => trivial)
      (passed _ account.id accessKey.id (later reply) ?_))
    refine .inr ⟨accessKey, account, ⟨?_, found.owner, ?_⟩, Bool.eq_true_of_not_eq_false active, rfl, rfl⟩
    · exact List.mem_cons_of_mem _ found.key
    · exact List.mem_cons_of_mem _ found.account

theorem path_lookUpCredential (start : I calls)
    (own : ∀ later op, I later → Looks later op → P later op ∧ ∀ reply, I (⟨op, reply⟩ :: later))
    (passed : ∀ later accountId apiKeyId, I later → Admitted apiKeyHash accountId apiKeyId later →
      (next accountId apiKeyId).path P (fun _ _ => True) later) :
    (lookUpCredential apiKeyHash next).path P (fun _ _ => True) calls := by
  unfold lookUpCredential
  obtain ⟨asks, asked⟩ := own _ (.auto (.findActiveApiCredentialByApiKeyHash apiKeyHash)) start trivial
  refine path_bind.mpr (path_queryAuto asks ?_ (fun _ => trivial))
  rintro (_ | accessKey) _
  · trivial
  dsimp only
  split
  · trivial
  rename_i accountId owner
  obtain ⟨reads, read⟩ := own _ (.auto (.getAccountById accountId)) (asked (.ok (some accessKey))) trivial
  refine path_bind.mpr (path_queryAuto reads ?_ (fun _ => trivial))
  rintro (_ | account) ⟨env, db, executed⟩
  · trivial
  obtain rfl : account.id = accountId := (Table.find_iff.mp (Option.some.inj executed)).2
  refine path_passActive (read _) ⟨?_, owner, List.mem_cons_self⟩ own passed
  exact List.mem_cons_of_mem _ List.mem_cons_self

/-- A request that is passed on was admitted by the cache or by the rows, after the middleware's own calls. -/
theorem path_authenticate (start : I calls)
    (own : ∀ later op, I later → Looks later op → P later op ∧ ∀ reply, I (⟨op, reply⟩ :: later))
    (passed : ∀ later accountId apiKeyId, I later → Admitted apiKeyHash accountId apiKeyId later →
      (next accountId apiKeyId).path P (fun _ _ => True) later) :
    (authenticate apiKeyHash next).path P (fun _ _ => True) calls := by
  unfold authenticate
  obtain ⟨asks, asked⟩ := own _ (.remote (.getApiKeyInfo apiKeyHash)) start trivial
  refine path_bind.mpr (path_op asks ?_)
  rintro (reason | _ | info) _
  · exact path_lookUpCredential (asked _) own passed
  · exact path_lookUpCredential (asked _) own passed
  · exact path_passCached (asked _) List.mem_cons_self passed

end Paths

section Requests
variable {hashToken : String → String} {calls : List (Call engine)}

theorem Plain.sourced {op : Op engine} (plain : Plain op) : Sourced calls op := by
  cases op with
  | remote c =>
      cases c with
      | setApiKeyInfo apiKeyHash info => exact absurd plain Bool.false_ne_true
      | _ => trivial
  | _ => trivial

theorem Looks.sourced {op : Op engine} (looks : Looks calls op) : Sourced calls op := by
  cases op with
  | remote c =>
      cases c with
      | setApiKeyInfo => exact looks
      | _ => trivial
  | _ => trivial

theorem looks_createAccountApikey (accountId : Int) (label uuid : String) :
    (createAccountApikey hashToken accountId label uuid).path Looks (fun _ _ => True) calls := by
  unfold createAccountApikey createApiCredentialForAccount
  refine path_bind.mpr (path_queryAuto (P := Looks) trivial ?_ (fun _ => trivial))
  rintro (_ | account) ⟨env, db, executed⟩
  · trivial
  obtain rfl : account.id = accountId := (Table.find_iff.mp (Option.some.inj executed)).2
  refine path_bind.mpr (path_queryAuto (P := Looks) (s := .insertApiCredential (some account.id) _ label) trivial
    ?_ (fun _ => trivial))
  rintro key ⟨env', db', inserted⟩
  have named : key.apiKeyHash = hashToken (generateApiCredential uuid) := by
    simp only [exec] at inserted
    split at inserted
    · cases inserted
      rfl
    · cases inserted
  refine path_bind.mpr (path_op (P := Looks) ⟨key, account, .inr ⟨⟨label, ?_⟩, ?_⟩, rfl⟩ (fun _ _ => trivial))
  · exact named ▸ List.mem_cons_self
  · exact List.mem_cons_of_mem _ List.mem_cons_self

theorem plain_deleteApikey (apikey : String) : (deleteApikey hashToken apikey).Only Plain := by
  refine only_bind (only_run_bind (only_queryAuto (s := .deactivateApiCredential (hashToken apikey)) rfl)
    (fun found => only_fetchOne found)) ?_
  rintro ((_ | _) | key)
  · trivial
  · trivial
  · exact only_bind (only_op rfl) (fun _ => trivial)

theorem plain_updateAccountById (accountId : Int) (name : Option String) (isActive : Option Bool) :
    (updateAccountById accountId name isActive).Only Plain := by
  unfold updateAccountById
  split
  · trivial
  refine only_bind (only_run_bind (only_queryAuto rfl) (fun found => only_fetchOne found)) ?_
  rintro ((reason | _) | account)
  · cases reason <;> trivial
  · trivial
  · exact only_bind (only_op rfl) (fun _ => trivial)

/-- The calls of a request for keys; it is passed on to the handler behind the middleware as it was
admitted. -/
def PassedOn (hashToken : String → String) (request : KeyRequest) (calls : List (Call engine)) (op : Op engine) : Prop :=
  (Plain op ∨ Looks calls op) ∧ ∀ accountId apiKeyId, op = .remote (.nextRun accountId apiKeyId) →
    ∃ apiKeyHash, request.presents hashToken = some apiKeyHash ∧ Admitted apiKeyHash accountId apiKeyId calls

theorem PassedOn.sourced {request : KeyRequest} {op : Op engine} (passedOn : PassedOn hashToken request calls op) :
    Sourced calls op :=
  passedOn.1.elim Plain.sourced Looks.sourced

theorem Looks.passedOn {request : KeyRequest} {op : Op engine} (looks : Looks calls op) :
    PassedOn hashToken request calls op := by
  refine ⟨.inr looks, ?_⟩
  rintro accountId apiKeyId rfl
  exact absurd looks id

theorem passedOn_authenticate {request : KeyRequest} {apiKeyHash : String}
    (presents : request.presents hashToken = some apiKeyHash) :
    (authenticate apiKeyHash handler).path (PassedOn hashToken request) (fun _ _ => True) calls := by
  refine path_authenticate (I := fun _ => True) trivial (fun _ _ _ looks => ⟨looks.passedOn, fun _ => trivial⟩)
    (fun later accountId apiKeyId _ admitted => ?_)
  refine path_bind.mpr (path_op (P := PassedOn hashToken request) ⟨.inl rfl, ?_⟩ (fun _ _ => trivial))
  rintro _ _ ⟨⟩
  exact ⟨apiKeyHash, presents, admitted⟩

theorem passedOn_plain {request : KeyRequest} (only : (request.program hashToken).Only Plain)
    (admin : request.presents hashToken = none) :
    (request.program hashToken).path (PassedOn hashToken request) (fun _ _ => True) [] := by
  refine path_mono ?_ (fun _ _ ended => ended.1) (path_and only.made (order_request request))
  rintro calls op ⟨plain, ordered⟩
  refine ⟨.inl plain, ?_⟩
  rintro accountId apiKeyId rfl
  obtain ⟨apiKeyHash, presents, _⟩ := ordered
  cases admin.symm.trans presents

theorem passedOn_request (request : KeyRequest) :
    (request.program hashToken).path (PassedOn hashToken request) (fun _ _ => True) [] := by
  have closed : ∀ {α : Type} {P : List (Call engine) → Op engine → Prop} {p : Action α},
      p.path P (fun _ _ => True) [] → (do let _ ← p : Action Unit).path P (fun _ _ => True) [] :=
    fun path => path_bind.mpr (path_mono (fun _ _ made => made) (fun _ _ _ => trivial) path)
  cases request with
  | createAccountApikey accountId label uuid =>
      exact closed (path_mono (fun _ _ looks => looks.passedOn) (fun _ _ ended => ended)
        (looks_createAccountApikey accountId label uuid))
  | deleteApikey apikey => exact passedOn_plain (only_bind (plain_deleteApikey apikey) (fun _ => trivial)) rfl
  | updateAccountById accountId name isActive =>
      exact passedOn_plain (only_bind (plain_updateAccountById accountId name isActive) (fun _ => trivial)) rfl
  | authOpenAIApi authorization =>
      refine closed ?_
      unfold Middlewares.authOpenAIApi
      split
      · rename_i token read
        exact passedOn_authenticate (congrArg (Option.map hashToken) read)
      · trivial
  | authAnthropicApi xApiKey =>
      refine closed ?_
      unfold Middlewares.authAnthropicApi
      split
      · rename_i token read
        exact passedOn_authenticate (congrArg (Option.map hashToken) read)
      · trivial

end Requests

/-- The hash stands for the key with this id, of this account. -/
def Stands (apiKeyHash : String) (apiKeyId : Int) (accountId : Option Int) (db : Db) : Prop :=
  ∃ accessKey, db.apiCredentials.lookup apiKeyHash = some accessKey ∧ accessKey.id = apiKeyId ∧
    accessKey.accountId = accountId

def KeyActive (apiKeyHash : String) (db : Db) : Prop :=
  ∃ accessKey, db.apiCredentials.lookup apiKeyHash = some accessKey ∧ accessKey.isActive = true

def AccountActive (accountId : Int) (db : Db) : Prop :=
  ∃ account, db.accounts.find accountId = some account ∧ account.isActive = true

/-- A key is only ever deactivated: what its hash stands for does not change. -/
theorem Stands.apply {db : Db} (stands : Stands apiKeyHash apiKeyId accountId db) (w : Write) :
    Stands apiKeyHash apiKeyId accountId (apply w db) := by
  obtain ⟨accessKey, known, named, owner⟩ := stands
  cases w
  case insertApiCredential c => exact ⟨accessKey, Table.lookup_insert known, named, owner⟩
  case deactivateApiCredential id =>
    refine ⟨Table.at_key id deactivated accessKey, ?_, ?_⟩
    · simp only [LLMPool.apply, Table.lookup_modify, known, Option.map_some]
    · unfold Table.at_key
      split <;> exact ⟨named, owner⟩
  all_goals exact ⟨accessKey, known, named, owner⟩

section Runs
variable {ι : Type} [DecidableEq ι] {D : Discipline engine} {program : ι → Action Unit} {db : Db} {world : World}
  {s : State engine ι} {initial : State engine ι} {apiKeyHash : String} {calls : List (Call engine)}

/-- What is told of a hash: it stands for the key and the account, the key was active at some
time, and so was the account where it is said to be. -/
structure Vouched (D : Discipline engine) (initial s : State engine ι) (apiKeyHash : String) (apiKeyId : Int)
    (accountId : Option Int) (accountIsActive : Bool) : Prop where
  stands : Stands apiKeyHash apiKeyId accountId s.db
  key : Earlier D initial s (fun middle => KeyActive apiKeyHash middle.db)
  account : ∀ owner, accountId = some owner → accountIsActive = true →
    Earlier D initial s (fun middle => AccountActive owner middle.db)

theorem Vouched.later (vouched : Vouched D initial s apiKeyHash apiKeyId accountId active)
    (reached : Reaches D s history s') : Vouched D initial s' apiKeyHash apiKeyId accountId active where
  stands := (Earlier.now (P := fun middle => Stands apiKeyHash apiKeyId accountId middle.db) .start vouched.stands
    |>.later reached).still (fun w _ stands => stands.apply w)
  key := vouched.key.later reached
  account owner owned told := (vouched.account owner owned told).later reached

theorem Found.vouched {accessKey : ApiCredential} {account : Account}
    (reached : Reaches D (.starting db world program) history s)
    (found : Found apiKeyHash accessKey account (s.procs i).calls) :
    Vouched D (.starting db world program) s apiKeyHash accessKey.id accessKey.accountId account.isActive := by
  have read : Earlier D (.starting db world program) s (fun (middle : State engine ι) =>
      middle.db.apiCredentials.lookup apiKeyHash = some accessKey ∧ accessKey.isActive = true) := by
    refine (reached.read_earlier found.key).mono ?_
    rintro _ ⟨_, executed⟩
    exact Option.filter_eq_some_iff.mp (Option.some.inj executed)
  refine ⟨?_, read.mono (fun _ known => ⟨accessKey, known⟩), fun owner owned told => ?_⟩
  · have stood : Earlier D (.starting db world program) s
        (fun middle => Stands apiKeyHash accessKey.id accessKey.accountId middle.db) :=
      read.mono (fun _ known => ⟨accessKey, known.1, rfl, rfl⟩)
    exact stood.still (fun w _ stands => stands.apply w)
  · obtain rfl : account.id = owner := Option.some.inj (found.owner.symm.trans owned)
    refine (reached.read_earlier found.account).mono ?_
    rintro _ ⟨_, executed⟩
    exact ⟨account, Option.some.inj executed, told⟩

theorem Created.vouched {accessKey : ApiCredential} {account : Account}
    (reached : Reaches D (.starting db world program) history s)
    (created : Created apiKeyHash accessKey account (s.procs i).calls) :
    Vouched D (.starting db world program) s apiKeyHash accessKey.id accessKey.accountId account.isActive := by
  obtain ⟨label, inserted⟩ := created.key
  have written : Earlier D (.starting db world program) s (fun middle =>
      middle.db.apiCredentials.lookup apiKeyHash = some accessKey ∧ accessKey.isActive = true ∧
        accessKey.accountId = some account.id) := by
    refine (reached.written_earlier inserted).mono ?_
    rintro middle ⟨env, rows, drawn, executed, after⟩
    simp only [exec] at executed
    split at executed
    · rename_i absent
      cases executed
      simp only [possible, decide_eq_true_eq] at drawn
      have free : rows.apiCredentials.free ⟨env.serial, some account.id, apiKeyHash, label, true⟩ := ⟨drawn.2, absent⟩
      rw [after]
      exact ⟨Table.lookup_insert_self free, rfl, rfl⟩
    · cases executed
  refine ⟨?_, written.mono (fun _ known => ⟨accessKey, known.1, known.2.1⟩), fun owner owned told => ?_⟩
  · have stood : Earlier D (.starting db world program) s
        (fun middle => Stands apiKeyHash accessKey.id accessKey.accountId middle.db) :=
      written.mono (fun _ known => ⟨accessKey, known.1, rfl, rfl⟩)
    exact stood.still (fun w _ stands => stands.apply w)
  · obtain ⟨_, _, _, _, _, _, _, owns⟩ := written
    obtain rfl : account.id = owner := Option.some.inj (owns.symm.trans owned)
    refine (reached.read_earlier created.account).mono ?_
    rintro _ ⟨_, executed⟩
    exact ⟨account, Option.some.inj executed, told⟩

/-- An entry of the cache was there, or is written now. -/
theorem remote_apiKeyInfo {c : Remote} {env : Env} {info : ApiKeyInfo}
    (cached : (remote c env world).2.apiKeyInfo apiKeyHash = some info) :
    world.apiKeyInfo apiKeyHash = some info ∨ c = .setApiKeyInfo apiKeyHash info := by
  cases c
  case setApiKeyInfo hash info' =>
    by_cases same : apiKeyHash = hash
    · simp only [remote, same, Function.update_self, Option.some.injEq] at cached
      exact .inr (by rw [same, cached])
    · simp only [remote, Function.update_of_ne same] at cached
      exact .inl cached
  case deleteApiKeyInfo hash =>
    by_cases same : apiKeyHash = hash
    · simp only [remote, same, Function.update_self, reduceCtorEq] at cached
    · simp only [remote, Function.update_of_ne same] at cached
      exact .inl cached
  case getApiKeyInfo hash =>
    simp only [remote] at cached
    split at cached
    · by_cases same : apiKeyHash = hash
      · simp only [same, Function.update_self, reduceCtorEq] at cached
      · simp only [Function.update_of_ne same] at cached
        exact .inl cached
    · exact .inl cached
  case fetchBalanceChange | getWalletInfo | fetchSpawned | fetchHealthCheck =>
    simp only [remote] at cached
    split at cached <;> exact .inl cached
  all_goals exact .inl cached

/-- Every entry of the cache is vouched for, however old it is. -/
theorem Reaches.vouched {Q : ι → List (Call engine) → Prop}
    (each : (State.starting db world program).Paths (fun _ => Sourced) Q) (current : Current db world)
    (reached : Reaches D (.starting db world program) history s) (apiKeyHash : String) (info : ApiKeyInfo)
    (cached : s.world.apiKeyInfo apiKeyHash = some info) :
    Vouched D (.starting db world program) s apiKeyHash info.id info.accountId info.accountIsActive := by
  induction reached with
  | start =>
      obtain ⟨accessKey, account, known, active, owner, found, rfl⟩ := current apiKeyHash info cached
      refine ⟨⟨accessKey, known, rfl, rfl⟩, .now .start ⟨accessKey, known, active⟩, fun owner' owned told => ?_⟩
      obtain rfl : account.id = owner' := Option.some.inj (owner.symm.trans owned)
      exact .now .start ⟨account, found, told⟩
  | @step _ s i _ _ reached stepped ih =>
      have last := Reaches.step .start stepped
      have path := reached.paths each i
      obtain ⟨op, next, reply, world', ready, answers, _, _, _, rfl⟩ := stepped.advanced
      rw [ready] at path
      rcases answers with ⟨_, _, rfl⟩ | ⟨_, env, rfl, _⟩
      · exact (ih cached).later last
      · cases op with
        | remote c =>
            rcases remote_apiKeyInfo cached with before | rfl
            · exact (ih before).later last
            · obtain ⟨accessKey, account, source, rfl⟩ := path.1
              rcases source with found | created
              · exact (found.vouched reached).later last
              · exact (created.vouched reached).later last
        | begin | sql | commit | auto => exact (ih cached).later last

/-- The ids that a request was admitted with are those of its key and of the key's account, and
both were active at some time. -/
theorem Admitted.vouched {Q : ι → List (Call engine) → Prop}
    (each : (State.starting db world program).Paths (fun _ => Sourced) Q) (current : Current db world)
    (reached : Reaches D (.starting db world program) history s)
    (admitted : Admitted apiKeyHash accountId apiKeyId calls) (inside : calls ⊆ (s.procs i).calls) :
    Vouched D (.starting db world program) s apiKeyHash apiKeyId (some accountId) true := by
  rcases admitted.mono inside with ⟨info, read, owner, rfl, active⟩ | ⟨accessKey, account, found, active, rfl, rfl⟩
  · obtain ⟨before, middle, after, first, second, env, answered⟩ := reached.replied_earlier read
    have cached : middle.world.apiKeyInfo apiKeyHash = some info := by
      simp only [engine, remote] at answered
      split at answered
      · cases answered
      · exact answered
    have vouched := (Reaches.vouched each current first apiKeyHash info cached).later second
    rw [owner, active] at vouched
    exact vouched
  · have vouched := found.vouched reached
    rw [found.owner, active] at vouched
    exact vouched

/-- In every interleaving, with any failures, a request that gets past the middleware runs under the
account and the id of the key that it presented; that key was active at some time, and so was the
account. -/
theorem requests_run_as_their_key {request : ι → KeyRequest} {hashToken : String → String} {call : Call engine}
    (current : Current db world) (reached : Reaches D (keyRequests hashToken db world request) history s)
    (member : call ∈ (s.procs i).calls) (passed : call.op = .remote (.nextRun accountId apiKeyId)) :
    ∃ apiKeyHash, (request i).presents hashToken = some apiKeyHash ∧
      Stands apiKeyHash apiKeyId (some accountId) s.db ∧
      Earlier D (keyRequests hashToken db world request) s (fun middle => KeyActive apiKeyHash middle.db) ∧
      Earlier D (keyRequests hashToken db world request) s (fun middle => AccountActive accountId middle.db) := by
  have paths : (keyRequests hashToken db world request).Paths (fun i => PassedOn hashToken (request i))
      (fun _ _ => True) := fun i => passedOn_request (request i)
  have sourced : (keyRequests hashToken db world request).Paths (fun _ => Sourced) (fun _ _ => True) :=
    fun i => path_mono (fun _ _ passedOn => passedOn.sourced) (fun _ _ ended => ended) (paths i)
  obtain ⟨older, suffix, made, _⟩ := reached.made paths i call member
  obtain ⟨apiKeyHash, presents, admitted⟩ := made.2 accountId apiKeyId passed
  have vouched := admitted.vouched sourced current reached (i := i)
    (fun _ earlier => suffix.subset (List.mem_cons_of_mem _ earlier))
  exact ⟨apiKeyHash, presents, vouched.stands, vouched.key, vouched.account accountId rfl rfl⟩

end Runs

theorem exists_passed {calls : List (Call engine)} (accepts : accepted calls = true) :
    ∃ call ∈ calls, ∃ accountId apiKeyId, call.op = .remote (.nextRun accountId apiKeyId) := by
  obtain ⟨call, member, matched⟩ := List.any_eq_true.mp accepts
  split at matched
  · rename_i accountId apiKeyId same
    exact ⟨call, member, accountId, apiKeyId, same⟩
  · cases matched

/-- The key is deleted, and a stale entry of the cache still admits it: it was active before. -/
theorem a_revoked_key_runs_as_itself : ∃ history s accountId apiKeyId,
    Reaches (.any False) (keyRequests id activeKey .empty aroundDeletion) history s ∧
      (s.procs 1).Returned ∧
      Stands "lpx-018f77aa" apiKeyId (some accountId) s.db ∧
      Earlier (.any False) (keyRequests id activeKey .empty aroundDeletion) s
        (fun middle => KeyActive "lpx-018f77aa" middle.db) := by
  obtain ⟨history, s, reached, returned, accepts⟩ := State.exists_of_play (.any False)
    (keyRequests id activeKey .empty aroundDeletion) (schedule [0, 0, 0, 1, 1, 0, 2, 2])
    (fun s => (s.procs 1).Returned ∧ accepted (s.procs 2).calls = true) (by decide +kernel)
  obtain ⟨call, member, accountId, apiKeyId, passed⟩ := exists_passed accepts
  obtain ⟨apiKeyHash, presents, stands, active, _⟩ :=
    requests_run_as_their_key (current_empty activeKey .empty) reached member passed
  cases presents
  exact ⟨history, s, accountId, apiKeyId, reached, returned, stands, active⟩

end LLMPool.Auth
