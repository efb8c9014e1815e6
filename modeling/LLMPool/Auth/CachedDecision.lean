import LLMPool.Middlewares.ApiAuth
import LLMPool.Views.Accounts

/-! The cache of API keys against the rows that it was filled from, over histories of
requests that run one after another. -/
namespace LLMPool.Auth
open Relational Transactions Middlewares

inductive KeyRequest where
  | createAccountApikey (accountId : Int) (label uuid : String)
  | deleteApikey (apikey : String)
  | updateAccountById (accountId : Int) (name : Option String) (isActive : Option Bool)
  | authOpenAIApi (authorization : Option String)
  | authAnthropicApi (xApiKey : Option String)

/-- The handler behind the middleware, seen from the middleware. -/
def handler (accountId apiKeyId : Int) : Action Unit := do
  let _ ← Prog.remote (E := engine) (.nextRun accountId apiKeyId)

def KeyRequest.program (hashToken : String → String) : KeyRequest → Action Unit
  | createAccountApikey accountId label uuid => do
      let _ ← Auth.createAccountApikey hashToken accountId label uuid
  | deleteApikey apikey => do
      let _ ← Auth.deleteApikey hashToken apikey
  | updateAccountById accountId name isActive => do
      let _ ← Auth.updateAccountById accountId name isActive
  | authOpenAIApi authorization => do
      let _ ← Middlewares.authOpenAIApi hashToken authorization handler
  | authAnthropicApi xApiKey => do
      let _ ← Middlewares.authAnthropicApi hashToken xApiKey handler

/-- A cache entry says what the rows say. -/
def Snapshot (db : Db) (apiKeyHash : String) (info : ApiKeyInfo) : Prop :=
  ∃ accessKey account, db.apiCredentials.lookup apiKeyHash = some accessKey ∧
    accessKey.isActive = true ∧ accessKey.accountId = some account.id ∧
    db.accounts.find account.id = some account ∧
    info = ⟨accessKey.id, accessKey.accountId, apiKeyHash, accessKey.label, true, account.isActive⟩

def Current (db : Db) (world : World) : Prop :=
  ∀ apiKeyHash info, world.apiKeyInfo apiKeyHash = some info → Snapshot db apiKeyHash info

/-- An update that sets `is_active` of an account agrees with the cached entries of
the account's keys. -/
def leavesCached (request : KeyRequest) (_ : Db) (world : World) : Prop :=
  match request with
  | .updateAccountById accountId _ (some isActive) => ∀ apiKeyHash info,
      world.apiKeyInfo apiKeyHash = some info → info.accountId = some accountId →
      info.accountIsActive = isActive
  | _ => True

/-- Redis entries expire at any time. -/
def expires (world world' : World) : Prop := ∃ apiKeyHash,
  world' = { world with apiKeyInfo := Function.update world.apiKeyInfo apiKeyHash none }

section Cache
variable {db : Db} {world : World} {info : ApiKeyInfo} {apiKeyHash : String}

theorem current_empty (db : Db) (world : World) :
    Current db { world with apiKeyInfo := fun _ => none } := nofun

theorem Current.uncached (current : Current db world) (apiKeyHash : String) :
    Current db { world with apiKeyInfo := Function.update world.apiKeyInfo apiKeyHash none } := by
  intro other info cached
  by_cases same : other = apiKeyHash
  · subst same
    simp only [Function.update_self, reduceCtorEq] at cached
  · simp only [Function.update_of_ne same] at cached
    exact current other info cached

theorem Current.cached (current : Current db world) (snapshot : Snapshot db apiKeyHash info) :
    Current db { world with
      apiKeyInfo := Function.update world.apiKeyInfo apiKeyHash (some info) } := by
  intro other info' cached
  by_cases same : other = apiKeyHash
  · subst same
    simp only [Function.update_self, Option.some.injEq] at cached
    exact cached ▸ snapshot
  · simp only [Function.update_of_ne same] at cached
    exact current other info' cached

theorem Current.getApiKeyInfo (current : Current db world) (env : Env) :
    Current db (remote (.getApiKeyInfo apiKeyHash) env world).2 := by
  simp only [remote]
  split
  · exact current.uncached apiKeyHash
  · exact current

theorem Snapshot.insert {c : ApiCredential} (snapshot : Snapshot db apiKeyHash info) :
    Snapshot (apply (.insertApiCredential c) db) apiKeyHash info := by
  obtain ⟨accessKey, account, known, rest⟩ := snapshot
  exact ⟨accessKey, account, Table.lookup_insert known, rest⟩

/-- Deactivating a key leaves the entries of the other keys as they were. -/
theorem Snapshot.deactivate {c : ApiCredential} (snapshot : Snapshot db apiKeyHash info)
    (known : db.apiCredentials.lookup other = some c) (apart : apiKeyHash ≠ other) :
    Snapshot (apply (.deactivateApiCredential c.id) db) apiKeyHash info := by
  obtain ⟨accessKey, account, found, rest⟩ := snapshot
  refine ⟨accessKey, account, ?_, rest⟩
  have different : key accessKey ≠ c.id := by
    intro same
    obtain ⟨member, named⟩ := Table.lookup_iff.mp found
    obtain ⟨member', named'⟩ := Table.lookup_iff.mp known
    have one : accessKey = c := Table.eq_of_key member member' same
    subst one
    exact apart (named.symm.trans named')
  simp only [apply, Table.lookup_modify, found, Option.map_some, Table.at_key, if_neg different]

theorem Snapshot.setAccount {update : UpdateAccount} {accountId : Int}
    (snapshot : Snapshot db apiKeyHash info)
    (agrees : info.accountId = some accountId → ∀ isActive ∈ update.isActive,
      info.accountIsActive = isActive) :
    Snapshot (apply (.setAccount accountId update) db) apiKeyHash info := by
  obtain ⟨accessKey, account, known, active, owner, found, rfl⟩ := snapshot
  have row : (apply (.setAccount accountId update) db).accounts.find account.id =
      some (Table.at_key accountId update.over account) ∨
      (apply (.setAccount accountId update) db).accounts.find account.id = some account := by
    simp only [apply]
    rcases Table.find_update db.accounts with changed | same
    · exact .inl (by rw [changed, found, Option.map_some])
    · exact .inr (by rw [same, found])
  rcases row with changed | same
  · refine ⟨accessKey, Table.at_key accountId update.over account, known, active, ?_⟩
    unfold Table.at_key at changed ⊢
    split
    · rename_i here
      rw [if_pos here] at changed
      have kept : (update.over account).isActive = account.isActive := by
        simp only [UpdateAccount.over]
        cases asked : update.isActive with
        | none => rfl
        | some isActive =>
            exact (agrees (owner.trans (congrArg some here)) isActive asked).symm
      exact ⟨owner, changed, by rw [kept]⟩
    · rename_i apart
      rw [if_neg apart] at changed
      exact ⟨owner, changed, rfl⟩
  · exact ⟨accessKey, account, known, active, owner, same, rfl⟩

end Cache

section Requests
variable {db : Db} {world : World} {env : Env} {calls : List (Call engine)} {apiKeyHash : String}

/-- The key that a lookup finds and the account that it names. -/
theorem snapshot_of_rows {accessKey : ApiCredential} {account : Account} {accountId : Int}
    (known : (db.apiCredentials.lookup apiKeyHash).filter (fun c => c.isActive) = some accessKey)
    (owner : accessKey.accountId = some accountId) (found : db.accounts.find accountId = some account) :
    Snapshot db apiKeyHash ⟨accessKey.id, accessKey.accountId, apiKeyHash, accessKey.label,
      accessKey.isActive, account.isActive⟩ := by
  obtain ⟨row, active⟩ := Option.filter_eq_some_iff.mp known
  obtain rfl : account.id = accountId := (Table.find_iff.mp found).2
  exact ⟨accessKey, account, row, active, owner, found, by rw [active]⟩

theorem current_handler {accountId apiKeyId : Int} {m : Solo engine} (current : Current m.db m.world) :
    (do return .passed (← handler accountId apiKeyId) : Action (Middlewares.Response Unit)).ends env
      (fun _ m => Current m.db m.world) m := by
  refine ends_bind ?_
  rw [handler]
  exact ends_bind (ends_remote (ends_pure (ends_pure current)))

theorem current_passCached {info : ApiKeyInfo} {m : Solo engine} (current : Current m.db m.world) :
    (passCached apiKeyHash handler info).ends env (fun _ m => Current m.db m.world) m := by
  unfold passCached
  split
  · exact ends_pure current
  · split
    · exact ends_pure current
    · split
      · exact ends_pure current
      · exact current_handler current

theorem current_passActive {accessKey : ApiCredential} {account : Account} {m : Solo engine}
    (current : Current m.db m.world)
    (snapshot : Snapshot m.db apiKeyHash ⟨accessKey.id, accessKey.accountId, apiKeyHash,
      accessKey.label, accessKey.isActive, account.isActive⟩) :
    (passActive apiKeyHash handler accessKey account).ends env
      (fun _ m => Current m.db m.world) m := by
  unfold passActive
  split
  · exact ends_pure current
  · exact ends_bind (ends_remote (current_handler (current.cached snapshot)))

theorem current_lookUpCredential {m : Solo engine} (current : Current m.db m.world) :
    (lookUpCredential apiKeyHash handler).ends env (fun _ m => Current m.db m.world) m := by
  unfold lookUpCredential
  refine ends_bind (ends_queryAuto ?_ (fun _ _ => ends_pure current))
  intro accessKey _ known
  cases accessKey with
  | none => exact ends_pure current
  | some accessKey =>
      dsimp only
      split
      · exact ends_pure current
      · rename_i accountId owner
        refine ends_bind (ends_queryAuto ?_ (fun _ _ => ends_pure current))
        intro account _ found
        cases account with
        | none => exact ends_pure current
        | some account =>
            exact current_passActive current
              (snapshot_of_rows (Option.some.inj known) owner (Option.some.inj found))

theorem current_authenticate {m : Solo engine} (current : Current m.db m.world) :
    (authenticate apiKeyHash handler).ends env (fun _ m => Current m.db m.world) m := by
  unfold authenticate
  refine ends_bind (ends_remote ?_)
  have read : Current m.db (engine.remote (.getApiKeyInfo apiKeyHash) env m.world).2 :=
    current.getApiKeyInfo env
  generalize engine.remote (.getApiKeyInfo apiKeyHash) env m.world = answer at read ⊢
  obtain ⟨info, world⟩ := answer
  cases info with
  | none => exact current_lookUpCredential (m := ⟨_, m.db, world⟩) read
  | some info => exact current_passCached (m := ⟨_, m.db, world⟩) read

theorem current_deleteApikey {hashToken : String → String} {apikey : String} {m : Solo engine}
    (current : Current m.db m.world) :
    (deleteApikey hashToken apikey).ends env (fun _ m => Current m.db m.world) m := by
  unfold deleteApikey deactivateApiCredential
  refine ends_bind (ends_run_bind (ends_queryAuto ?_ (fun _ _ => ends_pure current)))
  intro accessKey _ known
  obtain rfl := Option.some.inj known
  cases row : m.db.apiCredentials.lookup (hashToken apikey) with
  | none => exact ends_fetchOne nofun (fun _ => ends_pure current)
  | some c =>
      refine ends_fetchOne ?_ nofun
      rintro _ ⟨⟩
      refine ends_bind (ends_remote (ends_pure ?_))
      have named : c.apiKeyHash = hashToken apikey := (Table.lookup_iff.mp row).2
      intro other info cached
      by_cases same : other = c.apiKeyHash
      · subst same
        simp only [engine, remote, deactivated, Function.update_self, reduceCtorEq] at cached
      · simp only [engine, remote, deactivated, Function.update_of_ne same] at cached
        have kept := (current other info cached).deactivate row
          (fun here => same (here.trans named.symm))
        exact kept

theorem current_updateAccountById {accountId : Int} {name : Option String} {isActive : Option Bool}
    {m : Solo engine} (current : Current m.db m.world)
    (agrees : leavesCached (.updateAccountById accountId name isActive) m.db m.world) :
    (updateAccountById accountId name isActive).ends env (fun _ m => Current m.db m.world) m := by
  unfold updateAccountById updateAccount
  split
  · exact ends_pure current
  · refine ends_bind (ends_run_bind (ends_queryAuto ?_ (fun _ _ => ends_pure current)))
    intro account _ executed
    cases account with
    | none => exact ends_fetchOne nofun (fun _ => ends_pure current)
    | some account =>
        refine ends_fetchOne ?_ nofun
        rintro _ ⟨⟩
        refine ends_bind (ends_remote (ends_pure ?_))
        intro apiKeyHash info cached
        refine (current apiKeyHash info cached).setAccount (fun owner => ?_)
        rintro value ⟨⟩
        exact agrees apiKeyHash info cached owner

theorem current_createAccountApikey {hashToken : String → String} {accountId : Int}
    {label uuid : String} {m : Solo engine} (current : Current m.db m.world) :
    (createAccountApikey hashToken accountId label uuid).ends env
      (fun _ m => Current m.db m.world) m := by
  unfold createAccountApikey createApiCredentialForAccount
  refine ends_bind (ends_queryAuto ?_ (fun _ _ => ends_pure current))
  intro account _ found
  cases account with
  | none => exact ends_pure current
  | some account =>
      obtain rfl : account.id = accountId := (Table.find_iff.mp (Option.some.inj found)).2
      refine ends_bind (ends_queryAuto (s := .insertApiCredential (some account.id) _ _) ?_
        (fun _ _ => ends_pure current))
      intro accessKey drawn executed
      have free : m.db.apiCredentials.free accessKey ∧ accessKey.isActive = true ∧
          accessKey.accountId = some account.id := by
        simp only [exec] at executed
        split at executed
        · rename_i absent
          cases executed
          simp only [possible, decide_eq_true_eq] at drawn
          exact ⟨⟨drawn.2, absent⟩, rfl, rfl⟩
        · cases executed
      obtain ⟨free, active, owner⟩ := free
      refine ends_bind (ends_remote (ends_pure ?_))
      have kept : Current (apply (.insertApiCredential accessKey) m.db) m.world :=
        fun apiKeyHash info cached => (current apiKeyHash info cached).insert
      refine kept.cached ⟨accessKey, account, Table.lookup_insert_self free, active, owner,
        Option.some.inj found, by rw [active]⟩

theorem current_request {hashToken : String → String} {request : KeyRequest} {m : Solo engine}
    (current : Current m.db m.world) (leaves : leavesCached request m.db m.world) :
    (request.program hashToken).ends env (fun _ m => Current m.db m.world) m := by
  cases request with
  | createAccountApikey =>
      exact ends_bind (fun _ _ ran => ends_pure (current_createAccountApikey current _ _ ran))
  | deleteApikey =>
      exact ends_bind (fun _ _ ran => ends_pure (current_deleteApikey current _ _ ran))
  | updateAccountById =>
      exact ends_bind (fun _ _ ran => ends_pure (current_updateAccountById current leaves _ _ ran))
  | authOpenAIApi authorization =>
      refine ends_bind ?_
      unfold Middlewares.authOpenAIApi
      split
      · exact fun _ _ ran => ends_pure (current_authenticate current _ _ ran)
      · exact ends_pure (ends_pure current)
  | authAnthropicApi xApiKey =>
      refine ends_bind ?_
      unfold Middlewares.authAnthropicApi
      split
      · exact fun _ _ ran => ends_pure (current_authenticate current _ _ ran)
      · exact ends_pure (ends_pure current)

end Requests

/-- What the middleware decides on a miss of the cache. -/
def credentialDecision (db : Db) (apiKeyHash : String) : Middlewares.Response (Int × Int) :=
  match (db.apiCredentials.lookup apiKeyHash).filter (fun c => c.isActive) with
  | none => invalidCredential "Invalid API key."
  | some accessKey =>
      match accessKey.accountId with
      | none => invalidCredential "API key is not associated with an account."
      | some accountId =>
          match db.accounts.find accountId with
          | none => invalidCredential "Account not found for this API key."
          | some account =>
              if account.isActive = false then invalidCredential "Account is inactive."
              else .passed (account.id, accessKey.id)

/-- A handler that answers with the ids that the middleware passes to it. -/
def identify (accountId apiKeyId : Int) : Action (Int × Int) := return (accountId, apiKeyId)

section Decision
variable {db : Db} {world : World} {env : Env} {apiKeyHash : String} {m : Solo engine}

theorem decides_passActive {accessKey : ApiCredential} {account : Account} :
    ((passActive apiKeyHash identify accessKey account).alone env m).map Prod.fst =
      some (if account.isActive = false then invalidCredential "Account is inactive."
        else .passed (account.id, accessKey.id)) := by
  unfold passActive
  split <;> rfl

theorem decides_lookUpCredential :
    ((lookUpCredential apiKeyHash identify).alone env m).map Prod.fst =
      some (credentialDecision m.db apiKeyHash) := by
  unfold lookUpCredential credentialDecision
  rw [alone_then (alone_read (s := .findActiveApiCredentialByApiKeyHash apiKeyHash) rfl rfl rfl)]
  generalize (m.db.apiCredentials.lookup apiKeyHash).filter (fun c => c.isActive) = known
  cases known with
  | none => rfl
  | some accessKey =>
      cases owner : accessKey.accountId with
      | none =>
          simp only [owner]
          rfl
      | some accountId =>
          simp only [owner]
          rw [alone_then (alone_read (s := .getAccountById accountId) rfl rfl rfl)]
          dsimp only
          generalize m.db.accounts.find accountId = account
          cases account with
          | none => rfl
          | some account => exact decides_passActive

theorem Snapshot.decides {info : ApiKeyInfo} (snapshot : Snapshot m.db apiKeyHash info) :
    ((passCached apiKeyHash identify info).alone env m).map Prod.fst =
      some (credentialDecision m.db apiKeyHash) := by
  obtain ⟨accessKey, account, known, active, owner, found, rfl⟩ := snapshot
  have selected : (m.db.apiCredentials.lookup apiKeyHash).filter (fun c => c.isActive) =
      some accessKey := Option.filter_eq_some_iff.mpr ⟨known, active⟩
  simp only [passCached, credentialDecision, selected, owner, found, ne_eq, not_true_eq_false,
    Bool.true_eq_false, or_self, if_false]
  split <;> rfl

/-- With a cache that says what the rows say, the middleware decides as on a miss. -/
theorem Current.decides (current : Current m.db m.world) :
    ((authenticate apiKeyHash identify).alone env m).map Prod.fst =
      some (credentialDecision m.db apiKeyHash) := by
  unfold authenticate
  rw [alone_remote]
  have read : Current m.db (engine.remote (.getApiKeyInfo apiKeyHash) env m.world).2 :=
    current.getApiKeyInfo env
  have hit : ∀ info, (engine.remote (.getApiKeyInfo apiKeyHash) env m.world).1 = some info →
      Snapshot m.db apiKeyHash info := by
    intro info answered
    simp only [engine, remote] at answered
    split at answered
    · cases answered
    · exact current apiKeyHash info answered
  generalize engine.remote (.getApiKeyInfo apiKeyHash) env m.world = answer at hit ⊢
  obtain ⟨info, world⟩ := answer
  cases info with
  | none => exact decides_lookUpCredential
  | some info => exact Snapshot.decides (hit info rfl)

theorem decision_passed {accountId apiKeyId : Int}
    (passed : credentialDecision db apiKeyHash = .passed (accountId, apiKeyId)) :
    ∃ account, db.accounts.find accountId = some account ∧ account.isActive = true := by
  unfold credentialDecision at passed
  split at passed
  · cases passed
  · split at passed
    · cases passed
    · split at passed
      · cases passed
      · rename_i account found
        split at passed
        · cases passed
        · rename_i active
          cases passed
          obtain ⟨member, _⟩ := Table.find_iff.mp found
          exact ⟨account, Table.find_of_mem member, Bool.eq_true_of_not_eq_false active⟩

end Decision

section Runs
variable {hashToken : String → String} {db db' : Db} {world world' : World}

/-- In every serial history whose updates of accounts agree with what is cached, both
middlewares answer each request as they would with an empty cache, and pass none of an
inactive account. -/
theorem cached_decision_agrees (current : Current db world)
    (serial : Serial leavesCached expires (KeyRequest.program hashToken) db world db' world')
    (env : Env) (header : Option String) :
    ((authOpenAIApi hashToken header identify).alone env ⟨[], db', world'⟩).map Prod.fst =
      ((authOpenAIApi hashToken header identify).alone env
        ⟨[], db', { world' with apiKeyInfo := fun _ => none }⟩).map Prod.fst ∧
    ((authAnthropicApi hashToken header identify).alone env ⟨[], db', world'⟩).map Prod.fst =
      ((authAnthropicApi hashToken header identify).alone env
        ⟨[], db', { world' with apiKeyInfo := fun _ => none }⟩).map Prod.fst ∧
    ∀ apiKeyHash accountId apiKeyId,
      ((authenticate apiKeyHash identify).alone env ⟨[], db', world'⟩).map Prod.fst =
        some (.passed (accountId, apiKeyId)) →
      ∃ account, db'.accounts.find accountId = some account ∧ account.isActive = true := by
  have here : Current db' world' := serial.invariant current
    (fun _ _ _ _ leaves current => current_request (m := ⟨[], _, _⟩) current leaves)
    (fun _ _ _ => by
      rintro ⟨apiKeyHash, rfl⟩ current
      exact current.uncached apiKeyHash)
  have empty := current_empty db' world'
  refine ⟨?_, ?_, ?_⟩
  · unfold Middlewares.authOpenAIApi
    split
    · rw [Current.decides (m := ⟨[], db', world'⟩) here, Current.decides (m := ⟨[], db', _⟩) empty]
    · rfl
  · unfold Middlewares.authAnthropicApi
    split
    · rw [Current.decides (m := ⟨[], db', world'⟩) here, Current.decides (m := ⟨[], db', _⟩) empty]
    · rfl
  · intro apiKeyHash accountId apiKeyId passed
    rw [Current.decides (m := ⟨[], db', world'⟩) here] at passed
    exact decision_passed (Option.some.inj passed)

end Runs

def activeAccount : Db := { Db.empty with accounts := Table.empty.insert ⟨1, "account-1", true⟩ }

def newKey : KeyRequest := .createAccountApikey 1 "laptop" "018f-77aa"

/-- What a client that presents the new key is told. -/
def presented (db : Db) (world : World) : Option (Middlewares.Response (Int × Int)) :=
  ((authOpenAIApi id (some "Bearer lpx-018f77aa") identify).alone (E := engine) (Env.plain 0 0)
    ⟨[], db, world⟩).map Prod.fst

/-- The account is deactivated while its key is cached: the key is still accepted. -/
theorem a_deactivated_account_is_accepted : ∃ db world,
    Serial (E := engine) (fun _ _ _ => True) expires (KeyRequest.program id) activeAccount .empty
      db world ∧
    (db.accounts.find 1).map (·.isActive) = some false ∧
    presented db world = some (.passed (1, 1)) ∧
    presented db { world with apiKeyInfo := fun _ => none } =
      some (invalidCredential "Account is inactive.") :=
  Serial.exists_of_inTurn
    [(newKey, Env.plain 0 1), (.updateAccountById 1 none (some false), Env.plain 1 0)] _ .start
    (fun _ _ _ _ => trivial) (by decide +kernel)

/-- The key is deleted: it is refused with the cache and without it. -/
theorem cached_decision_agrees_deleted : ∃ db world,
    Serial (E := engine) leavesCached expires (KeyRequest.program id) activeAccount .empty
      db world ∧
    presented db world = some (invalidCredential "Invalid API key.") ∧
    presented db { world with apiKeyInfo := fun _ => none } =
      some (invalidCredential "Invalid API key.") := by
  obtain ⟨db, world, serial, refused⟩ : ∃ db world,
      Serial (E := engine) leavesCached expires (KeyRequest.program id) activeAccount .empty
        db world ∧ presented db world = some (invalidCredential "Invalid API key.") :=
    Serial.exists_of_inTurn [(newKey, Env.plain 0 1),
        (.authOpenAIApi (some "Bearer lpx-018f77aa"), Env.plain 1 0),
        (.deleteApikey "lpx-018f77aa", Env.plain 2 0)] _ .start
      (by simp [newKey, leavesCached]) (by decide +kernel)
  have agrees := (cached_decision_agrees (current_empty _ .empty) serial (Env.plain 0 0)
    (some "Bearer lpx-018f77aa")).1
  exact ⟨db, world, serial, refused, agrees.symm.trans refused⟩

end LLMPool.Auth
