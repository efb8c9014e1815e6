import LLMPool.Auth.CachedDecision

/-! A key that has been deleted, while authentications that have read it earlier are
still under way. -/
namespace LLMPool.Auth
open Relational Transactions Middlewares

/-- The hash of the token that a request presents. -/
def KeyRequest.presents (hashToken : String → String) : KeyRequest → Option String
  | authOpenAIApi authorization => (authorization.bind bearerToken).map hashToken
  | authAnthropicApi xApiKey => (xApiKey.filter (fun token => token ≠ "")).map hashToken
  | _ => none

/-- The cache or the database has known the key. -/
def Known (apiKeyHash : String) (calls : List (Call engine)) : Prop :=
  (∃ info, (⟨.remote (.getApiKeyInfo apiKeyHash), .ok (some info)⟩ : Call engine) ∈ calls) ∨
    ∃ accessKey, (⟨.auto (.findActiveApiCredentialByApiKeyHash apiKeyHash), .ok (some accessKey)⟩ :
      Call engine) ∈ calls

/-- The key's row has been updated. -/
def Deactivated (apiKeyHash : String) (calls : List (Call engine)) : Prop :=
  ∃ accessKey, (⟨.auto (.deactivateApiCredential apiKeyHash), .ok (some accessKey)⟩ :
    Call engine) ∈ calls

/-- A request is passed on only after its key was found, and the cache entry of a key
is deleted only after its row was updated. -/
def KeyOrder (hashToken : String → String) (request : KeyRequest) (calls : List (Call engine)) :
    Op engine → Prop
  | .remote (.nextRun _ _) =>
      ∃ apiKeyHash, request.presents hashToken = some apiKeyHash ∧ Known apiKeyHash calls
  | .remote (.deleteApiKeyInfo apiKeyHash) =>
      (∃ apikey, request = .deleteApikey apikey ∧ apiKeyHash = hashToken apikey) ∧
        Deactivated apiKeyHash calls
  | _ => True

section Paths
variable {hashToken : String → String} {request : KeyRequest} {calls : List (Call engine)}
  {apiKeyHash : String}

theorem order_handler {accountId apiKeyId : Int}
    (presents : request.presents hashToken = some apiKeyHash) (known : Known apiKeyHash calls) :
    (do return .passed (← handler accountId apiKeyId) : Action (Middlewares.Response Unit)).path
      (KeyOrder hashToken request) (fun _ _ => True) calls := by
  refine path_bind.mpr ?_
  rw [handler]
  exact path_bind.mpr (path_op (P := KeyOrder hashToken request) ⟨apiKeyHash, presents, known⟩
    (fun _ _ => trivial))

theorem order_passCached {info : ApiKeyInfo} (presents : request.presents hashToken = some apiKeyHash)
    (known : Known apiKeyHash calls) :
    (passCached apiKeyHash handler info).path (KeyOrder hashToken request) (fun _ _ => True) calls := by
  unfold passCached
  split
  · trivial
  · split
    · trivial
    · split
      · trivial
      · exact order_handler presents known

theorem order_passActive {accessKey : ApiCredential} {account : Account}
    (presents : request.presents hashToken = some apiKeyHash) (known : Known apiKeyHash calls) :
    (passActive apiKeyHash handler accessKey account).path (KeyOrder hashToken request)
      (fun _ _ => True) calls := by
  unfold passActive
  split
  · trivial
  · refine path_bind.mpr (path_op (P := KeyOrder hashToken request) trivial (fun _ _ => ?_))
    refine order_handler presents (known.imp ?_ ?_)
    · exact fun ⟨info, member⟩ => ⟨info, List.mem_cons_of_mem _ member⟩
    · exact fun ⟨accessKey, member⟩ => ⟨accessKey, List.mem_cons_of_mem _ member⟩

theorem order_lookUpCredential (presents : request.presents hashToken = some apiKeyHash) :
    (lookUpCredential apiKeyHash handler).path (KeyOrder hashToken request) (fun _ _ => True)
      calls := by
  unfold lookUpCredential
  refine path_bind.mpr (path_queryAuto (P := KeyOrder hashToken request) trivial ?_ (fun _ => trivial))
  intro accessKey _
  cases accessKey with
  | none => trivial
  | some accessKey =>
      dsimp only
      split
      · trivial
      · refine path_bind.mpr
          (path_queryAuto (P := KeyOrder hashToken request) trivial ?_ (fun _ => trivial))
        intro account _
        cases account with
        | none => trivial
        | some account =>
            exact order_passActive presents
              (.inr ⟨accessKey, List.mem_cons_of_mem _ List.mem_cons_self⟩)

theorem order_authenticate (presents : request.presents hashToken = some apiKeyHash) :
    (authenticate apiKeyHash handler).path (KeyOrder hashToken request) (fun _ _ => True) calls := by
  unfold authenticate
  refine path_bind.mpr (path_op (P := KeyOrder hashToken request) trivial ?_)
  rintro (reason | info) _
  · exact order_lookUpCredential presents
  · cases info with
    | none => exact order_lookUpCredential presents
    | some info => exact order_passCached presents (.inl ⟨info, List.mem_cons_self⟩)

theorem order_deleteApikey {apikey : String} (asked : request = .deleteApikey apikey) :
    (deleteApikey hashToken apikey).path (KeyOrder hashToken request) (fun _ _ => True) calls := by
  unfold deleteApikey deactivateApiCredential
  refine path_bind.mpr (path_run_bind.mpr
    (path_queryAuto (P := KeyOrder hashToken request) trivial ?_ (fun _ => trivial)))
  rintro (_ | accessKey) ⟨env, db, executed⟩
  · exact trivial
  · have named : accessKey.apiKeyHash = hashToken apikey := by
      obtain ⟨c, found, rfl⟩ := Option.map_eq_some_iff.mp (Option.some.inj executed)
      exact (Table.lookup_iff.mp found).2
    refine path_bind.mpr (path_op (P := KeyOrder hashToken request) ?_ (fun _ _ => trivial))
    exact ⟨⟨apikey, asked, named⟩, accessKey, named ▸ List.mem_cons_self⟩

theorem order_updateAccountById {accountId : Int} {name : Option String} {isActive : Option Bool} :
    (updateAccountById accountId name isActive).path (KeyOrder hashToken request)
      (fun _ _ => True) calls := by
  unfold updateAccountById updateAccount
  split
  · trivial
  · refine path_bind.mpr (path_run_bind.mpr
      (path_queryAuto (P := KeyOrder hashToken request) trivial ?_ ?_))
    · rintro (_ | account) _
      · exact trivial
      · exact path_bind.mpr (path_op (P := KeyOrder hashToken request) trivial (fun _ _ => trivial))
    · rintro (_ | _ | _) <;> exact trivial

theorem order_createAccountApikey {accountId : Int} {label uuid : String} :
    (createAccountApikey hashToken accountId label uuid).path (KeyOrder hashToken request)
      (fun _ _ => True) calls := by
  unfold createAccountApikey createApiCredentialForAccount
  refine path_bind.mpr (path_queryAuto (P := KeyOrder hashToken request) trivial ?_ (fun _ => trivial))
  rintro (_ | account) _
  · trivial
  · refine path_bind.mpr (path_queryAuto (P := KeyOrder hashToken request)
      (s := .insertApiCredential (some accountId) _ _) trivial ?_ (fun _ => trivial))
    intro accessKey _
    exact path_bind.mpr (path_op (P := KeyOrder hashToken request) trivial (fun _ _ => trivial))

theorem order_request (request : KeyRequest) :
    (request.program hashToken).path (KeyOrder hashToken request) (fun _ _ => True) calls := by
  have closed : ∀ {α : Type} {request : KeyRequest} {p : Action α},
      p.path (KeyOrder hashToken request) (fun _ _ => True) calls →
      (do let _ ← p : Action Unit).path (KeyOrder hashToken request) (fun _ _ => True) calls :=
    fun path => path_bind.mpr (path_mono (fun _ _ made => made) (fun _ _ _ => trivial) path)
  cases request with
  | createAccountApikey => exact closed order_createAccountApikey
  | deleteApikey => exact closed (order_deleteApikey rfl)
  | updateAccountById => exact closed order_updateAccountById
  | authOpenAIApi authorization =>
      refine closed ?_
      unfold Middlewares.authOpenAIApi
      split
      · rename_i token read
        exact order_authenticate (congrArg (Option.map hashToken) read)
      · trivial
  | authAnthropicApi xApiKey =>
      refine closed ?_
      unfold Middlewares.authAnthropicApi
      split
      · rename_i token read
        exact order_authenticate (congrArg (Option.map hashToken) read)
      · trivial

end Paths

/-- Each write of a key's cache entry finds the key's row active. -/
def keyActive (_ : List (Call engine)) (op : Op engine) (db : Db) : Prop :=
  match op with
  | .remote (.setApiKeyInfo apiKeyHash _) =>
      ∃ accessKey ∈ db.apiCredentials.lookup apiKeyHash, accessKey.isActive = true
  | _ => True

instance (calls : List (Call engine)) (op : Op engine) (db : Db) :
    Decidable (keyActive calls op db) := by
  rcases op with _ | s | _ | s | c
  case remote =>
    rcases c
    case setApiKeyInfo apiKeyHash info =>
      exact inferInstanceAs (Decidable (∃ accessKey ∈ db.apiCredentials.lookup apiKeyHash, _))
    all_goals exact instDecidableTrue
  all_goals exact instDecidableTrue

/-- Any interleaving, with any failures, in which no entry is cached for a key that is
no longer active. -/
def cachingActive : Discipline engine := ⟨fun _ => True, False, keyActive⟩

instance : Discipline.Decides cachingActive where
  faults _ := inferInstanceAs (Decidable True)
  serial := inferInstanceAs (Decidable False)
  admits calls op db := inferInstanceAs (Decidable (keyActive calls op db))

def Revoked (apiKeyHash : String) (db : Db) : Prop :=
  ∃ accessKey, db.apiCredentials.lookup apiKeyHash = some accessKey ∧ accessKey.isActive = false

section Rows
variable {db : Db} {apiKeyHash : String}

theorem Revoked.apply (revoked : Revoked apiKeyHash db) (w : Write) :
    Revoked apiKeyHash (apply w db) := by
  obtain ⟨accessKey, known, inactive⟩ := revoked
  cases w
  case insertApiCredential c => exact ⟨accessKey, Table.lookup_insert known, inactive⟩
  case deactivateApiCredential id =>
    refine ⟨Table.at_key id deactivated accessKey, ?_, ?_⟩
    · simp only [LLMPool.apply, Table.lookup_modify, known, Option.map_some]
    · unfold Table.at_key
      split
      · rfl
      · exact inactive
  all_goals exact ⟨accessKey, known, inactive⟩

theorem Revoked.applyAll (revoked : Revoked apiKeyHash db) (ws : List Write) :
    Revoked apiKeyHash (engine.applyAll ws db) := by
  induction ws generalizing db with
  | nil => exact revoked
  | cons w ws ih => exact ih (revoked.apply w)

theorem revoked_deactivate (env : Env) {c : ApiCredential}
    (executed : exec (.deactivateApiCredential apiKeyHash) env db = some (some c)) :
    Revoked apiKeyHash (apply (.deactivateApiCredential c.id) db) := by
  obtain ⟨row, found, rfl⟩ := Option.map_eq_some_iff.mp (Option.some.inj executed)
  refine ⟨deactivated row, ?_, rfl⟩
  have here : key row = (deactivated row).id := rfl
  simp only [apply, Table.lookup_modify, found, Option.map_some, Table.at_key, if_pos here]

end Rows

section Runs
variable {ι : Type} [DecidableEq ι] {hashToken : String → String} {request : ι → KeyRequest}
  {db : Db} {world : World} {s s' mid : State engine ι} {i j : ι} {apiKeyHash apikey : String}

def keyRequests (hashToken : String → String) (db : Db) (world : World) (request : ι → KeyRequest) :
    State engine ι :=
  .starting db world (fun i => (request i).program hashToken)

/-- The entry of the key has been deleted from the cache. -/
def Uncached (apiKeyHash : String) (calls : List (Call engine)) : Prop :=
  (⟨.remote (.deleteApiKeyInfo apiKeyHash), .ok ()⟩ : Call engine) ∈ calls

/-- Once the row is updated the key is revoked, and once its entry is deleted after that,
the cache stays without one. -/
structure Revocation (apiKeyHash : String) (s : State engine ι) : Prop where
  revoked : ∀ i, Deactivated apiKeyHash (s.procs i).calls → Revoked apiKeyHash s.db
  emptied : ∀ i, Uncached apiKeyHash (s.procs i).calls → s.world.apiKeyInfo apiKeyHash = none

omit [DecidableEq ι] in
theorem keyRequests_paths : (keyRequests hashToken db world request).Paths
    (fun i => KeyOrder hashToken (request i)) (fun _ _ => True) :=
  fun i => order_request (request i)

omit [DecidableEq ι] in
theorem made_deactivated (made : s.Made (fun i => KeyOrder hashToken (request i)))
    (uncached : Uncached apiKeyHash (s.procs i).calls) : Deactivated apiKeyHash (s.procs i).calls := by
  obtain ⟨older, suffix, ⟨_, accessKey, member⟩, _⟩ := made i _ uncached
  exact ⟨accessKey, suffix.subset (List.mem_cons_of_mem _ member)⟩

/-- An entry that is not there comes by a write of it only. -/
theorem remote_uncached {c : Remote} {env : Env} (missing : world.apiKeyInfo apiKeyHash = none)
    (other : ∀ info, c ≠ .setApiKeyInfo apiKeyHash info) :
    (remote c env world).2.apiKeyInfo apiKeyHash = none := by
  cases c
  case setApiKeyInfo hash info =>
    have apart : apiKeyHash ≠ hash := fun same => other info (by rw [same])
    simp only [remote, Function.update_of_ne apart, missing]
  case deleteApiKeyInfo hash =>
    by_cases same : apiKeyHash = hash
    · simp only [remote, same, Function.update_self]
    · simp only [remote, Function.update_of_ne same, missing]
  case getApiKeyInfo hash =>
    simp only [remote]
    split
    · by_cases same : apiKeyHash = hash
      · simp only [same, Function.update_self]
      · simp only [Function.update_of_ne same, missing]
    · exact missing
  case fetchBalanceChange | getWalletInfo | fetchSpawned | fetchHealthCheck =>
    simp only [remote]
    split <;> exact missing
  all_goals exact missing

theorem Step.revocation (made : s.Made (fun i => KeyOrder hashToken (request i)))
    (kept : Revocation apiKeyHash s) (stepped : Step cachingActive s i ws s') :
    Revocation apiKeyHash s' := by
  obtain ⟨op, next, reply, world, ready, answers, _, _, rfl, rfl⟩ := stepped.advanced
  constructor
  · rintro k ⟨accessKey, member⟩
    rcases (State.mem_advance_calls s).mp member with ⟨rfl, same⟩ | before
    · cases same
      rcases answers with ⟨_, never, _⟩ | ⟨_, env, _, performed⟩
      · cases never
      · exact revoked_deactivate env (Op.answer_ok performed).2
    · exact (kept.revoked k ⟨accessKey, before⟩).applyAll _
  · intro k member
    rcases (State.mem_advance_calls s).mp member with ⟨rfl, same⟩ | before
    · cases same
      rcases answers with ⟨_, never, _⟩ | ⟨_, env, rfl, _⟩
      · cases never
      · simp only [State.advance, Op.moves, engine, remote, Function.update_self]
    · have missing := kept.emptied k before
      rcases answers with ⟨_, _, rfl⟩ | ⟨active, env, rfl, _⟩
      · exact missing
      · cases op with
        | remote c =>
            refine remote_uncached missing ?_
            rintro info rfl
            obtain ⟨accessKey, known, active⟩ := active
            obtain ⟨row, known', inactive⟩ := kept.revoked k (made_deactivated made before)
            cases known'.symm.trans known
            cases active.symm.trans inactive
        | begin | sql | commit | auto => exact missing

theorem Reaches.revocation
    (reached : Reaches cachingActive (keyRequests hashToken db world request) history s) :
    Revocation apiKeyHash s := by
  induction reached with
  | start =>
      exact ⟨fun _ ⟨_, never⟩ => absurd never List.not_mem_nil,
        fun _ never => absurd never List.not_mem_nil⟩
  | step reached stepped ih => exact Step.revocation (reached.made keyRequests_paths) ih stepped

theorem Step.uncached {D : Discipline engine} (stepped : Step D s i ws s')
    (uncached : Uncached apiKeyHash (s.procs j).calls) : Uncached apiKeyHash (s'.procs j).calls := by
  obtain ⟨op, next, reply, world, _, _, _, _, _, rfl⟩ := stepped.advanced
  exact (State.mem_advance_calls s).mpr (.inr uncached)

/-- A process that starts after the key is gone does not get to know it. -/
theorem Step.unknown (kept : Revocation apiKeyHash s) (stepped : Step cachingActive s k ws s')
    (uncached : Uncached apiKeyHash (s.procs i).calls)
    (deactivated : Deactivated apiKeyHash (s.procs i).calls)
    (unknown : ¬Known apiKeyHash (s.procs j).calls) : ¬Known apiKeyHash (s'.procs j).calls := by
  obtain ⟨op, next, reply, world, ready, answers, _, _, rfl, rfl⟩ := stepped.advanced
  rintro (⟨info, member⟩ | ⟨accessKey, member⟩)
  · rcases (State.mem_advance_calls s).mp member with ⟨rfl, same⟩ | before
    · cases same
      rcases answers with ⟨_, never, _⟩ | ⟨_, env, _, performed⟩
      · cases never
      · have answered : (remote (.getApiKeyInfo apiKeyHash) env s.world).1 = some info := by
          simpa only [Op.perform, Option.some.injEq, Except.ok.injEq] using performed
        simp only [remote, kept.emptied i uncached] at answered
        split at answered <;> cases answered
    · exact unknown (.inl ⟨info, before⟩)
  · rcases (State.mem_advance_calls s).mp member with ⟨rfl, same⟩ | before
    · cases same
      rcases answers with ⟨_, never, _⟩ | ⟨_, env, _, performed⟩
      · cases never
      · obtain ⟨row, known, inactive⟩ := kept.revoked i deactivated
        have found := Option.some.inj (Op.answer_ok performed).2
        rw [known, Option.filter_some, inactive] at found
        cases found
    · exact unknown (.inr ⟨accessKey, before⟩)

/-- `delete_apikey` has returned success, and has deleted the cache entry. -/
def Succeeds (p : Proc engine) : Prop :=
  p.Returned ∧ ∃ apiKeyHash, Uncached apiKeyHash p.calls

/-- If each cache entry is written while the key's row is active, no authentication that
starts after `delete_apikey` has succeeded is accepted with that key. -/
theorem deleted_key_is_refused
    (reached : Reaches cachingActive (keyRequests hashToken db world request) history mid)
    (asked : request i = .deleteApikey apikey) (succeeded : Succeeds (mid.procs i))
    (unstarted : (mid.procs j).calls = [])
    (presented : (request j).presents hashToken = some (hashToken apikey))
    (later : Reaches cachingActive mid history' s) :
    ∀ call ∈ (s.procs j).calls, ∀ accountId apiKeyId, call.op ≠ .remote (.nextRun accountId apiKeyId) := by
  obtain ⟨_, apiKeyHash, uncached⟩ := succeeded
  obtain ⟨_, _, ⟨⟨apikey', asked', named⟩, _⟩, _⟩ := reached.made keyRequests_paths i _ uncached
  cases asked.symm.trans asked'
  subst named
  have unknown : Uncached (hashToken apikey) (s.procs i).calls ∧
      ¬Known (hashToken apikey) (s.procs j).calls := by
    induction later with
    | start => exact ⟨uncached, by simp [Known, unstarted]⟩
    | step before stepped ih =>
        have here := reached.trans before
        obtain ⟨uncached, unknown⟩ := ih
        have deactivated := made_deactivated (here.made keyRequests_paths) uncached
        exact ⟨Step.uncached stepped uncached,
          Step.unknown (Reaches.revocation here) stepped uncached deactivated unknown⟩
  rintro ⟨op, reply⟩ member accountId apiKeyId rfl
  obtain ⟨older, suffix, ⟨apiKeyHash, presents, known⟩, _⟩ :=
    (reached.trans later).made keyRequests_paths j _ member
  cases presented.symm.trans presents
  have inside : ∀ call ∈ older, call ∈ (s.procs j).calls :=
    fun call earlier => suffix.subset (List.mem_cons_of_mem _ earlier)
  exact unknown.2 (known.imp (fun ⟨info, found⟩ => ⟨info, inside _ found⟩)
    (fun ⟨accessKey, found⟩ => ⟨accessKey, inside _ found⟩))

end Runs

/-- One authentication before the key is deleted, and one after. -/
def aroundDeletion : Fin 3 → KeyRequest
  | 0 => .authOpenAIApi (some "Bearer lpx-018f77aa")
  | 1 => .deleteApikey "lpx-018f77aa"
  | 2 => .authAnthropicApi (some "lpx-018f77aa")

def activeKey : Db := { activeAccount with
  apiCredentials := Table.empty.insert ⟨1, some 1, "lpx-018f77aa", "laptop", true⟩ }

/-- A request has been passed on to the handler behind the middleware. -/
def accepted (calls : List (Call engine)) : Bool := calls.any (fun call =>
  match call.op with
  | .remote (.nextRun _ _) => true
  | _ => false)

def uncachedKey (calls : List (Call engine)) : Bool := calls.any (fun call =>
  match call with
  | ⟨.remote (.deleteApiKeyInfo apiKeyHash), .ok ()⟩ => apiKeyHash = "lpx-018f77aa"
  | _ => false)

theorem uncached_of_key {calls : List (Call engine)} (deleted : uncachedKey calls = true) :
    ∃ apiKeyHash, Uncached apiKeyHash calls := by
  obtain ⟨call, member, matched⟩ := List.any_eq_true.mp deleted
  split at matched
  · rename_i apiKeyHash
    exact ⟨apiKeyHash, member⟩
  · cases matched

/-- The first authentication has read the key before it is deleted and caches it after:
the last one, which starts after the deletion has succeeded, is accepted. -/
theorem a_revoked_key_is_accepted : ∃ history mid,
    Reaches (Discipline.any False) (keyRequests id activeKey .empty aroundDeletion) history mid ∧
    ((mid.procs 1).Returned ∧ uncachedKey (mid.procs 1).calls = true ∧
      (mid.procs 2).calls.length = 0) ∧
    ∃ history' s, Reaches (Discipline.any False) mid history' s ∧
      accepted (s.procs 2).calls = true := by
  obtain ⟨history, mid, reached, deleted, played⟩ := State.exists_of_play (Discipline.any False)
    (keyRequests id activeKey .empty aroundDeletion) (schedule [0, 0, 0, 1, 1])
    (fun mid => ((mid.procs 1).Returned ∧ uncachedKey (mid.procs 1).calls = true ∧
        (mid.procs 2).calls.length = 0) ∧
      (mid.play (Discipline.any False) (schedule [0, 2, 2])).any
        (fun s => decide (accepted (s.procs 2).calls = true)) = true) (by decide +kernel)
  exact ⟨history, mid, reached, deleted, State.exists_of_play _ mid _ _ played⟩

/-- The first authentication is over before the key is deleted. -/
theorem deleted_key_is_refused_after : ∃ history mid,
    Reaches cachingActive (keyRequests id activeKey .empty aroundDeletion) history mid ∧
    (mid.procs 1).Returned ∧ ∃ history' s, Reaches cachingActive mid history' s ∧
      (s.procs 2).Returned ∧
      ∀ call ∈ (s.procs 2).calls, ∀ accountId apiKeyId,
        call.op ≠ .remote (.nextRun accountId apiKeyId) := by
  obtain ⟨history, mid, reached, ⟨returned, deleted, unstarted⟩, played⟩ := State.exists_of_play
    cachingActive (keyRequests id activeKey .empty aroundDeletion)
    (schedule [0, 0, 0, 0, 0, 1, 1])
    (fun mid => ((mid.procs 1).Returned ∧ uncachedKey (mid.procs 1).calls = true ∧
        (mid.procs 2).calls.length = 0) ∧
      (mid.play cachingActive (schedule [2, 2])).any
        (fun s => decide (s.procs 2).Returned) = true) (by decide +kernel)
  obtain ⟨history', s, later, answered⟩ := State.exists_of_play cachingActive mid _ _ played
  exact ⟨history, mid, reached, returned, history', s, later, answered,
    deleted_key_is_refused reached rfl ⟨returned, uncached_of_key deleted⟩
      (List.eq_nil_of_length_eq_zero unstarted) rfl later⟩

end LLMPool.Auth
