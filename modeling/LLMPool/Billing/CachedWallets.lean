import LLMPool.Billing.Settle
import LLMPool.Locality

/-! Where the wallets in the cache come from. A settlement caches the wallet that it returns after
its commit: by then the row has been committed as it is cached, whatever else has run. -/
namespace LLMPool.Billing
open Relational Transactions

/-- The statement leaves the wallet as its transaction returns it. -/
inductive Stores (w : Wallet) : (s : Stmt) → s.Answer → Prop
  | created {accountId : Int} {balance : BigDecimal} : Stores w (.insertWallet accountId balance) w
  | updated {balance : BigDecimal} : Stores w (.updateWalletBalance w.id balance) (some w)

theorem Stores.locks {w : Wallet} {s : Stmt} {answer : s.Answer} (stores : Stores w s answer) :
    .wallet w.id ∈ locks s answer := by
  cases stores <;> exact List.mem_cons_self

theorem Stores.shows {w : Wallet} {s : Stmt} {answer : s.Answer} {env : Env} {db : Db} (stores : Stores w s answer)
    (drawn : possible s env db = true) (executed : exec s env db = some answer) :
    (engine.applyAll (writes s answer) db).wallets.find w.id = some w := by
  cases stores with
  | created =>
      simp only [exec] at executed
      split at executed
      · rename_i absent
        cases executed
        simp only [possible, decide_eq_true_eq] at drawn
        exact Table.find_insert_self ⟨drawn.2, absent⟩
      · cases executed
  | @updated balance =>
      have row : (db.wallets.find w.id).map (withBalance balance) = some w := Option.some.inj executed
      have stored : (db.wallets.modify w.id (withBalance balance) (withBalance_keeps balance)).find w.id =
          (db.wallets.find w.id).map (withBalance balance) := Table.find_modify_self db.wallets
      exact stored.trans row

/-- A statement that leaves the wallet alone. -/
abbrev LeavesAlone (w : Wallet) (call : Call engine) : Prop := Spares (E := engine) (Lock.wallet w.id) call

/-- The transaction found the wallet before it had written anything, or it has stored it and
leaves it alone since. -/
inductive Returning (w : Wallet) (calls : List (Call engine)) : Prop
  | found {older : List (Call engine)} (unwritten : (session older).writes = [])
      (read : ⟨.sql (.findAccountWallet w.accountId), .ok (some w)⟩ :: older <:+ calls) : Returning w calls
  | stored {later older : List (Call engine)} {s : Stmt} {answer : s.Answer} (stores : Stores w s answer)
      (spared : ∀ call ∈ later, LeavesAlone w call) (here : calls = later ++ ⟨.sql s, .ok answer⟩ :: older) :
      Returning w calls

/-- The wallet is committed as it was returned. -/
inductive Backed (w : Wallet) (calls : List (Call engine)) : Prop
  | found {older : List (Call engine)} (unwritten : (session older).writes = [])
      (read : ⟨.sql (.findAccountWallet w.accountId), .ok (some w)⟩ :: older <:+ calls) : Backed w calls
  | stored {later older : List (Call engine)} {s : Stmt} {answer : s.Answer} (stores : Stores w s answer)
      (spared : ∀ call ∈ later, LeavesAlone w call)
      (sound : (session (later ++ ⟨.sql s, .ok answer⟩ :: older)).failed = false)
      (committed : ⟨.commit, .ok ()⟩ :: (later ++ ⟨.sql s, .ok answer⟩ :: older) <:+ calls) : Backed w calls

/-- What is written to the cache of wallets has been committed. -/
def Caches (calls : List (Call engine)) : Op engine → Prop
  | .remote (.setWalletInfo accountId w) => w.accountId = accountId ∧ Backed w calls
  | _ => True

section Paths
variable {calls later : List (Call engine)} {w : Wallet}

theorem Backed.older (backed : Backed w calls) (reached : calls <:+ later) : Backed w later := by
  cases backed with
  | found unwritten read => exact .found unwritten (read.trans reached)
  | stored stores spared sound committed => exact .stored stores spared sound (committed.trans reached)

theorem leavesAlone_answered {s : Stmt} {answer : s.Answer} (apart : ∀ x ∈ writes s answer, .wallet w.id ∉ touches x) :
    LeavesAlone w ⟨.sql s, .ok answer⟩ := by
  refine ⟨s, .ok answer, rfl, ?_⟩
  rintro _ ⟨⟩
  exact apart

theorem Returning.now {s : Stmt} {answer : s.Answer} {older : List (Call engine)} (stores : Stores w s answer) :
    Returning w (⟨.sql s, .ok answer⟩ :: older) := by
  have here : (⟨.sql s, .ok answer⟩ :: older : List (Call engine)) = [] ++ ⟨.sql s, .ok answer⟩ :: older := rfl
  exact .stored stores (fun _ never => absurd never List.not_mem_nil) here

theorem Returning.spared {call : Call engine} (returning : Returning w calls) (leaves : LeavesAlone w call) :
    Returning w (call :: calls) := by
  cases returning with
  | found unwritten read => exact .found unwritten (read.trans (List.suffix_cons _ _))
  | @stored later older s answer stores spared here =>
      have longer : call :: calls = (call :: later) ++ ⟨.sql s, .ok answer⟩ :: older := congrArg (call :: ·) here
      refine .stored stores (fun c member => ?_) longer
      rcases List.mem_cons.mp member with rfl | before
      · exact leaves
      · exact spared c before

/-- The statement after which a wallet has been returned. -/
def Returned (w : Wallet) (result : Except SqlxError α) (calls : List (Call engine)) : Prop :=
  match result with
  | .ok _ => Returning w calls
  | .error _ => True

theorem caching_sparing {s : Stmt} (returning : Returning w calls)
    (apart : ∀ answer, ∀ x ∈ writes s answer, .wallet w.id ∉ touches x) :
    (Query.sql s).run.path Caches (Returned w) calls :=
  path_query trivial (fun answer _ _ => returning.spared (leavesAlone_answered (apart answer))) (fun _ => trivial)

theorem caching_accountWallet (accountId : Int) (unwritten : (session calls).writes = []) :
    (accountWalletWithTx accountId).run.path Caches (fun result later =>
      ∀ w, result = .ok w → Returning w later) calls := by
  rw [accountWalletWithTx, path_run_bind]
  refine path_query (P := Caches) trivial ?_ (fun reason w failed => by cases failed)
  rintro (_ | found) _ ⟨env, db, executed⟩
  · refine path_query (P := Caches) trivial ?_ (fun reason w failed => by cases failed)
    rintro made _ _ w ⟨⟩
    exact .now .created
  · rintro w ⟨⟩
    obtain rfl : found.accountId = accountId := (Table.lookup_iff.mp (Option.some.inj executed)).2
    exact .found unwritten List.suffix_rfl

theorem caching_charge {accountId : Int} {content : BalanceChangeContent} (returning : Returning w calls) :
    (chargeWithTx w accountId content).run.path Caches (Returned w) calls := by
  cases content with
  | deposit amount | addCredit amount | withdraw amount => exact returning
  | spendToken spend =>
      refine path_seq (caching_sparing returning (fun _ _ never => by cases never)) ?_ (fun _ _ _ => trivial)
      rintro (_ | subscription) later returning
      · exact returning
      · refine path_seq (M := Returned w) (caching_sparing returning ?_) (fun _ _ returning => returning)
          (fun _ _ _ => trivial)
        intro _ x member touched
        obtain rfl := List.mem_singleton.mp member
        cases List.mem_singleton.mp touched

theorem caching_storeBalance {balance : BigDecimal} (returning : Returning w calls) :
    (storeBalanceWithTx w balance).run.path Caches (fun result later =>
      ∀ stored, result = .ok stored → Returning stored later) calls := by
  rw [storeBalanceWithTx]
  split
  · rw [path_run_bind]
    refine path_query (P := Caches) trivial ?_ (fun reason stored failed => by cases failed)
    rintro (_ | stored) _ ⟨env, db, executed⟩ w' returned
    · cases returned
    · cases returned
      obtain ⟨row, found, same⟩ := Option.map_eq_some_iff.mp (Option.some.inj executed)
      have here : stored.id = w.id := same ▸ (Table.find_iff.mp found).2
      have stores : Stores stored (.updateWalletBalance w.id balance) (some stored) := here ▸ .updated
      exact .now stores
  · rintro stored ⟨⟩
    exact returning

theorem caching_applyBalanceChange {c : BalanceChange} {content : BalanceChangeContent}
    (unwritten : (session calls).writes = []) :
    (applyBalanceChangeWithTx c content).run.path Caches (fun result later =>
      ∀ w, result = .ok w → Returning w later ∧ (session later).failed = false) calls := by
  rw [applyBalanceChangeWithTx]
  refine path_seq (caching_accountWallet c.accountId unwritten) ?_ (fun _ _ _ w failed => by cases failed)
  intro wallet calls found
  refine path_seq (caching_charge (found wallet rfl)) ?_ (fun _ _ _ w failed => by cases failed)
  rintro ⟨balance, subscriptionId⟩ calls returning
  refine path_seq (caching_storeBalance returning) ?_ (fun _ _ _ w failed => by cases failed)
  intro stored calls returning
  rw [path_run_bind]
  refine path_query (P := Caches) trivial ?_ (fun reason w failed => by cases failed)
  rintro answer sound _ w ⟨⟩
  refine ⟨(returning stored rfl).spared (leavesAlone_answered (fun x member touched => ?_)), sound⟩
  obtain rfl := List.mem_singleton.mp member
  cases List.mem_singleton.mp touched

/-- A settlement caches what it has committed. -/
theorem caching_settleBalanceChange (task : BalanceChangeTask) :
    (settleBalanceChange task).path Caches (fun _ _ => True) calls := by
  refine path_bind.mpr (path_op (P := Caches) trivial ?_)
  rintro (reason | ⟨⟩) _
  · trivial
  refine path_bind.mpr (path_query (P := Caches) trivial ?_ (fun _ => trivial))
  rintro (_ | c) _ _
  · trivial
  dsimp only
  split
  · trivial
  split
  · trivial
  rw [path_bind]
  refine path_mono (fun _ _ made => made) ?_ (caching_applyBalanceChange rfl)
  rintro (e | w) calls returned
  · trivial
  obtain ⟨returning, sound⟩ := returned w rfl
  refine path_bind.mpr (path_op (P := Caches) trivial ?_)
  rintro (reason | ⟨⟩) _
  · trivial
  refine path_bind.mpr (path_op (P := Caches) ⟨rfl, ?_⟩ (fun _ _ => trivial))
  cases returning with
  | found unwritten read => exact .found unwritten (read.trans (List.suffix_cons _ _))
  | stored stores spared here => exact .stored stores spared (here ▸ sound) (here ▸ List.suffix_rfl)

end Paths

section Runs
variable {ι : Type} [DecidableEq ι] {D : Discipline engine} {program : ι → Action Unit} {db : Db} {world : World}
  {s : State engine ι} {w : Wallet}

theorem Backed.committed {i : ι} (reached : Reaches D (.starting db world program) history s)
    (backed : Backed w (s.procs i).calls) :
    Earlier D (.starting db world program) s
      (fun (middle : State engine ι) => middle.db.wallets.find w.id = some w) := by
  cases backed with
  | found unwritten read =>
      refine (reached.seen_earlier unwritten read).mono (fun middle ⟨env, executed⟩ => ?_)
      exact Table.find_of_mem (Table.lookup_iff.mp (Option.some.inj executed)).1
  | stored stores spared sound committed =>
      have stable : ∀ rows rows' : Db, same (.wallet w.id) rows rows' → rows.wallets.find w.id = some w →
          rows'.wallets.find w.id = some w := fun _ _ agrees found => agrees.symm.trans found
      exact reached.commits_seen engine_local stable (fun _ _ drawn executed => stores.shows drawn executed)
        stores.locks spared sound committed

/-- A wallet in the cache was there, or is written now. -/
theorem remote_walletInfo {c : Remote} {env : Env} {accountId : Int}
    (cached : (remote c env world).2.walletInfo accountId = some w) :
    world.walletInfo accountId = some w ∨ c = .setWalletInfo accountId w := by
  cases c
  case setWalletInfo owner info =>
    by_cases same : accountId = owner
    · simp only [remote, same, Function.update_self, Option.some.injEq] at cached
      exact .inr (by rw [same, cached])
    · simp only [remote, Function.update_of_ne same] at cached
      exact .inl cached
  case getWalletInfo owner =>
    simp only [remote] at cached
    split at cached
    · by_cases same : accountId = owner
      · simp only [same, Function.update_self, reduceCtorEq] at cached
      · simp only [Function.update_of_ne same] at cached
        exact .inl cached
    · exact .inl cached
  case fetchBalanceChange | getApiKeyInfo | fetchSpawned | fetchHealthCheck =>
    simp only [remote] at cached
    split at cached <;> exact .inl cached
  all_goals exact .inl cached

/-- Each wallet in the cache is the committed row of its account. -/
def Backs (db : Db) (world : World) : Prop :=
  ∀ accountId w, world.walletInfo accountId = some w → db.wallets.lookup accountId = some w

/-- Whatever is in the cache of wallets was, at some time, the committed row of its account. -/
theorem Reaches.cached_wallet {Q : ι → List (Call engine) → Prop}
    (each : (State.starting db world program).Paths (fun _ => Caches) Q) (backs : Backs db world)
    (reached : Reaches D (.starting db world program) history s) {accountId : Int}
    (cached : s.world.walletInfo accountId = some w) :
    Earlier D (.starting db world program) s (fun middle => middle.db.wallets.lookup accountId = some w) := by
  induction reached with
  | start => exact .now .start (backs accountId w cached)
  | @step _ s i _ _ reached stepped ih =>
      have path := reached.paths each i
      obtain ⟨op, next, reply, world', ready, answers, _, _, _, rfl⟩ := stepped.advanced
      rw [ready] at path
      rcases answers with ⟨_, _, rfl⟩ | ⟨_, env, rfl, _⟩
      · exact (ih cached).step stepped
      · cases op with
        | remote c =>
            rcases remote_walletInfo cached with before | rfl
            · exact (ih before).step stepped
            · obtain ⟨owner, backed⟩ := path.1
              refine ((backed.committed reached).step stepped).mono (fun middle found => ?_)
              exact Table.lookup_iff.mpr ⟨(Table.find_iff.mp found).1, owner⟩
        | begin | sql | commit | auto => exact (ih cached).step stepped

end Runs

end LLMPool.Billing
