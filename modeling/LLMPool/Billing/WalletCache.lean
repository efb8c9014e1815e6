import LLMPool.Billing.LostUpdate
import LLMPool.ProxyViews.Helpers
import LLMPool.Transactions.Alone

/-! The wallets cached in Redis: a settlement commits, and then caches the wallet
that it has stored, in an order that nothing ties to the order of the commits. -/
namespace LLMPool.Billing
open Relational Transactions

/-- The wallet row that a write is to. -/
def Write.wallet : Write → Option Int
  | .insertWallet w => some w.id
  | .setWalletBalance id _ => some id
  | _ => none

section Rows
variable {k : Int}

theorem lookup_apply (w : Write) (db : Db) (accountId : Int) (only : ∀ j ∈ Write.wallet w, j = k) :
    (apply w db).wallets.lookup accountId = db.wallets.lookup accountId ∨
      ∃ row, (apply w db).wallets.find k = some row ∧ row.accountId = accountId := by
  cases w
  case insertWallet w =>
    obtain rfl : w.id = k := only _ rfl
    by_cases owner : w.accountId = accountId
    · by_cases free : db.wallets.free w
      · exact .inr ⟨w, Table.find_insert_self free, owner⟩
      · simp [apply, Table.insert, free]
    · exact .inl (Table.lookup_insert_ne _ owner)
  case setWalletBalance id balance =>
    obtain rfl : id = k := only _ rfl
    simp only [apply, Table.lookup_modify, Table.find_modify]
    cases known : db.wallets.lookup accountId with
    | none => exact .inl rfl
    | some w =>
        obtain ⟨member, owner⟩ := Table.lookup_iff.mp known
        by_cases here : key w = id
        · have found := Table.find_of_mem member
          rw [here] at found
          refine .inr ⟨withBalance balance w, ?_, owner⟩
          simp [found, Table.at_key, here]
        · simp [Table.at_key, here]
  all_goals exact .inl rfl

/-- Writes to one wallet row change what an account's lookup finds only if the row
is that account's. -/
theorem lookup_applyAll (ws : List Write) (db : Db) (accountId : Int) (only : ∀ w ∈ ws, ∀ j ∈ Write.wallet w, j = k) :
    (engine.applyAll ws db).wallets.lookup accountId = db.wallets.lookup accountId ∨
      ∃ row, (engine.applyAll ws db).wallets.find k = some row ∧ row.accountId = accountId := by
  induction ws generalizing db with
  | nil => exact .inl rfl
  | cons w ws ih =>
      have first := lookup_apply w db accountId (only w List.mem_cons_self)
      have rest := ih (apply w db) (fun v member => only v (List.mem_cons_of_mem _ member))
      rcases rest with same | changed
      · rcases first with still | ⟨row, found, owner⟩
        · exact .inl (same.trans still)
        · obtain ⟨row', found', kept⟩ := (grows_applyAll ws (apply w db)).wallets k row found
          exact .inr ⟨row', found', kept.accountId.trans owner⟩
      · exact .inr changed

end Rows

/-- The wallet that a settlement's calls have stored, or have found as it was. -/
def walletReturned : List (Call engine) → Option Wallet
  | [] => none
  | ⟨.sql (.findAccountWallet _), .ok (some w)⟩ :: _ => some w
  | ⟨.sql (.insertWallet _ _), .ok w⟩ :: _ => some w
  | ⟨.sql (.updateWalletBalance _ _), .ok (some w)⟩ :: _ => some w
  | _ :: older => walletReturned older

/-- An execution is between its commit and its cache write. -/
def Between (calls : List (Call engine)) : Prop := ∃ older, calls = ⟨.commit, .ok ()⟩ :: older

/-- The open transaction has written to one wallet row, the one that it returns. -/
def OneWallet (calls : List (Call engine)) : Prop :=
  ∃ w, walletReturned calls = some w ∧
    ∀ x ∈ (session calls).writes, ∀ j ∈ Write.wallet x, j = w.id

/-- The order of a settlement's calls: right after its commit comes the cache write
of the wallet that it returns, and nowhere else. -/
def CachesLast (calls : List (Call engine)) : Op engine → Prop
  | .remote c => Between calls ∧ ∃ w, walletReturned calls = some w ∧ c = .setWalletInfo w.accountId w
  | .commit => ¬Between calls ∧ OneWallet calls
  | .begin | .sql _ => ¬Between calls
  | .auto _ => False

section Paths
variable {calls : List (Call engine)} {w : Wallet}

theorem not_between {op : Op engine} {reply : Except Failure op.Reply} (other : op ≠ .commit) :
    ¬Between (⟨op, reply⟩ :: calls) := by
  rintro ⟨older, same⟩
  exact other (congrArg Call.op (List.cons.inj same).1)

/-- The open transaction holds the wallet that it will return. -/
structure Holding (w : Wallet) (calls : List (Call engine)) : Prop where
  between : ¬Between calls
  returned : walletReturned calls = some w
  own : ∀ x ∈ (session calls).writes, ∀ j ∈ Write.wallet x, j = w.id

theorem Holding.oneWallet (holding : Holding w calls) : OneWallet calls :=
  ⟨w, holding.returned, holding.own⟩

/-- What a query of a settlement leaves. -/
def Held (w : Wallet) (result : Except SqlxError α) (calls : List (Call engine)) : Prop :=
  match result with
  | .ok _ => Holding w calls
  | .error _ => ¬Between calls

theorem Holding.query {s : Stmt} (holding : Holding w calls)
    (returned : ∀ answer, walletReturned (⟨.sql s, .ok answer⟩ :: calls) = walletReturned calls)
    (own : ∀ answer, ∀ x ∈ writes s answer, Write.wallet x = none) :
    (Query.sql s).run.path CachesLast (Held w) calls := by
  refine path_query holding.between ?_ (fun _ => not_between (by rintro ⟨⟩))
  intro answer _ _
  refine ⟨not_between (by rintro ⟨⟩), (returned answer).trans holding.returned, ?_⟩
  intro x member j here
  rw [session_answered] at member
  rcases List.mem_append.mp member with before | now
  · exact holding.own x before j here
  · rw [own answer x now] at here
    cases here

theorem caches_accountWallet (accountId : Int) (fresh : ¬Between calls)
    (unwritten : (session calls).writes = []) :
    (accountWalletWithTx accountId).run.path CachesLast (fun result calls =>
      match result with
      | .ok w => Holding w calls
      | .error _ => ¬Between calls) calls := by
  rw [accountWalletWithTx, path_run_bind]
  refine path_query fresh ?_ (fun _ => not_between (by rintro ⟨⟩))
  rintro (_ | w) _ _
  · refine path_query (not_between (by rintro ⟨⟩)) ?_ (fun _ => not_between (by rintro ⟨⟩))
    intro w _ _
    refine ⟨not_between (by rintro ⟨⟩), rfl, ?_⟩
    intro x member j here
    change x ∈ ((session calls).writes ++ []) ++ [Write.insertWallet w] at member
    rw [unwritten] at member
    obtain rfl := List.mem_singleton.mp member
    cases here
    rfl
  · refine ⟨not_between (by rintro ⟨⟩), rfl, ?_⟩
    intro x member
    change x ∈ (session calls).writes ++ [] at member
    rw [unwritten] at member
    cases member

theorem caches_charge (accountId : Int) (content : BalanceChangeContent)
    (holding : Holding w calls) :
    (chargeWithTx w accountId content).run.path CachesLast (Held w) calls := by
  cases content with
  | deposit amount | addCredit amount | withdraw amount => exact holding
  | spendToken spend =>
      refine path_seq (holding.query (fun _ => rfl) (by simp [writes])) ?_ (fun _ _ stopped => stopped)
      rintro (_ | subscription) calls holding
      · exact holding
      · exact path_seq (Holding.query holding (fun _ => rfl) (by simp [writes, Write.wallet]))
          (fun _ _ holding => holding) (fun _ _ stopped => stopped)

theorem caches_storeBalance (balance : BigDecimal) (holding : Holding w calls) :
    (storeBalanceWithTx w balance).run.path CachesLast (fun result calls =>
      match result with
      | .ok stored => Holding stored calls
      | .error _ => ¬Between calls) calls := by
  rw [storeBalanceWithTx]
  split
  · rw [path_run_bind]
    refine path_query holding.between ?_ (fun _ => not_between (by rintro ⟨⟩))
    rintro (_ | stored) _ ⟨env, db, executed⟩
    · exact not_between (by rintro ⟨⟩)
    · have here : stored.id = w.id := by
        obtain ⟨row, found, rfl⟩ := Option.map_eq_some_iff.mp (Option.some.inj executed)
        exact (Table.find_iff.mp found).2
      refine ⟨not_between (by rintro ⟨⟩), rfl, ?_⟩
      intro x member j at_j
      rw [session_answered] at member
      rcases List.mem_append.mp member with before | now
      · exact (holding.own x before j at_j).trans here.symm
      · obtain rfl := List.mem_singleton.mp now
        cases at_j
        exact here.symm
  · exact holding

theorem caches_applyBalanceChange (c : BalanceChange) (content : BalanceChangeContent)
    (fresh : ¬Between calls) (unwritten : (session calls).writes = []) :
    (applyBalanceChangeWithTx c content).run.path CachesLast (fun result calls =>
      match result with
      | .ok w => Holding w calls
      | .error _ => ¬Between calls) calls := by
  refine path_seq (caches_accountWallet c.accountId fresh unwritten) ?_ (fun _ _ stopped => stopped)
  intro wallet calls holding
  refine path_seq (caches_charge c.accountId content holding) ?_ (fun _ _ stopped => stopped)
  intro charged calls holding
  refine path_seq (caches_storeBalance charged.1 holding) ?_ (fun _ _ stopped => stopped)
  intro stored calls holding
  exact path_seq (Holding.query holding (fun _ => rfl) (by simp [writes, Write.wallet]))
    (fun _ _ holding => holding) (fun _ _ stopped => stopped)

theorem caches_settleBalanceChange (task : BalanceChangeTask) (fresh : ¬Between calls) :
    (settleBalanceChange task).path CachesLast (fun _ calls => ¬Between calls) calls := by
  refine path_bind.mpr (path_op (P := CachesLast) fresh ?_)
  rintro (reason | ⟨⟩) _
  · exact not_between (by rintro ⟨⟩)
  dsimp only
  rw [path_bind]
  refine path_query (P := CachesLast) (not_between (by rintro ⟨⟩)) ?_ (fun _ => not_between (by rintro ⟨⟩))
  rintro (_ | c) _ _
  · exact not_between (by rintro ⟨⟩)
  dsimp only
  split
  · exact not_between (by rintro ⟨⟩)
  split
  · exact not_between (by rintro ⟨⟩)
  · rename_i content parsed
    rw [path_bind]
    refine path_mono (fun _ _ made => made) ?_
      (caches_applyBalanceChange c content (not_between (by rintro ⟨⟩)) rfl)
    rintro (e | w) calls held
    · exact held
    have holding : Holding w calls := held
    refine path_bind.mpr (path_op (P := CachesLast) ⟨holding.between, holding.oneWallet⟩ ?_)
    rintro (reason | ⟨⟩) _
    · rintro ⟨older, same⟩
      cases same
    · refine path_bind.mpr (path_op (P := CachesLast) ⟨⟨calls, rfl⟩, w, holding.returned, rfl⟩ ?_)
      exact fun _ _ => not_between (by rintro ⟨⟩)

end Paths

/-- Each cache write stores the wallet as it is committed. -/
def cacheCurrent (_ : List (Call engine)) (op : Op engine) (db : Db) : Prop :=
  match op with
  | .remote (.setWalletInfo accountId info) => db.wallets.lookup accountId = some info
  | _ => True

instance (calls : List (Call engine)) (op : Op engine) (db : Db) :
    Decidable (cacheCurrent calls op db) := by
  rcases op with _ | s | _ | s | c
  case remote =>
    rcases c
    case setWalletInfo accountId info =>
      exact inferInstanceAs (Decidable (db.wallets.lookup accountId = some info))
    all_goals exact instDecidableTrue
  all_goals exact instDecidableTrue

/-- A call to the database. -/
def ToDatabase : Op engine → Prop
  | .remote _ => False
  | _ => True

/-- No Redis failure, and each cache write stores the wallet as it is committed. -/
def currentCaching : Discipline engine := ⟨ToDatabase, False, cacheCurrent⟩

section Runs
variable {ι : Type} {db : Db} {world : World} {task : ι → BalanceChangeTask}
  {s s' : State engine ι} {i : ι} {accountId : Int}

/-- The account's wallet in the cache is the committed one, if there is any. -/
def Cached (accountId : Int) (db : Db) (world : World) : Prop :=
  world.walletInfo accountId = none ∨ world.walletInfo accountId = db.wallets.lookup accountId

/-- Process `i` has committed the account's wallet and has yet to cache it. -/
def YetToCache (accountId : Int) (s : State engine ι) (i : ι) : Prop :=
  Between (s.procs i).calls ∧ ∃ w row, walletReturned (s.procs i).calls = some w ∧
    s.db.wallets.find w.id = some row ∧ row.accountId = accountId

/-- Every wallet in the cache is the committed one, or is about to be written. -/
def Coherent (s : State engine ι) : Prop :=
  ∀ accountId, Cached accountId s.db s.world ∨ ∃ i, YetToCache accountId s i

theorem YetToCache.grows (yet : YetToCache accountId s i) (same : s'.procs i = s.procs i)
    (grows : Grows s.db s'.db) : YetToCache accountId s' i := by
  obtain ⟨between, w, row, returned, found, owner⟩ := yet
  obtain ⟨row', found', kept⟩ := grows.wallets w.id row found
  rw [← same] at between returned
  exact ⟨between, w, row', returned, found', kept.accountId.trans owner⟩

/-- A step of a process that has nothing to cache, if it leaves the account's wallet
and its cache entry alone. -/
theorem Coherent.silent (coherent : Coherent s) (idle : ¬Between (s.procs i).calls)
    (others : ∀ j, j ≠ i → s'.procs j = s.procs j) (grows : Grows s.db s'.db)
    (row : s'.db.wallets.lookup accountId = s.db.wallets.lookup accountId)
    (entry : s'.world.walletInfo = s.world.walletInfo) :
    Cached accountId s'.db s'.world ∨ ∃ i, YetToCache accountId s' i := by
  rcases coherent accountId with cached | ⟨j, yet⟩
  · left
    rw [Cached, entry, row]
    exact cached
  · have other : j ≠ i := by
      rintro rfl
      exact idle yet.1
    exact .inr ⟨j, yet.grows (others j other) grows⟩

variable [DecidableEq ι]

theorem Step.coherent {ws : List Write} (paths : s.Paths (fun _ => CachesLast) (fun _ calls => ¬Between calls))
    (coherent : Coherent s) (stepped : Step currentCaching s i ws s') : Coherent s' := by
  have grows := Step.grows stepped
  have path := paths i
  obtain ⟨op, next, reply, world, ready, answers, _, _, _, rfl⟩ := stepped.advanced
  rw [ready] at path
  have here : (s.procs i).session = session (s.procs i).calls := by
    simp only [Proc.session, ready]
  have others : ∀ j, j ≠ i → (s.advance i op next reply world).procs j = s.procs j :=
    fun j other => by simp only [State.advance, Function.update_of_ne other]
  have moved : ToDatabase op → world = s.world := by
    intro inside
    rcases answers with ⟨_, _, rfl⟩ | ⟨_, env, rfl, _⟩
    · rfl
    · cases op
      case remote => exact inside.elim
      all_goals rfl
  have still : op.commits (s.procs i).session reply = [] →
      (s.advance i op next reply world).db = s.db := by
    intro nothing
    simp only [State.advance, nothing]
    rfl
  intro accountId
  have silent : ¬Between (s.procs i).calls → ToDatabase op →
      op.commits (s.procs i).session reply = [] →
      Cached accountId (s.advance i op next reply world).db (s.advance i op next reply world).world ∨
        ∃ j, YetToCache accountId (s.advance i op next reply world) j := fun idle inside nothing =>
    coherent.silent idle others grows (by rw [still nothing]) (congrArg World.walletInfo (moved inside))
  cases op with
  | begin => exact silent path.1 trivial (Op.commits_begin (E := engine) _ reply)
  | sql stmt => exact silent path.1 trivial (Op.commits_sql (E := engine) _ reply)
  | auto stmt => exact path.1.elim
  | commit =>
      obtain ⟨idle, w, returned, own⟩ := path.1
      cases reply with
      | error reason => exact silent idle trivial rfl
      | ok answer =>
          have written : ∀ x ∈ Op.commits (s.procs i).session .commit (.ok answer),
              ∀ j ∈ Write.wallet x, j = w.id := by
            intro x member
            rw [here] at member
            rcases Op.mem_commits member with before | never
            · exact own x before
            · cases never
          rcases lookup_applyAll _ s.db accountId written with same | ⟨row, found, owner⟩
          · exact coherent.silent idle others grows same (congrArg World.walletInfo (moved trivial))
          · refine .inr ⟨i, ?_, w, row, ?_, found, owner⟩
            · simp only [State.advance, Function.update_self]
              exact ⟨_, rfl⟩
            · simp only [State.advance, Function.update_self]
              exact returned
  | remote c =>
      obtain ⟨_, w, returned, rfl⟩ := path.1
      rcases answers with ⟨faulty, _⟩ | ⟨current, env, rfl, _⟩
      · exact faulty.elim
      · have row : s.db.wallets.lookup w.accountId = some w := current
        by_cases own : accountId = w.accountId
        · subst own
          left
          right
          rw [still (Op.commits_remote (E := engine) _ reply), row]
          simp only [State.advance, Op.moves, engine, remote, Function.update_self]
        · rcases coherent accountId with cached | ⟨j, yet⟩
          · left
            rw [Cached, still (Op.commits_remote (E := engine) _ reply)]
            simp only [State.advance, Op.moves, engine, remote, Function.update_of_ne own]
            exact cached
          · have other : j ≠ i := by
              rintro rfl
              obtain ⟨_, w', row', returned', found, owner⟩ := yet
              cases returned.symm.trans returned'
              obtain ⟨member, _⟩ := Table.lookup_iff.mp row
              cases found.symm.trans (Table.find_of_mem member)
              exact own owner.symm
            exact .inr ⟨j, yet.grows (others j other) grows⟩

omit [DecidableEq ι] in
theorem deliveries_paths : (deliveries db world task).Paths (fun _ => CachesLast)
    (fun _ calls => ¬Between calls) :=
  fun i => caches_settleBalanceChange (task i) (fun ⟨_, never⟩ => nomatch never)

theorem deliveries_coherent (cached : ∀ accountId, Cached accountId db world)
    (reached : Reaches currentCaching (deliveries db world task) history s) : Coherent s := by
  induction reached with
  | start => exact fun accountId => .inl (cached accountId)
  | step reached stepped ih => exact Step.coherent (reached.paths deliveries_paths) ih stepped

/-- What the wallet check reads, while no other process runs. -/
theorem alone_accountWallet_cached {env : Env} {m : Solo engine}
    (cached : Cached accountId m.db m.world) :
    ((ProxyViews.accountWallet accountId).alone env m).map Prod.fst =
      some (.ok (m.db.wallets.lookup accountId)) := by
  obtain ⟨calls, db, world⟩ := m
  have read : (remote (.getWalletInfo accountId) env world).1 = none ∨
      (remote (.getWalletInfo accountId) env world).1 = db.wallets.lookup accountId := by
    simp only [remote]
    split
    · exact .inl rfl
    · exact cached
  have asked : (Op.remote (E := engine) (.getWalletInfo accountId)).alone env ⟨calls, db, world⟩ =
      some (.ok (remote (.getWalletInfo accountId) env world).1, {
        calls := ⟨.remote (.getWalletInfo accountId),
          .ok (remote (.getWalletInfo accountId) env world).1⟩ :: calls
        db := db
        world := (remote (.getWalletInfo accountId) env world).2 }) := rfl
  rw [ProxyViews.accountWallet, alone_bind, Prog.remote, Prog.op, Prog.alone, asked]
  generalize remote (.getWalletInfo accountId) env world = answer at read
  obtain ⟨info, world'⟩ := answer
  cases info with
  | none => rfl
  | some w =>
      rcases read with never | same
      · cases never
      · exact congrArg (fun found => some (Except.ok found)) same

/-- If each cache write stores the wallet as it is committed, then whenever no
execution is between its commit and its cache write the cached wallets are the
committed ones, and the wallet check reads what the database holds. -/
theorem wallet_cache_coherent (cached : ∀ accountId, Cached accountId db world)
    (reached : Reaches currentCaching (deliveries db world task) history s)
    (quiet : ∀ i, ¬Between (s.procs i).calls) (accountId : Int) :
    (∀ w, s.world.walletInfo accountId = some w → s.db.wallets.lookup accountId = some w) ∧
    ∀ env calls, ((ProxyViews.accountWallet accountId).alone env ⟨calls, s.db, s.world⟩).map Prod.fst =
      some (.ok (s.db.wallets.lookup accountId)) := by
  have here : Cached accountId s.db s.world := by
    rcases deliveries_coherent cached reached accountId with here | ⟨i, between, _⟩
    · exact here
    · exact absurd between (quiet i)
  refine ⟨?_, fun env calls => alone_accountWallet_cached here⟩
  intro w found
  rcases here with missing | same
  · rw [missing] at found
    cases found
  · rw [← same, found]

end Runs

/-- Both settlements commit before the first caches its wallet, and the second has
cached its own by then. -/
theorem a_stale_wallet_is_cached : ∃ history s,
    Reaches (Discipline.any False) (deliveries twoDeposits .empty both) history s ∧
    (∀ i, (s.procs i).Returned) ∧ s.world.walletInfo 1 = some ⟨1, 1, 110⟩ ∧
    s.db.wallets.lookup 1 = some ⟨1, 1, 115⟩ :=
  State.exists_of_play _ _ (schedule [0, 0, 0, 0, 0, 0, 1, 1, 1, 1, 1, 1, 1, 0]) _
    (by decide +kernel)

instance : Discipline.Decides currentCaching where
  faults op := by
    rcases op with _ | s | _ | s | c
    case remote => exact instDecidableFalse
    all_goals exact instDecidableTrue
  serial := inferInstanceAs (Decidable False)
  admits calls op db := inferInstanceAs (Decidable (cacheCurrent calls op db))

/-- The settlements cache their wallets in the order of their commits. -/
theorem wallet_cache_coherent_in_order : ∃ history s,
    Reaches currentCaching (deliveries twoDeposits .empty both) history s ∧
    s.world.walletInfo 1 = some ⟨1, 1, 115⟩ ∧ s.db.wallets.lookup 1 = some ⟨1, 1, 115⟩ := by
  obtain ⟨history, s, reached, quiet, info⟩ := State.exists_of_play
    currentCaching (deliveries twoDeposits .empty both)
    (schedule [0, 0, 0, 0, 0, 0, 0, 1, 1, 1, 1, 1, 1, 1])
    (fun s => (∀ i, (s.procs i).Returned) ∧ s.world.walletInfo 1 = some ⟨1, 1, 115⟩)
    (by decide +kernel)
  have ended : ∀ i, ¬Between (s.procs i).calls := by
    intro i
    have path := reached.paths deliveries_paths i
    rw [quiet i] at path
    exact path
  exact ⟨history, s, reached, info,
    (wallet_cache_coherent (fun _ => .inl rfl) reached ended 1).1 _ info⟩

end LLMPool.Billing
