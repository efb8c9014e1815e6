import LLMPool.Billing.Settlement

/-! The settlement handler, call by call: whatever interleaves with it, what it
commits is one settlement of its own balance change. -/
namespace LLMPool.Billing
open Relational Transactions

variable {D : Discipline engine} {G : Db → Db → Prop} {S : Settlement} {db₀ db : Db}
  {calls : List (Call engine)}

/-- A settlement under way; `db₀` is what its transaction saw first. -/
structure Settlement.At (D : Discipline engine) (S : Settlement) (db₀ : Db)
    (calls : List (Call engine)) (db : Db) : Prop where
  session : Transactions.session calls = S.session
  ready : S.Ready D db
  read : walletRead calls = some S.wallet
  still : D.serial → db = db₀

theorem Settlement.At.next (here : S.At D db₀ calls db)
    (between : Interferes D growth (Transactions.session calls) db db') : S.At D db₀ calls db' where
  session := here.session
  ready := here.ready.stable between (fun l held => by rwa [here.session])
  read := here.read
  still serial := (between.alone serial (by rw [here.session]; rfl)).trans (here.still serial)

/-- In a healthy run every statement that a settlement makes is answered. -/
theorem not_healthy {s : Stmt} {t : Session engine} (running : session calls = t)
    (isOpen : t.isOpen = true) (sound : t.failed = false) (refused : Refused D calls db s reason)
    (answers : walletCurrent calls (.sql s) db → ∀ env, exec s env (t.view db) ≠ none) :
    ¬Healthy D := by
  subst running
  rintro ⟨faultless, current⟩
  rcases refused_cases isOpen sound refused with faulty | ⟨admitted, env, unanswered⟩
  · exact faultless _ faulty
  · exact answers (current _ _ _ admitted) env unanswered

theorem wp_accountWallet {c : BalanceChange} {content : BalanceChangeContent}
    (running : session calls = ⟨true, false, [], [.balanceChange c.id]⟩)
    (found : db.balanceChanges.find c.id = some c) (unapplied : c.isApplied = false)
    (parsed : BalanceChangeContent.fromValue c.content = .ok content)
    (still : D.serial → db = db₀) :
    (accountWalletWithTx c.accountId).run.wp D growth G (fun result calls db =>
      match result with
      | .ok w => ∃ created, Settlement.At D ⟨c, content, w, created, none, false⟩ db₀ calls db ∧
          (D.serial → created = false → db₀.wallets.lookup c.accountId = some w)
      | .error _ => ¬Healthy D) calls db := by
  have kept : ∀ {older : List (Call engine)} {db db' : Db},
      session older = ⟨true, false, [], [.balanceChange c.id]⟩ →
      Interferes D growth (session older) db db' → db.balanceChanges.find c.id = some c →
      (D.serial → db = db₀) →
      db'.balanceChanges.find c.id = some c ∧ (D.serial → db' = db₀) := by
    intro older db db' running between found still
    have locked : Lock.balanceChange c.id ∈ (session older).held := by simp [running]
    have isOpen : (session older).isOpen = true := by rw [running]
    exact ⟨(between.same _ locked).symm.trans found,
      fun serial => (between.alone serial isOpen).trans (still serial)⟩
  rw [accountWalletWithTx, wp_run_bind]
  refine wp_query ?_ ?_
  · intro db' env answer between _ _ _ executed
    obtain ⟨found, still⟩ := kept running between found still
    rw [running] at executed
    have known : db'.wallets.lookup c.accountId = answer := Option.some.inj executed
    cases answer with
    | some w =>
        refine wp_run_pure.mpr ⟨false, ⟨?_, ?_, rfl, still⟩, ?_⟩
        · rw [session_answered, running]
          rfl
        · have owner : w.accountId = c.accountId := (Table.lookup_iff.mp known).2
          exact ⟨found, unapplied, parsed, owner, fun never => absurd never Bool.false_ne_true,
            fun s never => absurd never (Option.not_mem_none s),
            fun _ never => absurd never Bool.false_ne_true⟩
        · intro serial _
          rw [← still serial]
          exact known
    | none =>
        have running : session (E := engine) (⟨.sql (.findAccountWallet c.accountId), .ok none⟩ :: calls) =
            ⟨true, false, [], [.balanceChange c.id]⟩ := by
          rw [session_answered, running]
          rfl
        refine wp_query ?_ ?_
        · intro db'' env w between _ _ possible executed
          obtain ⟨found, still⟩ := kept running between found still
          rw [running] at executed possible
          change (if db''.wallets.lookup c.accountId = none then _ else _) = _ at executed
          change decide (0 < env.serial ∧ db''.wallets.find env.serial = none) = true at possible
          split at executed
          · rename_i vacant
            cases executed
            refine ⟨true, ⟨?_, ?_, rfl, still⟩, fun _ never => absurd never.symm Bool.false_ne_true⟩
            · rw [session_answered, running]
              rfl
            · exact ⟨found, unapplied, parsed, rfl,
                fun _ => ⟨⟨(of_decide_eq_true possible).2, vacant⟩, rfl⟩,
                fun s never => absurd never (Option.not_mem_none s),
                fun _ never => absurd never Bool.false_ne_true⟩
          · cases executed
        · intro db'' reason between refused
          refine not_healthy running rfl rfl refused (fun vacant env => ?_)
          change db''.wallets.lookup c.accountId = none at vacant
          change (if db''.wallets.lookup c.accountId = none then _ else _) ≠ none
          rw [if_pos vacant]
          exact Option.some_ne_none _
  · intro db' reason between refused
    exact not_healthy running rfl rfl refused (fun _ _ => Option.some_ne_none _)

theorem pending_subscriptions (uncharged : S.charged = none) (db : Db) :
    (engine.applyAll S.pending db).subscriptions = db.subscriptions := by
  obtain ⟨change, content, wallet, created, charged, stored⟩ := S
  subst uncharged
  cases created <;> cases stored <;> rfl

theorem pending_wallets (found : S.created = false) (unstored : S.stored = false) (db : Db) :
    (engine.applyAll S.pending db).wallets = db.wallets := by
  obtain ⟨change, content, wallet, created, charged, stored⟩ := S
  subst found unstored
  cases charged <;> rfl

/-- The subscription that is charged is the one that `get_current_subscription`
returns on these rows. -/
def Settlement.Selected (S : Settlement) (db : Db) : Prop :=
  ∀ spend, S.content = .spendToken spend →
    ∃ env, S.charged = currentSubscription db env S.change.accountId spend.consumedTokens

theorem currentSubscription_spec (chosen : currentSubscription db env accountId tokens = some s) :
    db.subscriptions.find s.id = some s ∧ s.accountId = accountId ∧ s.status = .active ∧
      s.usedTotalTokens + tokens ≤ s.totalTokenLimit := by
  obtain ⟨member, _⟩ := Table.topBy_mem chosen
  obtain ⟨inside, fits⟩ := List.mem_filter.mp member
  obtain ⟨owner, active, _, _, quota⟩ := of_decide_eq_true fits
  exact ⟨Table.find_of_mem inside, owner, active, quota⟩

theorem walletEffect_charged (s : Subscription) (spend : SpendToken) :
    walletEffect s.id (.spendToken spend) = 0 := if_neg s.id_pos.ne'

theorem wp_charge (here : S.At D db₀ calls db) (uncharged : S.charged = none)
    (unstored : S.stored = false) :
    (chargeWithTx S.wallet S.change.accountId S.content).run.wp D growth G (fun result calls db =>
      match result with
      | .ok (newBalance, subscriptionId) => ∃ charged,
          Settlement.At D { S with charged := charged } db₀ calls db ∧
          newBalance = { S with charged := charged }.newBalance ∧
          subscriptionId = { S with charged := charged }.subscriptionId ∧
          (D.serial → Settlement.Selected { S with charged := charged } db₀)
      | .error _ => ¬Healthy D) calls db := by
  obtain ⟨change, content, wallet, created, charged, stored⟩ := S
  obtain rfl : charged = none := uncharged
  obtain rfl : stored = false := unstored
  cases content with
  | deposit amount | addCredit amount | withdraw amount =>
      refine wp_run_pure.mpr ⟨none, here, ?_, rfl, fun _ spend never => ?_⟩
      · simp only [Settlement.newBalance, walletEffect, sub_eq_add_neg]
      · cases never
  | spendToken spend =>
      simp only [chargeWithTx, getCurrentSubscriptionWithTx]
      rw [wp_run_bind]
      refine wp_query ?_ ?_
      · intro db' env answer between _ _ _ executed
        have here' := here.next between
        rw [here.session] at executed
        have chosen : currentSubscription db' env change.accountId spend.consumedTokens = answer :=
          (congrArg (fun t : Table Subscription =>
            Table.topBy Subscription.sortOrder env.pick
              (t.rows.filter (eligible env.now change.accountId spend.consumedTokens)))
            (pending_subscriptions rfl db')).symm.trans (Option.some.inj executed)
        have selected : D.serial → ∃ env, answer =
            currentSubscription db₀ env change.accountId spend.consumedTokens := by
          intro serial
          rw [← here'.still serial]
          exact ⟨env, chosen.symm⟩
        cases answer with
        | none =>
            refine wp_run_pure.mpr ⟨none, ⟨?_, here'.ready, here'.read, here'.still⟩, ?_, rfl, ?_⟩
            · rw [session_answered, here.session]
              simp only [writes, locks, List.append_nil, Settlement.session]
            · simp only [Settlement.newBalance, Settlement.subscriptionId, walletEffect, if_true,
                SpendToken.spendAmount, sub_eq_add_neg]
            · intro serial spend' same
              cases same
              exact selected serial
        | some s =>
            obtain ⟨row, owner, _, quota⟩ := currentSubscription_spec chosen
            have selecting : Settlement.At D ⟨change, .spendToken spend, wallet, created, none, false⟩
                db₀ (⟨.sql (.getCurrentSubscription change.accountId
                  (spend.inputTokens + spend.outputTokens)), .ok (some s)⟩ :: calls) db' := by
              refine ⟨?_, here'.ready, here'.read, here'.still⟩
              rw [session_answered, here.session]
              simp only [writes, locks, List.append_nil, Settlement.session]
            simp only [incrementSubscriptionUsageWithTx]
            rw [wp_run_bind]
            refine wp_query ?_ ?_
            · intro db'' _ _ between' admitted _ _ _
              have here'' := selecting.next between'
              obtain ⟨s', row', sameRow⟩ := between'.rel.subscriptions s.id s row
              refine wp_run_pure.mpr ⟨some s, ⟨?_, ?_, here''.read, here''.still⟩, ?_, rfl, ?_⟩
              · rw [session_answered, selecting.session]
                cases created <;> rfl
              · refine { here''.ready with charges := ?_, current := ?_ }
                · rintro _ ⟨rfl⟩
                  refine ⟨⟨spend, rfl⟩, owner, quota, s', row', sameRow, fun current => ?_⟩
                  obtain ⟨now, found, unchanged⟩ := current _ _ _ admitted s rfl
                  cases found.symm.trans row'
                  exact unchanged
                · exact fun _ never => absurd never Bool.false_ne_true
              · simp only [Settlement.newBalance, Settlement.subscriptionId, walletEffect_charged,
                  add_zero]
              · intro serial spend' same
                cases same
                exact selected serial
            · intro db'' reason between' refused
              exact not_healthy selecting.session rfl rfl refused (fun _ _ => Option.some_ne_none _)
      · intro db' reason between refused
        exact not_healthy here.session rfl rfl refused (fun _ _ => Option.some_ne_none _)

theorem wp_storeBalance (here : S.At D db₀ calls db) (unstored : S.stored = false) :
    (storeBalanceWithTx S.wallet S.newBalance).run.wp D growth G (fun result calls db =>
      match result with
      | .ok _ => ∃ stored, Settlement.At D { S with stored := stored } db₀ calls db ∧
          (stored = true ↔ S.newBalance ≠ S.wallet.balance)
      | .error _ => ¬Healthy D) calls db := by
  obtain ⟨change, content, wallet, created, charged, stored⟩ := S
  obtain rfl : stored = false := unstored
  generalize amount : Settlement.newBalance ⟨change, content, wallet, created, charged, false⟩ = balance
  rw [storeBalanceWithTx]
  by_cases different : balance ≠ wallet.balance
  · rw [if_pos different, wp_run_bind]
    refine wp_query ?_ ?_
    · intro db' env answer between admitted _ _ executed
      have here' := here.next between
      refine wp_fetchOne ?_ ?_
      · rintro w rfl
        refine ⟨true, ⟨?_, ?_, here'.read, here'.still⟩, by simpa using different⟩
        · rw [session_answered, here.session]
          subst amount
          cases created <;> cases charged <;> rfl
        · refine { here'.ready with current := ?_ }
          intro current _ found
          have row := current _ _ _ admitted wallet here.read
          rw [here.session] at row
          exact (congrArg (fun t : Table Wallet => t.find wallet.id)
            (pending_wallets (S := ⟨change, content, wallet, created, charged, false⟩)
              found rfl db')).symm.trans row
      · rintro rfl ⟨_, current⟩
        have row := current _ _ _ admitted wallet here.read
        have missing : ((session calls).view db').wallets.find wallet.id = none :=
          Option.map_eq_none_iff.mp (Option.some.inj executed)
        exact absurd (row.symm.trans missing) (Option.some_ne_none _)
    · intro db' reason between refused
      exact not_healthy here.session rfl rfl refused (fun _ _ => Option.some_ne_none _)
  · rw [if_neg different]
    exact wp_run_pure.mpr ⟨false, here, by simpa using different⟩

/-- How a settlement that is about to commit came about. -/
structure Settlement.Final (D : Discipline engine) (S : Settlement) (db : Db) : Prop where
  stored : S.stored = true ↔ S.newBalance ≠ S.wallet.balance
  read : D.serial → S.created = false → db.wallets.lookup S.change.accountId = some S.wallet
  selected : D.serial → S.Selected db

theorem wp_applyBalanceChange {c : BalanceChange} {content : BalanceChangeContent}
    (running : session calls = ⟨true, false, [], [.balanceChange c.id]⟩)
    (found : db.balanceChanges.find c.id = some c) (unapplied : c.isApplied = false)
    (parsed : BalanceChangeContent.fromValue c.content = .ok content) :
    (applyBalanceChangeWithTx c content).run.wp D growth G (fun result calls db' =>
      match result with
      | .ok _ => ∃ S : Settlement, S.change = c ∧
          session calls = ⟨true, false, S.writes, S.held ++ [.balanceChange c.id]⟩ ∧
          S.Ready D db' ∧ S.Final D db ∧ (D.serial → db' = db)
      | .error _ => ¬Healthy D) calls db := by
  rw [applyBalanceChangeWithTx]
  refine wp_seq (wp_accountWallet running found unapplied parsed (fun _ => rfl)) ?_
    (fun _ _ _ unhealthy => unhealthy)
  rintro wallet calls db₁ ⟨created, here, read⟩
  refine wp_seq (wp_charge here rfl rfl) ?_ (fun _ _ _ unhealthy => unhealthy)
  rintro ⟨newBalance, subscriptionId⟩ calls db₂ ⟨charged, here, rfl, rfl, selected⟩
  refine wp_seq (wp_storeBalance here rfl) ?_ (fun _ _ _ unhealthy => unhealthy)
  rintro returned calls db₃ ⟨stored, here, different⟩
  rw [wp_run_bind, markBalanceChangeAppliedWithTx]
  refine wp_query ?_ ?_
  · intro db₄ _ _ between _ _ _ _
    have here := here.next between
    refine wp_run_pure.mpr ⟨⟨c, content, wallet, created, charged, stored⟩, rfl, ?_, here.ready,
      ⟨different, read, selected⟩, here.still⟩
    rw [session_answered, here.session]
    rfl
  · intro db₄ reason between refused
    exact not_healthy here.session rfl rfl refused (fun _ _ => Option.some_ne_none _)

/-- The rows of a settlement's commit, given those before it. -/
def Settles (D : Discipline engine) (id : Int) (db db' : Db) : Prop :=
  ∃ S : Settlement, S.change.id = id ∧ S.Ready D db ∧ S.Final D db ∧
    db' = engine.applyAll S.writes db

def Applied (db : Db) (id : Int) : Prop :=
  ∃ c, db.balanceChanges.find id = some c ∧ c.isApplied = true

instance (db : Db) (id : Int) : Decidable (Applied db id) :=
  match found : db.balanceChanges.find id with
  | none => isFalse (fun ⟨_, known, _⟩ => Option.some_ne_none _ (known.symm.trans found))
  | some c =>
      if marked : c.isApplied = true then isTrue ⟨c, found, marked⟩
      else isFalse (fun ⟨_, known, applied⟩ =>
        marked (Option.some.inj (known.symm.trans found) ▸ applied))

theorem applied_iff {id : Int} : Applied db id ↔
    (id, true) ∈ db.balanceChanges.rows.map (fun c => (c.id, c.isApplied)) := by
  constructor
  · rintro ⟨c, found, marked⟩
    obtain ⟨member, rfl⟩ := Table.find_iff.mp found
    exact List.mem_map.mpr ⟨c, member, congrArg (Prod.mk c.id) marked⟩
  · intro listed
    obtain ⟨c, member, same⟩ := List.mem_map.mp listed
    obtain ⟨rfl, marked⟩ := Prod.mk.inj same
    exact ⟨c, Table.find_of_mem member, marked⟩

/-- A balance change whose content can be read. -/
def Payable (db : Db) (id : Int) : Prop :=
  ∃ c content, db.balanceChanges.find id = some c ∧
    BalanceChangeContent.fromValue c.content = .ok content

variable {id : Int} {db' : Db} {pays : Prop}

theorem Applied.grows (applied : Applied db id) (grows : Grows db db') : Applied db' id := by
  obtain ⟨c, found, marked⟩ := applied
  obtain ⟨c', found', same⟩ := grows.balanceChanges id c found
  exact ⟨c', found', same.applied marked⟩

theorem Payable.grows (payable : Payable db id) (grows : Grows db db') : Payable db' id := by
  obtain ⟨c, content, found, parsed⟩ := payable
  obtain ⟨c', found', same⟩ := grows.balanceChanges id c found
  exact ⟨c', content, found', same.content ▸ parsed⟩

theorem pending_balanceChanges (S : Settlement) (db : Db) :
    (engine.applyAll S.pending db).balanceChanges = db.balanceChanges := by
  obtain ⟨change, content, wallet, created, charged, stored⟩ := S
  cases created <;> cases charged <;> cases stored <;> rfl

theorem writes_balanceChanges (S : Settlement) (db : Db) :
    (engine.applyAll S.writes db).balanceChanges =
      db.balanceChanges.modify S.change.id (applied S.subscriptionId) (applied_keeps _) := by
  rw [Settlement.writes, Engine.applyAll_append]
  exact congrArg (fun t => Table.modify t S.change.id (applied S.subscriptionId) (applied_keeps _))
    (pending_balanceChanges S db)

theorem Settles.applied (settles : Settles D id db db') : Applied db' id := by
  obtain ⟨S, rfl, ready, _, rfl⟩ := settles
  refine ⟨applied S.subscriptionId S.change, ?_, rfl⟩
  rw [writes_balanceChanges, Table.find_modify_self, ready.found, Option.map_some]

theorem Settles.grows (settles : Settles D id db db') : Grows db db' := by
  obtain ⟨S, _, _, _, rfl⟩ := settles
  exact grows_applyAll S.writes db

theorem Settlement.Final.still (final : S.Final D db) (still : D.serial → db' = db) :
    S.Final D db' where
  stored := final.stored
  read serial := by
    rw [still serial]
    exact final.read serial
  selected serial := by
    rw [still serial]
    exact final.selected serial

theorem wp_commitSettlement (wallet : Wallet)
    (running : session calls = ⟨true, false, S.writes, S.held ++ [.balanceChange S.change.id]⟩)
    (ready : S.Ready D db) (final : S.Final D db) :
    (do match ← Prog.commit with
        | .error _ => return ()
        | .ok _ =>
            let _ ← Prog.remote (E := engine) (.setWalletInfo wallet.accountId wallet)
            return () : Action Unit).wp D growth (Settles D S.change.id)
      (fun _ _ db => Healthy D → Applied db S.change.id) calls db := by
  rw [wp_bind]
  refine wp_commit ?_ ?_ (fun _ faulty _ healthy => absurd faulty (healthy.1 _))
  · intro db₁ between _ _
    have locked : ∀ l ∈ S.held, l ∈ (session calls).held := by
      intro l held
      rw [running]
      exact List.mem_append_left _ held
    have still : D.serial → db₁ = db := fun serial => between.alone serial (by rw [running])
    have settles : Settles D S.change.id db₁ ((session calls).view db₁) := by
      refine ⟨S, rfl, ready.stable between locked, final.still still, ?_⟩
      rw [running]
      rfl
    refine ⟨fun _ => settles, ?_⟩
    rw [wp_bind]
    refine wp_remote ?_ ?_
    · exact fun db₂ _ _ between _ _ => settles.applied.grows between.rel
    · exact fun db₂ _ between _ => settles.applied.grows between.rel
  · intro db₁ _ failed
    rw [running] at failed
    cases failed

/-- Whatever runs beside it and whatever fails, a settlement handler commits nothing
but a settlement of its own balance change. If nothing fails and no wallet is
written from a stale value, it does not return before the change is applied. -/
theorem wp_settleBalanceChange (payable : pays → Payable db id) :
    (settleBalanceChange ⟨id⟩).wp D growth (Settles D id)
      (fun _ _ db => Healthy D → pays → Applied db id) calls db := by
  rw [settleBalanceChange, wp_bind]
  refine wp_begin ?_ (fun _ faulty _ healthy => absurd faulty (healthy.1 _))
  intro db₁ between
  have payable := fun p => (payable p).grows between.rel
  simp only [findBalanceChangeByIdWithTx]
  rw [wp_bind]
  refine wp_query ?_ ?_
  · intro db₂ _ answer between _ _ _ executed
    have payable := fun p => (payable p).grows between.rel
    rw [session_begin] at executed
    have found : db₂.balanceChanges.find id = answer := Option.some.inj executed
    cases answer with
    | none =>
        intro _ p
        obtain ⟨c, _, known, _⟩ := payable p
        exact absurd (known.symm.trans found) (Option.some_ne_none c)
    | some c =>
        obtain rfl : c.id = id := (Table.find_iff.mp found).2
        dsimp only
        cases marked : c.isApplied with
        | true =>
            rw [if_pos rfl]
            exact fun _ _ => ⟨c, found, marked⟩
        | false =>
            rw [if_neg Bool.false_ne_true]
            cases parsed : BalanceChangeContent.fromValue c.content with
            | error e =>
                intro _ p
                obtain ⟨c', content, known, readable⟩ := payable p
                cases known.symm.trans found
                cases readable.symm.trans parsed
            | ok content =>
                have running : session (E := engine)
                    (⟨.sql (.findBalanceChangeForUpdate c.id), .ok (some c)⟩ ::
                      ⟨.begin, .ok ()⟩ :: calls) =
                    ⟨true, false, [], [.balanceChange c.id]⟩ := rfl
                rw [wp_bind]
                refine wp_mono (fun _ _ same => same) ?_
                  (wp_applyBalanceChange running found marked parsed)
                rintro (e | wallet) calls db₃ settled
                · exact fun healthy => absurd healthy settled
                obtain ⟨S, rfl, running, ready, final, still⟩ := settled
                have settled := wp_commitSettlement wallet running ready (final.still still)
                exact wp_mono (fun _ _ same => same) (fun _ _ _ applied healthy _ => applied healthy)
                  settled
  · intro db₂ reason between refused healthy
    exact absurd healthy (not_healthy rfl rfl rfl refused (fun _ _ => Option.some_ne_none _))

end LLMPool.Billing
