import LLMPool.Billing.Ledger
import LLMPool.Views.AdminRestApi

/-! Settlements among the requests that create and switch subscriptions. -/
namespace LLMPool.Billing
open Relational Transactions

inductive Request where
  | settle (task : BalanceChangeTask)
  | createSubscription (payload : AdminRestApi.CreateSubscriptionRequest)
  | updateSubscription (subscriptionId : Int) (status : String)
  | cancelSubscription (subscriptionId : Int)

/-- The handler of a request; its answer goes to the client. -/
def Request.program : Request → Action Unit
  | settle task => settleBalanceChange task
  | createSubscription payload => do let _ ← AdminRestApi.createSubscription payload
  | updateSubscription subscriptionId status => do
      let _ ← AdminRestApi.updateSubscription subscriptionId status
  | cancelSubscription subscriptionId => do
      let _ ← AdminRestApi.cancelSubscription subscriptionId

/-- What the endpoints of subscriptions commit. -/
inductive Administers (db : Db) : Db → Prop
  | created (id accountId planId : Int) (id_pos : 0 < id) (fresh : db.subscriptions.find id = none) :
      Administers db (apply (.insertSubscription (newSubscription id accountId planId id_pos)) db)
  | switched (id : Int) (status : SubscriptionStatus) :
      Administers db (apply (.setSubscriptionStatus id status) db)

def Request.guarantee (D : Discipline engine) : Request → Db → Db → Prop
  | settle task => Settles D task.balanceChangeId
  | _ => Administers

section Endpoints
variable {D : Discipline engine} {R : Rely engine} {G : Db → Db → Prop} {calls : List (Call engine)}
  {db : Db}

theorem wp_withAccount {next : Action (AdminRestApi.Response α)}
    {Q : AdminRestApi.Response α → List (Call engine) → Db → Prop}
    (goes : ∀ reply db', next.wp D R G Q (⟨.auto (.getAccountById accountId), reply⟩ :: calls) db')
    (stops : ∀ response reply db', Q response (⟨.auto (.getAccountById accountId), reply⟩ :: calls) db') :
    (AdminRestApi.withAccount accountId next).wp D R G Q calls db := by
  rw [AdminRestApi.withAccount, getAccountById, wp_bind]
  refine wp_queryAuto ?_ ?_
  · intro db' _ answer _ _ _ _
    refine ⟨fun wrote => absurd rfl wrote, ?_⟩
    cases answer with
    | none => exact stops _ _ _
    | some _ => exact goes _ _
  · intro db' reason _
    exact stops _ _ _

theorem wp_fetchUpdated (id : Int) (status : SubscriptionStatus)
    {Q : Except SqlxError Subscription → List (Call engine) → Db → Prop}
    (anything : ∀ result calls db, Q result calls db) :
    (updateSubscriptionStatus id status).run.wp D R Administers Q calls db := by
  rw [updateSubscriptionStatus, wp_run_bind]
  refine wp_queryAuto ?_ ?_
  · intro db' _ answer _ _ _ executed
    refine ⟨?_, wp_fetchOne (fun _ _ => anything _ _ _) (fun _ => anything _ _ _)⟩
    cases answer with
    | none => exact fun wrote => absurd rfl wrote
    | some _ => exact fun _ => .switched id status
  · intro db' reason _
    exact anything _ _ _

theorem wp_createSubscription (payload : AdminRestApi.CreateSubscriptionRequest) :
    (AdminRestApi.createSubscription payload).wp D R Administers (fun _ _ _ => True) calls db := by
  rw [AdminRestApi.createSubscription]
  refine wp_withAccount (fun _ _ => ?_) (fun _ _ _ => trivial)
  rw [getSubscriptionPlanById, wp_bind]
  refine wp_queryAuto ?_ (fun _ _ _ => trivial)
  intro db' _ answer _ _ _ _
  refine ⟨fun wrote => absurd rfl wrote, ?_⟩
  cases answer with
  | none => trivial
  | some _ =>
      dsimp only
      rw [createSubscription, wp_bind]
      refine wp_queryAuto ?_ (fun _ _ _ => trivial)
      intro db'' env s _ _ possible executed
      refine ⟨fun _ => ?_, trivial⟩
      have fresh := (of_decide_eq_true possible).2
      have made : (if id_pos : 0 < env.serial then
          some (newSubscription env.serial payload.accountId payload.planId id_pos) else none) =
          some s := executed
      split at made
      · cases made
        exact .created _ _ _ _ fresh
      · cases made

theorem wp_updateSubscription (id : Int) (status : String) :
    (AdminRestApi.updateSubscription id status).wp D R Administers (fun _ _ _ => True) calls db := by
  rw [AdminRestApi.updateSubscription]
  split
  · trivial
  · rw [wp_bind]
    refine wp_fetchUpdated id _ ?_
    rintro ((_ | _) | _) _ _ <;> trivial

theorem wp_cancelSubscription (id : Int) :
    (AdminRestApi.cancelSubscription id).wp D R Administers (fun _ _ _ => True) calls db := by
  rw [AdminRestApi.cancelSubscription, wp_bind]
  refine wp_fetchUpdated id .deactive ?_
  rintro ((_ | _) | _) _ _ <;> trivial

end Endpoints

theorem Administers.grows (administers : Administers db db') : Grows db db' := by
  cases administers with
  | created id accountId planId id_pos fresh => exact grows_apply _ db
  | switched id status => exact grows_apply _ db

theorem Request.wp_program {D : Discipline engine} {db : Db} (request : Request) :
    request.program.wp D growth (request.guarantee D) (fun _ _ _ => True) [] db := by
  cases request with
  | settle task =>
      exact wp_mono (fun _ _ same => same) (fun _ _ _ _ => trivial)
        (wp_settleBalanceChange (fun never : False => never.elim))
  | createSubscription payload => exact wp_bind.mpr (wp_createSubscription payload)
  | updateSubscription id status => exact wp_bind.mpr (wp_updateSubscription id status)
  | cancelSubscription id => exact wp_bind.mpr (wp_cancelSubscription id)

theorem Request.grows {D : Discipline engine} {request : Request}
    (step : request.guarantee D db db') : Grows db db' := by
  cases request with
  | settle task => exact Settles.grows step
  | createSubscription | updateSubscription | cancelSubscription => exact Administers.grows step

section Runs
variable {ι : Type} {D : Discipline engine} {db : Db} {world : World} {request : ι → Request}

def requests (db : Db) (world : World) (request : ι → Request) : State engine ι :=
  .starting db world (fun i => (request i).program)

variable [DecidableEq ι] {s : State engine ι}

/-- Every run of requests is a chain of what their handlers commit. -/
theorem requests_chain (reached : Reaches D (requests db world request) history s) :
    Verified D growth (fun i => (request i).guarantee D) (fun _ _ _ => True) s ∧
      Chain (fun i => (request i).guarantee D) db history s.db :=
  reached.chain (.starting (fun i => (request i).wp_program)) (fun _ _ _ => Request.grows)
    (fun _ _ _ _ _ _ => trivial)

end Runs

end LLMPool.Billing
