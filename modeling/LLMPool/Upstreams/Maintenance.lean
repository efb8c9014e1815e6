import LLMPool.Billing.ServingModel
import LLMPool.Defer.UpstreamHealth

/-! How long an upstream stays in maintenance, under any interleaving of the proxies,
the tasks they spawn, the health checks and the admin. -/
namespace LLMPool.Upstreams
open Relational Transactions

inductive Job where
  | proxied (context : ProxyViews.RequestContext) (request : ProxyViews.ProxyRequest)
  | markSpawnedOffline
  | checkOfflineUpstreams
  | healthCheck
  | updateUpstreamById (upstreamId : Int) (payload : AdminRestApi.UpdateUpstreamRequest)
  | addUpstreamTag (upstreamId : Int) (tag : String)
  | removeUpstreamTag (upstreamId : Int) (tag : String)

def Job.program : Job → Action Unit
  | proxied context request => request.handle context
  | markSpawnedOffline => ProxyViews.markUpstreamOffline
  | checkOfflineUpstreams => Upstreams.checkOfflineUpstreams
  | healthCheck => Upstreams.healthCheck
  | updateUpstreamById upstreamId payload =>
      ProxyViews.discard (AdminRestApi.updateUpstreamById upstreamId payload)
  | addUpstreamTag upstreamId tag => ProxyViews.discard (AdminRestApi.addUpstreamTag upstreamId tag)
  | removeUpstreamTag upstreamId tag =>
      ProxyViews.discard (AdminRestApi.removeUpstreamTag upstreamId tag)

abbrev OnPool (op : Op engine) : Prop := op.Pooled

theorem onPool_discard {p : Action α} (only : p.Only OnPool) : (ProxyViews.discard p).Only OnPool :=
  only_bind only (fun _ => trivial)

theorem onPool_updateUpstream (upstreamId : Int) (update : UpdateLLMUpstream) :
    (updateUpstream upstreamId update).run.Only OnPool :=
  only_run_bind (only_run_bind (only_queryAuto trivial) (fun _ => only_fetchOne _))
    (fun _ => only_run_bind (only_queryAuto trivial) (fun _ => only_fetchOne _))

theorem onPool_addUpstreamTag (upstreamId : Int) (tag : String) :
    (addUpstreamTag upstreamId tag).run.Only OnPool :=
  only_run_bind (only_queryAuto trivial) (fun _ => only_fetchOne _)

theorem onPool_removeUpstreamTag (upstreamId : Int) (tag : String) :
    (removeUpstreamTag upstreamId tag).run.Only OnPool :=
  only_run_bind (only_queryAuto trivial) (fun _ => only_fetchOne _)

theorem onPool_markSpawnedOffline : ProxyViews.markUpstreamOffline.Only OnPool := by
  refine only_bind (only_op trivial) ?_
  rintro (reason | (_ | upstreamId))
  · trivial
  · trivial
  · exact only_bind (only_queryAuto trivial) (fun _ => trivial)

theorem onPool_spawnHealthChecks (upstreams : List LLMUpstream) :
    (spawnHealthChecks upstreams).Only OnPool := by
  induction upstreams with
  | nil => trivial
  | cons upstream rest ih => exact only_bind (only_op trivial) (fun _ => ih)

theorem onPool_checkOfflineUpstreams : checkOfflineUpstreams.Only OnPool := by
  refine only_bind (only_queryAuto (s := .listOfflineUpstreams) trivial) ?_
  rintro (e | upstreams)
  · trivial
  · exact onPool_spawnHealthChecks upstreams

theorem onPool_healthCheck : healthCheck.Only OnPool := by
  refine only_bind (only_op trivial) ?_
  rintro (reason | (_ | upstream))
  · trivial
  · trivial
  refine only_bind (only_bind (only_bind (only_op trivial) ?_) ?_) (fun healthy => ?_)
  · rintro (reason | answer) <;> trivial
  · rintro (e | response) <;> trivial
  · split
    · exact only_bind (only_queryAuto trivial) (fun _ => trivial)
    · trivial

theorem onPool_updateUpstreamById (upstreamId : Int) (payload : AdminRestApi.UpdateUpstreamRequest) :
    (AdminRestApi.updateUpstreamById upstreamId payload).Only OnPool := by
  rw [AdminRestApi.updateUpstreamById]
  split
  · trivial
  split
  · trivial
  · exact only_bind (onPool_updateUpstream upstreamId payload.update) (fun _ => trivial)

theorem onPool_addTag (upstreamId : Int) (tag : String) :
    (AdminRestApi.addUpstreamTag upstreamId tag).Only OnPool := by
  unfold AdminRestApi.addUpstreamTag
  generalize Auth.trim tag = trimmed
  split
  · trivial
  · exact only_bind (onPool_addUpstreamTag upstreamId trimmed) (fun _ => trivial)

theorem onPool_removeTag (upstreamId : Int) (tag : String) :
    (AdminRestApi.removeUpstreamTag upstreamId tag).Only OnPool :=
  only_bind (onPool_removeUpstreamTag upstreamId tag) (fun _ => trivial)

/-- No job opens a transaction. -/
theorem Job.onPool (job : Job) : job.program.path (fun _ => OnPool) (fun _ _ => True) [] := by
  cases job with
  | proxied context request =>
      refine path_mono ?_ (fun _ _ ended => ended) (request.path_handle context)
      intro calls op made
      cases op with
      | auto | remote => trivial
      | begin | sql | commit => exact made
  | markSpawnedOffline => exact onPool_markSpawnedOffline.made
  | checkOfflineUpstreams => exact onPool_checkOfflineUpstreams.made
  | healthCheck => exact onPool_healthCheck.made
  | updateUpstreamById upstreamId payload =>
      exact (onPool_discard (onPool_updateUpstreamById upstreamId payload)).made
  | addUpstreamTag upstreamId tag =>
      have only := onPool_addTag upstreamId tag
      change (ProxyViews.discard (AdminRestApi.addUpstreamTag upstreamId tag)).path _ _ _
      generalize AdminRestApi.addUpstreamTag upstreamId tag = p at only
      exact (onPool_discard only).made
  | removeUpstreamTag upstreamId tag =>
      exact (onPool_discard (onPool_removeTag upstreamId tag)).made

def statusOf (db : Db) (id : Int) : Option String := (db.upstreams.find id).map (fun u => u.status)

/-- No admin update names a status for the upstream. -/
def unchanged (id : Int) (_ : List (Call engine)) (op : Op engine) (_ : Db) : Prop :=
  match op with
  | .auto (.updateUpstream current update) => current.id = id → update.status = none
  | _ => True

/-- Each task that marks the upstream does so while it is not in maintenance, and each
update that names no status for it finds the status that it has read. -/
def marksOthers (id : Int) (_ : List (Call engine)) (op : Op engine) (db : Db) : Prop :=
  match op with
  | .auto (.markUpstreamOffline j) | .auto (.markUpstreamOnline j) =>
      j = id → statusOf db id ≠ some "maintenance"
  | .auto (.updateUpstream current update) =>
      current.id = id → update.status = none → statusOf db id = some current.status
  | _ => True

def left (id : Int) : Discipline engine := ⟨fun _ => True, False, unchanged id⟩

def leftInMaintenance (id : Int) : Discipline engine :=
  ⟨fun _ => True, False, fun calls op db => unchanged id calls op db ∧ marksOthers id calls op db⟩

instance (id : Int) (calls : List (Call engine)) (op : Op engine) (db : Db) :
    Decidable (unchanged id calls op db) := by
  rcases op with _ | s | _ | s | c
  case auto =>
    rcases s
    case updateUpstream current update => exact inferInstanceAs (Decidable (current.id = id → _))
    all_goals exact instDecidableTrue
  all_goals exact instDecidableTrue

instance (id : Int) (calls : List (Call engine)) (op : Op engine) (db : Db) :
    Decidable (marksOthers id calls op db) := by
  rcases op with _ | s | _ | s | c
  case auto =>
    rcases s
    case markUpstreamOffline j | markUpstreamOnline j =>
      exact inferInstanceAs (Decidable (j = id → _))
    case updateUpstream current update => exact inferInstanceAs (Decidable (current.id = id → _))
    all_goals exact instDecidableTrue
  all_goals exact instDecidableTrue

instance (id : Int) : Discipline.Decides (left id) where
  faults _ := inferInstanceAs (Decidable True)
  serial := inferInstanceAs (Decidable False)
  admits calls op db := inferInstanceAs (Decidable (unchanged id calls op db))

instance (id : Int) : Discipline.Decides (leftInMaintenance id) where
  faults _ := inferInstanceAs (Decidable True)
  serial := inferInstanceAs (Decidable False)
  admits calls op db := inferInstanceAs (Decidable (unchanged id calls op db ∧ marksOthers id calls op db))

theorem statusOf_apply {id : Int} {w : Write} {db : Db} (set : statusOf db id = some status)
    (keeps : ∀ change, w = .changeUpstream id change →
      ∀ u : LLMUpstream, u.status = status → (change.on u).status = status) :
    statusOf (apply w db) id = some status := by
  cases w with
  | changeUpstream j change =>
      obtain ⟨u, found, same⟩ := Option.map_eq_some_iff.mp set
      by_cases here : id = j
      · subst here
        simp only [statusOf, apply, Table.find_modify_self, found, Option.map_some]
        exact congrArg some (keeps change rfl u same)
      · simp only [statusOf, apply, Table.find_modify_ne _ here, found, Option.map_some, same]
  | _ => exact set

theorem statusOf_applyAll {id : Int} {ws : List Write} {db : Db} (set : statusOf db id = some status)
    (keeps : ∀ change, Write.changeUpstream id change ∈ ws →
      ∀ u : LLMUpstream, u.status = status → (change.on u).status = status) :
    statusOf (engine.applyAll ws db) id = some status := by
  induction ws generalizing db with
  | nil => exact set
  | cons w ws ih =>
      have first : statusOf (apply w db) id = some status := by
        refine statusOf_apply set ?_
        rintro change rfl
        exact keeps change List.mem_cons_self
      exact ih first (fun change member => keeps change (List.mem_cons_of_mem _ member))

/-- An admitted statement leaves an upstream in maintenance. -/
theorem statusOf_statement {id : Int} {s : Stmt} {answer : s.Answer} {db : Db}
    (left : unchanged id calls (.auto s) db) (marks : marksOthers id calls (.auto s) db)
    (set : statusOf db id = some "maintenance") :
    statusOf (engine.applyAll (writes s answer) db) id = some "maintenance" := by
  refine statusOf_applyAll set (fun change member u same => ?_)
  cases s with
  | markUpstreamOffline j | markUpstreamOnline j =>
      cases List.mem_singleton.mp member
      exact absurd set (marks rfl)
  | updateUpstream current update =>
      cases answer with
      | none => cases member
      | some new =>
          cases List.mem_singleton.mp member
          have unnamed := left rfl
          have kept := Option.some.inj ((marks rfl unnamed).symm.trans set)
          simp only [UpstreamChange.on, UpdateLLMUpstream.over, unnamed, Option.getD_none, kept]
  | addUpstreamTag j tag | removeUpstreamTag j tag =>
      cases answer with
      | none => cases member
      | some new =>
          cases List.mem_singleton.mp member
          exact same
  | _ =>
      first
        | simp [writes] at member; done
        | cases answer <;> simp [writes] at member

section Runs
variable {ι : Type} [DecidableEq ι] {D : Discipline engine} {db : Db} {world : World}
  {job : ι → Job} {earlier later : History engine ι} {mid s : State engine ι} {id : Int}

def jobs (db : Db) (world : World) (job : ι → Job) : State engine ι :=
  .starting db world (fun i => (job i).program)

/-- An upstream in maintenance stays in it until an admin names another status, in every
run in which no task marks it meanwhile and no update writes back an older status. -/
theorem maintenance_is_sticky (first : Reaches D (jobs db world job) earlier mid)
    (set : statusOf mid.db id = some "maintenance")
    (second : Reaches (leftInMaintenance id) mid later s) : statusOf s.db id = some "maintenance" := by
  have paths : mid.Paths (fun _ _ op => op.Pooled) (fun _ _ => True) :=
    first.paths (fun i => (job i).onPool)
  induction second with
  | start => exact set
  | step reached stepped ih =>
      rcases stepped.pooled (reached.paths paths) with rfl | ⟨stmt, _, _, answer, _, admitted, _, _, rfl⟩
      · rw [stepped.db]
        exact ih
      · have admitted : unchanged id _ (.auto stmt) _ ∧ marksOthers id _ (.auto stmt) _ := admitted
        rw [stepped.db]
        exact statusOf_statement admitted.1 admitted.2 ih

end Runs

/-- One upstream, with a model for chat, and an account that may spend. -/
def oneUpstream : Db := { Db.empty with
  wallets := Table.empty.insert ⟨1, 1, 100⟩
  upstreams := Table.empty.insert ⟨1, "first", "https://a", "", "openai", [], [], "online", ""⟩
  models := Table.empty.insert
    ⟨1, 1, "gpt-4o", "gpt-4o", true, ["chat/completions"], 100000, 1, 2, 1, 1, ""⟩ }

/-- The model has been used within the hour. -/
def used : World := { World.empty with tokenUsage := [(0, 1, 1, 1)] }

def toMaintenance : AdminRestApi.UpdateUpstreamRequest :=
  ⟨none, none, none, none, none, some "maintenance"⟩

def aroundMaintenance : Fin 3 → Job
  | 0 => .proxied ⟨1, 1, fun _ => "s", fun _ => "u", .direct⟩ (.chatCompletions ⟨"gpt-4o", none, none⟩)
  | 1 => .updateUpstreamById 1 toMaintenance
  | 2 => .markSpawnedOffline

/-- A request has failed before the admin's change; the task that it has spawned runs
after it, and takes the upstream out of maintenance. -/
theorem maintenance_is_left : ∃ earlier mid,
    Reaches (Discipline.any False) (jobs oneUpstream used aroundMaintenance) earlier mid ∧
    statusOf mid.db 1 = some "maintenance" ∧
    ∃ later s, Reaches (left 1) mid later s ∧ statusOf s.db 1 = some "offline" := by
  obtain ⟨earlier, mid, reached, set, played⟩ := State.exists_of_play (Discipline.any False)
    (jobs oneUpstream used aroundMaintenance) (schedule [0, 0, 0, 0, 0, 0, 0, 1, 1])
    (fun mid => statusOf mid.db 1 = some "maintenance" ∧
      (mid.play (left 1) (schedule [2, 2])).any
        (fun s => decide (statusOf s.db 1 = some "offline")) = true) (by decide +kernel)
  exact ⟨earlier, mid, reached, set, State.exists_of_play _ mid _ _ played⟩

/-- The spawned task runs too, but cannot reach the database. -/
theorem maintenance_is_sticky_unreached : ∃ earlier mid later s,
    Reaches (Discipline.any False) (jobs oneUpstream used aroundMaintenance) earlier mid ∧
    Reaches (leftInMaintenance 1) mid later s ∧ (s.procs 2).Returned ∧
    statusOf s.db 1 = some "maintenance" := by
  obtain ⟨earlier, mid, reached, set, played⟩ := State.exists_of_play (Discipline.any False)
    (jobs oneUpstream used aroundMaintenance) (schedule [0, 0, 0, 0, 0, 0, 0, 1, 1])
    (fun mid => statusOf mid.db 1 = some "maintenance" ∧
      (mid.play (leftInMaintenance 1) (schedule [2] ++ [(2, .fail)])).any
        (fun s => decide (s.procs 2).Returned) = true) (by decide +kernel)
  obtain ⟨later, s, continued, returned⟩ := State.exists_of_play _ mid _ _ played
  exact ⟨earlier, mid, later, s, reached, continued, returned,
    maintenance_is_sticky reached set continued⟩

end LLMPool.Upstreams
