import LLMPool.Defer.UpstreamHealth

/-! Concurrent changes of one upstream: which value each column has after any
interleaving of the statements of partial updates, tag edits and status marks. -/
namespace LLMPool.Upstreams
open Relational Transactions

inductive Change where
  | updateUpstream (update : UpdateLLMUpstream)
  | addUpstreamTag (tag : String)
  | removeUpstreamTag (tag : String)
  | markUpstreamOffline
  | markUpstreamOnline
  deriving DecidableEq

namespace Change

def program (upstreamId : Int) : Change → Action Unit
  | updateUpstream update => do let _ ← (Upstreams.updateUpstream upstreamId update).run
  | addUpstreamTag tag => do let _ ← (Upstreams.addUpstreamTag upstreamId tag).run
  | removeUpstreamTag tag => do let _ ← (Upstreams.removeUpstreamTag upstreamId tag).run
  | markUpstreamOffline => do let _ ← (Upstreams.markUpstreamOffline upstreamId).run
  | markUpstreamOnline => do let _ ← (Upstreams.markUpstreamOnline upstreamId).run

/-- The columns that a change was asked to set, other than by editing the tags. -/
def sets : Change → UpdateLLMUpstream
  | updateUpstream update => update
  | markUpstreamOffline => ⟨none, none, none, none, none, none, some "offline", none⟩
  | markUpstreamOnline => ⟨none, none, none, none, none, none, some "online", none⟩
  | _ => ⟨none, none, none, none, none, none, none, none⟩

def editTags : Change → List String → List String
  | updateUpstream update, tags => update.tags.getD tags
  | addUpstreamTag tag, tags => if tag ∈ tags then tags else tags ++ [tag]
  | removeUpstreamTag tag, tags => tags.filter (fun t => t ≠ tag)
  | _, tags => tags

/-- What a change was asked to do to a row. -/
def effect (change : Change) (row : LLMUpstream) : LLMUpstream :=
  { change.sets.over row with tags := change.editTags row.tags }

end Change

section Runs
variable {ι : Type} {change : ι → Change} {upstreamId : Int} {db : Db}

/-- Each column has the value of the last change that was asked to set it, and the tags
are edited in the order of the statements. -/
def expected (change : ι → Change) (history : History engine ι) (row : LLMUpstream) : LLMUpstream where
  id := row.id
  name := lastWritten (fun i => (change i).sets.name) history row.name
  apiBase := lastWritten (fun i => (change i).sets.apiBase) history row.apiBase
  apiKey := lastWritten (fun i => (change i).sets.apiKey) history row.apiKey
  provider := lastWritten (fun i => (change i).sets.provider) history row.provider
  tags := history.foldr (fun e => (change e.1).editTags) row.tags
  proxies := lastWritten (fun i => (change i).sets.proxies) history row.proxies
  status := lastWritten (fun i => (change i).sets.status) history row.status
  description := lastWritten (fun i => (change i).sets.description) history row.description

theorem foldr_effect (history : History engine ι) (row : LLMUpstream) :
    history.foldr (fun e => (change e.1).effect) row = expected change history row := by
  induction history with
  | nil => rfl
  | cons e history ih =>
      obtain ⟨i, ws⟩ := e
      rw [List.foldr_cons, ih, Change.effect, UpdateLLMUpstream.over]
      simp only [expected, lastWritten_cons (E := engine), List.foldr_cons]

/-- The statements of a change. -/
def Asks (upstreamId : Int) (change : Change) : Op engine → Prop
  | .auto (.getUpstream _) => True
  | .auto (.updateUpstream current update) =>
      change = .updateUpstream update ∧ current.id = upstreamId
  | .auto (.addUpstreamTag id tag) => change = .addUpstreamTag tag ∧ id = upstreamId
  | .auto (.removeUpstreamTag id tag) => change = .removeUpstreamTag tag ∧ id = upstreamId
  | .auto (.markUpstreamOffline id) => change = .markUpstreamOffline ∧ id = upstreamId
  | .auto (.markUpstreamOnline id) => change = .markUpstreamOnline ∧ id = upstreamId
  | _ => False

theorem path_getUpstream {P : List (Call engine) → Op engine → Prop} {calls : List (Call engine)}
    (made : ∀ calls, P calls (.auto (.getUpstream upstreamId))) :
    (ProxyViews.getUpstream upstreamId).run.path P
      (fun result _ => ∀ row, result = .ok row → row.id = upstreamId) calls := by
  rw [ProxyViews.getUpstream, path_run_bind]
  refine path_queryAuto (made calls) ?_ (fun _ => nofun)
  rintro answer ⟨env, db, executed⟩
  cases answer with
  | none => exact nofun
  | some row =>
      rintro _ ⟨⟩
      exact (Table.find_iff.mp (Option.some.inj executed)).2

theorem only_asks {change : Change} {p : Action α} (only : p.Only (Asks upstreamId change)) :
    (do let _ ← p : Action Unit).Only (Asks upstreamId change) :=
  only_bind only (fun _ => trivial)

theorem path_change (change : Change) :
    (change.program upstreamId).path (fun _ => Asks upstreamId change) (fun _ _ => True) [] := by
  cases change with
  | updateUpstream update =>
      refine path_bind.mpr (path_seq (path_getUpstream (fun _ => trivial)) ?_ (fun _ _ _ => trivial))
      intro current calls read
      rw [path_run_bind]
      refine path_queryAuto (P := fun _ => Asks upstreamId (.updateUpstream update))
        ⟨rfl, read current rfl⟩ (fun _ _ => path_fetchOne (fun _ => trivial)) (fun _ => trivial)
  | addUpstreamTag tag =>
      have only : (Upstreams.addUpstreamTag upstreamId tag).run.Only
          (Asks upstreamId (.addUpstreamTag tag)) :=
        only_run_bind (only_queryAuto ⟨rfl, rfl⟩) (fun _ => only_fetchOne _)
      exact (only_asks only).made
  | removeUpstreamTag tag =>
      have only : (Upstreams.removeUpstreamTag upstreamId tag).run.Only
          (Asks upstreamId (.removeUpstreamTag tag)) :=
        only_run_bind (only_queryAuto ⟨rfl, rfl⟩) (fun _ => only_fetchOne _)
      exact (only_asks only).made
  | markUpstreamOffline =>
      exact (only_asks (only_queryAuto (s := .markUpstreamOffline upstreamId) ⟨rfl, rfl⟩)).made
  | markUpstreamOnline =>
      exact (only_asks (only_queryAuto (s := .markUpstreamOnline upstreamId) ⟨rfl, rfl⟩)).made

/-- An `UPDATE` of all columns writes the row's own values to those that its request
does not provide. -/
def currentRow (upstreamId : Int) (_ : List (Call engine)) (op : Op engine) (db : Db) : Prop :=
  match op with
  | .auto (.updateUpstream current update) => current.id = upstreamId →
      ∀ row ∈ db.upstreams.find upstreamId, update.over current = update.over row
  | _ => True

def currentUpstream (upstreamId : Int) : Discipline engine :=
  ⟨fun _ => True, False, currentRow upstreamId⟩

instance (upstreamId : Int) : Discipline.Decides (currentUpstream upstreamId) where
  faults _ := inferInstanceAs (Decidable True)
  serial := inferInstanceAs (Decidable False)
  admits calls op db := by
    rcases op with _ | s | _ | s | c
    case auto =>
      rcases s
      case updateUpstream current update =>
        exact inferInstanceAs (Decidable (current.id = upstreamId → _))
      all_goals exact instDecidableTrue
    all_goals exact instDecidableTrue

theorem find_changeUpstream (change : UpstreamChange) :
    (apply (.changeUpstream upstreamId change) db).upstreams.find upstreamId =
      (db.upstreams.find upstreamId).map change.on := by
  simp only [apply, Table.find_modify_self]

/-- A statement that writes does to the row what its change was asked to do. -/
theorem does_effect {change : Change} {s : Stmt} {answer : s.Answer} (calls : List (Call engine))
    (asks : Asks upstreamId change (.auto s)) (current : currentRow upstreamId calls (.auto s) db)
    (wrote : writes s answer ≠ []) :
    (engine.applyAll (writes s answer) db).upstreams.find upstreamId =
      (db.upstreams.find upstreamId).map change.effect := by
  cases s with
  | getUpstream => exact absurd rfl wrote
  | updateUpstream row update =>
      obtain ⟨rfl, rfl⟩ := asks
      cases answer with
      | none => exact absurd rfl wrote
      | some new =>
          refine (find_changeUpstream _).trans (Option.map_congr ?_)
          intro found member
          have same := current rfl found member
          simp only [UpstreamChange.on, same]
          rfl
  | addUpstreamTag id tag | removeUpstreamTag id tag =>
      obtain ⟨rfl, rfl⟩ := asks
      cases answer with
      | none => exact absurd rfl wrote
      | some new => exact find_changeUpstream _
  | markUpstreamOffline id | markUpstreamOnline id =>
      obtain ⟨rfl, rfl⟩ := asks
      exact find_changeUpstream _
  | _ => exact asks.elim

variable [DecidableEq ι] {world : World} {history : History engine ι} {s : State engine ι}

def changing (db : Db) (world : World) (upstreamId : Int) (change : ι → Change) : State engine ι :=
  .starting db world (fun i => (change i).program upstreamId)

/-- The row of the upstream, in every state of a run of concurrent changes. -/
theorem find_changing (found : db.upstreams.find upstreamId = some row)
    (reached : Reaches (currentUpstream upstreamId) (changing db world upstreamId change) history s) :
    s.db.upstreams.find upstreamId = some (expected change history row) := by
  have paths : (changing db world upstreamId change).Paths (fun i _ => Asks upstreamId (change i))
      (fun _ _ => True) :=
    fun i => path_change (change i)
  have pooled : ∀ i (calls : List (Call engine)) op, Asks upstreamId (change i) op → op.Pooled := by
    intro i calls op asks
    cases op with
    | auto | remote => trivial
    | begin | sql | commit => exact asks
  rw [← foldr_effect]
  exact reached.folded (fun db : Db => db.upstreams.find upstreamId) (fun i => (change i).effect) pooled
    (fun i calls stmt env db answer asks current _ wrote => does_effect calls asks current wrote)
    paths found

end Runs

end LLMPool.Upstreams
