import LLMPool.Deployment.Charges

/-! Whom the server talks to, and why an upstream has the status that it has, when requests, health
checks and administrators all run at once. -/
namespace LLMPool.Deployment
open Relational Transactions Billing ProxyViews Upstreams

section Checks

/-- What becomes of the health checks by a call. -/
theorem remote_checks (c : Remote) (env : Env) (world : World) : (remote c env world).2.checks =
    match c with
    | .spawnHealthCheck u => u :: world.checks
    | .fetchHealthCheck => ((remote .fetchHealthCheck env world).1.map world.checks.erase).getD world.checks
    | _ => world.checks := by
  cases c
  case fetchBalanceChange | getWalletInfo | getApiKeyInfo | fetchSpawned | fetchHealthCheck =>
    simp only [remote]
    split <;> rfl
  all_goals rfl

theorem checked_waits {env : Env} {world : World} {u : LLMUpstream}
    (checked : (remote .fetchHealthCheck env world).1 = some u) : u ∈ world.checks := by
  simp only [remote] at checked
  split at checked
  · cases checked
  · rename_i found
    cases checked
    exact List.mem_of_getElem? found

/-- The health checks, from the spawn until they are taken up. -/
def healthChecks : Queue engine LLMUpstream where
  waiting world u := u ∈ world.checks
  pushed u := ⟨.remote (.spawnHealthCheck u), .ok ()⟩
  delivered u := ⟨.remote .fetchHealthCheck, .ok (some u)⟩
  acknowledged u := ⟨.remote .fetchHealthCheck, .ok (some u)⟩
  answered _ := ⟨trivial, trivial, trivial⟩
  arrives c env world u waiting := by
    have later : u ∈ (remote c env world).2.checks := waiting
    rw [remote_checks] at later
    split at later
    · rcases List.mem_cons.mp later with rfl | before
      · exact .inr rfl
      · exact .inl before
    · cases taken : (remote .fetchHealthCheck env world).1 with
      | none => exact .inl (by rwa [taken] at later)
      | some other =>
          rw [taken] at later
          exact .inl (List.mem_of_mem_erase later)
    · exact .inl later
  leaves c env world u waiting := by
    change u ∈ (remote c env world).2.checks ∨ _
    rw [remote_checks]
    split
    · exact .inl (List.mem_cons_of_mem _ waiting)
    · cases taken : (remote .fetchHealthCheck env world).1 with
      | none => exact .inl waiting
      | some other =>
          by_cases same : u = other
          · subst same
            refine .inr ?_
            simp only [Call.of, taken]
          · exact .inl ((List.mem_erase_of_ne same).mpr waiting)
    · exact .inl waiting
  delivers c env world u delivered := by
    obtain rfl := remote_of_call delivered
    have answer : Except.ok (some u) = Except.ok (remote .fetchHealthCheck env world).1 :=
      eq_of_heq (Call.mk.inj delivered).2
    exact checked_waits (Except.ok.inj answer).symm
  enqueues c env world u pushed := by
    obtain rfl := remote_of_call pushed
    exact List.mem_cons_self

end Checks

theorem told_later {older calls : List (Call engine)} {fact : Fact} (known : told older fact) (inside : older ⊆ calls) :
    told calls fact := by
  obtain ⟨call, member, tells⟩ := known
  exact ⟨call, inside member, tells⟩

section Runs
variable {ι : Type} {D : Discipline engine} {hashToken : String → String} {party : ι → Party}
  {db : Db} {world : World} {s s' : State engine ι} {i : ι} {u : LLMUpstream} {upstreamId : Int}

theorem deployment_tends : (deployment hashToken db world party).Paths
    (fun i calls op => Tends (party i) op (told calls)) (fun _ => Forwarded) :=
  fun i => path_mono (fun _ _ conforms => conforms.tends) (fun _ _ ended => ended) (deployment_conforms i)

variable [DecidableEq ι]

/-- A row that was read was committed at some time. -/
theorem told_row (reached : Reaches D (deployment hashToken db world party) history s)
    (known : told (s.procs i).calls (.row u)) :
    Earlier D (deployment hashToken db world party) s (fun middle => u ∈ middle.db.upstreams) := by
  obtain ⟨call, member, tells⟩ := known
  cases tells with
  | row =>
      refine (reached.read_earlier member).mono ?_
      rintro middle ⟨_, executed⟩
      exact (Table.find_iff.mp (Option.some.inj executed)).1
  | listed inside =>
      refine (reached.read_earlier member).mono ?_
      rintro middle ⟨_, ⟨⟩⟩
      exact Table.mem_arrange.mp inside
  | candidate inside =>
      refine (reached.read_earlier member).mono ?_
      rintro middle ⟨_, ⟨⟩⟩
      exact (mem_candidates.mp (Table.mem_arrange.mp inside)).upstream

theorem told_found (reached : Reaches D (deployment hashToken db world party) history s)
    (known : told (s.procs i).calls (.found upstreamId u)) :
    u.id = upstreamId ∧ (⟨.auto (.getUpstream upstreamId), .ok (some u)⟩ : Call engine) ∈ (s.procs i).calls := by
  obtain ⟨call, member, tells⟩ := known
  cases tells
  obtain ⟨_, middle, _, _, _, env, executed⟩ := reached.read_earlier member
  exact ⟨(Table.find_iff.mp (Option.some.inj executed)).2, member⟩

/-- The row was committed, and offline. -/
def WentOffline (D : Discipline engine) (initial s : State engine ι) (u : LLMUpstream) : Prop :=
  Earlier D initial s (fun middle => u ∈ middle.db.upstreams ∧ u.status = "offline")

theorem told_offline (reached : Reaches D (deployment hashToken db world party) history s)
    (known : told (s.procs i).calls (.offline u)) : WentOffline D (deployment hashToken db world party) s u := by
  obtain ⟨call, member, tells⟩ := known
  cases tells with
  | offline inside =>
      refine (reached.read_earlier member).mono ?_
      rintro middle ⟨_, ⟨⟩⟩
      obtain ⟨listed, offline⟩ := List.mem_filter.mp (Table.mem_arrange.mp inside)
      exact ⟨listed, of_decide_eq_true offline⟩

/-- An upstream is due for a check where it was from the start, or it went offline. -/
theorem told_due (reached : Reaches D (deployment hashToken db world party) history s)
    (known : told (s.procs i).calls (.due u)) :
    u ∈ world.checks ∨ WentOffline D (deployment hashToken db world party) s u := by
  obtain ⟨call, member, tells⟩ := known
  cases tells
  refine (reached.arrived healthChecks (.inr ⟨i, member⟩)).imp id ?_
  rintro ⟨j, pushed⟩
  obtain ⟨older, suffix, tends, _⟩ := reached.made deployment_tends j _ pushed
  have inside : older ⊆ (s.procs j).calls := fun _ earlier => suffix.subset (List.mem_cons_of_mem _ earlier)
  exact told_offline reached (told_later tends inside)

/-- A call that an upstream has not answered, or that it has answered as a health check. -/
theorem told_unreachable (reached : Reaches D (deployment hashToken db world party) history s)
    (known : told (s.procs i).calls (.reported upstreamId)) :
    upstreamId ∈ world.spawned ∨ ∃ j, told (s.procs j).calls (.unreachable upstreamId) := by
  obtain ⟨call, member, tells⟩ := known
  cases tells
  refine (reached.arrived spawnedTasks (.inr ⟨i, member⟩)).imp id ?_
  rintro ⟨j, pushed⟩
  obtain ⟨older, suffix, tends, _⟩ := reached.made deployment_tends j _ pushed
  exact ⟨j, told_later tends (fun _ earlier => suffix.subset (List.mem_cons_of_mem _ earlier))⟩

end Runs

section Changes
variable {upstreamId : Int} {change : UpstreamChange} {u : LLMUpstream}

/-- The changes that a statement makes to the row of an upstream. -/
inductive Changes (upstreamId : Int) : Stmt → UpstreamChange → Prop
  | offline : Changes upstreamId (.markUpstreamOffline upstreamId) (.status "offline")
  | online : Changes upstreamId (.markUpstreamOnline upstreamId) (.status "online")
  | updated {current : LLMUpstream} {update : UpdateLLMUpstream} (here : current.id = upstreamId) :
      Changes upstreamId (.updateUpstream current update) (.columns (update.over current))
  | tagged (tag : String) : Changes upstreamId (.addUpstreamTag upstreamId tag) (.addTag tag)
  | untagged (tag : String) : Changes upstreamId (.removeUpstreamTag upstreamId tag) (.removeTag tag)

theorem writes_change {s : Stmt} {answer : s.Answer} (wrote : .changeUpstream upstreamId change ∈ writes s answer) :
    Changes upstreamId s change := by
  cases s
  case markUpstreamOffline | markUpstreamOnline =>
    cases List.mem_singleton.mp wrote
    constructor
  case updateUpstream | addUpstreamTag | removeUpstreamTag =>
    cases answer with
    | none => cases wrote
    | some row =>
        cases List.mem_singleton.mp wrote
        constructor
        try rfl
  all_goals first
    | simp [writes] at wrote; done
    | cases answer <;> simp [writes] at wrote

theorem upstreams_applied {C : LLMUpstream → Prop} {ws : List Write} {db : Db} (rows : ∀ u ∈ db.upstreams, C u)
    (keeps : ∀ upstreamId change, .changeUpstream upstreamId change ∈ ws →
      ∀ u, u.id = upstreamId → C u → C (change.on u)) :
    ∀ u ∈ (engine.applyAll ws db).upstreams, C u := by
  induction ws generalizing db with
  | nil => exact rows
  | cons w ws ih =>
      refine ih ?_ (fun upstreamId change member => keeps upstreamId change (List.mem_cons_of_mem _ member))
      cases w with
      | changeUpstream upstreamId change =>
          intro u member
          have changed : u ∈ db.upstreams.modify upstreamId change.on (change_keeps change) := member
          obtain ⟨old, stored, rfl⟩ := (Table.mem_modify db.upstreams).mp changed
          rw [Table.at_key]
          split
          · exact keeps upstreamId change List.mem_cons_self old ‹_› (rows old stored)
          · exact rows old stored
      | _ => exact rows

end Changes

section Runs
variable {ι : Type} [DecidableEq ι] {D : Discipline engine} {hashToken : String → String} {party : ι → Party}
  {db : Db} {world : World} {s s' middle : State engine ι} {i : ι} {u : LLMUpstream} {upstreamId : Int}
  {ws : List Write}

/-- An upstream is changed by a statement on the pool. -/
theorem changed_by {change : UpstreamChange} (reached : Reaches D (deployment hashToken db world party) history s)
    (stepped : Step D s i ws s') (member : Write.changeUpstream upstreamId change ∈ ws) :
    ∃ (stmt : Stmt) (answer : stmt.Answer), (⟨.auto stmt, .ok answer⟩ : Call engine) ∈ (s'.procs i).calls ∧
      Changes upstreamId stmt change ∧ Tends (party i) (.auto stmt) (told (s.procs i).calls) := by
  obtain ⟨op, next, reply, world', ready, _, _, _, rfl, rfl⟩ := stepped.advanced
  have path := reached.paths deployment_tends i
  rw [ready] at path
  cases op with
  | begin | sql | remote => cases reply <;> cases member
  | auto stmt =>
      cases reply with
      | error reason => cases member
      | ok answer =>
          exact ⟨stmt, answer, (State.mem_advance_calls s).mpr (.inl ⟨rfl, rfl⟩), writes_change member, path.1⟩
  | commit =>
      have here : (s.procs i).session = session (s.procs i).calls := by
        simp only [Proc.session, ready]
      rcases Op.mem_commits member with pending | now
      · rw [here] at pending
        obtain ⟨stmt, answer, inside, wrote⟩ := mem_session_writes pending
        obtain ⟨older, _, tends, _⟩ := reached.made deployment_tends i _ inside
        cases writes_change wrote <;> exact absurd tends id
      · cases reply <;> cases now

/-- What was so of the upstreams at first, and is not ended by a change, is so of those that are stored
and of those that have been read by their ids. -/
theorem upstreams_keep {C : LLMUpstream → Prop} (initially : ∀ u ∈ db.upstreams, C u)
    (changes : ∀ i stmt upstreamId change, Changes upstreamId stmt change →
      Tends (party i) (.auto stmt) (told (s.procs i).calls) →
      (∀ current update, stmt = .updateUpstream current update → C current) →
      ∀ u, u.id = upstreamId → C u → C (change.on u))
    (first : Reaches D (deployment hashToken db world party) before middle) (second : Reaches D middle after s) :
    (∀ u ∈ middle.db.upstreams, C u) ∧ ∀ i upstreamId u,
      (⟨.auto (.getUpstream upstreamId), .ok (some u)⟩ : Call engine) ∈ (middle.procs i).calls → C u := by
  induction first generalizing after with
  | start => exact ⟨initially, fun _ _ _ never => absurd never List.not_mem_nil⟩
  | @step _ s₁ i ws s₂ reached stepped ih =>
      have onwards : Reaches D s₁ _ s := (Reaches.step .start stepped).trans second
      obtain ⟨rows, reads⟩ := ih onwards
      refine ⟨?_, fun j upstreamId u member => ?_⟩
      · rw [stepped.db]
        refine upstreams_applied rows (fun upstreamId change member => ?_)
        obtain ⟨stmt, answer, inside, changed, tends⟩ := changed_by reached stepped member
        refine changes i stmt upstreamId change changed
          (tends.mono (fun fact known => told_later known onwards.calls_kept)) ?_
        rintro current update rfl
        obtain ⟨_, payload, _, _, _, found⟩ := tends
        exact reads i _ current (told_found reached found).2
      · obtain ⟨op, next, reply, world', _, answers, _, _, _, rfl⟩ := stepped.advanced
        rcases (State.mem_advance_calls s₁).mp member with ⟨_, now⟩ | before
        · cases now
          rcases answers with ⟨_, refused, _⟩ | ⟨_, env, _, performed⟩
          · cases refused
          · have found : some (s₁.db.upstreams.find upstreamId) = some (some u) := (Op.answer_ok performed).2
            exact rows u (Table.find_iff.mp (Option.some.inj found)).1
        · exact reads j upstreamId u before

/-- The upstream has kept its address and its key from the start. -/
def Registered (db : Db) (u : LLMUpstream) : Prop :=
  ∃ row ∈ db.upstreams, row.id = u.id ∧ row.apiBase = u.apiBase ∧ row.apiKey = u.apiKey

theorem registered_always (reached : Reaches D (deployment hashToken db world party) history s) :
    ∀ u ∈ s.db.upstreams, Registered db u := by
  refine (upstreams_keep (fun u member => ⟨u, member, rfl, rfl, rfl⟩) ?_ reached .start).1
  rintro i _ upstreamId _ changes tends known u here registered
  cases changes with
  | offline | online | tagged | untagged => exact registered
  | updated same =>
      obtain ⟨_, payload, _, rfl, _, _⟩ := tends
      obtain ⟨row, member, id, address, key⟩ := known _ _ rfl
      exact ⟨row, member, id.trans (same.trans here.symm), address, key⟩

theorem registered_earlier
    (committed : Earlier D (deployment hashToken db world party) s (fun middle => u ∈ middle.db.upstreams)) :
    Registered db u := by
  obtain ⟨_, middle, _, first, _, member⟩ := committed
  exact registered_always first u member

/-- In every interleaving, with any failures, the server contacts an upstream at an address, and under a
key, that the upstream had from the start: it was listed for a check then, or its row was committed. -/
theorem contacts_are_registered (reached : Reaches D (deployment hashToken db world party) history s)
    {call : Call engine} (member : call ∈ (s.procs i).calls) (contacts : call.op = .remote (.upstream u upstreamCall)) :
    u ∈ world.checks ∨ Registered db u ∧
      Earlier D (deployment hashToken db world party) s (fun middle => u ∈ middle.db.upstreams) := by
  obtain ⟨older, suffix, tends, _⟩ := reached.made deployment_tends i call member
  have inside : older ⊆ (s.procs i).calls := fun _ earlier => suffix.subset (List.mem_cons_of_mem _ earlier)
  rw [contacts] at tends
  rcases tends with ⟨row | due, _⟩
  · have committed := told_row reached (told_later row inside)
    exact .inr ⟨registered_earlier committed, committed⟩
  · refine (told_due reached (told_later due inside)).imp id (fun offline => ?_)
    have committed := offline.mono (fun _ listed => listed.1)
    exact ⟨registered_earlier committed, committed⟩

/-- Why an upstream has its status. -/
inductive Caused (D : Discipline engine) (party : ι → Party) (initial s : State engine ι) : Int → String → Prop
  | initial {u : LLMUpstream} (stored : u ∈ initial.db.upstreams) : Caused D party initial s u.id u.status
  | reported {upstreamId : Int} (waiting : upstreamId ∈ initial.world.spawned) :
      Caused D party initial s upstreamId "offline"
  | unreached {i : ι} {u : LLMUpstream} {call : UpstreamCall} {reply : Except Failure (Except ClientError call.Answer)}
      (contacted : (⟨.remote (.upstream u call), reply⟩ : Call engine) ∈ (s.procs i).calls)
      (unreached : Unreached call reply) : Caused D party initial s u.id "offline"
  | healthy {i : ι} {u : LLMUpstream} {response : RawResponse}
      (due : u ∈ initial.world.checks ∨ WentOffline D initial s u)
      (contacted : (⟨.remote (.upstream u .getModels), .ok (.ok response)⟩ : Call engine) ∈ (s.procs i).calls)
      (success : response.isSuccess = true) : Caused D party initial s u.id "online"
  | administered {i : ι} {upstreamId : Int} {payload : Upstreams.AdminRestApi.UpdateUpstreamRequest} {status : String}
      (asked : party i = .updateUpstreamById upstreamId payload) (named : payload.status = some status)
      (valid : status ∈ Upstreams.AdminRestApi.validEndpointStatuses) : Caused D party initial s upstreamId status

/-- In every interleaving, with any failures, an upstream has the status that it had at first, or one
that an administrator gave it; else it is offline because a call did not reach it, or online because it
has answered a health check for which it was listed as offline. -/
theorem statuses_have_causes (reached : Reaches D (deployment hashToken db world party) history s)
    (member : u ∈ s.db.upstreams) : Caused D party (deployment hashToken db world party) s u.id u.status := by
  refine (upstreams_keep (C := fun u => Caused D party (deployment hashToken db world party) s u.id u.status)
    (fun u member => .initial member) ?_ reached .start).1 u member
  rintro i _ upstreamId _ changes tends known u rfl caused
  cases changes with
  | tagged | untagged => exact caused
  | offline =>
      change Caused D party (deployment hashToken db world party) s u.id "offline"
      rcases told_unreachable reached tends with waiting | ⟨j, call, inside, tells⟩
      · exact .reported waiting
      · generalize u.id = upstreamId at tells ⊢
        cases tells with
        | unreached unreached => exact .unreached inside unreached
  | online =>
      change Caused D party (deployment hashToken db world party) s u.id "online"
      obtain ⟨checked, here, due, call, inside, tells⟩ := tends
      cases tells with
      | healthy success => exact here ▸ .healthy (told_due reached due) inside success
  | updated same =>
      obtain ⟨_, payload, asked, rfl, valid, found⟩ := tends
      obtain ⟨rfl, _⟩ := told_found reached found
      change Caused D party (deployment hashToken db world party) s u.id (payload.status.getD _)
      cases named : payload.status with
      | none => exact same ▸ known _ _ rfl
      | some status => exact same ▸ .administered asked named (valid status named)

end Runs

section Shop

theorem contacts_are_registered_once : ∃ history s,
    Reaches (.any False) (deployment id openShop oneUsage aCompletion) history s ∧
    ∃ call ∈ (s.procs 0).calls, ∃ u upstreamCall, call.op = .remote (.upstream u upstreamCall) ∧ Registered openShop u := by
  obtain ⟨history, s, reached, ⟨call, member, contacts⟩, _⟩ := aCompletion_is_charged
  obtain ⟨u, upstreamCall, same⟩ := contacted_upstream contacts
  rcases contacts_are_registered reached member same with never | ⟨registered, _⟩
  · cases never
  · exact ⟨history, s, reached, call, member, u, upstreamCall, same, registered⟩

/-- A completion that reaches no upstream, and the task that it leaves. -/
def aFailure : Fin 2 → Party
  | 0 => .openAI (some "Bearer lpx-018f77aa") ⟨fun _ => "s", fun _ => "m", .direct⟩
      (.proxied (.chatCompletions ⟨"gpt-4o", none, none⟩))
  | 1 => .markSpawnedOffline

theorem statuses_have_causes_once : ∃ history s,
    Reaches (.any False) (deployment id openShop oneUsage aFailure) history s ∧
    (∃ u ∈ s.db.upstreams, u.id = 1 ∧ u.status = "offline") ∧
    ∃ i u call reply, (⟨.remote (.upstream u call), reply⟩ : Call engine) ∈ (s.procs i).calls ∧ Unreached call reply := by
  obtain ⟨history, s, reached, u, member, here, offline⟩ := State.exists_of_play (.any False)
    (deployment id openShop oneUsage aFailure) (schedule (List.replicate 11 0 ++ [1, 1]))
    (fun s => ∃ u ∈ s.db.upstreams.rows, u.id = 1 ∧ u.status = "offline") (by decide +kernel)
  refine ⟨history, s, reached, ⟨u, Table.mem_def.mpr member, here, offline⟩, ?_⟩
  have caused := statuses_have_causes reached (Table.mem_def.mpr member)
  generalize same : u.id = upstreamId, named : u.status = status at caused
  cases caused with
  | initial stored =>
      obtain rfl := List.mem_singleton.mp (Table.mem_def.mp stored)
      exact absurd (offline.symm.trans named) (by decide)
  | reported waiting => cases waiting
  | unreached contacted unreached => exact ⟨_, _, _, _, contacted, unreached⟩
  | healthy => exact absurd (offline.symm.trans named) (by decide)
  | @administered i upstreamId payload _ asked =>
      have nobody : ∀ i, aFailure i ≠ .updateUpstreamById upstreamId payload := Fin.forall_fin_two.mpr ⟨nofun, nofun⟩
      exact absurd asked (nobody i)

end Shop

end LLMPool.Deployment
