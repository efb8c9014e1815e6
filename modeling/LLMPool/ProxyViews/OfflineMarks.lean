import LLMPool.Billing.ServingModel
import LLMPool.ProxyViews.Routes
import LLMPool.Transactions.Queue
import Mathlib.Data.Fintype.Option

/-! Which upstreams a request takes out of rotation: the tasks that it spawns mark offline
those that it reports, and what it reports is not everywhere a failed connection. -/
namespace LLMPool.ProxyViews
open Relational Transactions

/-- What a call does to the spawned tasks. -/
inductive Spawning (env : Env) (world : World) : (c : Remote) → Prop
  | spawned (upstreamId : Int) : Spawning env world (.spawnMarkOffline upstreamId)
  | taken (upstreamId : Int) (waiting : upstreamId ∈ world.spawned)
      (same : remote .fetchSpawned env world =
        (some upstreamId, { world with spawned := world.spawned.erase upstreamId })) :
      Spawning env world .fetchSpawned
  | nothing (same : remote .fetchSpawned env world = (none, world)) : Spawning env world .fetchSpawned
  | other (c : Remote) (same : (remote c env world).2.spawned = world.spawned)
      (spawns : ∀ upstreamId, c ≠ .spawnMarkOffline upstreamId) (takes : c ≠ .fetchSpawned) :
      Spawning env world c

theorem spawning (env : Env) (world : World) (c : Remote) : Spawning env world c := by
  cases c with
  | spawnMarkOffline upstreamId => exact .spawned upstreamId
  | fetchSpawned =>
      cases found : world.spawned[env.pick % world.spawned.length]? with
      | none => exact .nothing (by simp only [remote, found])
      | some upstreamId =>
          exact .taken upstreamId (List.mem_of_getElem? found) (by simp only [remote, found])
  | fetchBalanceChange | fetchHealthCheck | getWalletInfo | getApiKeyInfo =>
      refine .other _ ?_ (fun _ => by rintro ⟨⟩) (by rintro ⟨⟩)
      simp only [remote]
      split <;> rfl
  | _ => exact .other _ rfl (fun _ => by rintro ⟨⟩) (by rintro ⟨⟩)

theorem remote_of_call {c c' : Remote} {reply : Except Failure c'.Reply} {env : Env} {world : World}
    (same : (⟨.remote c', reply⟩ : Call engine) = Call.of (E := engine) c env world) : c = c' := by
  cases congrArg Call.op same
  rfl

/-- The spawned tasks, from the spawn until they are taken up. -/
def spawnedTasks : Queue engine Int where
  waiting world upstreamId := upstreamId ∈ world.spawned
  pushed upstreamId := ⟨.remote (.spawnMarkOffline upstreamId), .ok ()⟩
  delivered upstreamId := ⟨.remote .fetchSpawned, .ok (some upstreamId)⟩
  acknowledged upstreamId := ⟨.remote .fetchSpawned, .ok (some upstreamId)⟩
  answered _ := ⟨trivial, trivial, trivial⟩
  arrives c env world upstreamId waiting := by
    cases spawning env world c with
    | spawned other =>
        rcases List.mem_cons.mp waiting with rfl | before
        · exact .inr rfl
        · exact .inl before
    | taken other _ same =>
        have later : upstreamId ∈ (remote .fetchSpawned env world).2.spawned := waiting
        rw [same] at later
        exact .inl (List.mem_of_mem_erase later)
    | nothing same =>
        have later : upstreamId ∈ (remote .fetchSpawned env world).2.spawned := waiting
        rw [same] at later
        exact .inl later
    | other c same =>
        have later : upstreamId ∈ (remote c env world).2.spawned := waiting
        rw [same] at later
        exact .inl later
  leaves c env world upstreamId waiting := by
    cases spawning env world c with
    | spawned other => exact .inl (List.mem_cons_of_mem _ waiting)
    | taken other _ same =>
        by_cases here : upstreamId = other
        · subst here
          refine .inr ?_
          simp only [Call.of, same]
        · refine .inl ?_
          change upstreamId ∈ (remote .fetchSpawned env world).2.spawned
          rw [same]
          exact (List.mem_erase_of_ne here).mpr waiting
    | nothing same =>
        refine .inl ?_
        change upstreamId ∈ (remote .fetchSpawned env world).2.spawned
        rw [same]
        exact waiting
    | other c same =>
        refine .inl ?_
        change upstreamId ∈ (remote c env world).2.spawned
        rw [same]
        exact waiting
  delivers c env world upstreamId delivered := by
    obtain rfl := remote_of_call delivered
    cases spawning env world .fetchSpawned with
    | taken other waiting same =>
        simp only [Call.of, same] at delivered
        cases delivered
        exact waiting
    | nothing same =>
        simp only [Call.of, same] at delivered
        cases delivered
    | other _ _ _ takes => exact absurd rfl takes
  enqueues c env world upstreamId pushed := by
    obtain rfl := remote_of_call pushed
    exact List.mem_cons_self

/-- A spawned task takes up one upstream, and marks it offline. -/
def TakesUp (calls : List (Call engine)) : Op engine → Prop
  | .remote .fetchSpawned => True
  | .auto (.markUpstreamOffline upstreamId) => spawnedTasks.delivered upstreamId ∈ calls
  | _ => False

def TakenUp (calls : List (Call engine)) : Prop :=
  ∀ upstreamId, spawnedTasks.delivered upstreamId ∈ calls →
    ∃ reply, (⟨.auto (.markUpstreamOffline upstreamId), reply⟩ : Call engine) ∈ calls

theorem path_markUpstreamOffline : markUpstreamOffline.path TakesUp (fun _ => TakenUp) [] := by
  refine path_bind.mpr (path_op (P := TakesUp) trivial ?_)
  rintro (reason | (_ | upstreamId)) _
  · intro upstreamId delivered
    cases List.mem_singleton.mp delivered
  · intro upstreamId delivered
    cases List.mem_singleton.mp delivered
  · have taken : ∀ reply, TakenUp [⟨.auto (.markUpstreamOffline upstreamId), reply⟩,
        spawnedTasks.delivered upstreamId] := by
      intro reply other delivered
      rcases List.mem_cons.mp delivered with never | now
      · cases never
      · cases List.mem_singleton.mp now
        exact ⟨reply, List.mem_cons_self⟩
    exact path_bind.mpr (path_queryAuto (P := TakesUp) (s := .markUpstreamOffline upstreamId)
      List.mem_cons_self (fun _ _ => taken _) (fun _ => taken _))

/-- PostgreSQL answers, and a task is spawned whenever one is to be. -/
structure DatabaseHealthy (D : Discipline engine) : Prop where
  answers : ∀ stmt, ¬D.faults (.auto stmt)
  spawns : ∀ upstreamId, ¬D.faults (.remote (.spawnMarkOffline upstreamId))
  takes : ¬D.faults (.remote .fetchSpawned)

/-- A request and the tasks that it spawns. -/
def withTasks {κ : Type} (context : RequestContext) (request : ProxyRequest) : Option κ → Action Unit
  | none => request.handle context
  | some _ => markUpstreamOffline

/-- The upstreams whose rows have been set offline. -/
def MarkedOffline {ι : Type} (s : State engine ι) (upstreamId : Int) : Prop :=
  ∃ j, (⟨.auto (.markUpstreamOffline upstreamId), .ok ()⟩ : Call engine) ∈ (s.procs j).calls

namespace ProxyRequest

/-- The endpoints that are routed by a model. -/
def picksModel : ProxyRequest → Bool
  | chatCompletions _ | createEmbeddings _ | generateImages _ | createSpeech _ | createResponse _ => true
  | createMessage _ | countMessageTokens _ => true
  | _ => false

/-- The errors that an endpoint takes for what they are not: one for images reports no
failed connection, and the token counts report an answer that cannot be read. -/
def mistakes : ProxyRequest → ClientError → Bool
  | generateImages _, e => e = .network
  | countMessageTokens _, e => e = .deserialize
  | _, _ => false

theorem reports_or_mistakes {r : Route} {request : ProxyRequest} (routed : request.route = some r)
    (picks : request.picksModel = true) :
    (∀ e, r.reports e = true ↔ e = .network) ∧ (∀ e, request.mistakes e = false) ∨
    (∀ e, r.reports e = false) ∧ (∀ e, request.mistakes e = true ↔ e = .network) ∨
    (∀ e, r.reports e = true ↔ e = .network ∨ e = .deserialize) ∧
      (∀ e, request.mistakes e = true ↔ e = .deserialize) ∧ r.count = 1 := by
  cases request with
  | chatCompletions | createEmbeddings | createSpeech | createResponse | createMessage =>
      cases routed
      exact .inl ⟨by simp, fun _ => rfl⟩
  | generateImages payload =>
      cases routed
      exact .inr (.inl ⟨fun _ => rfl, by simp [mistakes]⟩)
  | countMessageTokens payload =>
      cases routed
      exact .inr (.inr ⟨by simp, by simp [mistakes], rfl⟩)
  | _ => cases picks

end ProxyRequest

section Failures
variable {cs : List Contact} {reports mistakes : ClientError → Bool}

/-- The marks are right where exactly failed connections are reported. -/
theorem marks_exact (network : ∀ e, reports e = true ↔ e = .network) (upstreamId : Int) :
    (∃ c ∈ cs, c.upstream.id = upstreamId ∧ c.failure.any reports = true) ↔
      ∃ c ∈ cs, c.upstream.id = upstreamId ∧ c.failure = some .network := by
  have same : ∀ failure : Option ClientError, failure.any reports = true ↔ failure = some .network := by
    intro failure
    cases failure <;> simp [network]
  simp only [same]

/-- Where nothing is reported, they are right if no connection has failed. -/
theorem marks_none (never : ∀ e, reports e = false) (network : ∀ e, mistakes e = true ↔ e = .network) :
    (∀ upstreamId, (∃ c ∈ cs, c.upstream.id = upstreamId ∧ c.failure.any reports = true) ↔
      ∃ c ∈ cs, c.upstream.id = upstreamId ∧ c.failure = some .network) ↔
    ∀ c ∈ cs, c.failure.any mistakes = false := by
  have silent : ∀ failure : Option ClientError, failure.any reports = false := by
    intro failure
    cases failure <;> simp [never]
  have mistaken : ∀ failure : Option ClientError, failure.any mistakes = false ↔ failure ≠ some .network := by
    intro failure
    cases failure <;> simp [← Bool.not_eq_true, network]
  simp only [silent, mistaken, Bool.false_eq_true, and_false, exists_false, false_iff, not_exists, not_and]
  exact ⟨fun none c member fails => none _ c member rfl fails, fun none _ c member _ => none c member⟩

/-- Where an answer that cannot be read is reported too, they are right if the one
upstream has not given such an answer. -/
theorem marks_one (either : ∀ e, reports e = true ↔ e = .network ∨ e = .deserialize)
    (unreadable : ∀ e, mistakes e = true ↔ e = .deserialize) (one : cs.length ≤ 1) :
    (∀ upstreamId, (∃ c ∈ cs, c.upstream.id = upstreamId ∧ c.failure.any reports = true) ↔
      ∃ c ∈ cs, c.upstream.id = upstreamId ∧ c.failure = some .network) ↔
    ∀ c ∈ cs, c.failure.any mistakes = false := by
  rcases cs with _ | ⟨⟨u, call, failure⟩, _ | ⟨_, _⟩⟩
  · simp
  · rcases failure with _ | (_ | _ | _) <;> simp [either, ← Bool.not_eq_true, unreadable]
  · simp at one

end Failures

section Runs
variable {κ : Type} [DecidableEq κ] {D : Discipline engine} {db : Db} {world : World}
  {history : History engine (Option κ)} {s : State engine (Option κ)} {context : RequestContext}
  {request : ProxyRequest} {r : Route}

/-- What is marked offline by the end is what the request has reported. -/
theorem marked_iff_reported (healthy : DatabaseHealthy D) (routed : request.route = some r)
    (fresh : world.spawned = [])
    (reached : Reaches D (.starting db world (withTasks context request)) history s)
    (returned : ∀ j, (s.procs j).Returned) (drained : s.world.spawned = []) (upstreamId : Int) :
    MarkedOffline s upstreamId ↔ upstreamId ∈ reported (s.procs none).calls := by
  have task : ∀ k : κ, (withTasks context request (some k)).path TakesUp (fun _ => TakenUp) [] :=
    fun _ => path_markUpstreamOffline
  have traced : (withTasks (κ := κ) context request none).path (Traced request.Served) (fun _ _ => True) [] :=
    request.path_handle context
  have routes : (withTasks (κ := κ) context request none).path r.Follows (fun _ => r.Settled) [] :=
    request.path_route routed
  constructor
  · rintro ⟨j, marked⟩
    obtain ⟨older, inside⟩ := exists_older marked
    cases j with
    | none => cases (reached.follows traced inside).1
    | some k =>
        have taken : spawnedTasks.delivered upstreamId ∈ older := (reached.follows (task k) inside).1
        have delivered := inside.subset (List.mem_cons_of_mem _ taken)
        rcases reached.arrived spawnedTasks (.inr ⟨some k, delivered⟩) with waiting | ⟨j, pushed⟩
        · have never : upstreamId ∈ world.spawned := waiting
          rw [fresh] at never
          cases never
        · cases j with
          | none => exact mem_reported.mpr ⟨_, pushed⟩
          | some k =>
              obtain ⟨older, inside⟩ := exists_older pushed
              exact absurd (reached.follows (task k) inside).1 id
  · intro member
    obtain ⟨reply, spawned⟩ := mem_reported.mp member
    have pushed : spawnedTasks.pushed upstreamId ∈ (s.procs none).calls := by
      rcases reached.performed spawned with ⟨faulty, _⟩ | ⟨_, _, _, _, _, _, _, _, performed⟩
      · exact absurd faulty (healthy.spawns upstreamId)
      · cases performed
        exact spawned
    rcases reached.awaited spawnedTasks (.inr ⟨none, pushed⟩) with waiting | ⟨j, acknowledged⟩
    · have never : upstreamId ∈ s.world.spawned := waiting
      rw [drained] at never
      cases never
    · cases j with
      | none =>
          obtain ⟨older, inside⟩ := exists_older acknowledged
          exact absurd (reached.follows routes inside).1 id
      | some k =>
          obtain ⟨reply, marked⟩ := reached.ends (task k) (returned (some k)) upstreamId acknowledged
          refine ⟨some k, ?_⟩
          rcases reached.performed marked with ⟨faulty, _⟩ | ⟨_, _, _, _, _, _, _, _, performed⟩
          · exact absurd faulty (healthy.answers _)
          · cases performed
            exact marked

/-- What is reported by the end is what failed in a way that the endpoint reports. -/
theorem reported_iff (routed : request.route = some r)
    (reached : Reaches D (.starting db world (withTasks context request)) history s)
    (returned : (s.procs none).Returned) (upstreamId : Int) :
    upstreamId ∈ reported (s.procs none).calls ↔
      ∃ c ∈ contacts (s.procs none).calls, c.upstream.id = upstreamId ∧ c.failure.any r.reports = true := by
  have routes : (withTasks (κ := κ) context request none).path r.Follows (fun _ => r.Settled) [] :=
    request.path_route routed
  constructor
  · intro member
    obtain ⟨reply, spawned⟩ := mem_reported.mp member
    obtain ⟨older, inside⟩ := exists_older spawned
    obtain ⟨c, before, at_upstream, fails⟩ := (reached.follows routes inside).1
    have reached := contacts_suffix ((List.suffix_cons _ _).trans inside)
    exact ⟨c, reached.subset before, at_upstream, fails⟩
  · rintro ⟨c, member, rfl, fails⟩
    exact reached.ends routes returned c member fails

/-- By the end of a request and of its tasks exactly those upstreams have been marked
offline that could not be connected to, unless the endpoint has mistaken an error. -/
theorem marked_offline_are_network_failures (request : ProxyRequest) (picks : request.picksModel = true)
    (healthy : DatabaseHealthy D) (fresh : world.spawned = [])
    (reached : Reaches D (.starting db world (withTasks context request)) history s)
    (returned : ∀ j, (s.procs j).Returned) (drained : s.world.spawned = []) :
    (∀ upstreamId, MarkedOffline s upstreamId ↔
      ∃ c ∈ contacts (s.procs none).calls, c.upstream.id = upstreamId ∧ c.failure = some .network) ↔
    ∀ c ∈ contacts (s.procs none).calls, c.failure.any request.mistakes = false := by
  obtain ⟨r, routed⟩ : ∃ r, request.route = some r := by
    cases request <;> first | exact ⟨_, rfl⟩ | cases picks
  simp only [marked_iff_reported healthy routed fresh reached returned drained,
    reported_iff routed reached (returned none)]
  rcases ProxyRequest.reports_or_mistakes routed picks with
    ⟨network, right⟩ | ⟨never, network⟩ | ⟨either, unreadable, one⟩
  · refine iff_of_true (marks_exact network) (fun c _ => ?_)
    cases c.failure <;> simp [right]
  · exact marks_none never network
  · have routes : (withTasks (κ := κ) context request none).path r.Follows (fun _ => r.Settled) [] :=
      request.path_route routed
    have length : (contacts (s.procs none).calls).length ≤ r.count :=
      Route.contacts_length (fun call older inside => (reached.follows routes inside).1)
    exact marks_one either unreadable (one ▸ length)

end Runs

/-- One upstream of each provider, each with a model that has been used. -/
def twoProviders : Db := { Db.empty with
  wallets := Table.empty.insert ⟨1, 1, 100⟩
  upstreams := (Table.empty.insert ⟨1, "openai", "https://a", "", "openai", [], [], "online", ""⟩).insert
    ⟨2, "claude", "https://b", "", "anthropic", [], [], "online", ""⟩
  models := (Table.empty.insert ⟨1, 1, "dall-e-2", "dall-e-2", true, [featureImages, featureChatCompletions],
    100000, 1, 2, 1, 1, ""⟩).insert
      ⟨2, 2, "claude-sonnet", "claude-sonnet", true, [featureMessages], 100000, 1, 2, 1, 1, ""⟩ }

def bothUsed : World := { World.empty with tokenUsage := [(0, 1, 1, 1), (0, 2, 1, 1)] }

/-- A request with one task. -/
def requesting (request : ProxyRequest) : State engine (Option Unit) :=
  .starting twoProviders bothUsed (withTasks ⟨1, 1, fun _ => "s", fun _ => "u", .direct⟩ request)

/-- No upstream is reached, and an answer to a token count cannot be read. -/
def failing : Env := { Env.plain 0 1 with
  answers := fun
    | .countMessageTokens _ => .error .deserialize
    | _ => .error .network }

/-- The request runs to its end, then its task. -/
def inTurns (first second : Nat) : List (Option Unit × Turn engine) :=
  List.replicate first (none, .run failing) ++ List.replicate second (some (), .run failing)

/-- The upstreams that calls have set offline. -/
def setOffline : List (Call engine) → List Int
  | [] => []
  | ⟨.auto (.markUpstreamOffline upstreamId), .ok _⟩ :: older => upstreamId :: setOffline older
  | _ :: older => setOffline older

theorem mem_setOffline {calls : List (Call engine)} {upstreamId : Int} :
    (⟨.auto (.markUpstreamOffline upstreamId), .ok ()⟩ : Call engine) ∈ calls ↔
      upstreamId ∈ setOffline calls := by
  induction calls with
  | nil => simp [setOffline]
  | cons call older ih =>
      obtain ⟨op, reply⟩ := call
      cases op with
      | auto stmt =>
          cases stmt with
          | markUpstreamOffline other =>
              cases reply with
              | ok answer =>
                  simp only [setOffline, List.mem_cons, ← ih]
                  refine or_congr ⟨?_, ?_⟩ Iff.rfl
                  · rintro ⟨⟩
                    rfl
                  · rintro rfl
                    rfl
              | error reason => simp [setOffline, ← ih]
          | _ => simp [setOffline, ← ih]
      | _ => simp [setOffline, ← ih]

/-- What was contacted, and the upstreams that were set offline by the end. -/
def Concluded (failures : List (Int × Option ClientError)) (marks : List Int) (s : State engine (Option Unit)) : Prop :=
  (∀ j, (s.procs j).Returned) ∧ s.world.spawned = [] ∧
    (contacts (s.procs none).calls).map (fun c => (c.upstream.id, c.failure)) = failures ∧
    setOffline (s.procs none).calls ++ setOffline (s.procs (some ())).calls = marks

instance (failures : List (Int × Option ClientError)) (marks : List Int) :
    DecidablePred (Concluded failures marks) := by
  unfold Concluded
  infer_instance

theorem Concluded.marked_iff {s : State engine (Option Unit)} (concluded : Concluded failures marks s) :
    MarkedOffline s upstreamId ↔ upstreamId ∈ marks := by
  obtain ⟨_, _, _, rfl⟩ := concluded
  rw [List.mem_append, ← mem_setOffline, ← mem_setOffline]
  constructor
  · rintro ⟨_ | _, marked⟩
    · exact .inl marked
    · exact .inr marked
  · rintro (marked | marked)
    · exact ⟨none, marked⟩
    · exact ⟨some (), marked⟩

theorem Concluded.failed_iff {s : State engine (Option Unit)} {failure : Option ClientError}
    (concluded : Concluded failures marks s) :
    (∃ c ∈ contacts (s.procs none).calls, c.upstream.id = upstreamId ∧ c.failure = failure) ↔
      (upstreamId, failure) ∈ failures := by
  obtain ⟨_, _, rfl, _⟩ := concluded
  simp only [List.mem_map, Prod.mk.injEq]

def images : ProxyRequest := .generateImages ⟨some .dallE2⟩

def tokenCount : ProxyRequest := .countMessageTokens ⟨"claude-sonnet"⟩

/-- An upstream that cannot be connected to stays in rotation, and one that gives an
unreadable answer is taken out of it. -/
theorem failures_are_mistaken :
    (∃ history s, Reaches (Discipline.any False) (requesting images) history s ∧
      (∀ j, (s.procs j).Returned) ∧ s.world.spawned = [] ∧
      (∃ c ∈ contacts (s.procs none).calls, c.upstream.id = 1 ∧ c.failure = some .network) ∧
      ¬MarkedOffline s 1) ∧
    ∃ history s, Reaches (Discipline.any False) (requesting tokenCount) history s ∧
      (∀ j, (s.procs j).Returned) ∧ s.world.spawned = [] ∧ MarkedOffline s 2 ∧
      ¬∃ c ∈ contacts (s.procs none).calls, c.upstream.id = 2 ∧ c.failure = some .network := by
  constructor
  · obtain ⟨history, s, reached, concluded⟩ := State.exists_of_play (Discipline.any False) (requesting images)
      (inTurns 6 1) (Concluded [(1, some .network)] []) (by decide +kernel)
    refine ⟨history, s, reached, concluded.1, concluded.2.1, ?_, ?_⟩
    · exact concluded.failed_iff.mpr List.mem_cons_self
    · rw [concluded.marked_iff]
      exact List.not_mem_nil
  · obtain ⟨history, s, reached, concluded⟩ := State.exists_of_play (Discipline.any False)
      (requesting tokenCount) (inTurns 6 2) (Concluded [(2, some .deserialize)] [2]) (by decide +kernel)
    refine ⟨history, s, reached, concluded.1, concluded.2.1, ?_, ?_⟩
    · exact concluded.marked_iff.mpr List.mem_cons_self
    · rw [concluded.failed_iff]
      decide

/-- The upstream of a chat completion that cannot be connected to is marked, and no other. -/
theorem marked_offline_are_network_failures_chat : ∃ history s,
    Reaches (Discipline.any False) (requesting (.chatCompletions ⟨"dall-e-2", none, none⟩)) history s ∧
    MarkedOffline s 1 ∧
    ∀ upstreamId, MarkedOffline s upstreamId ↔
      ∃ c ∈ contacts (s.procs none).calls, c.upstream.id = upstreamId ∧ c.failure = some .network := by
  obtain ⟨history, s, reached, concluded⟩ := State.exists_of_play (Discipline.any False)
    (requesting (.chatCompletions ⟨"dall-e-2", none, none⟩)) (inTurns 7 2)
    (Concluded [(1, some .network)] [1]) (by decide +kernel)
  have healthy : DatabaseHealthy (Discipline.any False : Discipline engine) := ⟨fun _ => id, fun _ => id, id⟩
  refine ⟨history, s, reached, concluded.marked_iff.mpr List.mem_cons_self, ?_⟩
  exact (marked_offline_are_network_failures (.chatCompletions ⟨"dall-e-2", none, none⟩) rfl healthy rfl
    reached concluded.1 concluded.2.1).mpr (fun c _ => by cases c.failure <;> rfl)

end LLMPool.ProxyViews
