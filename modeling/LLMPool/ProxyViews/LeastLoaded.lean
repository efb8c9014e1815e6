import LLMPool.ProxyViews.Anthropic
import LLMPool.Selections
import LLMPool.Transactions.Answers

/-! The selection of the least loaded upstreams: the rows of the routing query, the
counters that are read for them, and the clients that are built of those with the least. -/
namespace LLMPool.ProxyViews
open Relational Transactions Selections

/-- The two functions that select clients. -/
inductive Selector where
  | modelClients (provider feature : String)
  | anthropicClients

namespace Selector

def provider : Selector → String
  | modelClients provider _ => provider
  | anthropicClients => "anthropic"

def feature : Selector → String
  | modelClients _ feature => feature
  | anthropicClients => featureMessages

/-- Whether the client of an upstream can be built, as the `n`-th of the selection. -/
def builds (libraries : ClientLibraries) : Selector → Nat → LLMUpstream → Bool
  | modelClients _ _ => libraries.buildsOpenAI
  | anthropicClients => libraries.buildsAnthropic

def clients (libraries : ClientLibraries) (selector : Selector) (modelName : String) (count : Nat) :
    Action (Option (List UpstreamClient)) :=
  match selector with
  | modelClients provider feature => selectModelClients libraries.buildsOpenAI modelName provider feature count
  | anthropicClients => selectAnthropicClients libraries modelName count

theorem clients_eq (libraries : ClientLibraries) (selector : Selector) (modelName : String) (count : Nat) :
    selector.clients libraries modelName count =
      selectModelClients (selector.builds libraries) modelName selector.provider selector.feature count := by
  cases selector <;> rfl

end Selector

def modelIds (models : List (LLMModel × LLMUpstream)) : List Int := models.map (fun (m, _) => m.id)

/-- The usage of a model: the counter of the hour, 0 where it is missing, and 0 where
Redis has failed. -/
def usageOf (redis : Except Failure (Int → Option Int)) (modelId : Int) : Int :=
  match redis with
  | .ok counter => (counter modelId).getD 0
  | .error _ => 0

/-- As many clients as there can be, of distinct models, the least used first, and none
that is left out is used less. -/
structure LeastLoaded (usage : Int → Int) (count : Nat) (models : List (LLMModel × LLMUpstream))
    (clients : List UpstreamClient) : Prop where
  complete : clients.length = min count models.length
  offered : ∀ client ∈ clients, ∃ row ∈ models, client = buildClient row
  distinct : (clients.map (fun client => client.modelDbId)).Nodup
  ordered : clients.Pairwise (fun first later => usage first.modelDbId ≤ usage later.modelDbId)
  least : ∀ client ∈ clients, ∀ row ∈ models, row.1.id ∉ clients.map (fun client => client.modelDbId) →
    usage client.modelDbId ≤ usage row.1.id

section Rows
variable {usage : Int → Int} {count : Nat} {models : List (LLMModel × LLMUpstream)}

def rowUsage (usage : Int → Int) (row : LLMModel × LLMUpstream) : Int := usage row.1.id

theorem leastLoaded_map (usage : Int → Int) (count : Nat) (models : List (LLMModel × LLMUpstream)) :
    leastLoaded count ((modelIds models).map usage) models = least (rowUsage usage) count models := by
  rw [modelIds, List.map_map]
  exact least_zip (rowUsage usage) count models

theorem leastLoaded_least (distinct : (modelIds models).Nodup) :
    LeastLoaded usage count models ((least (rowUsage usage) count models).map buildClient) := by
  have labels : ((least (rowUsage usage) count models).map buildClient).map
      (fun client => client.modelDbId) = (least (rowUsage usage) count models).map (fun (m, _) => m.id) := by
    rw [List.map_map]
    rfl
  constructor
  · rw [List.length_map, length_least]
  · intro client member
    obtain ⟨row, inside, rfl⟩ := List.mem_map.mp member
    exact ⟨row, mem_of_mem_least inside, rfl⟩
  · rw [labels]
    exact least_nodup distinct
  · exact List.pairwise_map.mpr (least_pairwise (rowUsage usage) count models)
  · intro client member row inside left_out
    obtain ⟨kept, selected, rfl⟩ := List.mem_map.mp member
    have absent : row ∉ least (rowUsage usage) count models := by
      intro again
      rw [labels] at left_out
      exact left_out (List.mem_map_of_mem again)
    have ordered : rowUsage usage kept ≤ rowUsage usage row := least_le selected inside absent
    exact ordered

end Rows

section Query
variable {modelName provider feature : String} {env : Env} {db : Db}

/-- A filter that fixes the key keeps one row at most. -/
theorem length_filter_le_one {ρ κ υ : Type} [Row ρ κ υ] (t : Table ρ) (p : ρ → Bool) (k : κ)
    (fixed : ∀ r ∈ t.rows, p r = true → key r = k) : (t.rows.filter p).length ≤ 1 := by
  have distinct : ((t.rows.filter p).map key).Nodup :=
    t.keys_nodup.sublist (List.filter_sublist.map key)
  have same : ∀ r ∈ t.rows.filter p, key r = k := fun r member =>
    fixed r (List.mem_filter.mp member).1 (List.mem_filter.mp member).2
  cases kept : t.rows.filter p with
  | nil => exact Nat.zero_le 1
  | cons first rest =>
      cases rest with
      | nil => exact Nat.le_refl 1
      | cons second others =>
          rw [kept] at same distinct
          have one := (same first List.mem_cons_self).trans
            (same second (List.mem_cons_of_mem _ List.mem_cons_self)).symm
          rw [List.map_cons, List.map_cons, List.nodup_cons, one] at distinct
          exact absurd List.mem_cons_self distinct.1

theorem candidates_nodup (db : Db) (modelName provider feature : String) :
    (modelIds (candidates db modelName provider feature)).Nodup := by
  refine db.models.keys_nodup.sublist ?_
  unfold modelIds candidates
  induction db.models.rows with
  | nil => exact List.nil_sublist _
  | cons m rest ih =>
      rw [List.flatMap_cons, List.map_append, List.map_map, List.map_cons, ← List.singleton_append]
      refine List.Sublist.append ?_ ih
      have one := length_filter_le_one db.upstreams (fun u => m.upstreamId = u.id ∧ m.cname = modelName ∧
        u.provider = provider ∧ u.status = "online" ∧ m.isActive ∧ feature ∈ m.features) m.upstreamId
        (fun u _ offered => (of_decide_eq_true offered).1.symm)
      generalize db.upstreams.rows.filter _ = offering at one
      match offering, one with
      | [], _ => exact List.nil_sublist _
      | [u], _ => exact List.Sublist.refl _

/-- No model is offered twice. -/
theorem modelIds_nodup {models : List (LLMModel × LLMUpstream)}
    (returned : exec (.findModelsByNameAndCapacity modelName provider feature) env db = some models) :
    (modelIds models).Nodup := by
  cases returned
  exact (((Table.arrange_perm _ _).map _).nodup_iff).mpr
    (candidates_nodup db modelName provider feature)

end Query

section Selection
variable {answer : (op : Op engine) → Except Failure op.Reply} {models : List (LLMModel × LLMUpstream)}
  {redis : Except Failure (Int → Option Int)}

/-- The counters as they are read: a lone one that is missing is not there at all. -/
def usagesRead (redis : Except Failure (Int → Option Int)) (modelIds : List Int) : List Int :=
  match redis with
  | .ok counter => (redisGet counter modelIds).map (fun value => value.getD 0)
  | .error _ => List.replicate modelIds.length 0

theorem given_pooled {E : Engine} {answer : (op : Op E) → Except Failure op.Reply} {s : E.Stmt}
    {row : E.Answer s} (answered : answer (.auto s) = .ok row) : (Query.pooled s).run.given answer = .ok row := by
  rw [Query.pooled, ExceptT.run_mk, given_bind, given_auto, answered]
  rfl

theorem given_selectModelClients {builds : Nat → LLMUpstream → Bool} {modelName provider feature : String}
    {count : Nat} (nonempty : models ≠ [])
    (found : answer (.auto (.findModelsByNameAndCapacity modelName provider feature)) = .ok models)
    (counted : answer (.remote (.getOutputTokenUsage (modelIds models))) =
      redis.map (fun counter => redisGet counter (modelIds models))) :
    (selectModelClients builds modelName provider feature count).given answer =
      buildClients builds (leastLoaded count (usagesRead redis (modelIds models)) models) := by
  have some_ids : modelIds models ≠ [] := fun none => nonempty (List.map_eq_nil_iff.mp none)
  rw [selectModelClients, given_bind]
  have queried : (findModelsByNameAndCapacity modelName provider feature).run.given answer = .ok models :=
    given_pooled (E := engine) found
  rw [queried]
  simp only [nonempty, if_false]
  rw [given_bind]
  have read : (getOutputTokenUsageBatch (modelIds models)).given answer = usagesRead redis (modelIds models) := by
    rw [getOutputTokenUsageBatch, if_neg some_ids, given_bind, given_remote, counted]
    cases redis <;> rfl
  exact congrArg (fun usages => buildClients builds (leastLoaded count usages models)) read

theorem usagesRead_eq (read : ∀ counter row, redis = .ok counter → models = [row] → counter row.1.id ≠ none) :
    usagesRead redis (modelIds models) = (modelIds models).map (usageOf redis) := by
  cases redis with
  | error reason => exact List.map_const.symm
  | ok counter =>
      have several : ∀ ids : List Int, ids.length ≠ 1 → redisGet counter ids = ids.map counter := by
        rintro (_ | ⟨first, _ | ⟨second, rest⟩⟩) other
        · rfl
        · exact absurd rfl other
        · rfl
      have shown : redisGet counter (modelIds models) = (modelIds models).map counter := by
        match models with
        | [] => rfl
        | [row] =>
            obtain ⟨value, counted⟩ := Option.ne_none_iff_exists'.mp (read counter row rfl rfl)
            simp only [modelIds, List.map_cons, List.map_nil, redisGet, counted]
            rfl
        | first :: second :: rest => rfl
      rw [usagesRead, shown, List.map_map]
      rfl

/-- A lone candidate is selected only where its counter is there. -/
theorem counter_of_leastLoaded {count : Nat} (positive : 1 ≤ count)
    (least : LeastLoaded (usageOf redis) count models
      ((leastLoaded count (usagesRead redis (modelIds models)) models).map buildClient)) :
    ∀ counter row, redis = .ok counter → models = [row] → counter row.1.id ≠ none := by
  rintro counter row rfl rfl missing
  have lost : usagesRead (.ok counter) (modelIds [row]) = [] := by
    simp only [usagesRead, modelIds, List.map_cons, List.map_nil, redisGet, missing]
    rfl
  have complete := least.complete
  rw [lost, List.length_map] at complete
  simp only [leastLoaded, List.zip_nil_left, List.insertionSort_nil, List.take_nil, List.map_nil,
    List.length_nil, List.length_singleton] at complete
  omega

/-- The clients are the least loaded ones, unless the only candidate has no counter or the
client of one of the least used candidates cannot be built. -/
theorem Selector.clients_leastLoaded_iff (libraries : ClientLibraries) (selector : Selector)
    (modelName : String) (count : Nat) (answer : (op : Op engine) → Except Failure op.Reply)
    (redis : Except Failure (Int → Option Int))
    (models : List (LLMModel × LLMUpstream)) (env : Env) (db : Db) (positive : 1 ≤ count)
    (nonempty : models ≠ [])
    (returned : exec (.findModelsByNameAndCapacity modelName selector.provider selector.feature) env db =
      some models)
    (found : answer (.auto (.findModelsByNameAndCapacity modelName selector.provider selector.feature)) =
      .ok models)
    (counted : answer (.remote (.getOutputTokenUsage (modelIds models))) =
      redis.map (fun counter => redisGet counter (modelIds models))) :
    (∃ clients, (selector.clients libraries modelName count).given answer = some clients ∧
        LeastLoaded (usageOf redis) count models clients) ↔
      (∀ counter row, redis = .ok counter → models = [row] → counter row.1.id ≠ none) ∧
        ∀ n row, (least (rowUsage (usageOf redis)) count models)[n]? = some row →
          selector.builds libraries n row.2 = true := by
  rw [selector.clients_eq, given_selectModelClients nonempty found counted]
  constructor
  · rintro ⟨clients, selected, least⟩
    obtain ⟨built, rfl⟩ := buildClients_eq_some.mp selected
    have read : ∀ counter row, redis = .ok counter → models = [row] → counter row.1.id ≠ none :=
      counter_of_leastLoaded positive least
    rw [usagesRead_eq read, leastLoaded_map] at built
    exact ⟨read, built⟩
  · rintro ⟨read, built⟩
    rw [usagesRead_eq read, leastLoaded_map]
    exact ⟨_, buildClients_eq_some.mpr ⟨built, rfl⟩, leastLoaded_least (modelIds_nodup returned)⟩

end Selection

/-- Calls that are answered from rows and a world as they are. -/
def asIs (env : Env) (db : Db) (world : World) : (op : Op engine) → Except Failure op.Reply
  | .begin | .commit => .ok ()
  | .sql s | .auto s => (exec s env db).elim (.error .conflict) .ok
  | .remote c => .ok (remote c env world).1

/-- The model `gpt` of each of three upstreams. -/
def gpt (upstreamId : Int) : LLMModel :=
  ⟨upstreamId, upstreamId, "openai/gpt", "gpt", true, [featureMessages], 100000, 1, 2, 1, 1, ""⟩

def openai (id : Int) (name apiBase : String) (proxies : List String) : LLMUpstream :=
  ⟨id, name, apiBase, "sk", "openai", [], proxies, "online", ""⟩

def first : LLMUpstream := openai 1 "first" "https://a/v1" []
def second : LLMUpstream := openai 2 "second" "https://b/v1" ["http://proxy:3128"]
def third : LLMUpstream := openai 3 "third" "https://c/v1" ["::bad"]

def onlyGpt : Db :=
  { Db.empty with models := Table.empty.insert (gpt 1), upstreams := Table.empty.insert first }

def threeGpts : Db :=
  { Db.empty with
    models := ((Table.empty.insert (gpt 1)).insert (gpt 2)).insert (gpt 3)
    upstreams := ((Table.empty.insert first).insert second).insert third }

/-- Libraries that take the one proxy of the rows above that is a URL. -/
def oneProxy : ClientLibraries where
  proxyAll := fun proxy => proxy = "http://proxy:3128"
  withConfig := fun _ _ proxy => proxy.all (fun proxy => proxy = "http://proxy:3128")
  choose := fun _ => 0

/-- The only candidate is lost where its counter is missing. -/
theorem a_lone_candidate_is_lost :
    ¬ ∀ (libraries : ClientLibraries) (selector : Selector) (modelName : String) (count : Nat)
        (answer : (op : Op engine) → Except Failure op.Reply) (redis : Except Failure (Int → Option Int))
        (models : List (LLMModel × LLMUpstream)) (env : Env) (db : Db), 1 ≤ count → models ≠ [] →
      exec (.findModelsByNameAndCapacity modelName selector.provider selector.feature) env db = some models →
      answer (.auto (.findModelsByNameAndCapacity modelName selector.provider selector.feature)) = .ok models →
      answer (.remote (.getOutputTokenUsage (modelIds models))) =
        redis.map (fun counter => redisGet counter (modelIds models)) →
      ∃ clients, (selector.clients libraries modelName count).given answer = some clients ∧
        LeastLoaded (usageOf redis) count models clients := by
  intro complete
  obtain ⟨clients, selected, least⟩ := complete oneProxy (.modelClients "openai" featureMessages) "gpt" 2
    (asIs (.plain 0 1) onlyGpt .empty) (.ok (fun _ => none)) [(gpt 1, first)] (.plain 0 1) onlyGpt (by decide)
    (List.cons_ne_nil _ _) rfl rfl rfl
  have lost : clients = [] := by
    have found : asIs (.plain 0 1) onlyGpt .empty
        (.auto (.findModelsByNameAndCapacity "gpt" "openai" featureMessages)) = .ok [(gpt 1, first)] := rfl
    have counted : asIs (.plain 0 1) onlyGpt .empty (.remote (.getOutputTokenUsage (modelIds [(gpt 1, first)]))) =
        (Except.ok (fun _ => none)).map (fun counter => redisGet counter (modelIds [(gpt 1, first)])) := rfl
    rw [Selector.clients_eq] at selected
    have built := (given_selectModelClients (List.cons_ne_nil _ _) found counted).symm.trans selected
    exact (buildClients_eq built).trans (by decide +kernel)
  have one := least.complete
  rw [lost] at one
  exact absurd one (by decide)

/-- The third upstream is used most, and its proxy is no URL. -/
def busy : World := { World.empty with tokenUsage := [(0, 1, 1, 7), (0, 2, 1, 4), (0, 3, 1, 9)] }

theorem clients_leastLoaded_counted :
    exec (.findModelsByNameAndCapacity "gpt" "openai" featureMessages) (.plain 0 1) threeGpts =
        some [(gpt 1, first), (gpt 2, second), (gpt 3, third)] ∧
      outputUsage busy 0 1 = some 7 ∧ outputUsage busy 0 2 = some 4 ∧ outputUsage busy 0 3 = some 9 ∧
      ∃ clients, (Selector.clients oneProxy (.modelClients "openai" featureMessages) "gpt" 2).given
          (asIs (.plain 0 1) threeGpts busy) = some clients ∧
        LeastLoaded (usageOf (.ok (outputUsage busy 0))) 2 [(gpt 1, first), (gpt 2, second), (gpt 3, third)]
          clients :=
  ⟨rfl, rfl, rfl, rfl,
    (Selector.clients_leastLoaded_iff oneProxy (.modelClients "openai" featureMessages) "gpt" 2
      (asIs (.plain 0 1) threeGpts busy) (.ok (outputUsage busy 0))
      [(gpt 1, first), (gpt 2, second), (gpt 3, third)] (.plain 0 1) threeGpts
      (by decide) (List.cons_ne_nil _ _) rfl rfl rfl).mpr ⟨by rintro counter row - ⟨⟩, by
        rintro (_ | _ | n) row there
        · cases there
          decide +kernel
        · cases there
          decide +kernel
        · cases there⟩⟩

end LLMPool.ProxyViews
