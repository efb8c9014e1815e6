import LLMPool.ProxyViews.Anthropic
import LLMPool.ProxyViews.OpenAI
import LLMPool.Selections

/-! The lists of models of the two APIs, beside the models that a request can be routed
to: the lists ask neither whether a model is active nor whether its upstream is online. -/
namespace LLMPool.ProxyViews
open Relational Transactions Selections

structure Model where
  id : String
  object : String
  ownedBy : String

structure ListModelResponse where
  object : String
  data : List Model

structure AnthropicModel where
  id : String
  displayName : String
  objectType : String

structure ListModelsResponse where
  data : List AnthropicModel
  hasMore : Bool
  firstId : Option String
  lastId : Option String

/-- The models without those whose short name has been listed before. -/
def uniqueModels (models : List LLMModel) : List LLMModel := firsts (fun m => m.cname) [] models

def listMergedModels : Action (Reply ListModelResponse) := do
  match ← (Query.auto (.listModels "openai" (some featureChatCompletions))).run with
  | .error _ => return .status .internalServerError
  | .ok models => return .json ⟨"list", (uniqueModels models).map (fun m => ⟨m.cname, "model", "system"⟩)⟩

def listModels : Action (Reply ListModelsResponse) := do
  match ← (Query.auto (.listModels "anthropic" (some featureMessages))).run with
  | .error _ => return .status .internalServerError
  | .ok models =>
      let data := (uniqueModels models).map (fun m => (⟨m.cname, m.cname, "model"⟩ : AnthropicModel))
      return .json ⟨data, false, data.head?.map (fun m => m.id), data.getLast?.map (fun m => m.id)⟩

/-- The two APIs that list models. -/
inductive ModelsApi where
  | openai
  | anthropic

namespace ModelsApi

def provider : ModelsApi → String
  | openai => "openai"
  | anthropic => "anthropic"

def feature : ModelsApi → String
  | openai => featureChatCompletions
  | anthropic => featureMessages

/-- The names in the answer of the API's list, where it is a list. -/
def names : ModelsApi → Action (Option (List String))
  | openai => do
      match ← listMergedModels with
      | .json list => return some (list.data.map (fun m => m.id))
      | _ => return none
  | anthropic => do
      match ← listModels with
      | .json list => return some (list.data.map (fun m => m.id))
      | _ => return none

end ModelsApi

section Names
variable {api : ModelsApi} {env : Env} {m : Solo engine} {c : String}

/-- The models that the API's list is made of. -/
def listedFor (api : ModelsApi) (env : Env) (db : Db) : List LLMModel :=
  Table.arrange env.pick (listedModels db api.provider (some api.feature))

theorem alone_names (api : ModelsApi) (env : Env) (m : Solo engine) :
    ∃ m', api.names.alone env m =
      some (some ((uniqueModels (listedFor api env m.db)).map (fun m => m.cname)), m') := by
  cases api with
  | openai =>
      have ran : ∃ m', ModelsApi.openai.names.alone env m = some (some (((uniqueModels
          (listedFor .openai env m.db)).map (fun m => (⟨m.cname, "model", "system"⟩ : Model))).map
            (fun m => m.id)), m') := ⟨_, rfl⟩
      rwa [List.map_map] at ran
  | anthropic =>
      have ran : ∃ m', ModelsApi.anthropic.names.alone env m = some (some (((uniqueModels
          (listedFor .anthropic env m.db)).map (fun m => (⟨m.cname, m.cname, "model"⟩ : AnthropicModel))).map
            (fun m => m.id)), m') := ⟨_, rfl⟩
      rwa [List.map_map] at ran

/-- A model of the name with the API's feature, at an upstream of its provider. -/
def Listed (api : ModelsApi) (db : Db) (c : String) : Prop :=
  ∃ m ∈ db.models, ∃ u ∈ db.upstreams, m.upstreamId = u.id ∧ m.cname = c ∧ u.provider = api.provider ∧
    api.feature ∈ m.features

theorem mem_names : c ∈ (uniqueModels (listedFor api env db)).map (fun m => m.cname) ↔ Listed api db c := by
  have provided : decide (api.provider = "") = false := by cases api <;> decide
  rw [uniqueModels, mem_labels_firsts]
  simp only [List.not_mem_nil, not_false_eq_true, true_and, listedFor, listedModels, provided, List.mem_map,
    Table.mem_arrange, List.mem_filter, belongsTo, List.any_eq_true, decide_eq_true_eq, Listed]
  constructor
  · rintro ⟨m, ⟨member, ⟨u, upstream, belongs, provider⟩, capable⟩, named⟩
    exact ⟨m, member, u, upstream, belongs, named, provider, capable⟩
  · rintro ⟨m, member, u, upstream, belongs, named, provider, capable⟩
    exact ⟨m, ⟨member, ⟨u, upstream, belongs, provider⟩, capable⟩, named⟩

/-- A name that can be routed is listed once, and any other is not listed. -/
def ListedExactly (api : ModelsApi) (db : Db) (c : String) (names : List String) : Prop :=
  (candidates db c api.provider api.feature ≠ [] → names.count c = 1) ∧
    (candidates db c api.provider api.feature = [] → c ∉ names)

theorem listed_of_offered {u : LLMUpstream} {row : LLMModel}
    (offered : Offered db c api.provider api.feature row u) : Listed api db c :=
  ⟨row, offered.model, u, offered.upstream, offered.belongs, offered.named, offered.provider, offered.capable⟩

end Names

/-- A model that has been deactivated. -/
def inactive : LLMModel :=
  ⟨1, 1, "openai/gpt", "gpt", false, [featureChatCompletions], 100000, 1, 2, 1, 1, ""⟩

end LLMPool.ProxyViews
