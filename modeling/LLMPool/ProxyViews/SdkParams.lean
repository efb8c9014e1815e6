import LLMPool.Defer.Events
import LLMPool.Json

/-! The conversion of a message request to the client library's parameters: content that
is no plain string becomes a string of its JSON text. -/
namespace LLMPool.ProxyViews.Client
open Json

/-- The numbers of JSON, how they are written, and which number or null is written for an
`f32`. -/
structure Numbers (ν F : Type) where
  digits : ν → String
  natural : Nat → ν
  single : F → Value ν

/-- A string, or any structured block. -/
inductive ContentBlock (ν : Type) where
  | text (s : String)
  | block (value : Value ν)

structure MessageParam (ν : Type) where
  role : String
  content : ContentBlock ν

structure CreateMessageParams (ν F : Type) extends LLMPool.CreateMessageParams where
  messages : List (MessageParam ν)
  maxTokens : Nat
  system : Option (Value ν)
  temperature : Option F
  topP : Option F
  topK : Option Nat
  stopSequences : Option (List String)
  tools : Option (Value ν)
  toolChoice : Option (Value ν)
  metadata : Option (Value ν)

namespace Sdk

inductive Role where
  | user
  | assistant

/-- The one form of content that the conversion makes. -/
inductive MessageContent where
  | text (s : String)

structure MessageParam where
  role : Role
  content : MessageContent

structure MessageCreateParams (ν F : Type) where
  model : String
  maxTokens : Nat
  messages : List MessageParam
  system : Option String
  temperature : Option F
  topP : Option F
  topK : Option Nat
  stopSequences : Option (List String)
  stream : Option Bool
  tools : Option (Value ν)
  toolChoice : Option (Value ν)
  metadata : Option (Value ν)

end Sdk

section Conversion
variable {ν F : Type} (numbers : Numbers ν F)

def toSdkRole : String → Sdk.Role
  | "assistant" => .assistant
  | _ => .user

def toSdkContent : ContentBlock ν → Sdk.MessageContent
  | .text s => .text s
  | .block value => .text (text numbers.digits value)

def toSdkSystem : Value ν → String
  | .string s => s
  | other => text numbers.digits other

/-- Tools, their choice and the metadata are skipped. -/
def toSdkParams (params : CreateMessageParams ν F) : Sdk.MessageCreateParams ν F where
  model := params.model
  maxTokens := params.maxTokens
  messages := params.messages.map (fun m => ⟨toSdkRole m.role, toSdkContent numbers m.content⟩)
  system := params.system.map (toSdkSystem numbers)
  temperature := params.temperature
  topP := params.topP
  topK := params.topK
  stopSequences := params.stopSequences
  stream := params.stream
  tools := none
  toolChoice := none
  metadata := none

/-- The two forms of content are told apart by their shape alone. -/
def ContentBlock.json : ContentBlock ν → Value ν
  | .text s => .string s
  | .block value => value

def MessageParam.json (m : MessageParam ν) : Value ν :=
  .object [("role", .string m.role), ("content", m.content.json)]

def strings (items : List String) : Value ν := .array (items.map .string)

def CreateMessageParams.json (params : CreateMessageParams ν F) : Value ν :=
  .object ([("model", .string params.model), ("messages", .array (params.messages.map MessageParam.json)),
      ("max_tokens", .number (numbers.natural params.maxTokens))] ++
    optional "system" params.system ++ optional "stream" (params.stream.map .bool) ++
    optional "temperature" (params.temperature.map numbers.single) ++
    optional "top_p" (params.topP.map numbers.single) ++
    optional "top_k" (params.topK.map (fun n => .number (numbers.natural n))) ++
    optional "stop_sequences" (params.stopSequences.map strings) ++ optional "tools" params.tools ++
    optional "tool_choice" params.toolChoice ++ optional "metadata" params.metadata)

end Conversion

/-- The roles and the contents of a request's messages. -/
def messagesOf (json : Value ν) : Option (List (Option (Value ν) × Option (Value ν))) :=
  match field "messages" json with
  | some (.array items) => some (items.map (fun item => (field "role" item, field "content" item)))
  | _ => none

def Sdk.Role.name : Sdk.Role → String
  | .user => "user"
  | .assistant => "assistant"

def Sdk.MessageContent.string : Sdk.MessageContent → String
  | .text s => s

/-- How the client library writes its parameters: text content and the system prompt as
strings, and what there is no value for not at all. -/
structure Serializes (numbers : Numbers ν F) (serialize : Sdk.MessageCreateParams ν F → Value ν) : Prop where
  messages : ∀ p, messagesOf (serialize p) =
    some (p.messages.map (fun m => (some (.string m.role.name), some (.string m.content.string))))
  maxTokens : ∀ p, field "max_tokens" (serialize p) = some (.number (numbers.natural p.maxTokens))
  system : ∀ p, field "system" (serialize p) = p.system.map .string
  stream : ∀ p, field "stream" (serialize p) = p.stream.map .bool
  temperature : ∀ p, field "temperature" (serialize p) = p.temperature.map numbers.single
  topP : ∀ p, field "top_p" (serialize p) = p.topP.map numbers.single
  topK : ∀ p, field "top_k" (serialize p) = p.topK.map (fun n => .number (numbers.natural n))
  stopSequences : ∀ p, field "stop_sequences" (serialize p) = p.stopSequences.map strings

/-- The fields beside the messages that are to arrive as they are. -/
def forwardedFields : List String :=
  ["system", "max_tokens", "temperature", "top_p", "top_k", "stop_sequences", "stream"]

/-- What is sent says the same as the request. -/
def Forwards (numbers : Numbers ν F) (serialize : Sdk.MessageCreateParams ν F → Value ν)
    (params : CreateMessageParams ν F) : Prop :=
  messagesOf (serialize (toSdkParams numbers params)) = messagesOf (params.json numbers) ∧
    ∀ name ∈ forwardedFields,
      field name (serialize (toSdkParams numbers params)) = field name (params.json numbers)

/-- Every content is a plain string, and so is the system prompt where there is one. -/
def Plain (params : CreateMessageParams ν F) : Prop :=
  (∀ m ∈ params.messages, ∃ s, m.content = .text s) ∧ ∀ value ∈ params.system, ∃ s, value = .string s

section Forwarding
variable {ν F : Type} {numbers : Numbers ν F} {serialize : Sdk.MessageCreateParams ν F → Value ν}

theorem messagesOf_json (params : CreateMessageParams ν F) : messagesOf (params.json numbers) =
    some (params.messages.map (fun m => (some (.string m.role), some m.content.json))) := by
  have written : field "messages" (params.json numbers) =
      some (.array (params.messages.map MessageParam.json)) := rfl
  rw [messagesOf, written]
  dsimp only
  rw [List.map_map]
  rfl

theorem content_forwarded {content : ContentBlock ν} :
    .string (toSdkContent numbers content).string = content.json ↔ ∃ s, content = .text s := by
  cases content with
  | text s => exact iff_of_true rfl ⟨s, rfl⟩
  | block value =>
      refine iff_of_false (string_text_ne numbers.digits value) ?_
      rintro ⟨s, ⟨⟩⟩

theorem system_forwarded {value : Value ν} :
    .string (toSdkSystem numbers value) = value ↔ ∃ s, value = .string s := by
  cases value with
  | string s => exact iff_of_true rfl ⟨s, rfl⟩
  | null | bool | number | array | object =>
      refine iff_of_false (by rintro ⟨⟩) ?_
      rintro ⟨s, ⟨⟩⟩

theorem role_forwarded {role : String} (known : role = "user" ∨ role = "assistant") :
    (toSdkRole role).name = role := by
  rcases known with rfl | rfl <;> rfl

theorem field_json (numbers : Numbers ν F) (params : CreateMessageParams ν F) :
    field "system" (params.json numbers) = params.system ∧
    field "max_tokens" (params.json numbers) = some (.number (numbers.natural params.maxTokens)) ∧
    field "stream" (params.json numbers) = params.stream.map .bool ∧
    field "temperature" (params.json numbers) = params.temperature.map numbers.single ∧
    field "top_p" (params.json numbers) = params.topP.map numbers.single ∧
    field "top_k" (params.json numbers) = params.topK.map (fun n => .number (numbers.natural n)) ∧
    field "stop_sequences" (params.json numbers) = params.stopSequences.map strings := by
  refine ⟨?_, rfl, ?_, ?_, ?_, ?_, ?_⟩
  all_goals
    simp only [CreateMessageParams.json, field, List.append_assoc, List.cons_append, List.nil_append]
    simp (disch := decide) [List.lookup_cons, lookup_optional_self, lookup_optional_ne, lookup_optional_other]

theorem fields_forwarded (laws : Serializes numbers serialize) (params : CreateMessageParams ν F) :
    (∀ name ∈ forwardedFields,
      field name (serialize (toSdkParams numbers params)) = field name (params.json numbers)) ↔
    ∀ value ∈ params.system, ∃ s, value = .string s := by
  obtain ⟨system, maxTokens, stream, temperature, topP, topK, stopSequences⟩ :=
    field_json numbers params
  simp only [forwardedFields, List.forall_mem_cons, List.not_mem_nil, false_implies, implies_true, and_true,
    laws.system, laws.maxTokens, laws.temperature, laws.topP, laws.topK, laws.stopSequences, laws.stream,
    system, maxTokens, stream, temperature, topP, topK, stopSequences, toSdkParams]
  cases params.system with
  | none => simp
  | some value =>
      simp only [Option.map_some, Option.some.injEq, Option.mem_def, forall_eq']
      exact system_forwarded

theorem messages_forwarded (laws : Serializes numbers serialize) (params : CreateMessageParams ν F)
    (known : ∀ m ∈ params.messages, m.role = "user" ∨ m.role = "assistant") :
    messagesOf (serialize (toSdkParams numbers params)) = messagesOf (params.json numbers) ↔
      ∀ m ∈ params.messages, ∃ s, m.content = .text s := by
  rw [laws.messages, messagesOf_json, Option.some.injEq, toSdkParams]
  dsimp only
  rw [List.map_map, List.map_inj_left]
  refine forall₂_congr (fun m member => ?_)
  simp only [Function.comp_apply, role_forwarded (known m member), Prod.mk.injEq, true_and, Option.some.injEq]
  exact content_forwarded

/-- A request is forwarded as it is where its contents and its system prompt are strings. -/
theorem toSdkParams_forwards_iff (numbers : Numbers ν F) (serialize : Sdk.MessageCreateParams ν F → Value ν)
    (params : CreateMessageParams ν F) (laws : Serializes numbers serialize)
    (known : ∀ m ∈ params.messages, m.role = "user" ∨ m.role = "assistant") :
    Forwards numbers serialize params ↔ Plain params :=
  and_congr (messages_forwarded laws params known) (fields_forwarded laws params)

end Forwarding

/-- Numbers that are whole. -/
def whole : Numbers Int Int := ⟨fun n => toString n, Int.ofNat, .number⟩

/-- A client library that writes its parameters as the pool writes its own. -/
def written (p : Sdk.MessageCreateParams Int Int) : Value Int :=
  CreateMessageParams.json whole {
    model := p.model
    stream := p.stream
    messages := p.messages.map (fun m => ⟨m.role.name, .text m.content.string⟩)
    maxTokens := p.maxTokens
    system := p.system.map .string
    temperature := p.temperature
    topP := p.topP
    topK := p.topK
    stopSequences := p.stopSequences
    tools := p.tools
    toolChoice := p.toolChoice
    metadata := p.metadata }

theorem serializes_written : Serializes whole written := by
  constructor
  · intro p
    rw [written, messagesOf_json, List.map_map]
    rfl
  all_goals
    intro p
    simp only [written, field_json]

/-- A request of one user message. -/
def asking (content : ContentBlock Int) : CreateMessageParams Int Int where
  model := "claude"
  stream := none
  messages := [⟨"user", content⟩]
  maxTokens := 1024
  system := none
  temperature := none
  topP := none
  topK := none
  stopSequences := none
  tools := none
  toolChoice := none
  metadata := none

/-- Content blocks arrive as a string of their text. -/
theorem content_blocks_are_not_forwarded :
    ¬ ∀ (numbers : Numbers Int Int) (serialize : Sdk.MessageCreateParams Int Int → Value Int)
        (params : CreateMessageParams Int Int), Serializes numbers serialize →
      (∀ m ∈ params.messages, m.role = "user" ∨ m.role = "assistant") → Forwards numbers serialize params := by
  intro forwards
  have user : ∀ m ∈ (asking (.block (.array [.object [("type", .string "text"), ("text", .string "Hi")]]))).messages,
      m.role = "user" ∨ m.role = "assistant" := by
    intro m member
    obtain rfl := List.mem_singleton.mp member
    exact .inl rfl
  have same := (messages_forwarded serializes_written _ user).mp
    (forwards whole written _ serializes_written user).1 _ (List.mem_singleton_self _)
  obtain ⟨s, never⟩ := same
  cases never

theorem toSdkParams_forwards_text : Forwards whole written (asking (.text "Hi")) := by
  have user : ∀ m ∈ (asking (.text "Hi")).messages, m.role = "user" ∨ m.role = "assistant" := by
    intro m member
    obtain rfl := List.mem_singleton.mp member
    exact .inl rfl
  refine (toSdkParams_forwards_iff whole written _ serializes_written user).mpr ⟨?_, ?_⟩
  · intro m member
    obtain rfl := List.mem_singleton.mp member
    exact ⟨"Hi", rfl⟩
  · rintro value ⟨⟩


end LLMPool.ProxyViews.Client
