import LLMPool.Growth
import LLMPool.ProxyViews.Eligibility

/-! The model names in the requests that upstreams are sent: some endpoints put the
upstream's full identifier in the place of the name that the client asked for, the others
forward what the client wrote. -/
namespace LLMPool.ProxyViews
open Relational Transactions

/-- The model names in the body of a request to an upstream. -/
def UpstreamCall.modelNames : UpstreamCall → List (Option String)
  | .createChat body | .createChatStream body => [some body.model]
  | .createEmbedding body => [some body.model]
  | .generateImages body => [body.model.map (fun model => imageModelToString (some model))]
  | .createSpeech body => [some (speechModelToString body.model)]
  | .createResponse body => [body.model]
  | .createMessage body | .createMessageStream body => [some body.model]
  | .countMessageTokens body => [some body.model]
  | .createMessageBatch body => body.requests.map (fun item => some item.params.model)
  | _ => []

namespace ProxyRequest

/-- The names that a client asks for, each of a model of its own. -/
def modelNames : ProxyRequest → List String
  | chatCompletions payload => [payload.model]
  | createEmbeddings payload => [payload.model]
  | generateImages payload => [imageModelToString payload.model]
  | createSpeech payload => [speechModelToString payload.model]
  | createResponse payload => [payload.model.getD ""]
  | createMessage payload => [payload.model]
  | countMessageTokens payload => [payload.model]
  | createMessageBatch payload => payload.requests.map (fun item => item.params.model)
  | _ => []

def forwardsModels : ProxyRequest → Bool
  | chatCompletions _ | createEmbeddings _ | generateImages _ | createSpeech _ | createResponse _ => true
  | createMessage _ | countMessageTokens _ | createMessageBatch _ => true
  | _ => false

/-- The endpoints that replace the model's name. -/
def renames : ProxyRequest → Bool
  | chatCompletions _ | createEmbeddings _ | createResponse _ | createMessage _ => true
  | _ => false

/-- A request for images may leave its model out. -/
def writesModel : ProxyRequest → Bool
  | generateImages payload => payload.model.isSome
  | _ => true

end ProxyRequest

/-- The identifier of an active model that the upstream has under this name. -/
def Identifies (db : Db) (u : LLMUpstream) (cname fullname : String) : Prop :=
  ∃ m ∈ db.models, m.upstreamId = u.id ∧ m.isActive = true ∧ m.cname = cname ∧ m.fullname = fullname

/-- Each name in the body identifies the model that was asked for in its place. -/
def NamesSelected (db : Db) (u : LLMUpstream) (asked : List String) (body : List (Option String)) : Prop :=
  List.Forall₂ (fun cname sent => ∃ fullname, sent = some fullname ∧ Identifies db u cname fullname) asked body

theorem namesSelected_one : NamesSelected db u [cname] [sent] ↔
    ∃ fullname, sent = some fullname ∧ Identifies db u cname fullname := by
  simp [NamesSelected]

/-- Names that are forwarded as they are identify their models where each is one itself. -/
theorem namesSelected_same : NamesSelected db u names (names.map some) ↔
    ∀ name ∈ names, Identifies db u name name := by
  rw [NamesSelected, List.forall₂_map_right_iff, List.forall₂_same]
  simp

theorem namesSelected_none : ¬NamesSelected db u [cname] [none] := by
  simp [NamesSelected]

section Names
variable {r : Route} {request : ProxyRequest} {client : UpstreamClient} {calls : List (Call engine)}
  {call : UpstreamCall}

theorem names_renamed (routed : request.route = some r) (renamed : request.renames = true)
    (sent : r.sends calls client call) :
    request.modelNames = [r.modelName] ∧ UpstreamCall.modelNames call = [some client.fullname] := by
  cases request with
  | chatCompletions payload | createMessage payload =>
      cases routed
      rcases sent with rfl | rfl <;> exact ⟨rfl, rfl⟩
  | createEmbeddings payload =>
      cases routed
      cases sent
      exact ⟨rfl, rfl⟩
  | createResponse payload =>
      cases routed
      obtain ⟨original, _, rfl⟩ := sent
      exact ⟨rfl, rfl⟩
  | _ => cases renamed

theorem names_forwarded (routed : request.route = some r) (forwards : request.forwardsModels = true)
    (kept : request.renames = false) (sent : r.sends calls client call) :
    request.writesModel = true ∧ UpstreamCall.modelNames call = request.modelNames.map some ∨
      request.writesModel = false ∧ ∃ name, request.modelNames = [name] ∧
        UpstreamCall.modelNames call = [none] := by
  cases request with
  | generateImages payload =>
      cases routed
      cases sent
      cases model : payload.model with
      | none => exact .inr ⟨congrArg Option.isSome model, _, rfl, by simp [UpstreamCall.modelNames, model]⟩
      | some name =>
          refine .inl ⟨congrArg Option.isSome model, ?_⟩
          simp [UpstreamCall.modelNames, ProxyRequest.modelNames, model]
  | createSpeech payload | countMessageTokens payload =>
      cases routed
      cases sent
      exact .inl ⟨rfl, rfl⟩
  | createMessageBatch payload =>
      cases routed
      cases sent
      exact .inl ⟨rfl, (List.map_map ..).symm⟩
  | _ => first | (cases kept; done) | cases forwards

end Names

section Runs
variable {ι : Type} [DecidableEq ι] {D : Discipline engine} {db : Db} {world : World}
  {program : ι → Action Unit} {history : History engine ι} {s : State engine ι} {i : ι}
  {u : LLMUpstream} {call : UpstreamCall} {reply : Except Failure (Except ClientError call.Answer)}

/-- A body that an upstream is sent names the selected model of that upstream exactly if
the endpoint replaces the name, or the names that the client wrote are full identifiers
of the upstream's models already. -/
theorem forwarded_names_are_selected (request : ProxyRequest) (context : RequestContext)
    (forwards : request.forwardsModels = true) (handles : program i = request.handle context)
    (reached : Reaches D (.starting db world program) history s)
    (contacted : (⟨.remote (.upstream u call), reply⟩ : Call engine) ∈ (s.procs i).calls) :
    NamesSelected db u request.modelNames (UpstreamCall.modelNames call) ↔
      request.renames = true ∨
        request.writesModel = true ∧ ∀ name ∈ request.modelNames, Identifies db u name name := by
  obtain ⟨r, routed⟩ : ∃ r, request.route = some r := by
    cases request <;> first | exact ⟨_, rfl⟩ | cases forwards
  obtain ⟨older, client, inside, next, rfl, sent⟩ := routed_contact routed handles reached contacted
  cases renames : request.renames with
  | true =>
      obtain ⟨asked, body⟩ := names_renamed routed renames sent
      obtain ⟨_, selecting, _, m, first, _, _, offered, fullname⟩ := offered_when_selected reached inside next
      have models : selecting.db.models = db.models := (Reaches.grows first).models
      rw [asked, body, namesSelected_one]
      refine iff_of_true ⟨client.fullname, rfl, m, models ▸ offered.model, ?_⟩ (.inl rfl)
      exact ⟨offered.belongs, offered.active, offered.named, fullname.symm⟩
  | false =>
      rcases names_forwarded routed forwards renames sent with ⟨writes, body⟩ | ⟨omits, name, asked, body⟩
      · rw [body, namesSelected_same, writes]
        simp only [Bool.false_eq_true, false_or, true_and]
      · rw [asked, body, omits]
        refine iff_of_false namesSelected_none ?_
        simp only [Bool.false_eq_true, false_or, false_and, not_false_eq_true]

end Runs

def speech : ProxyRequest := .createSpeech ⟨.tts1⟩

def speaks : RequestContext := ⟨1, 1, fun _ => "s", fun _ => "u", .direct⟩

/-- One upstream with a speech model of this full identifier. -/
def oneVoice (fullname : String) : Db := { Db.empty with
  wallets := Table.empty.insert ⟨1, 1, 100⟩
  upstreams := Table.empty.insert onlineUpstream
  models := Table.empty.insert
    ⟨1, 1, fullname, deriveCname fullname, true, [featureAudioSpeech], 100000, 1, 2, 1, 1, ""⟩ }

/-- Its counter exists: a lone counter that does not is read as an empty list, which
selects no client. -/
def usedBefore : World := { World.empty with tokenUsage := [(0, 1, 1, 1)] }

def speaking (fullname : String) : State engine Unit :=
  .starting (oneVoice fullname) usedBefore (fun _ => speech.handle speaks)

def spoken : List (Unit × Turn engine) := List.replicate 5 ((), .run (Env.plain 0 1))

/-- The upstream and the request that were sent last. -/
def sentLast (s : State engine Unit) : Option (LLMUpstream × UpstreamCall) :=
  (contacts (s.procs ()).calls).head?.map (fun c => (c.upstream, c.call))

theorem mem_of_sentLast {s : State engine Unit} (sent : sentLast s = some (u, call)) :
    ∃ reply, (⟨.remote (.upstream u call), reply⟩ : Call engine) ∈ (s.procs ()).calls := by
  obtain ⟨c, last, same⟩ := Option.map_eq_some_iff.mp sent
  cases same
  obtain ⟨reply, inside, _⟩ := mem_contacts (List.mem_of_head? last)
  exact ⟨reply, inside⟩

/-- The upstream knows the model as `vendor/tts-1` only, and is asked for `tts-1`. -/
theorem a_name_is_forwarded_unchanged : ∃ history s call reply,
    Reaches (Discipline.any False) (speaking "vendor/tts-1") history s ∧
    (⟨.remote (.upstream onlineUpstream call), reply⟩ : Call engine) ∈ (s.procs ()).calls ∧
    speech.forwardsModels = true ∧
    ¬NamesSelected (oneVoice "vendor/tts-1") onlineUpstream speech.modelNames (UpstreamCall.modelNames call) := by
  obtain ⟨history, s, reached, sent⟩ := State.exists_of_play (Discipline.any False)
    (speaking "vendor/tts-1") spoken
    (fun s => sentLast s = some (onlineUpstream, .createSpeech ⟨.tts1⟩)) (by decide +kernel)
  obtain ⟨reply, inside⟩ := mem_of_sentLast sent
  refine ⟨history, s, _, reply, reached, inside, rfl, fun named => ?_⟩
  obtain ⟨fullname, same, m, member, _, _, _, identifier⟩ := namesSelected_one.mp named
  cases same
  have other : ∀ m ∈ (oneVoice "vendor/tts-1").models.rows, m.fullname ≠ "tts-1" := by decide +kernel
  exact other m member identifier

/-- Where the full identifier is the plain name, the upstream is asked for its own model. -/
theorem forwarded_names_are_selected_plain : ∃ history s call reply,
    Reaches (Discipline.any False) (speaking "tts-1") history s ∧
    (⟨.remote (.upstream onlineUpstream call), reply⟩ : Call engine) ∈ (s.procs ()).calls ∧
    NamesSelected (oneVoice "tts-1") onlineUpstream speech.modelNames (UpstreamCall.modelNames call) := by
  obtain ⟨history, s, reached, sent⟩ := State.exists_of_play (Discipline.any False) (speaking "tts-1") spoken
    (fun s => sentLast s = some (onlineUpstream, .createSpeech ⟨.tts1⟩)) (by decide +kernel)
  obtain ⟨reply, inside⟩ := mem_of_sentLast sent
  have identified : ∀ name ∈ speech.modelNames, Identifies (oneVoice "tts-1") onlineUpstream name name := by
    have own : ∃ m ∈ (oneVoice "tts-1").models.rows, m.upstreamId = onlineUpstream.id ∧ m.isActive = true ∧
        m.cname = "tts-1" ∧ m.fullname = "tts-1" := by decide +kernel
    intro name member
    cases List.mem_singleton.mp member
    exact own
  exact ⟨history, s, _, reply, reached, inside,
    (forwarded_names_are_selected (i := ()) speech speaks rfl rfl reached inside).mpr (.inr ⟨rfl, identified⟩)⟩

end LLMPool.ProxyViews
