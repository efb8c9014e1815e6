import LLMPool.Growth
import LLMPool.ProxyViews.Routes

/-! The ids of previous responses, there and back: a continuation is sent the upstream's own id,
and what the upstream says of it later is looked up by that id alone. -/
namespace LLMPool.ProxyViews
open Relational Transactions

section Handlers
variable {context : RequestContext} {calls : List (Call engine)}

theorem returns_callUpstream {u : LLMUpstream} {call : UpstreamCall} {answer : call.Answer}
    (returns : (callUpstream u call).Returns calls (.ok answer)) :
    calls = [⟨.remote (.upstream u call), .ok (.ok answer)⟩] := by
  obtain ⟨result, first, second, rfl, asked, returns⟩ := returns.bind
  rw [asked.single]
  cases result <;> cases returns
  rfl

theorem returns_checkWalletBalance {insufficient : String} {accountId : Int} {next : Action (Reply α)} {body : α}
    (returns : (checkWalletBalance insufficient accountId next).Returns calls (.json body)) :
    ∃ first second, calls = first ++ second ∧ next.Returns second (.json body) := by
  obtain ⟨wallet, first, second, rfl, _, returns⟩ := returns.bind
  rcases wallet with _ | _ | wallet
  · cases returns
  · cases returns
  · dsimp only at returns
    split at returns
    · cases returns
    · exact ⟨first, second, rfl, returns⟩

/-- A body is what one of the attempts has returned. -/
theorem returns_tryClients {attempt : Nat → UpstreamClient → Action (Except ClientError (Reply α))}
    {failed : UpstreamClient → ClientError → Action Unit} {exhausted : StatusCode} {clients : List UpstreamClient}
    {i : Nat} {body : α}
    (returns : (tryClients attempt failed (.status exhausted) i clients).Returns calls (.json body)) :
    ∃ i client before made after, calls = before ++ made ++ after ∧
      (attempt i client).Returns made (.ok (.json body)) := by
  induction clients generalizing i calls with
  | nil => cases returns
  | cons client rest ih =>
      obtain ⟨result, first, second, rfl, attempted, returns⟩ := returns.bind
      cases result with
      | ok reply =>
          obtain ⟨rfl, rfl⟩ := returns.pure
          exact ⟨i, client, [], first, [], rfl, attempted⟩
      | error e =>
          obtain ⟨_, reported, second, rfl, _, returns⟩ := returns.bind
          split at returns
          · cases returns
          · obtain ⟨j, client', before, made, after, rfl, attempted⟩ := ih returns
            exact ⟨j, client', first ++ reported ++ before, made, after, by simp only [List.append_assoc],
              attempted⟩

theorem returns_withUpstream {upstreamId : Int} {next : LLMUpstream → Action (Reply α)} {body : α}
    (returns : (withUpstream upstreamId next).Returns calls (.json body)) :
    ∃ u later, calls = ⟨.auto (.getUpstream upstreamId), .ok (some u)⟩ :: later ∧
      (next u).Returns later (.json body) := by
  obtain ⟨result, first, second, rfl, found, rest⟩ := returns.bind
  rcases result with (reason | _) | u
  · cases rest
  · cases rest
  · obtain ⟨answer, asked, nothing, rfl, asks, fetched⟩ := found.run_bind
    obtain ⟨rfl, rfl⟩ := returns_fetchOne fetched
    rw [returns_queryAuto asks]
    exact ⟨u, second, rfl, rest⟩

theorem returns_withPreviousResponse {previousResponseId : Option String}
    {next : Option String → Action (Reply Response)} {body : Response}
    (returns : (withPreviousResponse previousResponseId next).Returns calls (.json body)) :
    ∃ original first second, calls = first ++ second ∧ Translated first previousResponseId original ∧
      (next original).Returns second (.json body) := by
  cases previousResponseId with
  | none => exact ⟨none, [], calls, rfl, rfl, returns⟩
  | some prevId =>
      obtain ⟨result, first, second, rfl, found, rest⟩ := returns.bind
      rcases result with e | _ | originalId
      · cases rest
      · cases rest
      · obtain ⟨row, asked, nothing, rfl, asks, mapped⟩ := found.run_bind
        rw [returns_queryAuto asks]
        cases row with
        | none => cases mapped
        | some row =>
            cases mapped
            exact ⟨_, _, second, rfl, ⟨row, List.mem_singleton.mpr rfl, rfl⟩, rest⟩

theorem returns_createResponseWithClient {client : UpstreamClient} {tracer : SessionTracer}
    {payload : CreateResponse} {answered : Response}
    (returns : (createResponseWithClient client tracer payload).Returns calls (.ok answered)) :
    (⟨.remote (.upstream client.upstream (.createResponse payload)), .ok (.ok answered)⟩ : Call engine) ∈
      calls := by
  obtain ⟨tracer', tracing, later, rfl, _, rest⟩ := returns.bind
  obtain ⟨result, asking, tracing', rfl, asked, answers⟩ := rest.bind
  cases result with
  | error e => cases answers
  | ok answered' =>
      obtain ⟨_, pushing, nothing, rfl, _, same⟩ := answers.bind
      cases same
      rw [returns_callUpstream asked]
      simp

theorem returns_storeResponse {upstreamId : Int} {ourPreviousResponseId : Option String} {answered created : Response}
    (returns : (storeResponse context upstreamId ourPreviousResponseId answered).Returns calls (.json created)) :
    created.id = mintedId "resp-" (context.minted 0) ∧
      ∃ row, (⟨.auto (.insertResponseMeta created.id answered.id upstreamId), .ok row⟩ : Call engine) ∈
        calls := by
  obtain ⟨result, inserting, nothing, rfl, inserts, same⟩ := returns.bind
  cases result with
  | error e => cases same
  | ok row =>
      cases same
      rw [returns_queryAuto inserts]
      exact ⟨rfl, row, List.mem_cons_self⟩

/-- What an upstream was asked, what it answered and what was stored of it, where a response was
created. -/
structure Created (payload : CreateResponse) (created : Response) (u : LLMUpstream) (sent : CreateResponse)
    (answered : Response) (calls : List (Call engine)) : Prop where
  translated : Translated calls payload.previousResponseId sent.previousResponseId
  answers : (⟨.remote (.upstream u (.createResponse sent)), .ok (.ok answered)⟩ : Call engine) ∈ calls
  stores : ∃ row, (⟨.auto (.insertResponseMeta created.id answered.id u.id), .ok row⟩ : Call engine) ∈ calls

theorem returns_createResponse {payload : CreateResponse} {created : Response}
    (returns : (createResponse context payload).Returns calls (.json created)) :
    created.id = mintedId "resp-" (context.minted 0) ∧
      ∃ u sent answered, Created payload created u sent answered calls := by
  obtain ⟨checking, later, rfl, modelled⟩ := returns_checkWalletBalance returns
  split at modelled
  · cases modelled
  obtain ⟨selected, selecting, later, rfl, _, selected⟩ := modelled.bind
  split at selected
  · cases selected
  dsimp only at selected
  split at selected
  · cases selected
  obtain ⟨original, translating, later, rfl, translated, tried⟩ := returns_withPreviousResponse selected
  obtain ⟨i, client, before, made, after, rfl, attempted⟩ := returns_tryClients tried
  obtain ⟨result, asking, storing, rfl, asked, answers⟩ := attempted.bind
  cases result with
  | error e => cases answers
  | ok answered =>
      obtain ⟨reply, storing, nothing, rfl, stored, same⟩ := answers.bind
      cases same
      obtain ⟨minted, row, stores⟩ := returns_storeResponse stored
      have answers := returns_createResponseWithClient asked
      refine ⟨minted, client.upstream, { payload with
        model := some client.fullname, previousResponseId := original }, answered, ?_, ?_, row, ?_⟩
      · exact translated.subset (fun call member => by simp [member])
      · simp [answers]
      · simp [stores]

/-- What was read and what the upstream was asked, where a response was retrieved. -/
structure Retrieved (responseId : String) (row : ResponseMeta) (u : LLMUpstream) (answered : Response)
    (calls : List (Call engine)) : Prop where
  reads : (⟨.auto (.getResponseMetaByResponseId responseId), .ok (some row)⟩ : Call engine) ∈ calls
  finds : (⟨.auto (.getUpstream row.upstreamId), .ok (some u)⟩ : Call engine) ∈ calls
  answers : (⟨.remote (.upstream u (.retrieveResponse row.originalResponseId)), .ok (.ok answered)⟩ :
    Call engine) ∈ calls

/-- The upstream's id of a previous response is looked up, and stands where nothing is found. -/
def LooksBack (previousResponseId given : Option String) (calls : List (Call engine)) : Prop :=
  match previousResponseId with
  | none => calls = [] ∧ given = none
  | some original => ∃ found, calls = [⟨.auto (.getResponseIdFromOriginalResponseId original), .ok found⟩] ∧
      given = some (found.getD original)

theorem returns_ourPreviousResponse {answered : Response} {given : Option String}
    (returns : (ourPreviousResponse answered).run.Returns calls (.ok given)) :
    LooksBack answered.previousResponseId given calls := by
  unfold ourPreviousResponse at returns
  cases previous : answered.previousResponseId with
  | none =>
      rw [previous] at returns
      cases returns
      exact ⟨rfl, rfl⟩
  | some original =>
      rw [previous] at returns
      obtain ⟨found, asking, nothing, rfl, asked, given⟩ := returns.run_bind
      rw [returns_queryAuto asked]
      cases found <;> cases given <;> exact ⟨_, rfl, rfl⟩

theorem returns_retrieveResponse {responseId : String} {retrieved : Response}
    (returns : (retrieveResponse context responseId).Returns calls (.json retrieved)) :
    ∃ row u answered older newer, calls = older ++ newer ∧ Retrieved responseId row u answered older ∧
      LooksBack answered.previousResponseId retrieved.previousResponseId newer := by
  obtain ⟨checking, later, rfl, read⟩ := returns_checkWalletBalance returns
  obtain ⟨result, reading, later, rfl, reads, found⟩ := read.bind
  rcases result with e | _ | row
  · cases found
  · cases found
  obtain ⟨u, later, rfl, asks⟩ := returns_withUpstream found
  obtain ⟨result, asking, later, rfl, asked, answers⟩ := asks.bind
  cases result with
  | error e => cases answers
  | ok answered =>
      obtain ⟨tracer, tracing, later, rfl, _, traced⟩ := answers.bind
      obtain ⟨result, looking, nothing, rfl, looked, same⟩ := traced.bind
      cases result with
      | error e => cases same
      | ok given =>
          cases same
          refine ⟨row, u, answered,
            checking ++ (reading ++ (⟨.auto (.getUpstream row.upstreamId), .ok (some u)⟩ :: (asking ++ tracing))),
            looking, by simp, ?_, returns_ourPreviousResponse looked⟩
          rw [returns_queryAuto reads, returns_callUpstream asked]
          exact ⟨by simp, by simp, by simp⟩

end Handlers

/-- The requests on `/responses`. -/
inductive ResponsesRequest where
  | create (payload : CreateResponse)
  | retrieve (responseId : String)
  | delete (responseId : String)

inductive ResponsesReply where
  | response (reply : Reply Response)
  | deleted (reply : Reply DeleteResponse)

namespace ResponsesRequest

def handle (context : RequestContext) : ResponsesRequest → Action ResponsesReply
  | create payload => return .response (← createResponse context payload)
  | retrieve responseId => return .response (← retrieveResponse context responseId)
  | delete responseId => return .deleted (← deleteResponse responseId)

/-- The response that a request continues. -/
def continues : ResponsesRequest → Option String
  | create payload => payload.previousResponseId
  | _ => none

theorem returns_response {p : Action (Reply Response)} {reply : Reply Response} {calls : List (Call engine)}
    (returns : (do return ResponsesReply.response (← p)).Returns calls (.response reply)) :
    p.Returns calls reply := by
  obtain ⟨reply', first, nothing, rfl, inner, same⟩ := returns.bind
  cases same
  rw [List.append_nil]
  exact inner

end ResponsesRequest

/-- What an upstream has answered about a response of its own. -/
inductive Exchange where
  | created (upstreamId : Int) (sent : CreateResponse) (answered : Response)
  | retrieved (upstreamId : Int) (originalResponseId : String) (answered : Response)

def Exchange.ofCall : Call engine → Option Exchange
  | ⟨.remote (.upstream u (.createResponse sent)), .ok (.ok answered)⟩ => some (.created u.id sent answered)
  | ⟨.remote (.upstream u (.retrieveResponse originalResponseId)), .ok (.ok answered)⟩ =>
      some (.retrieved u.id originalResponseId answered)
  | _ => none

/-- The ids of an upstream's responses are unique within it, and it echoes the previous response
that it was sent. -/
def Exchange.Agrees (same : Prop) : Exchange → Exchange → Prop
  | created upstreamId _ answered, created upstreamId' _ answered' =>
      upstreamId = upstreamId' → answered.id = answered'.id → same
  | created upstreamId sent answered, retrieved upstreamId' originalResponseId answered' =>
      upstreamId = upstreamId' → answered.id = originalResponseId →
        answered'.previousResponseId = sent.previousResponseId
  | _, _ => True

/-- The response id that a call looks up. -/
def soughtBy : Call engine → Option String
  | ⟨.auto (.getResponseMetaByResponseId responseId), _⟩ => some responseId
  | _ => none

/-- The row of a response is live, and the only live one with its upstream's id. -/
def OnlyLive (db : Db) (responseId : String) : Prop :=
  ∃ row ∈ db.responseMetas.rows, row.responseId = responseId ∧ row.deleted = false ∧
    ∀ other ∈ db.responseMetas.rows, other.deleted = false → other.originalResponseId = row.originalResponseId →
      other = row

/-- The only live row with an upstream's id is found by it. -/
theorem exec_onlyLive {db : Db} {env : Env} {row : ResponseMeta} {found : Option String}
    (stored : row ∈ db.responseMetas) (live : row.deleted = false)
    (alone : ∀ other ∈ db.responseMetas.rows, other.deleted = false →
      other.originalResponseId = row.originalResponseId → other = row)
    (executed : exec (.getResponseIdFromOriginalResponseId row.originalResponseId) env db = some found) :
    found = some row.responseId := by
  have first : ((Table.arrange env.pick db.responseMetas.rows).find? (fun r =>
      r.originalResponseId = row.originalResponseId ∧ r.deleted = false)).map (·.responseId) = found :=
    Option.some.inj executed
  cases chosen : (Table.arrange env.pick db.responseMetas.rows).find? (fun r =>
      r.originalResponseId = row.originalResponseId ∧ r.deleted = false) with
  | none =>
      have missed := List.find?_eq_none.mp chosen row (Table.mem_arrange.mpr stored)
      simp [live] at missed
  | some r =>
      have fits := List.find?_some chosen
      simp only [decide_eq_true_eq] at fits
      obtain rfl := alone r (Table.mem_arrange.mp (List.mem_of_find?_eq_some chosen)) fits.2 fits.1
      rw [chosen] at first
      exact first.symm

section Runs
variable {ι : Type} (request : ι → ResponsesRequest) (context : ι → RequestContext)

def served (i : ι) : Action ResponsesReply := (request i).handle (context i)

def serving (db : Db) (world : World) : State engine ι :=
  .starting db world (fun i => served request context i >>= fun _ => pure ())

def UpstreamsAgree (s : State engine ι) : Prop :=
  ∀ i j, ∀ e ∈ (s.procs i).calls.filterMap Exchange.ofCall,
    ∀ e' ∈ (s.procs j).calls.filterMap Exchange.ofCall, e.Agrees (i = j) e'

/-- A response is retrieved with the previous response that it was created with. -/
def RoundTrips (s : State engine ι) : Prop :=
  ∀ i j payload created retrieved, request i = .create payload → request j = .retrieve created.id →
    s.ReturnedAs (served request context) i (.response (.json created)) →
    s.ReturnedAs (served request context) j (.response (.json retrieved)) →
    retrieved.previousResponseId = payload.previousResponseId

/-- An upstream's id of a previous response is looked up only while the response that was
continued is live, and alone with that id. -/
def Recoverable (calls : List (Call engine)) (db : Db) : Op engine → Prop
  | .auto (.getResponseIdFromOriginalResponseId _) => ∀ i,
      mintedId "resp-" ((context i).minted 0) ∈ calls.filterMap soughtBy →
        ∀ previousResponseId ∈ (request i).continues, OnlyLive db previousResponseId
  | _ => True

def recoverable (faults : Op engine → Prop) : Discipline engine :=
  ⟨faults, False, fun calls op db => Recoverable request context calls db op⟩

section Recovered
variable {request context} [DecidableEq ι] {faults : Op engine → Prop} {db : Db} {world : World}
  {history : History engine ι} {s : State engine ι} {i j : ι}

/-- What the upstream says of a response is what it was sent, where the response was created. -/
theorem Retrieved.echoed {D : Discipline engine} {program : ι → Action Unit} {payload sent : CreateResponse}
    {created answered answered' : Response} {u u' : LLMUpstream} {row : ResponseMeta} {made read : List (Call engine)}
    (reached : Reaches D (.starting db world program) history s) (agree : UpstreamsAgree s)
    (creation : Created payload created u sent answered made) (inside : made ⊆ (s.procs i).calls)
    (retrieval : Retrieved created.id row u' answered' read) (inside' : read ⊆ (s.procs j).calls) :
    answered'.previousResponseId = sent.previousResponseId := by
  obtain ⟨_, inserted⟩ := creation.stores
  obtain ⟨r, lookup, original, upstream⟩ := Reaches.stored_response reached (inside inserted)
  obtain ⟨r', lookup', same⟩ := Reaches.read_response reached (inside' retrieval.reads)
  cases lookup.symm.trans lookup'
  have there : u.id = u'.id := by
    rw [Reaches.found_upstream reached (inside' retrieval.finds), ← same.upstreamId, upstream]
  exact agree i j (.created u.id sent answered) (List.mem_filterMap.mpr ⟨_, inside creation.answers, rfl⟩)
    (.retrieved u'.id row.originalResponseId answered')
    (List.mem_filterMap.mpr ⟨_, inside' retrieval.answers, rfl⟩) there
    (original.symm.trans same.originalResponseId)

/-- The id that the upstream was sent is translated back to the response that was continued. -/
theorem looked_back {previousResponseId original : String} {found : Option String} {older : List (Call engine)}
    {row : ResponseMeta}
    (reached : Reaches (recoverable request context faults) (serving request context db world) history s)
    (continued : previousResponseId ∈ (request i).continues)
    (translated : Translated (s.procs i).calls (some previousResponseId) (some original))
    (sought : (⟨.auto (.getResponseMetaByResponseId (mintedId "resp-" ((context i).minted 0))), .ok (some row)⟩ :
      Call engine) ∈ older)
    (looked : ⟨.auto (.getResponseIdFromOriginalResponseId original), .ok found⟩ :: older <:+ (s.procs j).calls) :
    found = some previousResponseId := by
  obtain ⟨_, middle, _, next, world', later, _, here, second, _, _, answers⟩ := reached.stepped looked
  rcases answers with ⟨_, ⟨⟩⟩ | ⟨admitted, env, performed⟩
  obtain ⟨read, reads, same⟩ := translated
  cases same
  obtain ⟨only, stored, rfl, live, alone⟩ := admitted i (List.mem_filterMap.mpr ⟨_, sought, rfl⟩) _ continued
  have onlyOriginal : only.originalResponseId = read.originalResponseId := by
    obtain ⟨r, lookup, unchanged⟩ := Reaches.read_response reached reads
    have grows := Reaches.grows ((Reaches.step .start here).trans second)
    obtain ⟨r', lookup', unchanged'⟩ := grows.responseMetas.lookup (fun same => same.responseId)
      (Table.lookup_iff.mpr ⟨stored, rfl⟩)
    cases lookup.symm.trans lookup'
    exact unchanged'.originalResponseId.symm.trans unchanged.originalResponseId
  exact exec_onlyLive stored live alone (onlyOriginal ▸ (Op.answer_ok performed).2)

/-- Wherever each response that is continued is live and alone with its upstream's id when that
is looked up, what was continued is what is retrieved. -/
theorem previousResponseId_roundTrips (request : ι → ResponsesRequest) (context : ι → RequestContext)
    (faults : Op engine → Prop) (db : Db) (world : World) (history : History engine ι) (s : State engine ι)
    (reached : Reaches (recoverable request context faults) (serving request context db world) history s)
    (agree : UpstreamsAgree s) : RoundTrips request context s := by
  rintro i j payload created retrieved creates retrieves ⟨_, returned⟩ ⟨_, returned'⟩
  rw [served, creates] at returned
  rw [served, retrieves] at returned'
  obtain ⟨minted, u, sent, answered, creation⟩ :=
    returns_createResponse (ResponsesRequest.returns_response returned)
  obtain ⟨row, u', answered', older, newer, calls, retrieval, back⟩ :=
    returns_retrieveResponse (ResponsesRequest.returns_response returned')
  have inside : older ⊆ (s.procs j).calls := by
    intro call member
    rw [← List.mem_reverse, calls]
    exact List.mem_append_left _ member
  have reverses : (s.procs i).calls.reverse ⊆ (s.procs i).calls := List.reverse_subset.mpr (List.Subset.refl _)
  have translated := creation.translated.subset reverses
  rw [retrieval.echoed reached agree creation reverses inside] at back
  cases continued : payload.previousResponseId with
  | none =>
      rw [continued] at translated
      rw [show sent.previousResponseId = none from translated] at back
      exact back.2
  | some previousResponseId =>
      rw [continued] at translated
      cases forwarded : sent.previousResponseId with
      | none =>
          rw [forwarded] at translated
          obtain ⟨_, _, ⟨⟩⟩ := translated
      | some original =>
          rw [forwarded] at translated back
          obtain ⟨found, looked, given⟩ := back
          have last : ⟨.auto (.getResponseIdFromOriginalResponseId original), .ok found⟩ :: older.reverse <:+
              (s.procs j).calls := by
            rw [← List.reverse_reverse (s.procs j).calls, calls, looked, List.reverse_append]
            exact List.suffix_rfl
          have sought := retrieval.reads
          rw [minted] at sought
          rw [given, looked_back reached (by simp [ResponsesRequest.continues, creates, continued]) translated
            (List.mem_reverse.mpr sought) last]
          rfl

end Recovered

section Evaluation
variable {request context} [DecidableEq ι] [Fintype ι]

instance (same : Prop) [Decidable same] (e e' : Exchange) : Decidable (e.Agrees same e') := by
  cases e <;> cases e' <;> unfold Exchange.Agrees <;> infer_instance

instance (s : State engine ι) : Decidable (UpstreamsAgree s) := by
  unfold UpstreamsAgree
  infer_instance

instance (db : Db) (responseId : String) : Decidable (OnlyLive db responseId) := by
  unfold OnlyLive
  infer_instance

instance (calls : List (Call engine)) (db : Db) (op : Op engine) :
    Decidable (Recoverable request context calls db op) := by
  unfold Recoverable
  split <;> infer_instance

instance : (recoverable request context (fun _ => False)).Decides where
  faults _ := isFalse id
  serial := isFalse id
  admits calls op db := inferInstanceAs (Decidable (Recoverable request context calls db op))

end Evaluation

end Runs

def ResponsesReply.body : ResponsesReply → Option Response
  | response (.json body) => some body
  | _ => none

theorem ResponsesReply.of_body {reply : ResponsesReply} {body : Response} (same : reply.body = some body) :
    reply = .response (.json body) := by
  rcases reply with reply | reply
  · cases reply <;> cases same
    rfl
  · cases same

/-- Two upstreams with a model each. -/
def oneModelEach : Db := { Db.empty with
  wallets := Table.empty.insert ⟨1, 1, 100⟩
  upstreams := (Table.empty.insert ⟨1, "first", "https://a", "", "openai", [], [], "online", ""⟩).insert
    ⟨2, "second", "https://b", "", "openai", [], [], "online", ""⟩
  models := (Table.empty.insert ⟨1, 1, "a", "a", true, [featureResponses], 100000, 1, 2, 1, 1, ""⟩).insert
    ⟨2, 2, "b", "b", true, [featureResponses], 100000, 1, 2, 1, 1, ""⟩ }

def bothCounted : World := { World.empty with tokenUsage := [(0, 1, 1, 1), (0, 2, 1, 1)] }

/-- A response of each upstream, and one that continues the second. -/
def continuedOnce : Fin 4 → ResponsesRequest
  | 0 => .create ⟨some "a", none⟩
  | 1 => .create ⟨some "b", none⟩
  | 2 => .create ⟨some "b", some "resp-1"⟩
  | 3 => .retrieve "resp-2"

def numbered (i : Fin 4) : RequestContext := ⟨1, 1, fun _ => "s", fun _ => toString i.val, .direct⟩

/-- An upstream that answers with this id, and with what it was sent. -/
def givesId (serial : Int) (originalResponseId : String) (echo : Option String) : Env := { Env.plain 0 serial with
  answers := fun
    | .createResponse _ => .ok ⟨originalResponseId, echo, none⟩
    | .retrieveResponse _ => .ok ⟨originalResponseId, echo, none⟩
    | _ => .error .network }

/-- The first upstream's id is a parameter. -/
def inOrder (first : String) : List (Fin 4 × Env) :=
  [(0, givesId 1 first none), (1, givesId 2 "resp_x" none), (2, givesId 3 "resp_y" (some "resp_x")),
    (3, givesId 4 "resp_y" (some "resp_x"))]

/-- What the two requests that matter are answered, where the upstreams keep to their ids. -/
def Gives (created retrieved : Response) (values : List (Fin 4 × ResponsesReply)) (s : State engine (Fin 4)) : Prop :=
  (values.map (fun entry => (entry.1, entry.2.body))).drop 2 = [(2, some created), (3, some retrieved)] ∧
    UpstreamsAgree s

instance (created retrieved : Response) (values : List (Fin 4 × ResponsesReply)) (s : State engine (Fin 4)) :
    Decidable (Gives created retrieved values s) := by
  unfold Gives
  infer_instance

theorem Gives.returned {created retrieved : Response} {values : List (Fin 4 × ResponsesReply)}
    {s : State engine (Fin 4)} (answers : Gives created retrieved values s)
    (returned : ∀ entry ∈ values, s.ReturnedAs (served continuedOnce numbered) entry.1 entry.2) :
    s.ReturnedAs (served continuedOnce numbered) 2 (.response (.json created)) ∧
      s.ReturnedAs (served continuedOnce numbered) 3 (.response (.json retrieved)) := by
  have each : ∀ i body, (i, some body) ∈ (values.map (fun entry => (entry.1, entry.2.body))).drop 2 →
      s.ReturnedAs (served continuedOnce numbered) i (.response (.json body)) := by
    intro i body member
    obtain ⟨⟨j, reply⟩, inside, same⟩ := List.mem_map.mp (List.mem_of_mem_drop member)
    obtain ⟨rfl, answered⟩ := Prod.mk.inj same
    exact ResponsesReply.of_body answered ▸ returned _ inside
  rw [answers.1] at each
  exact ⟨each 2 created (by simp), each 3 retrieved (by simp)⟩

/-- Both upstreams have issued the id that the continued response has at the second. -/
theorem a_continuation_is_retrieved_with_another_response :
    ¬ ∀ (request : Fin 4 → ResponsesRequest) (context : Fin 4 → RequestContext) (db : Db) (world : World)
        (history : History engine (Fin 4)) (s : State engine (Fin 4)),
        Reaches (.any False) (serving request context db world) history s → UpstreamsAgree s →
          RoundTrips request context s := by
  intro roundTrips
  obtain ⟨history, s, values, reached, answers, returned⟩ := State.exists_of_inTurn (.any False)
    (served continuedOnce numbered) oneModelEach bothCounted (inOrder "resp_x")
    (Gives ⟨"resp-2", some "resp-1", none⟩ ⟨"resp-2", some "resp-0", none⟩) (by decide) (by decide +kernel)
  obtain ⟨created, retrieved⟩ := answers.returned returned
  have same := roundTrips continuedOnce numbered oneModelEach bothCounted history s reached answers.2 2 3 _ _ _
    rfl rfl created retrieved
  exact absurd same (by decide)

/-- The first upstream has issued another id. -/
theorem previousResponseId_roundTrips_apart : ∃ history s,
    Reaches (recoverable continuedOnce numbered (fun _ => False))
      (serving continuedOnce numbered oneModelEach bothCounted) history s ∧ UpstreamsAgree s ∧
    s.ReturnedAs (served continuedOnce numbered) 3 (.response (.json ⟨"resp-2", some "resp-1", none⟩)) ∧
    RoundTrips continuedOnce numbered s := by
  obtain ⟨history, s, values, reached, answers, returned⟩ := State.exists_of_inTurn
    (recoverable continuedOnce numbered (fun _ => False)) (served continuedOnce numbered) oneModelEach bothCounted
    (inOrder "resp_z") (Gives ⟨"resp-2", some "resp-1", none⟩ ⟨"resp-2", some "resp-1", none⟩)
    (by decide) (by decide +kernel)
  exact ⟨history, s, reached, answers.2, (answers.returned returned).2, previousResponseId_roundTrips continuedOnce
    numbered (fun _ => False) oneModelEach bothCounted history s reached answers.2⟩

end LLMPool.ProxyViews
