import LLMPool.Billing.ServingModel
import LLMPool.ProxyViews.Routes

/-! Where the continuation of a response goes: the previous response's own id is looked up,
and its upstream is not; the clients are those that the counters prefer. -/
namespace LLMPool.ProxyViews
open Relational Transactions

/-- A request that continues a response which the upstream knows by its own id. -/
def Continues (originalId : String) (call : UpstreamCall) : Prop :=
  ∃ body, call = .createResponse body ∧ body.previousResponseId = some originalId

section Turns
variable {r : Route} {calls older : List (Call engine)} {clients : List UpstreamClient}

/-- The upstreams were contacted in the order of the clients, each after the attempts
before it had failed; the newest contact stands first. -/
def InTurn (clients : List UpstreamClient) : List Contact → Prop
  | [] => True
  | c :: before => (∃ client, clients[before.length]? = some client ∧ c.upstream = client.upstream) ∧
      (∀ c' ∈ before, c'.failure.isSome = true) ∧ InTurn clients before

theorem contacts_in_turn (follows : ∀ call older, call :: older <:+ calls → r.Follows older call.op)
    (selected : r.Selected calls clients) (inside : older <:+ calls) : InTurn clients (contacts older) := by
  induction older with
  | nil => trivial
  | cons first older ih =>
      have before := ih ((List.suffix_cons _ _).trans inside)
      have here := follows first older inside
      obtain ⟨op, reply⟩ := first
      cases op with
      | remote c =>
          cases c with
          | upstream u call =>
              obtain ⟨client, ⟨clients', chosen, turn, failed⟩, at_client, _⟩ := here
              have reached : Later older calls :=
                Later.trans ⟨List.suffix_cons _ _, rfl, rfl⟩
                  (Route.later_of_contacted follows inside (List.cons_ne_nil _ _))
              obtain rfl := (chosen.extend reached).unique selected
              exact ⟨⟨client, turn, at_client.symm⟩, failed, before⟩
          | _ => exact before
      | _ => exact before

/-- Some client has been selected before an upstream is contacted. -/
theorem selected_of_contacted (follows : ∀ call older, call :: older <:+ calls → r.Follows older call.op)
    (contacted : contacts calls ≠ []) : ∃ clients, r.Selected calls clients := by
  obtain ⟨c, member⟩ := List.exists_mem_of_ne_nil _ contacted
  obtain ⟨reply, made, _⟩ := mem_contacts member
  obtain ⟨older, inside⟩ := exists_older made
  obtain ⟨_, ⟨clients, chosen, _⟩, _⟩ := follows _ older inside
  exact ⟨clients, chosen.extend (Later.trans ⟨List.suffix_cons _ _, rfl, rfl⟩
    (Route.later_of_contacted follows inside (List.cons_ne_nil _ _)))⟩

/-- The oldest attempt has failed. -/
def FirstFailed (cs : List Contact) : Prop := ∃ c ∈ cs.getLast?, c.failure.isSome = true

section Two
variable {cs : List Contact} {first : UpstreamClient} {rest : List UpstreamClient} {upstreamId : Int}

/-- With at most two clients, the upstreams that were contacted are one where the first
client's is, and the second one's too if the first attempt has failed. -/
theorem upstreams_of_turns (inTurn : InTurn (first :: rest) cs) (two : (first :: rest).length ≤ 2)
    (here : first.upstream.id = upstreamId)
    (next : FirstFailed cs → ∀ second ∈ rest, second.upstream.id = upstreamId) :
    ∀ c ∈ cs, c.upstream.id = upstreamId := by
  match cs, inTurn with
  | [], _ => exact fun c never => absurd never List.not_mem_nil
  | [c], ⟨⟨client, turn, at_client⟩, _⟩ =>
      cases turn
      simpa [at_client] using here
  | [late, early], ⟨⟨client, turn, at_client⟩, failed, ⟨client', turn', at_client'⟩, _⟩ =>
      cases turn'
      have fails : FirstFailed [late, early] := ⟨early, rfl, failed early List.mem_cons_self⟩
      have there := next fails client (List.mem_of_getElem? (i := 0) turn)
      simp [at_client, at_client', here, there]
  | c :: c' :: c'' :: older, ⟨⟨client, turn, _⟩, _⟩ =>
      have inside := (List.getElem?_eq_some_iff.mp turn).1
      simp only [List.length_cons] at inside two
      omega

/-- At the end of the attempts that is the only case. -/
theorem turns_of_upstreams (inTurn : InTurn (first :: rest) cs) (two : (first :: rest).length ≤ 2)
    (some : cs ≠ []) (ended : (first :: rest).length ≤ cs.length ∨ ∃ c ∈ cs, c.failure = none)
    (same : ∀ c ∈ cs, c.upstream.id = upstreamId) :
    first.upstream.id = upstreamId ∧ (FirstFailed cs → ∀ second ∈ rest, second.upstream.id = upstreamId) := by
  match cs, inTurn with
  | [], _ => exact absurd rfl some
  | [c], ⟨⟨client, turn, at_client⟩, _⟩ =>
      cases turn
      refine ⟨at_client ▸ same c List.mem_cons_self, ?_⟩
      rintro ⟨_, ⟨⟩, failed⟩ second member
      rcases ended with only | ⟨c', inside, worked⟩
      · cases rest with
        | nil => cases member
        | cons => simp at only
      · cases List.mem_singleton.mp inside
        have failed : c.failure.isSome = true := failed
        rw [worked] at failed
        cases failed
  | [late, early], ⟨⟨client, turn, at_client⟩, failed, ⟨client', turn', at_client'⟩, _⟩ =>
      cases turn'
      refine ⟨at_client' ▸ same early (List.mem_cons_of_mem _ List.mem_cons_self), fun _ second member => ?_⟩
      have there := same late List.mem_cons_self
      cases rest with
      | nil => cases member
      | cons other others =>
          cases turn
          obtain rfl : others = [] := by simpa using two
          cases List.mem_singleton.mp member
          exact at_client ▸ there
  | c :: c' :: c'' :: older, ⟨⟨client, turn, _⟩, _⟩ =>
      have inside := (List.getElem?_eq_some_iff.mp turn).1
      simp only [List.length_cons] at inside two
      omega

end Two

/-- The client that the counters prefer is one of this upstream, and so is the second one
where the first attempt has failed; or no upstream is contacted at all. -/
def PrefersUpstream (r : Route) (calls : List (Call engine)) (upstreamId : Int) : Prop :=
  contacts calls = [] ∨ ∃ first rest, r.Selected calls (first :: rest) ∧ first.upstream.id = upstreamId ∧
    (FirstFailed (contacts calls) → ∀ second ∈ rest, second.upstream.id = upstreamId)

end Turns

section Runs
variable {ι : Type} [DecidableEq ι] {D : Discipline engine} {db : Db} {world : World}
  {program : ι → Action Unit} {history : History engine ι} {s : State engine ι} {i : ι}

theorem translated_original {calls : List (Call engine)} {prevId : String} {original : Option String}
    {row : ResponseMeta} (stored : db.responseMetas.lookup prevId = some row)
    (reached : Reaches D (.starting db world program) history s) (inside : calls <:+ (s.procs i).calls)
    (translated : Translated calls (some prevId) original) : original = some row.originalResponseId := by
  obtain ⟨read, answered, rfl⟩ := translated
  obtain ⟨r, found, same⟩ := Reaches.read_response reached (inside.subset answered)
  obtain ⟨r', found', kept⟩ := (Reaches.grows reached).responseMetas.lookup (fun same => same.responseId) stored
  cases found.symm.trans found'
  exact congrArg some (same.originalResponseId.symm.trans kept.originalResponseId)

/-- A continuation carries the previous response's own id, and goes to no upstream but the
one that gave that response where the counters prefer its clients, and by the end of the
request only there. -/
theorem chains_stay_on_their_upstream {r : Route} {row : ResponseMeta} {prevId : String}
    (payload : CreateResponse) (context : RequestContext)
    (routed : (ProxyRequest.createResponse payload).route = some r)
    (chained : payload.previousResponseId = some prevId)
    (stored : db.responseMetas.lookup prevId = some row)
    (handles : program i = (ProxyRequest.createResponse payload).handle context)
    (reached : Reaches D (.starting db world program) history s) :
    (∀ c ∈ contacts (s.procs i).calls, Continues row.originalResponseId c.call) ∧
    (PrefersUpstream r (s.procs i).calls row.upstreamId →
      ∀ c ∈ contacts (s.procs i).calls, c.upstream.id = row.upstreamId) ∧
    ((s.procs i).Returned → (∀ c ∈ contacts (s.procs i).calls, c.upstream.id = row.upstreamId) →
      PrefersUpstream r (s.procs i).calls row.upstreamId) := by
  have path : (program i).path r.Follows (fun _ later => r.Settled later ∧ r.Exhausted later) [] :=
    handles ▸ path_createResponse_routed payload routed
  have follows : ∀ call older, call :: older <:+ (s.procs i).calls → r.Follows older call.op :=
    fun call older inside => (reached.follows path inside).1
  have two : r.count = 2 := by
    cases routed
    rfl
  refine ⟨?_, ?_, ?_⟩
  · intro c member
    obtain ⟨reply, made, _⟩ := mem_contacts member
    obtain ⟨older, inside⟩ := exists_older made
    obtain ⟨client, _, _, sent⟩ := follows _ older inside
    cases routed
    obtain ⟨original, translated, same⟩ := sent
    rw [chained] at translated
    exact ⟨_, same, translated_original stored reached ((List.suffix_cons _ _).trans inside) translated⟩
  · rintro (none | ⟨first, rest, selected, here, next⟩)
    · simp [none]
    · exact upstreams_of_turns (contacts_in_turn follows selected List.suffix_rfl)
        (two ▸ selected.length_le) here next
  · intro returned same
    by_cases some : contacts (s.procs i).calls = []
    · exact .inl some
    obtain ⟨clients, selected⟩ := selected_of_contacted follows some
    have inTurn := contacts_in_turn follows selected List.suffix_rfl
    have ended := ((reached.ends path returned).2.resolve_left some) clients selected
    cases clients with
    | nil =>
        cases contacted : contacts (s.procs i).calls with
        | nil => exact absurd contacted some
        | cons c older =>
            rw [contacted] at inTurn
            obtain ⟨⟨client, never, _⟩, _⟩ := inTurn
            cases never
    | cons first rest =>
        have kept := turns_of_upstreams inTurn (two ▸ selected.length_le) some ended same
        exact .inr ⟨first, rest, selected, kept⟩

end Runs

/-- A response of the second upstream, and a model that both upstreams offer or, where the
first one's is inactive, the second one only. -/
def chainedAtSecond (both : Bool) : Db := { Db.empty with
  wallets := Table.empty.insert ⟨1, 1, 100⟩
  upstreams := (Table.empty.insert ⟨1, "first", "https://a", "", "openai", [], [], "online", ""⟩).insert
    ⟨2, "second", "https://b", "", "openai", [], [], "online", ""⟩
  models := (Table.empty.insert ⟨1, 1, "gpt-4o", "gpt-4o", both, [featureResponses], 100000, 1, 2, 1, 1, ""⟩).insert
    ⟨2, 2, "gpt-4o", "gpt-4o", true, [featureResponses], 100000, 1, 2, 1, 1, ""⟩
  responseMetas := Table.empty.insert ⟨1, "resp-1", "resp_abc", 2, false⟩ }

def continuation : CreateResponse := ⟨some "gpt-4o", some "resp-1"⟩

def continues : RequestContext := ⟨1, 1, fun _ => "s", fun _ => "u", .direct⟩

def continuing (both : Bool) : State engine Unit :=
  .starting (chainedAtSecond both) { World.empty with tokenUsage := [(0, 2, 1, 1)] }
    (fun _ => (ProxyRequest.createResponse continuation).handle continues)

def continued (calls : Nat) : List (Unit × Turn engine) := List.replicate calls ((), .run (Env.plain 0 1))

/-- The upstreams that were contacted, newest first, once the request has returned. -/
def AskedAt (upstreamIds : List Int) (s : State engine Unit) : Prop :=
  (s.procs ()).Returned ∧ (contacts (s.procs ()).calls).map (fun c => c.upstream.id) = upstreamIds

instance (upstreamIds : List Int) : DecidablePred (AskedAt upstreamIds) := by
  unfold AskedAt
  infer_instance

/-- The first upstream is asked to continue a response of the second. -/
theorem a_chain_leaves_its_upstream : ∃ history s,
    Reaches (Discipline.any False) (continuing true) history s ∧
    (chainedAtSecond true).responseMetas.lookup "resp-1" = some ⟨1, "resp-1", "resp_abc", 2, false⟩ ∧
    ∃ c ∈ contacts (s.procs ()).calls, Continues "resp_abc" c.call ∧ c.upstream.id ≠ 2 := by
  obtain ⟨history, s, reached, c, member, call, elsewhere⟩ := State.exists_of_play (Discipline.any False)
    (continuing true) (continued 7)
    (fun s => ∃ c ∈ contacts (s.procs ()).calls,
      c.call = .createResponse ⟨some "gpt-4o", some "resp_abc"⟩ ∧ c.upstream.id ≠ 2) (by decide +kernel)
  exact ⟨history, s, reached, by decide +kernel, c, member, ⟨_, call, rfl⟩, elsewhere⟩

/-- Where only the second upstream offers the model, its response is continued there. -/
theorem chains_stay_on_their_upstream_alone : ∃ history s r,
    Reaches (Discipline.any False) (continuing false) history s ∧
    (ProxyRequest.createResponse continuation).route = some r ∧
    contacts (s.procs ()).calls ≠ [] ∧
    (∀ c ∈ contacts (s.procs ()).calls, Continues "resp_abc" c.call) ∧
    PrefersUpstream r (s.procs ()).calls 2 := by
  obtain ⟨history, s, reached, returned, asked⟩ := State.exists_of_play (Discipline.any False)
    (continuing false) (continued 8) (AskedAt [2]) (by decide +kernel)
  have stored : (chainedAtSecond false).responseMetas.lookup "resp-1" =
      some ⟨1, "resp-1", "resp_abc", 2, false⟩ := by decide +kernel
  have same : ∀ c ∈ contacts (s.procs ()).calls, c.upstream.id = 2 := by
    intro c member
    have inside := List.mem_map_of_mem (f := fun c : Contact => c.upstream.id) member
    rw [asked] at inside
    exact List.mem_singleton.mp inside
  obtain ⟨carries, _, kept⟩ := chains_stay_on_their_upstream (i := ()) continuation continues rfl rfl stored
    rfl reached
  refine ⟨history, s, _, reached, rfl, fun none => ?_, carries, kept returned same⟩
  rw [none] at asked
  cases asked

end LLMPool.ProxyViews
