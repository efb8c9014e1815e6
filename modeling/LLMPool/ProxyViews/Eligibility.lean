import LLMPool.ProxyViews.Routes

/-! Which upstreams new work is sent to: the routing query offers only upstreams that are
online and of the provider's API, the OpenAI upload takes the first row of the table. -/
namespace LLMPool.ProxyViews
open Relational Transactions

namespace ProxyRequest

/-- The requests that start new work upstream. -/
def startsWork : ProxyRequest → Bool
  | chatCompletions _ | createEmbeddings _ | generateImages _ | createSpeech _ | createResponse _ => true
  | createMessage _ | createMessageBatch _ | createFileHandler _ | uploadFile _ => true
  | _ => false

/-- The provider of the API that a request came in on. -/
def api : ProxyRequest → String
  | createMessage _ | countMessageTokens _ | createMessageBatch _ | retrieveMessageBatch _
  | cancelMessageBatch _ | retrieveMessageBatchResults _ | retrieveFile _ | deleteFile _
  | uploadFile _ | fileContent _ | listFiles | listMessageBatches => "anthropic"
  | _ => "openai"

def takesFirst : ProxyRequest → Bool
  | createFileHandler _ => true
  | _ => false

theorem route_provider {r : Route} {request : ProxyRequest} (routed : request.route = some r) :
    r.provider = request.api := by
  cases request <;> cases routed <;> rfl

theorem routed_or_first {request : ProxyRequest} (starts : request.startsWork = true) :
    (∃ r, request.route = some r) ∧ request.takesFirst = false ∨ ∃ body, request = createFileHandler body := by
  cases request with
  | createFileHandler body => exact .inr ⟨body, rfl⟩
  | chatCompletions | createEmbeddings | generateImages | createSpeech | createResponse | createMessage
  | createMessageBatch | uploadFile => exact .inl ⟨⟨_, rfl⟩, rfl⟩
  | _ => cases starts

end ProxyRequest

def Eligible (api : String) (u : LLMUpstream) : Prop := u.status = "online" ∧ u.provider = api

/-- The first row of the listing of the upstreams that was answered last. -/
def firstListed : List (Call engine) → Option LLMUpstream
  | [] => none
  | ⟨.auto .listUpstreams, .ok listed⟩ :: _ => listed.head?
  | _ :: older => firstListed older

/-- An upload goes to the first upstream that was listed, and lists them no more once it is sent. -/
def ToFirst (calls : List (Call engine)) : Op engine → Prop
  | .remote (.upstream u _) => firstListed calls = some u
  | .auto .listUpstreams => contacts calls = []
  | _ => True

/-- A call that neither contacts an upstream nor lists them. -/
def Unlisted : Op engine → Prop
  | .remote (.upstream _ _) | .auto .listUpstreams => False
  | _ => True

theorem Unlisted.toFirst {op : Op engine} {calls : List (Call engine)} (unlisted : Unlisted op) :
    ToFirst calls op := by
  cases op with
  | remote c =>
      cases c with
      | upstream u call => exact absurd unlisted id
      | _ => trivial
  | auto s =>
      cases s with
      | listUpstreams => exact absurd unlisted id
      | _ => trivial
  | _ => trivial

theorem Unlisted.contacts {op : Op engine} {reply : Except Failure op.Reply} {calls : List (Call engine)}
    (unlisted : Unlisted op) : contacts (⟨op, reply⟩ :: calls) = contacts calls := by
  cases op with
  | remote c =>
      cases c with
      | upstream u call => exact absurd unlisted id
      | _ => rfl
  | _ => rfl

theorem path_toFirst {p : Action α} {calls : List (Call engine)} (unlisted : p.Only Unlisted) :
    p.path ToFirst (fun _ later => contacts later = contacts calls) calls := by
  have from_here : ∀ later, contacts later = contacts calls →
      p.path ToFirst (fun _ later => contacts later = contacts calls) later := by
    induction p with
    | done value => exact fun _ same => same
    | call op next ih =>
        exact fun later same => ⟨unlisted.1.toFirst, fun reply _ =>
          ih reply (unlisted.2 reply) _ (unlisted.1.contacts.trans same)⟩
  exact from_here calls rfl

/-- A listing that was read comes from the calls. -/
theorem mem_of_firstListed {calls : List (Call engine)} {u : LLMUpstream} (listed : firstListed calls = some u) :
    ∃ others, (⟨.auto .listUpstreams, .ok (u :: others)⟩ : Call engine) ∈ calls := by
  induction calls with
  | nil => cases listed
  | cons first older ih =>
      have before : firstListed older = some u → ∃ others,
          (⟨.auto .listUpstreams, .ok (u :: others)⟩ : Call engine) ∈ first :: older := fun earlier =>
        have ⟨others, inside⟩ := ih earlier
        ⟨others, List.mem_cons_of_mem _ inside⟩
      obtain ⟨op, reply⟩ := first
      cases op with
      | auto s =>
          cases s with
          | listUpstreams =>
              cases reply with
              | error reason => exact before listed
              | ok rows =>
                  obtain ⟨others, rfl⟩ := List.head?_eq_some_iff.mp listed
                  exact ⟨others, List.mem_cons_self⟩
          | _ => exact before listed
      | _ => exact before listed

/-- Once an upstream has been contacted the listing stays the last one. -/
theorem firstListed_of_contacted {calls later : List (Call engine)}
    (follows : ∀ call older, call :: older <:+ later → ToFirst older call.op) (inside : calls <:+ later)
    (contacted : contacts calls ≠ []) : firstListed later = firstListed calls := by
  obtain ⟨newer, rfl⟩ := inside
  induction newer with
  | nil => rfl
  | cons first rest ih =>
      have before := ih (fun call older inside => follows call older (inside.trans (List.suffix_cons _ _)))
      have some : contacts (rest ++ calls) ≠ [] := fun none =>
        contacted (List.suffix_nil.mp (none ▸ contacts_suffix (List.suffix_append rest calls)))
      have here := follows first (rest ++ calls) List.suffix_rfl
      obtain ⟨op, reply⟩ := first
      cases op with
      | auto s =>
          cases s with
          | listUpstreams => exact absurd here some
          | _ => exact before
      | _ => exact before

theorem unlisted_accountWallet (accountId : Int) : (accountWallet accountId).Only Unlisted := by
  refine only_bind (only_op trivial) ?_
  rintro (reason | (_ | wallet))
  · exact only_queryAuto trivial
  · exact only_queryAuto trivial
  · trivial

theorem path_first {u : LLMUpstream} {call : UpstreamCall} {next : Except ClientError call.Answer → Action α}
    {calls : List (Call engine)} (listed : firstListed calls = some u) (rest : ∀ answer, (next answer).Only Unlisted) :
    (callUpstream u call >>= next).path ToFirst (fun _ _ => True) calls := by
  have ended : ∀ answer later, (next answer).path ToFirst (fun _ _ => True) later := fun answer later =>
    path_mono (fun _ _ made => made) (fun _ _ _ => trivial) (path_toFirst (rest answer))
  refine path_bind.mpr (path_bind.mpr (path_op (P := ToFirst) listed ?_))
  rintro (reason | answer) _ <;> exact ended _ _

theorem path_createFileHandler (context : RequestContext) (body : List MultipartField) :
    ((ProxyRequest.createFileHandler body).handle context).path ToFirst (fun _ _ => True) [] := by
  refine path_bind.mpr (path_bind.mpr (path_mono (fun _ _ made => made) ?_
    (path_toFirst (unlisted_accountWallet context.accountId))))
  rintro (e | (_ | wallet)) calls idle
  · trivial
  · trivial
  dsimp only
  split
  · trivial
  refine path_bind.mpr (path_queryAuto (P := ToFirst) (s := .listUpstreams) idle ?_ (fun _ => trivial))
  rintro (_ | ⟨first, others⟩) _
  · trivial
  dsimp only
  rw [withForm]
  split
  · trivial
  split
  · trivial
  rw [withClient]
  split
  swap
  · trivial
  refine path_first rfl ?_
  rintro (e | file)
  · trivial
  · refine only_bind (only_queryAuto trivial) ?_
    rintro (e | stored) <;> trivial

/-- The statements that select upstreams. -/
def Selects : Stmt → Prop
  | .findModelsByNameAndCapacity _ _ _ | .listUpstreams => True
  | _ => False

/-- The process is about to select its upstreams. -/
def Selecting {ι : Type} (s : State engine ι) (i : ι) : Prop :=
  ∃ stmt next, (s.procs i).prog = .call (.auto stmt) next ∧ Selects stmt

section Runs
variable {ι : Type} [DecidableEq ι] {D : Discipline engine} {db : Db} {world : World}
  {program : ι → Action Unit} {history : History engine ι} {s : State engine ι} {i : ι}
  {context : RequestContext} {request : ProxyRequest} {u : LLMUpstream} {call : UpstreamCall}
  {reply : Except Failure (Except ClientError call.Answer)}

/-- A request that has a route contacts the client whose turn it is. -/
theorem routed_contact {r : Route} (routed : request.route = some r)
    (handles : program i = request.handle context)
    (reached : Reaches D (.starting db world program) history s)
    (contacted : (⟨.remote (.upstream u call), reply⟩ : Call engine) ∈ (s.procs i).calls) :
    ∃ older client, older <:+ (s.procs i).calls ∧ r.Next older client ∧ client.upstream = u ∧
      r.sends older client call := by
  have path : (program i).path r.Follows (fun _ => r.Settled) [] :=
    handles ▸ request.path_route routed
  obtain ⟨older, inside⟩ := exists_older contacted
  obtain ⟨client, next, at_client, sent⟩ := (reached.follows path inside).1
  exact ⟨older, client, (List.suffix_cons _ _).trans inside, next, at_client, sent⟩

/-- A client was offered by its upstream when it was selected. -/
theorem offered_when_selected {r : Route} {older : List (Call engine)} {client : UpstreamClient}
    (reached : Reaches D (.starting db world program) history s)
    (inside : older <:+ (s.procs i).calls) (next : r.Next older client) :
    ∃ earlier selecting later m, Reaches D (.starting db world program) earlier selecting ∧
      Reaches D selecting later s ∧ Selecting selecting i ∧
      Offered selecting.db r.modelName r.provider r.feature m client.upstream ∧
      client.fullname = m.fullname := by
  obtain ⟨rows, m, asked, member, _, fullname⟩ := next.chosen
  obtain ⟨earlier, selecting, later, env, next, first, second, ready, executed⟩ :=
    reached.asked (inside.subset asked)
  cases executed
  exact ⟨earlier, selecting, later, m, first, second, ⟨_, next, ready, trivial⟩,
    mem_candidates.mp (Table.mem_arrange.mp member), fullname⟩

/-- Every upstream that is contacted for new work was online and of the request's own API
when it was selected, except that an upload of the OpenAI API goes to whichever upstream
was listed first. -/
theorem contacted_upstreams_are_eligible (request : ProxyRequest) (context : RequestContext)
    (starts : request.startsWork = true)
    (handles : program i = request.handle context)
    (reached : Reaches D (.starting db world program) history s)
    (contacted : (⟨.remote (.upstream u call), reply⟩ : Call engine) ∈ (s.procs i).calls) :
    (∃ earlier selecting later, Reaches D (.starting db world program) earlier selecting ∧
      Reaches D selecting later s ∧ Selecting selecting i ∧ u ∈ selecting.db.upstreams) ∧
    (Eligible request.api u ↔
      (request.takesFirst = true → ∃ first, firstListed (s.procs i).calls = some first ∧
        first.status = "online" ∧ first.provider = "openai")) := by
  rcases ProxyRequest.routed_or_first starts with ⟨⟨r, routed⟩, other⟩ | ⟨body, rfl⟩
  · obtain ⟨older, client, inside, next, rfl, _⟩ := routed_contact routed handles reached contacted
    obtain ⟨earlier, selecting, later, m, first, second, here, offered, _⟩ :=
      offered_when_selected reached inside next
    refine ⟨⟨earlier, selecting, later, first, second, here, offered.upstream⟩, iff_of_true ?_ ?_⟩
    · exact ⟨offered.online, offered.provider.trans (ProxyRequest.route_provider routed)⟩
    · rw [other]
      rintro ⟨⟩
  · have path : (program i).path ToFirst (fun _ _ => True) [] :=
      handles ▸ path_createFileHandler context body
    obtain ⟨older, inside⟩ := exists_older contacted
    have sent : firstListed older = some u := (reached.follows path inside).1
    have listed : firstListed (s.procs i).calls = some u :=
      (firstListed_of_contacted (fun call older inside => (reached.follows path inside).1) inside
        (List.cons_ne_nil _ _)).trans sent
    obtain ⟨others, answered⟩ := mem_of_firstListed listed
    obtain ⟨earlier, selecting, later, env, next, first, second, ready, executed⟩ := reached.asked answered
    have arranged : Table.arrange env.pick selecting.db.upstreams.rows = u :: others :=
      Option.some.inj executed
    refine ⟨⟨earlier, selecting, later, first, second, ⟨_, next, ready, trivial⟩, ?_⟩, ?_⟩
    · exact Table.mem_arrange.mp (arranged ▸ List.mem_cons_self)
    · simp only [Eligible, ProxyRequest.api, ProxyRequest.takesFirst, forall_const, listed,
        Option.some.injEq, exists_eq_left']

end Runs

def upload : ProxyRequest := .createFileHandler [.file (some "a.jsonl") none [123, 125]]

def uploads : RequestContext := ⟨1, 1, fun _ => "s", fun _ => "u", .direct⟩

/-- An account with a balance uploads a file. -/
def uploading (upstreams : Table LLMUpstream) : State engine Unit :=
  .starting
    { Db.empty with
      wallets := Table.empty.insert ⟨1, 1, 100⟩
      upstreams }
    World.empty
    (fun _ => upload.handle uploads)

def uploaded : List (Unit × Turn engine) := List.replicate 4 ((), .run (Env.plain 0 1))

/-- The upstreams that have been contacted, each as its row was read. -/
def reachedUpstreams (s : State engine Unit) : List LLMUpstream :=
  (contacts (s.procs ()).calls).map (fun c => c.upstream)

def offlineUpstream : LLMUpstream := ⟨2, "claude", "https://b", "", "anthropic", [], [], "offline", ""⟩

def onlineUpstream : LLMUpstream := ⟨1, "openai", "https://a", "", "openai", [], [], "online", ""⟩

def oneOffline : Table LLMUpstream := Table.empty.insert offlineUpstream

def onlineFirst : Table LLMUpstream := (Table.empty.insert onlineUpstream).insert offlineUpstream

/-- A file is uploaded to an upstream of the other provider that is offline. -/
theorem an_upload_goes_to_an_offline_upstream : ∃ history s call reply,
    Reaches (Discipline.any False) (uploading oneOffline) history s ∧
    (⟨.remote (.upstream offlineUpstream call), reply⟩ : Call engine) ∈ (s.procs ()).calls ∧
    upload.startsWork = true ∧ s.db.upstreams.rows = [offlineUpstream] ∧
    ¬Eligible upload.api offlineUpstream := by
  obtain ⟨history, s, reached, sent, same⟩ := State.exists_of_play (Discipline.any False)
    (uploading oneOffline) uploaded
    (fun s => reachedUpstreams s = [offlineUpstream] ∧ s.db.upstreams.rows = [offlineUpstream])
    (by decide +kernel)
  obtain ⟨c, member, here⟩ := List.mem_map.mp (sent ▸ List.mem_singleton_self offlineUpstream)
  obtain ⟨reply, inside, _⟩ := mem_contacts member
  rw [here] at inside
  exact ⟨history, s, c.call, reply, reached, inside, rfl, same, fun eligible => absurd eligible.1 (by decide)⟩

/-- Two upstreams are listed, and the upload goes to the first, which is eligible. -/
theorem contacted_upstreams_are_eligible_first : ∃ history s call reply,
    Reaches (Discipline.any False) (uploading onlineFirst) history s ∧
    (⟨.remote (.upstream onlineUpstream call), reply⟩ : Call engine) ∈ (s.procs ()).calls ∧
    (∃ earlier selecting later,
      Reaches (Discipline.any False) (uploading onlineFirst) earlier selecting ∧
      Reaches (Discipline.any False) selecting later s ∧ Selecting selecting () ∧
      onlineUpstream ∈ selecting.db.upstreams) ∧
    (Eligible upload.api onlineUpstream ↔ (upload.takesFirst = true → ∃ first,
      firstListed (s.procs ()).calls = some first ∧ first.status = "online" ∧ first.provider = "openai")) := by
  obtain ⟨history, s, reached, sent⟩ := State.exists_of_play (Discipline.any False)
    (uploading onlineFirst) uploaded (fun s => reachedUpstreams s = [onlineUpstream]) (by decide +kernel)
  obtain ⟨c, member, here⟩ := List.mem_map.mp (sent ▸ List.mem_singleton_self onlineUpstream)
  obtain ⟨reply, inside, _⟩ := mem_contacts member
  rw [here] at inside
  exact ⟨history, s, c.call, reply, reached, inside,
    contacted_upstreams_are_eligible (i := ()) upload uploads rfl rfl reached inside⟩

end LLMPool.ProxyViews
