import LLMPool.ProxyViews.Untraced

/-! The upstreams that a request is routed to: which clients its handler tries, in which
order, what each is sent, and which of them it reports. -/
namespace LLMPool.ProxyViews
open Transactions

/-- An upstream that was contacted, and the error that this ended with. -/
structure Contact where
  upstream : LLMUpstream
  call : UpstreamCall
  failure : Option ClientError

def errorOf : Except ClientError α → Option ClientError
  | .ok _ => none
  | .error e => some e

/-- A request that did not get through is a network error. -/
def failureOf : Except Failure (Except ClientError α) → Option ClientError
  | .ok answer => errorOf answer
  | .error _ => some .network

/-- The upstreams that the calls so far have contacted, newest first. -/
def contacts : List (Call engine) → List Contact
  | [] => []
  | ⟨.remote (.upstream u call), reply⟩ :: older => ⟨u, call, failureOf reply⟩ :: contacts older
  | _ :: older => contacts older

/-- The upstreams that the calls so far have spawned a task to mark offline. -/
def reported : List (Call engine) → List Int
  | [] => []
  | ⟨.remote (.spawnMarkOffline upstreamId), _⟩ :: older => upstreamId :: reported older
  | _ :: older => reported older

theorem mem_contacts {calls : List (Call engine)} {c : Contact} (member : c ∈ contacts calls) :
    ∃ reply, (⟨.remote (.upstream c.upstream c.call), reply⟩ : Call engine) ∈ calls ∧
      c.failure = failureOf reply := by
  induction calls with
  | nil => cases member
  | cons first older ih =>
      have kept : c ∈ contacts older → ∃ reply,
          (⟨.remote (.upstream c.upstream c.call), reply⟩ : Call engine) ∈ first :: older ∧
            c.failure = failureOf reply := fun before =>
        have ⟨reply, inside, same⟩ := ih before
        ⟨reply, List.mem_cons_of_mem _ inside, same⟩
      obtain ⟨op, reply⟩ := first
      cases op with
      | remote remote =>
          cases remote with
          | upstream u call =>
              rcases List.mem_cons.mp member with rfl | before
              · exact ⟨reply, List.mem_cons_self, rfl⟩
              · exact kept before
          | _ => exact kept member
      | _ => exact kept member

theorem contacts_suffix {older calls : List (Call engine)} (suffix : older <:+ calls) :
    contacts older <:+ contacts calls := by
  obtain ⟨newer, rfl⟩ := suffix
  induction newer with
  | nil => exact List.suffix_rfl
  | cons first rest ih =>
      obtain ⟨op, reply⟩ := first
      cases op with
      | remote c =>
          cases c with
          | upstream u call => exact ih.trans (List.suffix_cons _ _)
          | _ => exact ih
      | _ => exact ih

theorem mem_reported {calls : List (Call engine)} {upstreamId : Int} : upstreamId ∈ reported calls ↔
    ∃ reply, (⟨.remote (.spawnMarkOffline upstreamId), reply⟩ : Call engine) ∈ calls := by
  induction calls with
  | nil => simp [reported]
  | cons first older ih =>
      obtain ⟨op, reply⟩ := first
      cases op with
      | remote c =>
          cases c with
          | spawnMarkOffline other =>
              simp only [reported, List.mem_cons, ih]
              constructor
              · rintro (rfl | ⟨reply, before⟩)
                · exact ⟨reply, .inl rfl⟩
                · exact ⟨reply, .inr before⟩
              · rintro ⟨reply, now | before⟩
                · cases now
                  exact .inl rfl
                · exact .inr ⟨reply, before⟩
          | _ => simp [reported, ih]
      | _ => simp [reported, ih]

/-- The rows that the routing query has answered last. -/
def rowsRead : List (Call engine) → Option (List (LLMModel × LLMUpstream))
  | [] => none
  | ⟨.auto (.findModelsByNameAndCapacity _ _ _), .ok rows⟩ :: _ => some rows
  | _ :: older => rowsRead older

/-- The counters of the models that were read last. -/
def countersRead : List (Call engine) → Option (List Int)
  | [] => none
  | ⟨.remote (.getOutputTokenUsage _), .ok values⟩ :: _ => some (values.map (fun value => value.getD 0))
  | ⟨.remote (.getOutputTokenUsage modelIds), .error _⟩ :: _ => some (List.replicate modelIds.length 0)
  | _ :: older => countersRead older

/-- The calls that come after a selection. -/
structure Later (calls later : List (Call engine)) : Prop where
  suffix : calls <:+ later
  rows : rowsRead later = rowsRead calls
  counters : countersRead later = countersRead calls

theorem Later.refl (calls : List (Call engine)) : Later calls calls := ⟨List.suffix_rfl, rfl, rfl⟩

theorem Later.trans {calls middle later : List (Call engine)} (first : Later calls middle)
    (second : Later middle later) : Later calls later :=
  ⟨first.suffix.trans second.suffix, second.rows.trans first.rows, second.counters.trans first.counters⟩

/-- How a request is routed: the models it asks for, what a client's upstream is sent,
and the errors for which it is reported. -/
structure Route where
  modelName : String
  provider : String
  feature : String
  count : Nat
  sends : List (Call engine) → UpstreamClient → UpstreamCall → Prop
  reports : ClientError → Bool

variable {r : Route} {calls later : List (Call engine)} {client : UpstreamClient} {clients : List UpstreamClient}

namespace Route

/-- The clients that were selected for the route. -/
def Selected (r : Route) (calls : List (Call engine)) (clients : List UpstreamClient) : Prop :=
  ∃ rows usages,
    (⟨.auto (.findModelsByNameAndCapacity r.modelName r.provider r.feature), .ok rows⟩ : Call engine) ∈ calls ∧
    rowsRead calls = some rows ∧ (rows ≠ [] → countersRead calls = some usages) ∧
    clients = (leastLoaded r.count usages rows).map buildClient

/-- The client whose turn it is, when all those before it have failed. -/
def Next (r : Route) (calls : List (Call engine)) (client : UpstreamClient) : Prop :=
  ∃ clients, r.Selected calls clients ∧ clients[(contacts calls).length]? = some client ∧
    ∀ c ∈ contacts calls, c.failure.isSome = true

/-- Clients are selected before any upstream is contacted, upstreams are contacted in
their turn, and only those are reported that failed. -/
def Follows (r : Route) (calls : List (Call engine)) : Op engine → Prop
  | .remote (.upstream u call) => ∃ client, r.Next calls client ∧ client.upstream = u ∧ r.sends calls client call
  | .remote (.spawnMarkOffline upstreamId) =>
      ∃ c ∈ contacts calls, c.upstream.id = upstreamId ∧ c.failure.any r.reports = true
  | .remote .fetchSpawned => False
  | .auto (.findModelsByNameAndCapacity _ _ _) | .remote (.getOutputTokenUsage _) => contacts calls = []
  | _ => True

/-- Every upstream that is to be reported has been. -/
def Settled (r : Route) (calls : List (Call engine)) : Prop :=
  ∀ c ∈ contacts calls, c.failure.any r.reports = true → c.upstream.id ∈ reported calls

/-- The attempts are over: one has succeeded, or no client is left. -/
def Exhausted (r : Route) (calls : List (Call engine)) : Prop :=
  contacts calls = [] ∨ ∀ clients, r.Selected calls clients →
    clients.length ≤ (contacts calls).length ∨ ∃ c ∈ contacts calls, c.failure = none

theorem Selected.extend (selected : r.Selected calls clients) (reached : Later calls later) :
    r.Selected later clients := by
  obtain ⟨rows, usages, asked, read, counted, same⟩ := selected
  exact ⟨rows, usages, reached.suffix.subset asked, reached.rows.trans read,
    fun some => reached.counters.trans (counted some), same⟩

/-- A request selects its clients once. -/
theorem Selected.unique {clients' : List UpstreamClient} (selected : r.Selected calls clients)
    (again : r.Selected calls clients') : clients = clients' := by
  obtain ⟨rows, usages, _, read, counted, rfl⟩ := selected
  obtain ⟨rows', usages', _, read', counted', rfl⟩ := again
  cases read.symm.trans read'
  cases rows with
  | nil => simp [leastLoaded]
  | cons => cases (counted (List.cons_ne_nil _ _)).symm.trans (counted' (List.cons_ne_nil _ _)); rfl

/-- A client was built of a row that the routing query has answered. -/
theorem Next.chosen (next : r.Next calls client) : ∃ rows m,
    (⟨.auto (.findModelsByNameAndCapacity r.modelName r.provider r.feature), .ok rows⟩ : Call engine) ∈ calls ∧
    (m, client.upstream) ∈ rows ∧ client.modelDbId = m.id ∧ client.fullname = m.fullname := by
  obtain ⟨clients, ⟨rows, usages, asked, _, _, rfl⟩, turn, _⟩ := next
  obtain ⟨⟨m, u⟩, inside, rfl⟩ := List.mem_map.mp (List.mem_of_getElem? turn)
  exact ⟨rows, m, asked, mem_leastLoaded inside, rfl, rfl⟩

theorem Selected.length_le (selected : r.Selected calls clients) : clients.length ≤ r.count := by
  obtain ⟨rows, usages, _, _, _, rfl⟩ := selected
  simp only [leastLoaded, List.length_map, List.length_take]
  exact min_le_left _ _

/-- The clients stay selected once an upstream has been contacted. -/
theorem later_of_contacted (follows : ∀ call older, call :: older <:+ later → r.Follows older call.op)
    (inside : calls <:+ later) (contacted : contacts calls ≠ []) : Later calls later := by
  obtain ⟨newer, rfl⟩ := inside
  induction newer with
  | nil => exact .refl calls
  | cons first rest ih =>
      have before := ih (fun call older inside => follows call older (inside.trans (List.suffix_cons _ _)))
      have some : contacts (rest ++ calls) ≠ [] :=
        fun none => contacted (List.suffix_nil.mp (none ▸ contacts_suffix before.suffix))
      have here := follows first (rest ++ calls) List.suffix_rfl
      refine before.trans ⟨List.suffix_cons _ _, ?_, ?_⟩
      · obtain ⟨op, reply⟩ := first
        cases op with
        | auto s =>
            cases s with
            | findModelsByNameAndCapacity _ _ _ => exact absurd here some
            | _ => rfl
        | _ => rfl
      · obtain ⟨op, reply⟩ := first
        cases op with
        | remote c =>
            cases c with
            | getOutputTokenUsage modelIds => exact absurd here some
            | _ => rfl
        | _ => rfl

/-- No more upstreams are contacted than clients are selected. -/
theorem contacts_length (follows : ∀ call older, call :: older <:+ calls → r.Follows older call.op) :
    (contacts calls).length ≤ r.count := by
  induction calls with
  | nil => exact Nat.zero_le _
  | cons first older ih =>
      have before := ih (fun call rest inside => follows call rest (inside.trans (List.suffix_cons _ _)))
      have here := follows first older List.suffix_rfl
      obtain ⟨op, reply⟩ := first
      cases op with
      | remote c =>
          cases c with
          | upstream u call =>
              obtain ⟨client, ⟨clients, selected, turn, _⟩, _⟩ := here
              have inside := (List.getElem?_eq_some_iff.mp turn).1
              exact inside.trans_le selected.length_le
          | _ => exact before
      | _ => exact before

end Route

/-- A call that selects, contacts and reports no upstream, nor takes a report. -/
def Still : Op engine → Prop
  | .remote (.upstream _ _) | .remote (.spawnMarkOffline _) | .remote .fetchSpawned => False
  | .auto (.findModelsByNameAndCapacity _ _ _) | .remote (.getOutputTokenUsage _) => False
  | _ => True

section Still

theorem Still.contacts {op : Op engine} {reply : Except Failure op.Reply} (still : Still op) :
    contacts (⟨op, reply⟩ :: calls) = contacts calls := by
  cases op with
  | remote c =>
      cases c with
      | upstream u call => exact absurd still id
      | _ => rfl
  | _ => rfl

theorem Still.reported {op : Op engine} {reply : Except Failure op.Reply} (still : Still op) :
    reported (⟨op, reply⟩ :: calls) = reported calls := by
  cases op with
  | remote c =>
      cases c with
      | spawnMarkOffline upstreamId => exact absurd still id
      | _ => rfl
  | _ => rfl

theorem Still.keeps {op : Op engine} {reply : Except Failure op.Reply} (still : Still op) :
    Later calls (⟨op, reply⟩ :: calls) := by
  refine ⟨List.suffix_cons _ _, ?_, ?_⟩
  · cases op with
    | auto s =>
        cases s with
        | findModelsByNameAndCapacity _ _ _ => exact absurd still id
        | _ => rfl
    | _ => rfl
  · cases op with
    | remote c =>
        cases c with
        | getOutputTokenUsage modelIds => exact absurd still id
        | _ => rfl
    | _ => rfl

theorem Still.follows {op : Op engine} (still : Still op) : r.Follows calls op := by
  cases op with
  | remote c =>
      cases c with
      | upstream | spawnMarkOffline | fetchSpawned | getOutputTokenUsage => exact absurd still id
      | _ => trivial
  | auto s =>
      cases s with
      | findModelsByNameAndCapacity => exact absurd still id
      | _ => trivial
  | _ => trivial

/-- The calls of a part leave the contacts and the reports as they were. -/
structure Unrouted (calls later : List (Call engine)) : Prop where
  reached : Later calls later
  contacts : ProxyViews.contacts later = ProxyViews.contacts calls
  reported : ProxyViews.reported later = ProxyViews.reported calls

theorem Unrouted.refl : Unrouted calls calls := ⟨.refl calls, rfl, rfl⟩

theorem Unrouted.trans (first : Unrouted calls middle) (second : Unrouted middle later) :
    Unrouted calls later :=
  ⟨first.reached.trans second.reached, second.contacts.trans first.contacts,
    second.reported.trans first.reported⟩

theorem Unrouted.next (unrouted : Unrouted calls later) (next : r.Next calls client) :
    r.Next later client := by
  obtain ⟨clients, selected, turn, failed⟩ := next
  refine ⟨clients, selected.extend unrouted.reached, ?_, ?_⟩
  · rw [unrouted.contacts]
    exact turn
  · rw [unrouted.contacts]
    exact failed

theorem path_still {p : Action α} (still : p.Only Still) :
    p.path r.Follows (fun _ later => Unrouted calls later) calls := by
  have from_here : ∀ later, Unrouted calls later → p.path r.Follows (fun _ later => Unrouted calls later) later := by
    induction p with
    | done value => exact fun _ same => same
    | call op next ih =>
        intro later same
        refine ⟨still.1.follows, fun reply _ => ih reply (still.2 reply) _ ?_⟩
        exact same.trans ⟨still.1.keeps, still.1.contacts, still.1.reported⟩
  exact from_here calls .refl

/-- After a part that contacts no upstream. -/
theorem path_after_still {p : Action α} {f : α → Action β} {Q : β → List (Call engine) → Prop}
    (still : p.Only Still)
    (rest : ∀ value later, Unrouted calls later → (f value).path r.Follows Q later) :
    (p >>= f).path r.Follows Q calls :=
  path_bind.mpr (path_mono (fun _ _ made => made) rest (path_still still))

theorem still_auto {s : Stmt} (still : Still (.auto s)) : (Query.auto s).run.Only Still := only_queryAuto still

theorem still_accountWallet (accountId : Int) : (accountWallet accountId).Only Still := by
  refine only_bind (only_op trivial) ?_
  rintro (reason | (_ | wallet))
  · exact still_auto trivial
  · exact still_auto trivial
  · trivial

theorem still_add (tracer : SessionTracer) (data : EventData) : (tracer.add data).Only Still :=
  only_bind (only_op trivial) (fun _ => trivial)

theorem still_transformStream (items : StreamItems CreateChatCompletionStreamResponse)
    (tracer : SessionTracer) : (transformStreamWithLogging items tracer).Only Still := by
  induction items generalizing tracer with
  | nil => exact only_bind (still_add _ _) (fun _ => trivial)
  | cons item rest ih =>
      cases item with
      | error e => exact only_bind (still_add _ _) (fun _ => trivial)
      | ok response => exact only_bind (still_add _ _) (fun tracer => ih tracer)

theorem still_transformSdkStream (inputTokens outputTokens : Nat) (items : StreamItems MessageStreamEvent)
    (tracer : SessionTracer) : (transformSdkStream inputTokens outputTokens items tracer).Only Still := by
  induction items generalizing inputTokens outputTokens tracer with
  | nil => trivial
  | cons item rest ih =>
      cases item with
      | error e => trivial
      | ok event =>
          cases event with
          | messageStop => exact only_bind (still_add _ _) (fun tracer => ih _ _ tracer)
          | messageStart | messageDelta | contentBlockStart | contentBlockDelta | contentBlockStop =>
              exact ih _ _ tracer

theorem still_storeResponse (context : RequestContext) (upstreamId : Int)
    (ourPreviousResponseId : Option String) (response : Response) :
    (storeResponse context upstreamId ourPreviousResponseId response).Only Still := by
  refine only_bind (still_auto trivial) ?_
  rintro (e | stored) <;> trivial

theorem still_wallet {insufficient : String} {accountId : Int} {next : Action (Reply α)}
    {Q : Reply α → List (Call engine) → Prop} (refused : ∀ reply later, Unrouted calls later → Q reply later)
    (rest : ∀ later, Unrouted calls later → next.path r.Follows Q later) :
    (checkWalletBalance insufficient accountId next).path r.Follows Q calls := by
  refine path_after_still (still_accountWallet accountId) ?_
  rintro (e | (_ | wallet)) later unrouted
  · exact refused _ later unrouted
  · exact refused _ later unrouted
  · dsimp only
    split
    · exact refused _ later unrouted
    · exact rest later unrouted

end Still

section Attempts

/-- One upstream has been contacted. -/
structure Contacted (calls : List (Call engine)) (u : LLMUpstream) (failure : Option ClientError)
    (later : List (Call engine)) : Prop where
  reached : Later calls later
  contacts : ∃ call, ProxyViews.contacts later = ⟨u, call, failure⟩ :: ProxyViews.contacts calls
  reported : ProxyViews.reported later = ProxyViews.reported calls

theorem Contacted.after {failure : Option ClientError} (contacted : Contacted calls u failure middle)
    (unrouted : Unrouted middle later) : Contacted calls u failure later where
  reached := contacted.reached.trans unrouted.reached
  contacts := unrouted.contacts ▸ contacted.contacts
  reported := unrouted.reported.trans contacted.reported

theorem Contacted.before {failure : Option ClientError} (contacted : Contacted middle u failure later)
    (unrouted : Unrouted calls middle) : Contacted calls u failure later where
  reached := unrouted.reached.trans contacted.reached
  contacts := unrouted.contacts ▸ contacted.contacts
  reported := contacted.reported.trans unrouted.reported

/-- A failed attempt has been dealt with. -/
structure Marked (calls : List (Call engine)) (upstreamId : Int) (marks : Bool)
    (later : List (Call engine)) : Prop where
  reached : Later calls later
  contacts : ProxyViews.contacts later = ProxyViews.contacts calls
  reported : ProxyViews.reported later =
    if marks then upstreamId :: ProxyViews.reported calls else ProxyViews.reported calls

theorem path_callUpstream {call : UpstreamCall} {f : Except ClientError call.Answer → Action α}
    {Q : α → List (Call engine) → Prop} (next : r.Next calls client) (sent : r.sends calls client call)
    (rest : ∀ answer later, Contacted calls client.upstream (errorOf answer) later →
      (f answer).path r.Follows Q later) :
    (callUpstream client.upstream call >>= f).path r.Follows Q calls := by
  have asked : (callUpstream client.upstream call).path r.Follows
      (fun answer later => Contacted calls client.upstream (errorOf answer) later) calls := by
    refine path_bind.mpr (path_op (P := r.Follows) ⟨client, next, rfl, sent⟩ ?_)
    rintro (reason | answer) _ <;> exact ⟨⟨List.suffix_cons _ _, rfl, rfl⟩, ⟨call, rfl⟩, rfl⟩
  exact path_bind.mpr (path_mono (fun _ _ made => made) rest asked)

theorem path_reportNetworkError {e : ClientError}
    (failed : e = .network → ∃ c ∈ contacts calls, c.upstream.id = client.upstream.id ∧
      c.failure.any r.reports = true) :
    (reportNetworkError client e).path r.Follows
      (fun _ later => Marked calls client.upstream.id (e = .network) later) calls := by
  unfold reportNetworkError
  split
  · rename_i network
    refine path_bind.mpr (path_op (P := r.Follows) (failed network) (fun _ _ => ?_))
    exact ⟨⟨List.suffix_cons _ _, rfl, rfl⟩, rfl, by simp [network, reported]⟩
  · rename_i other
    exact ⟨.refl calls, rfl, by simp [other]⟩

theorem Route.Settled.after (settled : r.Settled calls) (unrouted : Unrouted calls later) : r.Settled later := by
  intro c member fails
  rw [unrouted.contacts] at member
  rw [unrouted.reported]
  exact settled c member fails

theorem Route.settled_idle (idle : contacts calls = []) : r.Settled calls := by
  intro c member
  rw [idle] at member
  cases member

theorem Route.Settled.succeeded (settled : r.Settled calls) (contacted : Contacted calls u none later) :
    r.Settled later := by
  intro c member fails
  obtain ⟨call, same⟩ := contacted.contacts
  rw [same] at member
  rw [contacted.reported]
  rcases List.mem_cons.mp member with rfl | before
  · cases fails
  · exact settled c before fails

theorem Route.Settled.marked {failure : Option ClientError} (settled : r.Settled calls)
    (contacted : Contacted calls u failure middle) (marked : Marked middle u.id (failure.any r.reports) later) :
    r.Settled later := by
  intro c member fails
  obtain ⟨call, same⟩ := contacted.contacts
  rw [marked.contacts, same] at member
  rw [marked.reported, contacted.reported]
  rcases List.mem_cons.mp member with rfl | before
  · rw [if_pos fails]
    exact List.mem_cons_self
  · split
    · exact List.mem_cons_of_mem _ (settled c before fails)
    · exact settled c before fails

/-- Before an upstream has been contacted the clients are selected, unless one of them panics. -/
theorem path_selectModelClients_routed (builds : Nat → LLMUpstream → Bool) (idle : contacts calls = []) :
    (selectModelClients builds r.modelName r.provider r.feature r.count).path r.Follows
      (fun selected later => contacts later = [] ∧
        ∀ clients, selected = some clients → clients = [] ∨ r.Selected later clients) calls := by
  refine path_bind.mpr (path_queryAuto (P := r.Follows)
    (s := .findModelsByNameAndCapacity r.modelName r.provider r.feature) idle ?_ ?_)
  · intro rows _
    dsimp only
    split
    · exact ⟨idle, by rintro clients ⟨⟩; exact .inl rfl⟩
    · rename_i some
      refine path_bind.mpr ?_
      unfold getOutputTokenUsageBatch
      rw [if_neg (by simpa using some)]
      refine path_bind.mpr (path_op (P := r.Follows) idle ?_)
      rintro (reason | values) _
      · exact ⟨idle, fun clients built => .inr
          ⟨rows, _, List.mem_cons_of_mem _ List.mem_cons_self, rfl, fun _ => rfl, buildClients_eq built⟩⟩
      · exact ⟨idle, fun clients built => .inr
          ⟨rows, _, List.mem_cons_of_mem _ List.mem_cons_self, rfl, fun _ => rfl, buildClients_eq built⟩⟩
  · exact fun reason => ⟨idle, by rintro clients ⟨⟩; exact .inl rfl⟩

theorem path_withModelClients_routed {builds : Nat → LLMUpstream → Bool} {count : Nat}
    {next : List UpstreamClient → Action (Reply α)} {Q : List (Call engine) → Prop}
    (counted : r.count = count) (idle : contacts calls = []) (panicked : ∀ later, contacts later = [] → Q later)
    (rest : ∀ clients later, contacts later = [] → clients = [] ∨ r.Selected later clients →
      (next clients).path r.Follows (fun _ => Q) later) :
    (withModelClients builds r.modelName r.provider r.feature count next).path r.Follows (fun _ => Q) calls := by
  refine path_bind.mpr (path_mono (fun _ _ made => made) ?_ (counted ▸ path_selectModelClients_routed builds idle))
  rintro (_ | clients) later ⟨unmet, chosen⟩
  · exact panicked later unmet
  · exact rest clients later unmet (chosen clients rfl)

/-- The first client is next when no upstream has been contacted. -/
theorem Route.Selected.first {rest : List UpstreamClient} (selected : r.Selected calls (client :: rest))
    (idle : contacts calls = []) : r.Next calls client :=
  ⟨client :: rest, selected, by simp [idle], by simp [idle]⟩

section Trying
variable {attempt : Nat → UpstreamClient → Action (Except ClientError (Reply α))}
  {failed : UpstreamClient → ClientError → Action Unit} {exhausted : Reply α}

theorem path_tryClients_routed
    (attempts : ∀ i client later, Later calls later → r.Next later client →
      (attempt i client).path r.Follows
        (fun result after => Contacted later client.upstream (errorOf result) after) later)
    (failing : ∀ client e later,
      (∃ c ∈ contacts later, c.upstream = client.upstream ∧ c.failure = some e) →
      (failed client e).path r.Follows
        (fun _ after => Marked later client.upstream.id (r.reports e) after) later)
    (selected : r.Selected calls clients) (idle : contacts calls = []) :
    (tryClients attempt failed exhausted 0 clients).path r.Follows
      (fun _ later => r.Settled later ∧ r.Exhausted later) calls := by
  -- All clients before the one whose turn it is have been contacted, and have failed.
  have from_here : ∀ rest i later, Later calls later → clients.drop (contacts later).length = rest →
      (∀ c ∈ contacts later, c.failure.isSome = true) → r.Settled later →
      (tryClients attempt failed exhausted i rest).path r.Follows
        (fun _ later => r.Settled later ∧ r.Exhausted later) later := by
    intro rest
    have ended : ∀ later, Later calls later → clients.drop (contacts later).length = [] → r.Exhausted later := by
      refine fun later reached none => .inr (fun clients' again => .inl ?_)
      rw [again.unique (selected.extend reached)]
      exact List.drop_eq_nil_iff.mp none
    induction rest with
    | nil => exact fun i later reached none _ settled => ⟨settled, ended later reached none⟩
    | cons client rest ih =>
        intro i later reached turn all settled
        have at_turn : clients[(contacts later).length]? = some client := by
          rw [← List.head?_drop, turn, List.head?_cons]
        have next : r.Next later client := ⟨clients, selected.extend reached, at_turn, all⟩
        refine path_bind.mpr (path_mono (fun _ _ made => made) ?_ (attempts i client later reached next))
        rintro (e | reply) middle contacted
        · obtain ⟨call, same⟩ := contacted.contacts
          have here : ∃ c ∈ contacts middle, c.upstream = client.upstream ∧ c.failure = some e := by
            rw [same]
            exact ⟨_, List.mem_cons_self, rfl, rfl⟩
          refine path_bind.mpr (path_mono (fun _ _ made => made) ?_ (failing client e middle here))
          intro _ after marked
          have settled' : r.Settled after := settled.marked contacted marked
          have reached' : Later calls after := reached.trans (contacted.reached.trans marked.reached)
          have turn' : clients.drop (contacts after).length = rest := by
            rw [marked.contacts, same, List.length_cons, ← List.drop_drop, turn]
            rfl
          split
          · rename_i last
            exact ⟨settled', ended after reached' (turn'.trans last)⟩
          · refine ih (i + 1) after reached' turn' ?_ settled'
            rw [marked.contacts, same]
            rintro c member
            rcases List.mem_cons.mp member with rfl | before
            · rfl
            · exact all c before
        · obtain ⟨call, same⟩ := contacted.contacts
          refine ⟨settled.succeeded contacted, .inr (fun _ _ => .inr ⟨_, same ▸ List.mem_cons_self, rfl⟩)⟩
  exact from_here clients 0 calls (.refl calls) (by simp [idle]) (by simp [idle]) (Route.settled_idle idle)

theorem path_routeRequest_routed {context : RequestContext} {unavailable : Reply α} (two : r.count = 2)
    (idle : contacts calls = [])
    (attempts : ∀ i client later, r.Next later client →
      (attempt i client).path r.Follows
        (fun result after => Contacted later client.upstream (errorOf result) after) later)
    (failing : ∀ client e later,
      (∃ c ∈ contacts later, c.upstream = client.upstream ∧ c.failure = some e) →
      (failed client e).path r.Follows
        (fun _ after => Marked later client.upstream.id (r.reports e) after) later) :
    (routeRequest context r.modelName r.provider r.feature unavailable attempt failed exhausted).path r.Follows
      (fun _ => r.Settled) calls := by
  refine path_withModelClients_routed two idle (fun _ => Route.settled_idle) (fun clients later idle' chosen => ?_)
  split
  · exact Route.settled_idle idle'
  · rename_i some
    exact path_mono (fun _ _ made => made) (fun _ _ ended => ended.1) (path_tryClients_routed
      (fun i client after _ => attempts i client after) failing (chosen.resolve_left some) idle')

end Trying

theorem path_withAnthropicClient_routed {context : RequestContext} {unavailable : String}
    {next : UpstreamClient → Action (Reply α)}
    (anthropic : r.provider = "anthropic" ∧ r.feature = featureMessages ∧ r.count = 1)
    (idle : contacts calls = [])
    (rest : ∀ client later, r.Next later client → r.Settled later →
      (next client).path r.Follows (fun _ => r.Settled) later) :
    (withAnthropicClient context r.modelName unavailable next).path r.Follows (fun _ => r.Settled) calls := by
  obtain ⟨provider, feature, one⟩ := anthropic
  rw [withAnthropicClient, withAnthropicClients, ← provider, ← feature]
  refine path_withModelClients_routed one idle (fun _ => Route.settled_idle) ?_
  rintro (_ | ⟨client, others⟩) later idle' chosen
  · exact Route.settled_idle idle'
  · exact rest client later ((chosen.resolve_left (List.cons_ne_nil _ _)).first idle')
      (Route.settled_idle idle')

end Attempts

end LLMPool.ProxyViews
