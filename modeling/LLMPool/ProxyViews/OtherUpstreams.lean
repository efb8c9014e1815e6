import LLMPool.Pricing.NonnegativePrices
import LLMPool.ProxyViews.LeastLoaded
import LLMPool.ProxyViews.Retries

/-! The upstreams of the retries: the candidates of a request are models, and two of them can
be of one upstream. -/
namespace LLMPool.ProxyViews
open Relational Transactions Selections

namespace RetriedRequest

/-- The short name that a request asks for. -/
def cname : RetriedRequest → Option String
  | chatCompletions payload => some payload.model
  | createEmbeddings payload => some payload.model
  | generateImages payload => some (imageModelToString payload.model)
  | createMessage payload => some payload.model
  | createResponse payload => payload.model

def provider : RetriedRequest → String
  | createMessage _ => "anthropic"
  | _ => "openai"

def feature : RetriedRequest → String
  | chatCompletions _ => featureChatCompletions
  | createEmbeddings _ => featureEmbeddings
  | generateImages _ => featureImages
  | createMessage _ => featureMessages
  | createResponse _ => featureResponses

/-- The models that a request can be served by, with their upstreams. -/
def eligible (request : RetriedRequest) (db : Db) : List (LLMModel × LLMUpstream) :=
  (request.cname.map (fun cname => candidates db cname request.provider request.feature)).getD []

end RetriedRequest

/-- No upstream is tried twice, and after a failure another one is tried where there is one. -/
structure RetriesElsewhere (eligible : List (LLMModel × LLMUpstream)) (tried : List Contact) : Prop where
  distinct : (tried.map (fun c => c.upstream.id)).Nodup
  another : ∀ first rest, tried = first :: rest → first.failure ≠ none →
    (∃ row ∈ eligible, row.2.id ≠ first.upstream.id) →
    ∃ c ∈ rest, c.upstream.id ≠ first.upstream.id ∧ ∃ row ∈ eligible, row.2 = c.upstream

def FirstFails (tried : List Contact) : Prop := ∃ first, tried.head? = some first ∧ first.failure ≠ none

section Tried
variable {endpoint : Endpoint α} {context : RequestContext} {exhausted reply : Reply α} {i : Nat}
  {clients : List UpstreamClient} {m m' : Solo engine} {trials : List (Trial endpoint)}

theorem failed_iff {trial : Trial endpoint} : trial.failed = true ↔ trial.contact.failure ≠ none :=
  Option.isSome_iff_ne_none

/-- Two candidates are both tried where the first fails, and else one is. -/
theorem Exact.tried (exact : Exact endpoint context exhausted i clients m trials reply m')
    (nonempty : clients ≠ []) (two : clients.length ≤ 2) :
    (∃ trial answer, trials = [trial] ∧ trial.answer = .ok answer) ∨
      trials.map Trial.client = clients ∧ FirstFails (trials.map Trial.contact) := by
  have ended := exact.ended
  generalize refusedWrite m'.calls = refused at ended
  cases ended with
  | exhausted all failed =>
      refine .inr ⟨all, ?_⟩
      cases trials with
      | nil => exact absurd all.symm nonempty
      | cons first rest => exact ⟨first.contact, rfl, failed_iff.mp (failed first List.mem_cons_self)⟩
  | answered failures failed replied =>
      cases failures with
      | nil => exact .inl ⟨_, _, rfl, rfl⟩
      | cons first others =>
          refine .inr ⟨exact.inOrder.eq_of_length_le (two.trans ?_), first.contact, rfl,
            failed_iff.mp (failed first List.mem_cons_self)⟩
          simp only [List.map_append, List.length_append, List.map_cons, List.length_cons, List.length_map]
          omega

end Tried

section Selected
variable {eligible rows : List (LLMModel × LLMUpstream)} {usage : Int → Int} {tried : List Contact}

theorem firstFails_cons {first : Contact} {rest : List Contact} :
    FirstFails (first :: rest) ↔ first.failure ≠ none :=
  ⟨fun ⟨_, same, failed⟩ => Option.some.inj same ▸ failed, fun failed => ⟨first, rfl, failed⟩⟩

/-- Where the first attempt succeeds, nothing is asked of the others. -/
theorem retriesElsewhere_first {first : Contact} (succeeded : first.failure = none) :
    RetriesElsewhere eligible [first] := by
  refine ⟨List.nodup_singleton _, ?_⟩
  rintro _ _ ⟨⟩ failed
  exact absurd succeeded failed

/-- Where it fails, everything that was selected is tried. -/
theorem retriesElsewhere_iff_selected (offered : rows.Perm eligible)
    (all : tried.map Contact.upstream = (least (rowUsage usage) 2 rows).map Prod.snd) (fails : FirstFails tried) :
    RetriesElsewhere eligible tried ↔
      ∀ first second, least (rowUsage usage) 2 rows = [first, second] → first.2.id ≠ second.2.id := by
  have counted := length_least (rowUsage usage) 2 rows
  have inside : ∀ row ∈ least (rowUsage usage) 2 rows, row ∈ eligible :=
    fun row member => offered.mem_iff.mp (mem_of_mem_least member)
  generalize least (rowUsage usage) 2 rows = selected at all counted inside
  rcases selected with _ | ⟨a, _ | ⟨b, _ | ⟨c, others⟩⟩⟩
  · obtain ⟨first, same, _⟩ := fails
    rw [List.map_nil, List.map_eq_nil_iff] at all
    rw [all] at same
    cases same
  · obtain ⟨first, rfl, at_a⟩ := List.map_eq_singleton_iff.mp all
    have lone : eligible.length = 1 := by
      rw [List.length_singleton] at counted
      rw [← offered.length_eq]
      omega
    obtain ⟨row, rfl⟩ := List.length_eq_one_iff.mp lone
    have same := List.mem_singleton.mp (inside a List.mem_cons_self)
    refine ⟨fun _ first second never => (by cases never), fun _ => ⟨List.nodup_singleton _, ?_⟩⟩
    rintro _ _ ⟨⟩ _ ⟨other, member, apart⟩
    rw [at_a, same, List.mem_singleton.mp member] at apart
    exact absurd rfl apart
  · obtain ⟨first, rest, rfl, at_a, at_rest⟩ := List.map_eq_cons_iff.mp all
    obtain ⟨second, rfl, at_b⟩ := List.map_eq_singleton_iff.mp at_rest
    constructor
    · rintro ⟨distinct, _⟩ _ _ ⟨⟩ same
      rw [List.map_cons, List.map_singleton, at_a, at_b, same] at distinct
      exact absurd List.mem_cons_self (List.nodup_cons.mp distinct).1
    · intro apart
      have elsewhere : second.upstream.id ≠ first.upstream.id := by
        rw [at_a, at_b]
        exact (apart a b rfl).symm
      refine ⟨?_, ?_⟩
      · exact List.nodup_cons.mpr ⟨fun member => elsewhere (List.mem_singleton.mp member).symm, List.nodup_singleton _⟩
      · rintro _ _ ⟨⟩ _ _
        exact ⟨second, List.mem_cons_self, elsewhere, b, inside b (List.mem_cons_of_mem _ List.mem_cons_self), at_b.symm⟩
  · simp only [List.length_cons] at counted
    omega

end Selected

section Routes
variable {faults : Op engine → Prop} {m : Solo engine}

/-- The contacts so far, and the rows. -/
def contactsAndRows (m : Solo engine) : List Contact × Db := (contacts m.calls, m.db)

/-- The usages that the counters have been answered as. -/
def usagesOf (modelIds : List Int) : Except Failure (List (Option Int)) → List Int
  | .ok values => values.map (fun value => value.getD 0)
  | .error _ => List.replicate modelIds.length 0

/-- Clients that were selected by the rows and the counters that the calls have read. -/
structure SelectedFrom (cname provider feature : String) (db : Db) (calls : List (Call engine))
    (clients : List UpstreamClient) (rows : List (LLMModel × LLMUpstream))
    (counters : Except Failure (List (Option Int))) : Prop where
  offered : rows.Perm (candidates db cname provider feature)
  found : (⟨.auto (.findModelsByNameAndCapacity cname provider feature), .ok rows⟩ : Call engine) ∈ calls
  counted : (⟨.remote (.getOutputTokenUsage (modelIds rows)), counters⟩ : Call engine) ∈ calls
  selected : clients = (leastLoaded 2 (usagesOf (modelIds rows) counters) rows).map buildClient

theorem yields_getOutputTokenUsageBatch {ids : List Int} (nonempty : ids ≠ []) :
    (getOutputTokenUsageBatch ids).yields faults (fun usages m' => ∃ counters, usages = usagesOf ids counters ∧
      m'.calls = ⟨.remote (.getOutputTokenUsage ids), counters⟩ :: m.calls ∧ m'.db = m.db) m := by
  rw [getOutputTokenUsageBatch, if_neg nonempty]
  refine yields_bind.mpr (yields_remote ?_)
  rintro (reason | values) world
  · exact ⟨.error reason, rfl, rfl, rfl⟩
  · exact ⟨.ok values, rfl, rfl, rfl⟩

theorem yields_selectModelClients (builds : Nat → LLMUpstream → Bool) (cname provider feature : String) :
    (selectModelClients builds cname provider feature 2).yields faults (fun selected m' =>
      contactsAndRows m' = contactsAndRows m ∧ ∀ clients, selected = some clients → clients ≠ [] →
        ∃ rows counters, SelectedFrom cname provider feature m.db m'.calls clients rows counters) m := by
  refine yields_bind.mpr (yields_pooled (E := engine) ?_ ?_ ?_)
  · intro env rows _ executed
    dsimp only
    split
    · exact ⟨rfl, by rintro _ ⟨⟩ some; exact absurd rfl some⟩
    · rename_i some
      refine yields_bind.mpr (yields_mono ?_ (yields_getOutputTokenUsageBatch
        (fun none => some (List.map_eq_nil_iff.mp none))))
      rintro _ m' ⟨counters, rfl, made, same⟩
      refine ⟨?_, fun clients built _ => ⟨rows, counters, ?_, ?_, ?_, buildClients_eq built⟩⟩
      · rw [contactsAndRows, made, same]
        rfl
      · cases executed
        exact Table.arrange_perm _ _
      · rw [made]
        exact List.mem_cons_of_mem _ List.mem_cons_self
      · rw [made]
        exact List.mem_cons_self
  · exact fun _ => ⟨rfl, by rintro _ ⟨⟩ some; exact absurd rfl some⟩
  · exact fun _ => ⟨rfl, by rintro _ ⟨⟩ some; exact absurd rfl some⟩

theorem SelectedFrom.later {cname provider feature : String} {db : Db} {calls later : List (Call engine)}
    {clients : List UpstreamClient} {rows : List (LLMModel × LLMUpstream)}
    {counters : Except Failure (List (Option Int))}
    (selected : SelectedFrom cname provider feature db calls clients rows counters) (reached : calls <:+ later) :
    SelectedFrom cname provider feature db later clients rows counters :=
  ⟨selected.offered, reached.subset selected.found, reached.subset selected.counted, selected.selected⟩

/-- The calls of a part, and that they contact no upstream and change no row. -/
structure Quietly (m m' : Solo engine) : Prop where
  reached : m.calls <:+ m'.calls
  same : contactsAndRows m' = contactsAndRows m

theorem Quietly.idle {m m' : Solo engine} (quietly : Quietly m m') (idle : contacts m.calls = []) :
    contacts m'.calls = [] :=
  (congrArg Prod.fst quietly.same).trans idle

theorem yields_quietly {p : Action α} (keeps : p.Only (Op.Keeps contactsAndRows)) :
    p.yields faults (fun _ m' => Quietly m m') m := by
  refine yields_mono (fun _ _ runs => ?_) yields_runs
  exact ⟨runs.calls_suffix, runs.yields (yields_keeps keeps)⟩

theorem keeps_accountWallet (accountId : Int) : (accountWallet accountId).Only (Op.Keeps contactsAndRows) := by
  refine only_bind (only_op (fun _ _ _ => rfl)) ?_
  have database : ((findAccountWallet accountId).run).Only (Op.Keeps contactsAndRows) :=
    only_queryAuto (fun _ reply _ => by cases reply <;> rfl)
  rintro (reason | _ | wallet)
  · exact database
  · exact database
  · trivial

/-- What a loop comes to, where there is one. -/
def Looped (request : RetriedRequest) (context : RequestContext) (faults : Op engine → Prop) (db : Db)
    (reply : Reply request.Body) (m' : Solo engine) : Prop :=
  contacts m'.calls = [] ∨ ∃ cname original clients rows counters m₁, request.cname = some cname ∧ clients ≠ [] ∧
    SelectedFrom cname request.provider request.feature db m₁.calls clients rows counters ∧
    contacts m₁.calls = [] ∧ (request.loop context original clients).Runs faults m₁ reply m'

theorem looped_wallet {request : RetriedRequest} {context : RequestContext} {insufficient : String}
    {accountId : Int} {next : Action (Reply request.Body)} (idle : contacts m.calls = [])
    (rest : ∀ m', contacts m'.calls = [] → m'.db = m.db →
      next.yields faults (Looped request context faults m'.db) m') :
    (checkWalletBalance insufficient accountId next).yields faults (Looped request context faults m.db) m := by
  refine yields_bind.mpr (yields_mono ?_ (yields_quietly (keeps_accountWallet accountId)))
  rintro (e | (_ | wallet)) m' quietly
  · exact .inl (quietly.idle idle)
  · exact .inl (quietly.idle idle)
  · dsimp only
    have unchanged : m'.db = m.db := congrArg Prod.snd quietly.same
    split
    · exact .inl (quietly.idle idle)
    · exact unchanged ▸ rest m' (quietly.idle idle) unchanged

/-- A selection that panics contacts no upstream. -/
theorem looped_select {request : RetriedRequest} {context : RequestContext} {builds : Nat → LLMUpstream → Bool}
    {cname provider feature : String}
    {unavailable : Reply request.Body} {next : List UpstreamClient → Action (Reply request.Body)}
    (idle : contacts m.calls = [])
    (rest : ∀ clients rows counters m', clients ≠ [] → contacts m'.calls = [] →
      SelectedFrom cname provider feature m.db m'.calls clients rows counters →
      (next clients).yields faults (Looped request context faults m.db) m') :
    (withModelClients builds cname provider feature 2 (fun clients =>
      if clients = [] then pure unavailable else next clients)).yields faults
        (Looped request context faults m.db) m := by
  refine yields_bind.mpr (yields_mono ?_ (yields_selectModelClients builds cname provider feature))
  rintro (_ | clients) m' ⟨same, selected⟩
  · exact .inl ((congrArg Prod.fst same).trans idle)
  have still : contacts m'.calls = [] := (congrArg Prod.fst same).trans idle
  dsimp only
  split
  · exact .inl still
  · rename_i some
    obtain ⟨rows, counters, selected⟩ := selected clients rfl some
    exact rest clients rows counters m' some still selected

theorem looped_loop {request : RetriedRequest} {context : RequestContext} {cname : String} {db : Db}
    {original : Option String} {clients : List UpstreamClient} {rows : List (LLMModel × LLMUpstream)}
    {counters : Except Failure (List (Option Int))} (named : request.cname = some cname) (some : clients ≠ [])
    (idle : contacts m.calls = [])
    (selected : SelectedFrom cname request.provider request.feature db m.calls clients rows counters) :
    (request.loop context original clients).yields faults (Looped request context faults db) m :=
  yields_mono (fun _ _ runs => .inr ⟨cname, original, clients, rows, counters, m, named, some, selected, idle, runs⟩)
    yields_runs

theorem looped_handle (request : RetriedRequest) (context : RequestContext) (idle : contacts m.calls = []) :
    (request.handle context).yields faults (Looped request context faults m.db) m := by
  rw [request.handle_eq]
  cases request with
  | createResponse payload =>
      refine looped_wallet idle (fun m₁ idle _ => ?_)
      cases payload with
      | mk model previousResponseId =>
      cases model with
      | none => exact .inl idle
      | some modelName =>
          refine looped_select idle (fun clients rows counters m₂ some idle selected => ?_)
          cases previousResponseId with
          | none => exact looped_loop rfl some idle selected
          | some prevId =>
              have keeps : (getOriginalResponseId prevId).run.Only (Op.Keeps contactsAndRows) :=
                only_run_bind (only_queryAuto (fun _ reply _ => by cases reply <;> rfl)) (fun _ => trivial)
              refine yields_bind.mpr (yields_mono ?_ (yields_quietly keeps))
              rintro (e | (_ | original)) m₃ quietly
              · exact .inl (quietly.idle idle)
              · exact .inl (quietly.idle idle)
              · exact looped_loop rfl some (quietly.idle idle) (selected.later quietly.reached)
  | _ =>
      refine looped_wallet idle (fun m₁ idle _ => looped_select idle ?_)
      exact fun clients rows counters m₂ some idle selected => looped_loop rfl some idle selected

end Routes

section Runs
variable {rows : List (LLMModel × LLMUpstream)} {redis : Except Failure (Int → Option Int)}

theorem usagesOf_map (redis : Except Failure (Int → Option Int)) (ids : List Int) :
    usagesOf ids (redis.map (fun counter => redisGet counter ids)) = usagesRead redis ids := by
  cases redis <;> rfl

/-- Where any client is selected, those with the least usage are. -/
theorem leastLoaded_nonempty (some : leastLoaded 2 (usagesRead redis (modelIds rows)) rows ≠ []) :
    leastLoaded 2 (usagesRead redis (modelIds rows)) rows = least (rowUsage (usageOf redis)) 2 rows := by
  rw [usagesRead_eq, leastLoaded_map]
  rintro counter row rfl rfl missing
  have lost : usagesRead (.ok counter) (modelIds [row]) = [] := by
    simp only [usagesRead, modelIds, List.map_cons, List.map_nil, redisGet, missing]
    rfl
  rw [lost] at some
  exact some rfl

/-- A request is retried on another upstream, unless its first attempt fails and the two least
used models that can serve it are of one upstream. -/
theorem RetriedRequest.handle_retriesElsewhere_iff (request : RetriedRequest) (context : RequestContext)
    (faults : Op engine → Prop) (db : Db) (world : World) (m' : Solo engine) (reply : Reply request.Body)
    (rows : List (LLMModel × LLMUpstream)) (redis : Except Failure (Int → Option Int))
    (ran : (request.handle context).Runs faults ⟨[], db, world⟩ reply m')
    (found : ∀ cname answer, (⟨.auto (.findModelsByNameAndCapacity cname request.provider request.feature),
      .ok answer⟩ : Call engine) ∈ m'.calls → answer = rows)
    (counted : ∀ ids answer, (⟨.remote (.getOutputTokenUsage ids), answer⟩ : Call engine) ∈ m'.calls →
      answer = redis.map (fun counter => redisGet counter ids)) :
    RetriesElsewhere (request.eligible db) (contacts m'.calls).reverse ↔
      (FirstFails (contacts m'.calls).reverse → ∀ first second,
        least (rowUsage (usageOf redis)) 2 rows = [first, second] → first.2.id ≠ second.2.id) := by
  rcases ran.yields (looped_handle request context (m := ⟨[], db, world⟩) rfl) with
    idle | ⟨cname, original, clients, read, counters, m₁, named, some, selected, idle, looped⟩
  · rw [idle]
    constructor
    · rintro _ ⟨_, ⟨⟩, _⟩
    · refine fun _ => ⟨List.nodup_nil, ?_⟩
      rintro _ _ ⟨⟩
  · have later := selected.later looped.calls_suffix
    obtain rfl := found cname read later.found
    obtain rfl := counted _ counters later.counted
    have chosen := selected.selected
    rw [usagesOf_map] at chosen
    have cut : leastLoaded 2 (usagesRead redis (modelIds read)) read ≠ [] :=
      fun none => some (chosen.trans (congrArg _ none))
    rw [leastLoaded_nonempty cut] at chosen
    have two : clients.length ≤ 2 := by
      rw [chosen, List.length_map, length_least]
      omega
    obtain ⟨trials, exact, _⟩ := request.loop_exact context original clients faults m₁ m' reply some looped
    have tried : (contacts m'.calls).reverse = trials.map Trial.contact := by
      rw [exact.contacted, idle, List.append_nil, List.reverse_reverse]
    rw [tried]
    rcases exact.tried some two with ⟨trial, answer, rfl, answered⟩ | ⟨all, fails⟩
    · have succeeded : trial.contact.failure = none := congrArg errorOf answered
      refine ⟨fun _ fails => ?_, fun _ => retriesElsewhere_first succeeded⟩
      exact absurd succeeded (firstFails_cons.mp fails)
    · have offered : read.Perm (request.eligible db) := by
        rw [RetriedRequest.eligible, named]
        exact selected.offered
      have upstreams : (trials.map Trial.contact).map Contact.upstream =
          (least (rowUsage (usageOf redis)) 2 read).map Prod.snd := by
        have mapped := congrArg (List.map UpstreamClient.upstream) (all.trans chosen)
        rw [List.map_map, List.map_map] at mapped
        rw [List.map_map]
        exact mapped
      have apart := retriesElsewhere_iff_selected offered upstreams fails
      exact apart.trans ⟨fun apart _ => apart, fun apart => apart fails⟩

end Runs

/-- The upstreams and the models are as requests to the admin API have made them. -/
def AdminReachable (db : Db) : Prop :=
  ∃ (n : Nat) (display : Pricing.SaveError → String) (requests : Fin n → Pricing.AdminRequest)
    (history : History Pricing.engine (Fin n)) (s : State Pricing.engine (Fin n)),
    Reaches (.any False) (Pricing.administered ⟨.empty, .empty⟩ display requests) history s ∧
      s.db.upstreams = db.upstreams ∧ s.db.models = db.models

def gptOf (id upstreamId : Int) (fullname : String) : LLMModel :=
  ⟨id, upstreamId, fullname, "gpt", true, [featureChatCompletions], 100000, Pricing.defaultTokenPrice,
    Pricing.defaultTokenPrice, Pricing.defaultTokenPrice, Pricing.defaultTokenPrice, ""⟩

/-- The first of two upstreams has two models of one short name. -/
def twoOfOne : Db := { Db.empty with
  wallets := Table.empty.insert ⟨1, 1, 100⟩
  upstreams := (Table.empty.insert ⟨1, "first", "https://a", "k", "openai", [], [], "online", ""⟩).insert
    ⟨2, "second", "https://b", "k", "openai", [], [], "online", ""⟩
  models := ((Table.empty.insert (gptOf 1 1 "a/gpt")).insert (gptOf 2 1 "b/gpt")).insert (gptOf 3 2 "gpt") }

/-- Both upstreams are created, and their three models tested. -/
def setUp : Fin 5 → Pricing.AdminRequest
  | 0 => .createUpstream { name := "first", apiKey := "k", apiBase := "https://a" }
  | 1 => .createUpstream { name := "second", apiKey := "k", apiBase := "https://b" }
  | 2 => .testModel 1
  | 3 => .testModel 2
  | 4 => .testModel 3

def setUpTurns (i : Fin 5) (serial : Int) (listed : List String) (n : Nat) : List (Fin 5 × Turn Pricing.engine) :=
  List.replicate n (i, .run ⟨serial, 0, .ok listed, [featureChatCompletions]⟩)

theorem adminReachable_twoOfOne : AdminReachable twoOfOne := by
  have reached : ∃ history s,
      Reaches (.any False) (Pricing.administered ⟨.empty, .empty⟩ (fun _ => "") setUp) history s ∧
        s.db.upstreams.rows = twoOfOne.upstreams.rows ∧ s.db.models.rows = twoOfOne.models.rows :=
    State.exists_of_play (.any False) _
      (setUpTurns 0 1 ["a/gpt", "b/gpt"] 5 ++ setUpTurns 0 2 [] 4 ++ setUpTurns 1 2 ["gpt"] 4 ++
        setUpTurns 1 3 [] 3 ++ setUpTurns 2 1 [] 4 ++ setUpTurns 3 1 [] 4 ++ setUpTurns 4 1 [] 4)
      (fun s => s.db.upstreams.rows = twoOfOne.upstreams.rows ∧ s.db.models.rows = twoOfOne.models.rows)
      (by decide +kernel)
  obtain ⟨history, s, reached, upstreams, models⟩ := reached
  exact ⟨5, _, setUp, history, s, reached, Table.eq_of_rows upstreams, Table.eq_of_rows models⟩

/-- What a call has read of the rows, and of the counters. -/
def rowsOf : Call engine → Option (List (LLMModel × LLMUpstream))
  | ⟨.auto (.findModelsByNameAndCapacity _ _ _), .ok rows⟩ => some rows
  | _ => none

def countersOf : Call engine → Option (List Int × Except Failure (List (Option Int)))
  | ⟨.remote (.getOutputTokenUsage ids), counters⟩ => some (ids, counters)
  | _ => none

/-- Every attempt at one fails, and its two models are tried. -/
theorem a_retry_is_on_the_same_upstream :
    ¬ ∀ (request : RetriedRequest) (context : RequestContext) (db : Db) (world : World) (m' : Solo engine)
        (reply : Reply request.Body), AdminReachable db →
      (request.handle context).Runs (fun _ => False) ⟨[], db, world⟩ reply m' →
      RetriesElsewhere (request.eligible db) (contacts m'.calls).reverse := by
  intro elsewhere
  have ran : ∃ reply m', ((RetriedRequest.chatCompletions ⟨"gpt", none, none⟩).handle
      ⟨1, 1, fun _ => "s", fun _ => "u", .direct⟩).alone (Env.plain 0 1) ⟨[], twoOfOne, World.empty⟩ = some (reply, m') ∧
        (contacts m'.calls).map (fun c => c.upstream.id) = [1, 1] :=
    ⟨_, _, rfl, rfl⟩
  obtain ⟨reply, m', ran, tried⟩ := ran
  have distinct := (elsewhere _ _ _ _ m' reply adminReachable_twoOfOne (runs_of_alone ran)).distinct
  rw [List.map_reverse, tried] at distinct
  exact absurd distinct (by decide)

def usedOnce : World := { World.empty with tokenUsage := [(0, 1, 1, 7), (0, 2, 1, 8)] }

/-- The model that is used least is of the other upstream. -/
theorem handle_retriesElsewhere_used : ∃ (reply : Reply _) (m' : Solo engine),
    ((RetriedRequest.chatCompletions ⟨"gpt", none, none⟩).handle ⟨1, 1, fun _ => "s", fun _ => "u", .direct⟩).Runs
      (fun _ => False) ⟨[], twoOfOne, usedOnce⟩ reply m' ∧
    (contacts m'.calls).map (fun c => c.upstream.id) = [1, 2] ∧
    RetriesElsewhere ((RetriedRequest.chatCompletions ⟨"gpt", none, none⟩).eligible twoOfOne)
      (contacts m'.calls).reverse := by
  have ran : ∃ reply m', ((RetriedRequest.chatCompletions ⟨"gpt", none, none⟩).handle
      ⟨1, 1, fun _ => "s", fun _ => "u", .direct⟩).alone (Env.plain 0 1) ⟨[], twoOfOne, usedOnce⟩ = some (reply, m') ∧
        m'.calls.filterMap rowsOf = [candidates twoOfOne "gpt" "openai" featureChatCompletions] ∧
        m'.calls.filterMap countersOf = [([1, 2, 3], .ok [some 7, some 8, none])] ∧
        (contacts m'.calls).map (fun c => c.upstream.id) = [1, 2] :=
    ⟨_, _, rfl, rfl, rfl, rfl⟩
  obtain ⟨reply, m', ran, rows, counters, tried⟩ := ran
  refine ⟨reply, m', runs_of_alone ran, tried, (RetriedRequest.handle_retriesElsewhere_iff
    (.chatCompletions ⟨"gpt", none, none⟩)
    ⟨1, 1, fun _ => "s", fun _ => "u", .direct⟩ (fun _ => False) twoOfOne usedOnce m' reply
    (candidates twoOfOne "gpt" "openai" featureChatCompletions) (.ok (outputUsage usedOnce 0))
    (runs_of_alone ran) ?_ ?_).mpr ?_⟩
  · intro cname answer member
    have read : answer ∈ m'.calls.filterMap rowsOf := List.mem_filterMap.mpr ⟨_, member, rfl⟩
    rw [rows] at read
    exact List.mem_singleton.mp read
  · intro ids answer member
    have read : (ids, answer) ∈ m'.calls.filterMap countersOf := List.mem_filterMap.mpr ⟨_, member, rfl⟩
    rw [counters] at read
    cases List.mem_singleton.mp read
    rfl
  · intro _ first second selected
    have two : (least (rowUsage (usageOf (.ok (outputUsage usedOnce 0)))) 2
        (candidates twoOfOne "gpt" "openai" featureChatCompletions)).map (fun row => row.2.id) = [2, 1] := by
      decide +kernel
    rw [selected] at two
    obtain ⟨at_first, at_second⟩ := List.cons_eq_cons.mp two
    exact fun same => absurd (at_first.symm.trans (same.trans (List.cons_eq_cons.mp at_second).1)) (by decide)

end LLMPool.ProxyViews
