import LLMPool.Deployment.Conduct
import LLMPool.ProxyViews.OfflineMarks

/-! Who is charged, and for what: when the server and its workers all run at once, a charge bills a
request of the account's own, and the account had money for it. -/
namespace LLMPool.Deployment
open Relational Transactions Billing ProxyViews

section Events

/-- What becomes of the events by a call. -/
theorem remote_events (c : Remote) (env : Env) (world : World) : (remote c env world).2.events =
    match c with
    | .pushEvent event => world.events ++ [event]
    | .ackEvent event => world.events.erase event
    | _ => world.events := by
  cases c
  case fetchBalanceChange | getWalletInfo | getApiKeyInfo | fetchSpawned | fetchHealthCheck =>
    simp only [remote]
    split <;> rfl
  all_goals rfl

/-- The events, from the push of their request until they are acknowledged. -/
def eventTasks : Queue engine (EventTask EventData) where
  waiting world event := event ∈ world.events
  pushed event := ⟨.remote (.pushEvent event), .ok ()⟩
  delivered event := ⟨.remote .fetchEvent, .ok (some event)⟩
  acknowledged event := ⟨.remote (.ackEvent event), .ok ()⟩
  answered _ := ⟨trivial, trivial, trivial⟩
  arrives c env world event waiting := by
    have later : event ∈ (remote c env world).2.events := waiting
    rw [remote_events] at later
    split at later
    · rcases List.mem_append.mp later with before | now
      · exact .inl before
      · obtain rfl := List.mem_singleton.mp now
        exact .inr rfl
    · exact .inl (List.mem_of_mem_erase later)
    · exact .inl later
  leaves c env world event waiting := by
    change event ∈ (remote c env world).2.events ∨ _
    rw [remote_events]
    split
    · exact .inl (List.mem_append_left _ waiting)
    · rename_i other
      by_cases same : event = other
      · subst same
        exact .inr rfl
      · exact .inl ((List.mem_erase_of_ne same).mpr waiting)
    · exact .inl waiting
  delivers c env world event delivered := by
    obtain rfl := remote_of_call delivered
    have answer : Except.ok (some event) = Except.ok world.events[env.pick % world.events.length]? :=
      eq_of_heq (Call.mk.inj delivered).2
    exact List.mem_of_getElem? (Except.ok.inj answer).symm
  enqueues c env world event pushed := by
    obtain rfl := remote_of_call pushed
    exact List.mem_append_right _ List.mem_cons_self

end Events

/-- The account has a wallet, and there is money in it. -/
def Funded (accountId : Int) (db : Db) : Prop :=
  ∃ wallet, db.wallets.lookup accountId = some wallet ∧ 0 < wallet.balance

section Runs
variable {ι : Type} {D : Discipline engine} {hashToken : String → String} {party : ι → Party}
  {db : Db} {world : World} {s : State engine ι} {i : ι} {calls : List (Call engine)} {accountId apiKeyId : Int}

theorem deployment_conforms : (deployment hashToken db world party).Paths (fun i => Conforms hashToken (party i))
    (fun _ => Forwarded) :=
  fun i => ((party i).kind hashToken).conforms

theorem deployment_orderly : (deployment hashToken db world party).Paths (fun _ => Orderly) (fun _ => Forwarded) :=
  fun i => path_mono (fun _ _ conforms => conforms.orderly) (fun _ _ ended => ended) (deployment_conforms i)

theorem deployment_sourced : (deployment hashToken db world party).Paths (fun _ => Auth.Sourced) (fun _ => Forwarded) :=
  fun i => path_mono (fun _ _ conforms => conforms.sourced) (fun _ _ ended => ended) (deployment_conforms i)

theorem deployment_caches : (deployment hashToken db world party).Paths (fun _ => Caches) (fun _ => Forwarded) :=
  fun i => path_mono (fun _ _ conforms => conforms.caches) (fun _ _ ended => ended) (deployment_conforms i)

variable [DecidableEq ι]

/-- The key stands for this id and this account, and both were active at some time. -/
structure Entitled (D : Discipline engine) (initial s : State engine ι) (apiKeyHash : String)
    (accountId apiKeyId : Int) : Prop where
  stands : Auth.Stands apiKeyHash apiKeyId (some accountId) s.db
  key : Earlier D initial s (fun middle => Auth.KeyActive apiKeyHash middle.db)
  account : Earlier D initial s (fun middle => Auth.AccountActive accountId middle.db)

theorem Behind.entitled (current : Auth.Current db world)
    (reached : Reaches D (deployment hashToken db world party) history s)
    (behind : Behind hashToken (party i) accountId apiKeyId calls) (inside : calls ⊆ (s.procs i).calls) :
    ∃ apiKeyHash, (party i).presents hashToken = some apiKeyHash ∧
      Entitled D (deployment hashToken db world party) s apiKeyHash accountId apiKeyId := by
  obtain ⟨apiKeyHash, presents, admitted⟩ := behind
  have vouched := admitted.vouched deployment_sourced current reached inside
  exact ⟨apiKeyHash, presents, vouched.stands, vouched.key, vouched.account accountId rfl rfl⟩

/-- A wallet that was read, from the cache or from its row, was committed at some time. -/
theorem Affords.funded (backs : Backs db world) (reached : Reaches D (deployment hashToken db world party) history s)
    (paid : Affords accountId calls) (inside : calls ⊆ (s.procs i).calls) :
    Earlier D (deployment hashToken db world party) s (fun middle => Funded accountId middle.db) := by
  obtain ⟨wallet, positive, cached | stored⟩ := paid
  · obtain ⟨_, middle, _, first, second, env, answered⟩ := reached.replied_earlier (inside cached)
    have told : middle.world.walletInfo accountId = some wallet := by
      simp only [engine, remote] at answered
      split at answered
      · cases answered
      · exact answered
    refine ((Reaches.cached_wallet deployment_caches backs first told).later second).mono ?_
    exact fun before found => ⟨wallet, found, positive⟩
  · refine (reached.read_earlier (inside stored)).mono ?_
    rintro middle ⟨_, executed⟩
    exact ⟨wallet, Option.some.inj executed, positive⟩

/-- In every interleaving, with any failures, a wallet in the cache is no invention: it was at some time
the committed row of its account. -/
theorem cached_wallets_were_committed (backs : Backs db world)
    (reached : Reaches D (deployment hashToken db world party) history s)
    (cached : s.world.walletInfo accountId = some wallet) :
    Earlier D (deployment hashToken db world party) s (fun middle => middle.db.wallets.lookup accountId = some wallet) :=
  Reaches.cached_wallet deployment_caches backs reached cached

/-- In every interleaving, with any failures, a request contacts an upstream for the account of the
key that it presents: the key and the account were active, and other than to delete a response the
account had a wallet with money in it. -/
theorem upstreams_serve_the_funded (current : Auth.Current db world) (backs : Backs db world)
    (reached : Reaches D (deployment hashToken db world party) history s) {call : Call engine}
    (member : call ∈ (s.procs i).calls) (contacts : call.op = .remote (.upstream u upstreamCall))
    (asks : (party i).asks = some request) :
    ∃ apiKeyHash accountId apiKeyId, (party i).presents hashToken = some apiKeyHash ∧
      Entitled D (deployment hashToken db world party) s apiKeyHash accountId apiKeyId ∧
      (Earlier D (deployment hashToken db world party) s (fun middle => Funded accountId middle.db) ∨
        ∃ responseId, request = .deleteResponse responseId) := by
  obtain ⟨older, suffix, made, _⟩ := reached.made deployment_conforms i call member
  have inside : older ⊆ (s.procs i).calls := fun _ earlier => suffix.subset (List.mem_cons_of_mem _ earlier)
  have answers := made.answers
  rw [contacts] at answers
  obtain ⟨accountId, apiKeyId, behind, paid⟩ := answers request asks
  obtain ⟨apiKeyHash, presents, entitled⟩ := behind.entitled current reached inside
  exact ⟨apiKeyHash, accountId, apiKeyId, presents, entitled,
    paid.imp_left (fun paid => Affords.funded backs reached paid inside)⟩

/-- The balance change charges the usage of the event, at the prices of its model. -/
structure Meters (event : EventTask EventData) (db : Db) (c : BalanceChange) : Prop where
  accountId : c.accountId = event.accountId
  requestId : c.uniqueRequestId = eventRequestId event
  charged : ∃ usage model eventId, event.eventData.extractUsage = some usage ∧
    db.models.find event.modelId = some model ∧ charge c = some (spendTokenOf usage model eventId)

theorem Meters.same {event : EventTask EventData} {c c' : BalanceChange} (meters : Meters event db c)
    (same : SameChange c c') : Meters event db c' where
  accountId := same.accountId.trans meters.accountId
  requestId := same.uniqueRequestId.trans meters.requestId
  charged := by
    obtain ⟨usage, model, eventId, used, known, charged⟩ := meters.charged
    exact ⟨usage, model, eventId, used, known, (SameChange.charge same).trans charged⟩

/-- The event comes from a request, which is entitled to what it asks for. -/
structure AskedFor (D : Discipline engine) (hashToken : String → String) (party : Party) (initial s : State engine ι)
    (event : EventTask EventData) : Prop where
  session : ∃ uuids ∈ party.uuids, ∃ attempt, event.sessionId = uuids.sessions attempt
  entitled : ∃ apiKeyHash, party.presents hashToken = some apiKeyHash ∧
    Entitled D initial s apiKeyHash event.accountId event.apiKeyId
  funded : Earlier D initial s (fun middle => Funded event.accountId middle.db)

theorem model_answered (reached : Reaches D (deployment hashToken db world party) history s)
    (found : (⟨.sql (.getModel modelId), .ok answer⟩ : Call engine) ∈ (s.procs i).calls) :
    db.models.find modelId = answer := by
  rcases reached.performed found with ⟨_, refused⟩ | ⟨_, middle, _, env, next, first, _, _, performed⟩
  · cases refused
  rcases Op.perform_sql performed with ⟨_, _, ran⟩ | ⟨_, refused⟩
  · have grows := (Reaches.grows first).trans (grows_applyAll (middle.procs i).session.writes middle.db)
    exact grows.models ▸ Option.some.inj (Op.answer_ok ran).2
  · cases refused

theorem delivered_event (current : Auth.Current db world) (backs : Backs db world)
    (reached : Reaches D (deployment hashToken db world party) history s) {event : EventTask EventData}
    (delivered : Delivered event (s.procs i).calls) :
    event ∈ world.events ∨ ∃ j, AskedFor D hashToken (party j) (deployment hashToken db world party) s event := by
  refine (reached.arrived eventTasks (.inr ⟨i, delivered⟩)).imp id ?_
  rintro ⟨j, pushed⟩
  obtain ⟨older, suffix, made, _⟩ := reached.made deployment_conforms j _ pushed
  have inside : older ⊆ (s.procs j).calls := fun _ earlier => suffix.subset (List.mem_cons_of_mem _ earlier)
  obtain ⟨behind, paid, session⟩ := made.answers
  exact ⟨j, session, behind.entitled current reached inside, Affords.funded backs reached paid inside⟩

/-- A balance change that is recorded on the pool is what an administrator asks for. -/
theorem transferring_of_inserted (reached : Reaches D (deployment hashToken db world party) history s)
    {new : NewBalanceChange} {c : BalanceChange}
    (inserted : (⟨.auto (.insertBalanceChange new), .ok c⟩ : Call engine) ∈ (s.procs i).calls) :
    Transferring (party i) c.accountId c.uniqueRequestId c.content := by
  obtain ⟨older, _, made, env, rows, executed⟩ := reached.made deployment_conforms i _ inserted
  obtain ⟨account, named, content⟩ := inserted_row executed
  rw [account, named, content]
  exact made.answers

/-- Every balance change was there from the start, or bills an event that a worker was delivered, or is
what an administrator asked for. -/
theorem recorded (reached : Reaches D (deployment hashToken db world party) history s) {c : BalanceChange}
    (member : c ∈ s.db.balanceChanges) :
    (∃ c₀ ∈ db.balanceChanges, c₀.id = c.id ∧ SameChange c₀ c) ∨
      (∃ i event, Delivered event (s.procs i).calls ∧ Meters event db c) ∨
      ∃ i, Transferring (party i) c.accountId c.uniqueRequestId c.content := by
  obtain ⟨c₀, here, same, initial | ⟨i, inserted⟩⟩ := Reaches.rows reached c member
  · exact .inl ⟨c₀, initial, here, same⟩
  refine .inr ?_
  obtain ⟨s₀, answer, inside, wrote⟩ := mem_permanent inserted
  obtain ⟨new, at_insert⟩ := writes_insert wrote
  cases at_insert
  rcases inside with inside | inside
  · obtain ⟨older, suffix, made, sensible⟩ := reached.made deployment_conforms i _ inside
    obtain ⟨event, delivered, account, named, usage, model, eventId, used, known, content⟩ := made.answers
    obtain ⟨_, env, rows, executed⟩ := sensible
    obtain ⟨account', named', content'⟩ := inserted_row executed
    have earlier : older ⊆ (s.procs i).calls := fun _ before => suffix.subset (List.mem_cons_of_mem _ before)
    have meters : Meters event db c₀ := by
      refine ⟨account'.trans account, named'.trans named, usage, model, eventId, used,
        model_answered reached (earlier known), ?_⟩
      rw [charge, content', content, BalanceChangeContent.fromValue_toValue]
    exact .inl ⟨i, event, earlier delivered, meters.same same⟩
  · refine .inr ⟨i, ?_⟩
    rw [same.accountId, same.uniqueRequestId, same.content]
    exact transferring_of_inserted reached inside

/-- What an administrator asks for charges nobody. -/
theorem Transferring.uncharged {c : BalanceChange} {party : Party}
    (transferring : Transferring party c.accountId c.uniqueRequestId c.content) : charge c = none := by
  obtain ⟨payload, change, asked, _, _, content, _⟩ := transferring
  rw [charge, content, BalanceChangeContent.fromValue_toValue]
  cases party with
  | createDeposit | createWithdraw | createCredit =>
      cases asked
      rfl
  | _ => cases asked

/-- In every interleaving, with any failures, every charge in the ledger was there from the start, or
it bills an event that was: else an event of a request that presents a key of the account that is
charged, and the account had money when the upstream was asked. -/
theorem charges_are_for_requests (current : Auth.Current db world) (backs : Backs db world)
    (reached : Reaches D (deployment hashToken db world party) history s) {c : BalanceChange}
    (member : c ∈ s.db.balanceChanges) (charged : charge c = some spend) :
    (∃ c₀ ∈ db.balanceChanges, c₀.id = c.id ∧ SameChange c₀ c) ∨
      ∃ event, Meters event db c ∧ (event ∈ world.events ∨
        ∃ j, AskedFor D hashToken (party j) (deployment hashToken db world party) s event) := by
  rcases recorded reached member with initial | ⟨i, event, delivered, meters⟩ | ⟨i, transferring⟩
  · exact .inl initial
  · exact .inr ⟨event, meters, delivered_event current backs reached delivered⟩
  · cases transferring.uncharged.symm.trans charged

end Runs

section Shop

/-- An account with a key and some money, and a model of one upstream. -/
def openShop : Db := { Auth.activeKey with
  wallets := Table.empty.insert ⟨1, 1, 100⟩
  upstreams := Table.empty.insert ⟨1, "gpt", "https://a", "", "openai", [], [], "online", ""⟩
  models := Table.empty.insert ⟨1, 1, "gpt-4o", "gpt-4o", true, [featureChatCompletions], 100000, 1, 2, 1, 1, ""⟩ }

def oneUsage : World := { World.empty with tokenUsage := [(0, 1, 1, 1)] }

def completes (serial : Int) : Env := { Env.plain 0 serial with
  answers := fun
    | .createChat _ => .ok ⟨some ⟨10, 5, 15⟩⟩
    | _ => .error .network }

/-- A completion, the deliveries of its two events, and a settlement. -/
def aCompletion : Fin 4 → Party
  | 0 => .openAI (some "Bearer lpx-018f77aa") ⟨fun _ => "s", fun _ => "m", .direct⟩
      (.proxied (.chatCompletions ⟨"gpt-4o", none, none⟩))
  | 1 => .eventWorker
  | 2 => .eventWorker
  | 3 => .balanceChangeWorker

/-- One after another, each with the number of calls that it makes. -/
def inTurns (counts : List (Fin n × Nat)) : List (Fin n × Turn engine) :=
  counts.zipIdx.flatMap (fun ((i, count), number) => List.replicate count (i, .run (completes (number + 1))))

def contactsUpstream (call : Call engine) : Bool :=
  match call.op with
  | .remote (.upstream _ _) => true
  | _ => false

theorem contacted_upstream {call : Call engine} (contacts : contactsUpstream call = true) :
    ∃ u upstreamCall, call.op = .remote (.upstream u upstreamCall) := by
  unfold contactsUpstream at contacts
  split at contacts
  · exact ⟨_, _, ‹_›⟩
  · cases contacts

theorem aCompletion_is_charged : ∃ history s,
    Reaches (.any False) (deployment id openShop oneUsage aCompletion) history s ∧
      (∃ call ∈ (s.procs 0).calls, contactsUpstream call = true) ∧
      ∃ c ∈ s.db.balanceChanges.rows, c.isApplied = true ∧ (charge c).isSome = true :=
  State.exists_of_play (.any False) (deployment id openShop oneUsage aCompletion)
    (inTurns [(0, 11), (1, 6), (2, 9), (3, 10)]) (fun s => (∃ call ∈ (s.procs 0).calls, contactsUpstream call = true) ∧
      ∃ c ∈ s.db.balanceChanges.rows, c.isApplied = true ∧ (charge c).isSome = true) (by decide +kernel)

theorem backs_openShop : Backs openShop oneUsage := by
  rintro accountId w ⟨⟩

/-- The settlement has cached the wallet with the charge. -/
theorem cached_wallets_were_committed_once : ∃ history s,
    Reaches (.any False) (deployment id openShop oneUsage aCompletion) history s ∧
      s.world.walletInfo 1 = some ⟨1, 1, 80⟩ ∧
      Earlier (.any False) (deployment id openShop oneUsage aCompletion) s
        (fun middle => middle.db.wallets.lookup 1 = some ⟨1, 1, 80⟩) := by
  obtain ⟨history, s, reached, cached⟩ := State.exists_of_play (.any False)
    (deployment id openShop oneUsage aCompletion) (inTurns [(0, 11), (1, 6), (2, 9), (3, 10)])
    (fun s => s.world.walletInfo 1 = some ⟨1, 1, 80⟩) (by decide +kernel)
  exact ⟨history, s, reached, cached, cached_wallets_were_committed backs_openShop reached cached⟩

theorem upstreams_serve_the_funded_once : ∃ history s apiKeyHash accountId,
    Reaches (.any False) (deployment id openShop oneUsage aCompletion) history s ∧
      (aCompletion 0).presents id = some apiKeyHash ∧
      Earlier (.any False) (deployment id openShop oneUsage aCompletion) s (fun middle => Funded accountId middle.db) := by
  obtain ⟨history, s, reached, ⟨call, member, contacts⟩, _⟩ := aCompletion_is_charged
  obtain ⟨u, upstreamCall, same⟩ := contacted_upstream contacts
  obtain ⟨apiKeyHash, accountId, _, presents, _, funded | ⟨_, never⟩⟩ := upstreams_serve_the_funded
    (Auth.current_empty openShop oneUsage) backs_openShop reached member same rfl
  · exact ⟨history, s, apiKeyHash, accountId, reached, presents, funded⟩
  · cases never

theorem charges_are_for_requests_once : ∃ history s,
    Reaches (.any False) (deployment id openShop oneUsage aCompletion) history s ∧
      ∃ c ∈ s.db.balanceChanges, c.isApplied = true ∧ ∃ event j, Meters event openShop c ∧
        AskedFor (.any False) id (aCompletion j) (deployment id openShop oneUsage aCompletion) s event := by
  obtain ⟨history, s, reached, _, c, member, settled, charged⟩ := aCompletion_is_charged
  obtain ⟨spend, charged⟩ := Option.isSome_iff_exists.mp charged
  rcases charges_are_for_requests (Auth.current_empty openShop oneUsage) backs_openShop reached
    (Table.mem_def.mpr member) charged with ⟨_, never, _⟩ | ⟨event, meters, never | ⟨j, asked⟩⟩
  · cases never
  · cases never
  · exact ⟨history, s, reached, c, Table.mem_def.mpr member, settled, event, j, meters, asked⟩

end Shop

end LLMPool.Deployment
