import LLMPool.Billing.AuditTrail
import LLMPool.Billing.BilledOnce
import LLMPool.Billing.Stranding
import LLMPool.ProxyViews.ReportedUsage
import Mathlib.Data.Fintype.Sum

/-! Requests, deliveries of their events and settlements in any interleaving: which requests
the charges in the ledger are for, and how many tokens they are charged. -/
namespace LLMPool.Billing
open Relational Transactions ProxyViews

inductive Activity where
  | request (context : RequestContext) (served : ProxyRequest)
  | delivery (event : EventTask EventData)
  | settlement

def Activity.program : Activity → Action Unit
  | request context served => served.handle context
  | delivery event => handleEvent event
  | settlement => balanceChangeWorker

def programs (activity : ι → Activity) (i : ι) : Action Unit := (activity i).program

/-- The sessions that are drawn for a request. -/
def Activity.Opens (sessionId : String) : Activity → Prop
  | request context _ => ∃ attempt, sessionId = context.sessions attempt
  | _ => False

section Tokens

/-- Input and output tokens. -/
def chargeTokens (c : BalanceChange) : Int × Int :=
  match charge c with
  | some spend => (spend.inputTokens, spend.outputTokens)
  | none => 0

/-- A settled charge that names an event of one of the sessions. -/
def ChargedIn (sessions : List String) (db : Db) (c : BalanceChange) : Prop :=
  c.isApplied = true ∧ ∃ spend ∈ charge c, ∃ e ∈ db.sessionEvents.find spend.eventId, e.sessionId ∈ sessions

instance {sessions : List String} {db : Db} {c : BalanceChange} : Decidable (ChargedIn sessions db c) :=
  inferInstanceAs (Decidable (_ ∧ _))

/-- What the sessions are charged for, as the ledger has it. -/
def chargedTokens (sessions : List String) (db : Db) : Int × Int :=
  db.balanceChanges.sum (fun c => if ChargedIn sessions db c then chargeTokens c else 0)

/-- The tokens of an event that is billed, where its model is known. -/
def billedTokens (db : Db) (event : EventTask EventData) : Int × Int :=
  if (db.models.find event.modelId).isSome then eventTokens event.eventData else 0

theorem billedTokens_of_billable {db : Db} {event : EventTask EventData} (billable : Billable event db) :
    billedTokens db event = eventTokens event.eventData := by
  obtain ⟨_, model, known⟩ := billable
  rw [billedTokens, known]
  rfl

theorem billedTokens_of_unbillable {db : Db} {event : EventTask EventData} (unbillable : ¬Billable event db) :
    billedTokens db event = 0 := by
  rw [billedTokens]
  split
  · rename_i known
    obtain ⟨model, known⟩ := Option.isSome_iff_exists.mp known
    have unused : event.eventData.extractUsage = none :=
      Option.eq_none_iff_forall_ne_some.mpr (fun usage used => unbillable ⟨⟨usage, used⟩, model, known⟩)
    rw [eventTokens, unused]
  · rfl

end Tokens

/-- The balance change charges the usage of the event, by the session event that it names. -/
structure ChargeFor (event : EventTask EventData) (db : Db) (c : BalanceChange) : Prop where
  requestId : c.uniqueRequestId = eventRequestId event
  billable : Billable event db
  tokens : chargeTokens c = eventTokens event.eventData
  names : ∃ spend ∈ charge c, ∃ e ∈ db.sessionEvents.find spend.eventId, index e = sessionKey event

/-- The place of the session event that a charge names. -/
def chargeKey (db : Db) (c : BalanceChange) : Option (String × Int) :=
  (charge c).bind (fun spend => (db.sessionEvents.find spend.eventId).map index)

section Steps
variable {event : EventTask EventData} {c c' : BalanceChange} {db db' : Db}

theorem ChargeFor.key (charges : ChargeFor event db c) : chargeKey db c = some (sessionKey event) := by
  obtain ⟨spend, charged, e, named, here⟩ := charges.names
  rw [chargeKey, Option.mem_def.mp charged, Option.bind_some, Option.mem_def.mp named, Option.map_some, here]

theorem SameChange.charge (same : SameChange c c') : charge c' = charge c := by
  rw [Billing.charge, same.content, Billing.charge]

theorem SameChange.chargeTokens (same : SameChange c c') : chargeTokens c' = chargeTokens c := by
  rw [Billing.chargeTokens, SameChange.charge same, Billing.chargeTokens]

theorem ChargeFor.grows (charges : ChargeFor event db c) (same : SameChange c c') (grows : Grows db db') :
    ChargeFor event db' c' := by
  obtain ⟨requestId, billable, tokens, spend, charged, e, named, here⟩ := charges
  obtain ⟨e', named', kept⟩ := grows.sessionEvents _ e named
  refine ⟨same.uniqueRequestId.trans requestId, (billable_grows grows).mpr billable,
    (SameChange.chargeTokens same).trans tokens, spend, SameChange.charge same ▸ charged, e', named', ?_⟩
  exact (Prod.ext kept.sessionId kept.sessionIndex).trans here

/-- What is billed charges the event that it is billed for. -/
theorem Bills.charges (bills : Bills event db db') (billable : Billable event db) :
    ∃ c ∈ db'.balanceChanges, ChargeFor event db' c := by
  have grows := bills.grows
  cases bills with
  | logged e row puts unbillable => exact absurd billable unbillable
  | billed e c usage model row puts used known free made =>
      obtain ⟨e', same, stored⟩ := puts.lookup
      obtain ⟨member, place⟩ := Table.lookup_iff.mp stored
      have charged := charge_made made
      refine ⟨c, (Table.mem_insert free).mpr (.inr rfl), congrArg BalanceChange.uniqueRequestId made,
        (billable_grows grows).mpr billable, ?_, _, charged, e', ?_, place.trans row⟩
      · rw [chargeTokens, charged, eventTokens, used]
        rfl
      · exact Table.find_iff.mpr ⟨member, same⟩

/-- No balance change is recorded. -/
structure Unbilling (db db' : Db) : Prop where
  grows : Grows db db'
  rows : ∀ c' ∈ db'.balanceChanges, ∃ c ∈ db.balanceChanges, SameChange c c'

theorem unbilling_applyAll {ws : List Write} (unrecorded : Unrecorded ws) (db : Db) :
    Unbilling db (engine.applyAll ws db) := by
  refine ⟨grows_applyAll ws db, fun c' member => ?_⟩
  rcases mem_applyAll member with ⟨c, before, _, same⟩ | ⟨c, inserted, _⟩
  · exact ⟨c, before, same⟩
  · exact absurd inserted (unrecorded c)

theorem unrecorded_offers {op : Op engine} (reply : Except Failure op.Reply) (unrecording : Unrecording op) :
    Unrecorded (op.offers reply) := by
  intro c member
  cases op with
  | sql s =>
      cases reply with
      | error reason => cases member
      | ok answer =>
          obtain ⟨new, at_insert⟩ := writes_insert member
          cases at_insert
          exact (unrecording new).1 rfl
  | auto s =>
      cases reply with
      | error reason => cases member
      | ok answer =>
          obtain ⟨new, at_insert⟩ := writes_insert member
          cases at_insert
          exact (unrecording new).2 rfl
  | begin | commit | remote => cases reply <;> cases member

theorem wp_unbilling {D : Discipline engine} {calls : List (Call engine)} {p : Action α}
    (only : p.Only Unrecording) (unrecorded : Unrecorded (session calls).writes) :
    p.wp D growth Unbilling (fun _ _ _ => True) calls db := by
  induction p generalizing calls db with
  | done value => trivial
  | call op next ih =>
      intro db' _ reply _
      have offered := unrecorded_offers reply only.1
      refine ⟨fun _ => unbilling_applyAll (fun c member => ?_) db', ih reply (only.2 reply) (fun c member => ?_)⟩
      · rcases Op.mem_commits member with before | now
        · exact unrecorded c before
        · exact offered c now
      · rcases Op.mem_after member with before | now
        · exact unrecorded c before
        · exact offered c now

theorem unrecording_stamped {context : RequestContext} {op : Op engine} (stamped : Stamped context op) :
    Unrecording op := by
  intro new
  constructor
  · rintro rfl
    exact stamped
  · rintro rfl
    exact Bool.noConfusion stamped

end Steps

/-- What an activity does to the rows at once. -/
def Activity.effect : Activity → Db → Db → Prop
  | delivery event => Bills event
  | _ => Unbilling

theorem Activity.effect_grows (activity : Activity) {db db' : Db} (effect : activity.effect db db') :
    Grows db db' := by
  cases activity with
  | request context served => exact effect.grows
  | delivery event => exact Bills.grows effect
  | settlement => exact effect.grows

theorem Activity.wp {D : Discipline engine} (activity : Activity) (db : Db) :
    activity.program.wp D growth activity.effect (fun _ _ _ => True) [] db := by
  cases activity with
  | request context served =>
      have only : (served.handle context).Only Unrecording :=
        served.stamped.mono (fun op (stamped : Stamped context op) => unrecording_stamped stamped)
      exact wp_unbilling only (fun _ => List.not_mem_nil)
  | delivery event => exact wp_mono (fun _ _ bills => bills) (fun _ _ _ _ => trivial) (wp_handleEvent event)
  | settlement => exact wp_unbilling only_balanceChangeWorker (fun _ => List.not_mem_nil)

/-- A charge that is not of the start charges an event that was delivered, and a delivery that
has committed something has charged its event, where that is billable. -/
structure Attributed (activity : ι → Activity) (initial : Db) (history : History engine ι) (db : Db) : Prop where
  grown : Grows initial db
  charges : ∀ c ∈ db.balanceChanges, (∃ c₀ ∈ initial.balanceChanges, SameChange c₀ c) ∨
    ∃ i event, activity i = .delivery event ∧ ChargeFor event db c
  handled : ∀ entry ∈ history, ∀ event, activity entry.1 = .delivery event → Billable event initial →
    ∃ c ∈ db.balanceChanges, ChargeFor event db c

section Attribution
variable {ι : Type} {activity : ι → Activity} {initial db db' : Db} {history : History engine ι}

theorem charged_still (grows : Grows db db') {event : EventTask EventData}
    (charged : ∃ c ∈ db.balanceChanges, ChargeFor event db c) :
    ∃ c ∈ db'.balanceChanges, ChargeFor event db' c := by
  obtain ⟨c, member, charges⟩ := charged
  obtain ⟨c', found, same⟩ := grows.balanceChanges c.id c (Table.find_of_mem member)
  exact ⟨c', (Table.find_iff.mp found).1, charges.grows same grows⟩

theorem Attributed.unbilling {i : ι} {ws : List Write} (attributed : Attributed activity initial history db)
    (other : ∀ event, activity i ≠ .delivery event) (unbilling : Unbilling db db') :
    Attributed activity initial ((i, ws) :: history) db' := by
  refine ⟨attributed.grown.trans unbilling.grows, fun c' member => ?_, fun entry member event delivers billable => ?_⟩
  · obtain ⟨c, before, same⟩ := unbilling.rows c' member
    rcases attributed.charges c before with ⟨c₀, first, same₀⟩ | ⟨j, event, delivers, charges⟩
    · exact .inl ⟨c₀, first, same₀.trans same⟩
    · exact .inr ⟨j, event, delivers, charges.grows same unbilling.grows⟩
  · rcases List.mem_cons.mp member with rfl | before
    · exact absurd delivers (other event)
    · exact charged_still unbilling.grows (attributed.handled entry before event delivers billable)

theorem Attributed.bills {i : ι} {ws : List Write} {event : EventTask EventData}
    (attributed : Attributed activity initial history db) (delivers : activity i = .delivery event)
    (bills : Bills event db db') : Attributed activity initial ((i, ws) :: history) db' := by
  have grows := bills.grows
  refine ⟨attributed.grown.trans grows, fun c member => ?_, fun entry member other delivers' billable => ?_⟩
  · by_cases before : c ∈ db.balanceChanges
    · rcases attributed.charges c before with ⟨c₀, first, same₀⟩ | ⟨j, event, delivers, charges⟩
      · exact .inl ⟨c₀, first, same₀⟩
      · exact .inr ⟨j, event, delivers, charges.grows (.refl c) grows⟩
    · have bill := (bills.rows member).resolve_left before
      obtain ⟨c', made, charges⟩ := bills.charges bill.billable
      obtain ⟨_, _, _, _, _, _, named, _⟩ := bill
      have same : c' = c := Table.eq_of_index made member (charges.requestId.trans named.symm)
      exact .inr ⟨i, event, delivers, same ▸ charges⟩
  · rcases List.mem_cons.mp member with rfl | before
    · cases delivers.symm.trans delivers'
      exact bills.charges ((billable_grows attributed.grown).mpr billable)
    · exact charged_still grows (attributed.handled entry before other delivers' billable)

variable [DecidableEq ι] {D : Discipline engine} {world : World} {s : State engine ι}

theorem Reaches.attributed
    (reached : Reaches D (.starting initial world (programs activity)) history s) :
    Attributed activity initial history s.db := by
  obtain ⟨_, chain⟩ := reached.chain (G := fun i => (activity i).effect) (R := growth)
    (.starting (fun i => (activity i).wp initial)) (fun i _ _ => (activity i).effect_grows)
    (fun _ _ _ _ _ _ => trivial)
  refine chain.invariant ?_ ?_
  · exact ⟨.refl initial, fun c member => .inl ⟨c, member, .refl c⟩, fun _ never => absurd never List.not_mem_nil⟩
  · intro history i writes db _ attributed effect
    cases acts : activity i with
    | request context served =>
        rw [acts] at effect
        exact attributed.unbilling (by rw [acts]; rintro _ ⟨⟩) effect
    | delivery event =>
        rw [acts] at effect
        exact attributed.bills acts effect
    | settlement =>
        rw [acts] at effect
        exact attributed.unbilling (by rw [acts]; rintro _ ⟨⟩) effect

end Attribution

/-- Each session is drawn once, by one request; charges of the start are for other sessions; and
an event is delivered that a request has enqueued. -/
structure Attributable (activity : ι → Activity) (initial : Db) (s : State engine ι) : Prop where
  distinct : ∀ i context served, activity i = .request context served → Function.Injective context.sessions
  apart : ∀ i j sessionId, (activity i).Opens sessionId → (activity j).Opens sessionId → i = j
  earlier : ∀ c ∈ initial.balanceChanges, ∀ spend ∈ charge c,
    ∃ e ∈ initial.sessionEvents.find spend.eventId, ∀ i, ¬(activity i).Opens e.sessionId
  delivered : ∀ i event, activity i = .delivery event →
    ∃ j context served, activity j = .request context served ∧ event ∈ enqueued (s.procs j).calls

/-- The events that the requests have enqueued. -/
def enqueuedBy (s : State engine ι) (requests : List ι) : List (EventTask EventData) :=
  requests.flatMap (fun i => enqueued (s.procs i).calls)

/-- A delivery of the event has committed something. -/
def HandledEvent (activity : ι → Activity) (s : State engine ι) (event : EventTask EventData) : Prop :=
  ∃ i, activity i = .delivery event ∧ permanent (s.procs i).calls ≠ []

def AllSettled (db : Db) : Prop := ∀ c ∈ db.balanceChanges, c.isApplied = true

section Runs
variable {ι : Type} [DecidableEq ι] {D : Discipline engine} {activity : ι → Activity} {initial : Db} {world : World}
  {history : History engine ι} {s : State engine ι} {i j : ι} {event other : EventTask EventData}
  {requests : List ι} {sessions : List String}

theorem pushed_of_enqueued {calls : List (Call engine)} (member : event ∈ enqueued calls) :
    (⟨.remote (.pushEvent event), .ok ()⟩ : Call engine) ∈ calls := by
  induction calls with
  | nil => cases member
  | cons call older ih =>
      have before : event ∈ enqueued older →
          (⟨.remote (.pushEvent event), .ok ()⟩ : Call engine) ∈ call :: older :=
        fun earlier => List.mem_cons_of_mem _ (ih earlier)
      obtain ⟨op, reply⟩ := call
      cases op with
      | remote c =>
          cases c with
          | pushEvent pushed =>
              cases reply with
              | error reason => exact before member
              | ok _ =>
                  rcases List.mem_cons.mp member with rfl | earlier
                  · exact List.mem_cons_self
                  · exact before earlier
          | _ => exact before member
      | _ => exact before member

theorem mem_enqueued {calls : List (Call engine)} (member : event ∈ enqueued calls) :
    ∃ reply, (⟨.remote (.pushEvent event), reply⟩ : Call engine) ∈ calls :=
  ⟨.ok (), pushed_of_enqueued member⟩

/-- What a request has enqueued is of a session of its own. -/
theorem opens_enqueued {context : RequestContext} {served : ProxyRequest}
    (reached : Reaches D (.starting initial world (programs activity)) history s)
    (requested : activity i = .request context served) (member : event ∈ enqueued (s.procs i).calls) :
    (activity i).Opens event.sessionId := by
  obtain ⟨reply, inside⟩ := mem_enqueued member
  obtain ⟨older, inside⟩ := exists_older inside
  have path : (programs activity i).path (fun _ => Stamped context) (fun _ _ => True) [] := by
    rw [programs, requested]
    exact served.stamped.made
  rw [requested]
  exact (reached.follows path inside).1.1

/-- A charge for a session of a request charges an event that the request has enqueued. -/
theorem Attributable.charged_event (attributable : Attributable activity initial s)
    (reached : Reaches D (.starting initial world (programs activity)) history s)
    {c : BalanceChange} (member : c ∈ s.db.balanceChanges) {spend : SpendToken} (charged : spend ∈ charge c)
    {e : SessionEvent} (named : e ∈ s.db.sessionEvents.find spend.eventId) (opens : (activity i).Opens e.sessionId) :
    ∃ event ∈ enqueued (s.procs i).calls, ChargeFor event s.db c ∧ index e = sessionKey event := by
  have attributed := Reaches.attributed reached
  rcases attributed.charges c member with ⟨c₀, first, same⟩ | ⟨k, event, delivers, charges⟩
  · obtain ⟨e₀, before, others⟩ := attributable.earlier c₀ first spend (SameChange.charge same ▸ charged)
    obtain ⟨e', found, kept⟩ := attributed.grown.sessionEvents _ e₀ before
    cases named.symm.trans found
    exact absurd (kept.sessionId ▸ opens) (others i)
  · obtain ⟨spend', charged', e', named', here⟩ := charges.names
    cases charged.symm.trans charged'
    cases named.symm.trans named'
    obtain ⟨j, context, served, requested, pushed⟩ := attributable.delivered k event delivers
    have there := opens_enqueued reached requested pushed
    have same : e.sessionId = event.sessionId := congrArg Prod.fst here
    cases attributable.apart i j event.sessionId (same ▸ opens) there
    exact ⟨event, pushed, charges, here⟩

theorem Attributable.keys_nodup (attributable : Attributable activity initial s)
    (reached : Reaches D (.starting initial world (programs activity)) history s)
    (once : requests.Nodup) (requested : ∀ i ∈ requests, ∃ context served, activity i = .request context served) :
    ((enqueuedBy s requests).map sessionKey).Nodup := by
  rw [enqueuedBy, List.map_flatMap]
  refine List.nodup_flatMap.mpr ⟨fun i member => ?_, ?_⟩
  · obtain ⟨context, served, acts⟩ := requested i member
    have handles : programs activity i = served.handle context := by rw [programs, acts, Activity.program]
    exact (session_indices_dense (attributable.distinct i context served acts) reached handles).2.2.1
  · refine once.imp_of_mem (fun {i j} first second other => ?_)
    intro key left right
    obtain ⟨event, pushed, rfl⟩ := List.mem_map.mp left
    obtain ⟨event', pushed', same⟩ := List.mem_map.mp right
    obtain ⟨_, _, acts⟩ := requested i first
    obtain ⟨_, _, acts'⟩ := requested j second
    have session : event'.sessionId = event.sessionId := congrArg Prod.fst same
    exact other (attributable.apart i j event.sessionId (opens_enqueued reached acts pushed)
      (session ▸ opens_enqueued reached acts' pushed'))

/-- When its events are handled and the charges are settled, the sessions of some requests are
charged the tokens of the events that these have enqueued, each once. -/
theorem Attributable.chargedTokens_eq (attributable : Attributable activity initial s)
    (reached : Reaches D (.starting initial world (programs activity)) history s)
    (once : requests.Nodup) (requested : ∀ i ∈ requests, ∃ context served, activity i = .request context served)
    (covered : ∀ event ∈ enqueuedBy s requests, event.sessionId ∈ sessions)
    (covers : ∀ sessionId ∈ sessions, ∃ i ∈ requests, (activity i).Opens sessionId)
    (handled : ∀ event ∈ enqueuedBy s requests, HandledEvent activity s event) (settled : AllSettled s.db) :
    chargedTokens sessions s.db = ((enqueuedBy s requests).map (billedTokens s.db)).sum := by
  classical
  have attributed := Reaches.attributed reached
  have distinct := attributable.keys_nodup reached once requested
  have events : (enqueuedBy s requests).map (billedTokens s.db) = (enqueuedBy s requests).map
      (fun event => if Billable event s.db then eventTokens event.eventData else 0) := by
    refine List.map_congr_left (fun event _ => ?_)
    split
    · exact billedTokens_of_billable ‹_›
    · exact billedTokens_of_unbillable ‹_›
  rw [events, sum_ite, chargedTokens, Table.sum, sum_ite]
  -- the event that a charge is for, which is found through the session event that it names
  have charged : ∀ c ∈ s.db.balanceChanges.rows.filter (fun c => ChargedIn sessions s.db c),
      ∃ event ∈ enqueuedBy s requests, ChargeFor event s.db c := by
    intro c member
    obtain ⟨inside, charged⟩ := List.mem_filter.mp member
    obtain ⟨_, spend, charge, e, named, session⟩ := of_decide_eq_true charged
    obtain ⟨i, here, opens⟩ := covers _ session
    obtain ⟨event, pushed, charges, _⟩ := attributable.charged_event reached inside charge named opens
    exact ⟨event, List.mem_flatMap.mpr ⟨i, here, pushed⟩, charges⟩
  refine sum_matched (chargeKey s.db) (fun event => some (sessionKey event)) ?_ ?_ ?_ ?_
  · refine List.Nodup.map_on ?_ ((List.Nodup.of_map _ s.db.balanceChanges.keys_nodup).filter _)
    intro c left c' right same
    obtain ⟨event, pushed, charges⟩ := charged c left
    obtain ⟨event', pushed', charges'⟩ := charged c' right
    rw [charges.key, charges'.key, Option.some.injEq] at same
    cases List.inj_on_of_nodup_map distinct pushed pushed' same
    exact Table.eq_of_index (List.mem_filter.mp left).1 (List.mem_filter.mp right).1
      (charges.requestId.trans charges'.requestId.symm)
  · have keys : ((enqueuedBy s requests).map (fun event => some (sessionKey event))).Nodup := by
      simpa only [List.map_map, Function.comp_def] using distinct.map (Option.some_injective _)
    exact keys.sublist (List.filter_sublist.map _)
  · intro c member
    obtain ⟨event, pushed, charges⟩ := charged c member
    exact ⟨event, List.mem_filter.mpr ⟨pushed, decide_eq_true charges.billable⟩, charges.key.symm,
      charges.tokens.symm⟩
  · intro event member
    obtain ⟨pushed, billable⟩ := List.mem_filter.mp member
    obtain ⟨i, delivers, committed⟩ := handled event pushed
    obtain ⟨ws, written⟩ := (reached.recorded i).resolve_left committed
    obtain ⟨c, inside, charges⟩ := attributed.handled _ written event delivers
      ((billable_grows attributed.grown).mp (of_decide_eq_true billable))
    obtain ⟨spend, charge, e, named, here⟩ := charges.names
    have same : e.sessionId = event.sessionId := congrArg Prod.fst here
    have session : e.sessionId ∈ sessions := same ▸ covered event pushed
    exact ⟨c, List.mem_filter.mpr ⟨inside, decide_eq_true ⟨settled c inside, spend, charge, e, named, session⟩⟩,
      charges.key, charges.tokens⟩

end Runs

/-- Sessions that tell the number of their request. -/
def numberedSessions (number attempt : Nat) : String :=
  String.ofList (List.replicate number 'r' ++ 's' :: List.replicate attempt 'a')

theorem numberedSessions_injective (same : numberedSessions m a = numberedSessions n b) : m = n ∧ a = b := by
  have letters := String.ofList_injective same
  have numbers := congrArg (List.count 'r') letters
  have attempts := congrArg (List.count 'a') letters
  simp only [List.count_append, List.count_cons, List.count_replicate] at numbers attempts
  constructor
  · simpa using numbers
  · simpa using attempts

def caller (number : Nat) : RequestContext := ⟨1, 1, numberedSessions number, fun _ => "m", .direct⟩

/-- Some requests, the deliveries of some events, and some settlements. -/
def scenario {events settlements : Nat} (served : Fin n → ProxyRequest) (event : Fin events → EventTask EventData) :
    Fin n ⊕ Fin events ⊕ Fin settlements → Activity
  | .inl i => .request (caller i) (served i)
  | .inr (.inl j) => .delivery (event j)
  | .inr (.inr _) => .settlement

/-- One after another, each with the number of calls that it makes. -/
def inOrder {n events settlements : Nat} (env : Int → Env) (counts : List Nat) :
    List ((Fin n ⊕ Fin events ⊕ Fin settlements) × Turn engine) :=
  let everyone := (List.finRange n).map Sum.inl ++ (List.finRange events).map (fun j => .inr (.inl j)) ++
    (List.finRange settlements).map (fun t => .inr (.inr t))
  (everyone.zip counts).zipIdx.flatMap (fun ((i, count), number) => List.replicate count (i, .run (env number)))

section Scenarios
variable {n events settlements : Nat} {served : Fin n → ProxyRequest} {event : Fin events → EventTask EventData}
  {initial : Db} {s : State engine (Fin n ⊕ Fin events ⊕ Fin settlements)}

/-- The events are those that the requests have enqueued, all of them are handled, and all
charges are settled. -/
def PlayedOut (event : Fin events → EventTask EventData) (s : State engine (Fin n ⊕ Fin events ⊕ Fin settlements)) :
    Prop :=
  (∀ j, permanent (s.procs (.inr (.inl j))).calls ≠ []) ∧
    (∀ j, ∃ i, event j ∈ enqueued (s.procs (.inl i)).calls) ∧
    (∀ i, ∀ e ∈ enqueued (s.procs (.inl i)).calls, ∃ j, event j = e) ∧
    ∀ c ∈ s.db.balanceChanges.rows, c.isApplied = true

instance : Decidable (PlayedOut event s) := inferInstanceAs (Decidable (_ ∧ _))

theorem scenario_request {i : Fin n ⊕ Fin events ⊕ Fin settlements} {context : RequestContext}
    {request : ProxyRequest} (requested : scenario served event i = .request context request) :
    ∃ k, i = .inl k ∧ context = caller k := by
  rcases i with k | j | t
  · cases requested
    exact ⟨k, rfl, rfl⟩
  · cases requested
  · cases requested

theorem scenario_opens {i : Fin n ⊕ Fin events ⊕ Fin settlements} {sessionId : String}
    (opens : (scenario served event i).Opens sessionId) :
    ∃ k attempt, i = .inl k ∧ sessionId = numberedSessions k attempt := by
  rcases i with k | j | t
  · obtain ⟨attempt, same⟩ := opens
    exact ⟨k, attempt, rfl, same⟩
  · exact absurd opens id
  · exact absurd opens id

theorem PlayedOut.attributable (played : PlayedOut event s) (uncharged : initial.balanceChanges.rows = []) :
    Attributable (scenario served event) initial s := by
  refine ⟨fun i context request requested => ?_, fun i j sessionId first second => ?_, fun c member => ?_,
    fun i e delivers => ?_⟩
  · obtain ⟨k, _, rfl⟩ := scenario_request requested
    exact fun a b same => (numberedSessions_injective same).2
  · obtain ⟨k, a, rfl, rfl⟩ := scenario_opens first
    obtain ⟨k', b, rfl, same⟩ := scenario_opens second
    exact congrArg Sum.inl (Fin.ext (numberedSessions_injective same).1)
  · rw [Table.mem_def, uncharged] at member
    cases member
  · rcases i with k | j | t
    · cases delivers
    · cases delivers
      obtain ⟨k, pushed⟩ := played.2.1 j
      exact ⟨.inl k, caller k, served k, rfl, pushed⟩
    · cases delivers

theorem PlayedOut.handled (played : PlayedOut event s) (requests : List (Fin n)) :
    ∀ e ∈ enqueuedBy s (requests.map Sum.inl), HandledEvent (scenario served event) s e := by
  intro e member
  obtain ⟨i, inside, pushed⟩ := List.mem_flatMap.mp member
  obtain ⟨k, _, rfl⟩ := List.mem_map.mp inside
  obtain ⟨j, rfl⟩ := played.2.2.1 k e pushed
  exact ⟨.inr (.inl j), rfl, played.1 j⟩

theorem PlayedOut.settled (played : PlayedOut event s) : AllSettled s.db :=
  fun c member => played.2.2.2 c (Table.mem_def.mp member)

end Scenarios

end LLMPool.Billing
