import LLMPool.Billing.EventPaths

/-! Deliveries and redeliveries of events under any interleaving, with any call
failing: each event is billed at most once, and never for another's row. -/
namespace LLMPool.Billing
open Relational Transactions

def isUuid (s : String) : Bool :=
  s.toList.length = 36 ∧ s.toList.zipIdx.all (fun (c, i) =>
    if i ∈ [8, 13, 18, 23] then c = '-' else c.isDigit ∨ c.toLower ∈ ['a', 'b', 'c', 'd', 'e', 'f'])

/-- A key of the events: sessions are named by a UUID. -/
structure SessionKey where
  provider : Provider
  sessionId : String
  sessionIndex : Int
  uuid : isUuid sessionId = true
  nonneg : 0 ≤ sessionIndex

namespace SessionKey

def requestId (k : SessionKey) : String := spendRequestId k.provider k.sessionId k.sessionIndex

theorem repr_injective {m n : Nat} (same : Nat.repr m = Nat.repr n) : m = n := by
  have digits : Nat.toDigits 10 m = Nat.toDigits 10 n := by
    rw [← Nat.toList_repr, ← Nat.toList_repr, same]
  rw [← @Nat.ofDigitChars_ten_toDigits m, ← @Nat.ofDigitChars_ten_toDigits n, digits]

theorem toString_injective {m n : Int} (m_nonneg : 0 ≤ m) (n_nonneg : 0 ≤ n)
    (same : toString m = toString n) : m = n := by
  obtain ⟨a, rfl⟩ := Int.eq_ofNat_of_zero_le m_nonneg
  obtain ⟨b, rfl⟩ := Int.eq_ofNat_of_zero_le n_nonneg
  exact congrArg Int.ofNat (repr_injective same)

theorem length_sessionId (k : SessionKey) : k.sessionId.toList.length = 36 := by
  have uuid := k.uuid
  rw [isUuid, decide_eq_true_eq] at uuid
  exact uuid.1

/-- The part of a request id after the provider's prefix. -/
theorem suffix_injective {k k' : SessionKey}
    (same : k.sessionId ++ ("-" ++ toString k.sessionIndex) =
      k'.sessionId ++ ("-" ++ toString k'.sessionIndex)) :
    k.sessionId = k'.sessionId ∧ k.sessionIndex = k'.sessionIndex := by
  have lists : k.sessionId.toList ++ ("-" ++ toString k.sessionIndex).toList =
      k'.sessionId.toList ++ ("-" ++ toString k'.sessionIndex).toList := by
    rw [← String.toList_append, ← String.toList_append, same]
  obtain ⟨ids, rest⟩ := List.append_inj lists (k.length_sessionId.trans k'.length_sessionId.symm)
  have index := (String.append_right_inj "-").mp (String.toList_inj.mp rest)
  exact ⟨String.toList_inj.mp ids, toString_injective k.nonneg k'.nonneg index⟩

theorem requestId_injective : Function.Injective requestId := by
  intro k k' same
  have split : k.provider = k'.provider ∧ k.sessionId ++ ("-" ++ toString k.sessionIndex) =
      k'.sessionId ++ ("-" ++ toString k'.sessionIndex) := by
    rw [requestId, requestId, spendRequestId, spendRequestId] at same
    cases first : k.provider <;> cases second : k'.provider <;> rw [first, second] at same
    · exact ⟨rfl, (String.append_right_inj _).mp same⟩
    · have lists := congrArg (fun t : String => t.toList.head?) same
      simp [requestPrefix] at lists
    · have lists := congrArg (fun t : String => t.toList.head?) same
      simp [requestPrefix] at lists
    · exact ⟨rfl, (String.append_right_inj _).mp same⟩
  obtain ⟨provider, rest⟩ := split
  obtain ⟨sessionId, sessionIndex⟩ := suffix_injective rest
  cases k
  cases k'
  cases provider
  cases sessionId
  cases sessionIndex
  rfl

end SessionKey

/-- A delivery of an event of a named session. -/
structure Delivery where
  event : EventTask EventData
  uuid : isUuid event.sessionId = true
  nonneg : 0 ≤ event.sessionIndex

def Delivery.key (d : Delivery) : SessionKey :=
  ⟨d.event.eventData.provider, d.event.sessionId, d.event.sessionIndex, d.uuid, d.nonneg⟩

/-- The balance change bills the usage of an event at the prices of its model. -/
def BillOf (event : EventTask EventData) (db : Db) (c : BalanceChange) : Prop :=
  ∃ usage model eventId, event.eventData.extractUsage = some usage ∧
    db.models.find event.modelId = some model ∧ c.accountId = event.accountId ∧
    c.uniqueRequestId = eventRequestId event ∧
    c.content = (BalanceChangeContent.spendToken (spendTokenOf usage model eventId)).toValue

theorem BillOf.billable {event : EventTask EventData} {c : BalanceChange} (bill : BillOf event db c) :
    Billable event db := by
  obtain ⟨usage, model, _, used, known, _⟩ := bill
  exact ⟨⟨usage, used⟩, model, known⟩

section Runs
variable {ι : Type} {D : Discipline engine} {db : Db} {world : World} {task : ι → Delivery}

def events (db : Db) (world : World) (task : ι → Delivery) : State engine ι :=
  .starting db world (fun i => handleEvent (task i).event)

/-- What the deliveries of a history have recorded. -/
structure Records (task : ι → Delivery) (db₀ : Db) (history : History engine ι) (db : Db) : Prop where
  rows : ∀ c ∈ db.balanceChanges, c ∈ db₀.balanceChanges ∨
    ∃ e ∈ history, BillOf (task e.1).event db₀ c
  billed : ∀ e ∈ history, Billable (task e.1).event db₀ → Billed (task e.1).event db
  apart : history.Pairwise (fun later earlier => Billable (task later.1).event db₀ →
    Billable (task earlier.1).event db₀ → (task later.1).key ≠ (task earlier.1).key)

theorem Bills.absent {event : EventTask EventData} (bills : Bills event db db')
    (billable : Billable event db) : ¬Billed event db := by
  cases bills with
  | logged e row puts unbillable => exact absurd billable unbillable
  | billed e c usage model row puts used known free made =>
      rintro ⟨c', found⟩
      have entry : index c = eventRequestId event := congrArg BalanceChange.uniqueRequestId made
      have absent : db.balanceChanges.lookup (index c) = none := free.2
      rw [entry] at absent
      cases found.symm.trans absent

/-- A billable event's session event and balance change are committed together. -/
theorem Bills.both {event : EventTask EventData} (bills : Bills event db db')
    (billable : Billable event db) : ∃ e c,
    db'.sessionEvents.lookup (event.sessionId, event.sessionIndex) = some e ∧
    db'.balanceChanges.lookup (eventRequestId event) = some c ∧ ∃ usage model,
      event.eventData.extractUsage = some usage ∧ db.models.find event.modelId = some model ∧
      c.content = (BalanceChangeContent.spendToken (spendTokenOf usage model e.id)).toValue := by
  cases bills with
  | logged e row puts unbillable => exact absurd billable unbillable
  | billed e c usage model row puts used known free made =>
      obtain ⟨e', same, stored⟩ := puts.lookup
      have entry : eventRequestId event = index c :=
        (congrArg BalanceChange.uniqueRequestId made).symm
      refine ⟨e', c, ?_, ?_, usage, model, used, known, ?_⟩
      · rw [← row]
        exact stored
      · rw [entry]
        exact Table.lookup_insert_self free
      · rw [same]
        exact congrArg BalanceChange.content made

theorem Bills.rows {event : EventTask EventData} (bills : Bills event db db')
    (member : c ∈ db'.balanceChanges) : c ∈ db.balanceChanges ∨ BillOf event db c := by
  cases bills with
  | logged e row puts unbillable => exact .inl member
  | billed e c' usage model row puts used known free made =>
      rcases (Table.mem_insert free).mp member with older | rfl
      · exact .inl older
      · refine .inr ⟨usage, model, e.id, used, known, ?_, ?_, ?_⟩
        · exact congrArg BalanceChange.accountId made
        · exact congrArg BalanceChange.uniqueRequestId made
        · exact congrArg BalanceChange.content made

theorem billOf_grows {event : EventTask EventData} (grows : Grows db db') :
    BillOf event db' c ↔ BillOf event db c := by
  rw [BillOf, BillOf, grows.models]

theorem Records.bills {history : History engine ι} {writes : List Write} (records : Records task db₀ history db)
    (grows : Grows db₀ db) (bills : Bills (task i).event db db') :
    Records task db₀ ((i, writes) :: history) db' := by
  have same : Billable (task i).event db ↔ Billable (task i).event db₀ := billable_grows grows
  refine ⟨?_, ?_, ?_⟩
  · intro c member
    rcases bills.rows member with older | bill
    · rcases records.rows c older with initial | ⟨e, inside, bill⟩
      · exact .inl initial
      · exact .inr ⟨e, List.mem_cons_of_mem _ inside, bill⟩
    · exact .inr ⟨_, List.mem_cons_self, (billOf_grows grows).mp bill⟩
  · intro e member billable
    rcases List.mem_cons.mp member with rfl | older
    · obtain ⟨_, c, _, found, _⟩ := bills.both (same.mpr billable)
      exact ⟨c, found⟩
    · exact (records.billed e older billable).grows bills.grows
  · refine List.pairwise_cons.mpr ⟨?_, records.apart⟩
    intro e member billable billable' same_key
    have billed := records.billed e member billable'
    have request : eventRequestId (task i).event = eventRequestId (task e.1).event :=
      congrArg SessionKey.requestId same_key
    refine bills.absent (same.mpr billable) ?_
    rw [Billed, request]
    exact billed

variable [DecidableEq ι] {s : State engine ι}

theorem events_chain (reached : Reaches D (events db world task) history s) :
    Verified D growth (fun i => Bills (task i).event) (fun i _ => Handled D (task i).event) s ∧
      Chain (fun i => Bills (task i).event) db history s.db :=
  reached.chain (.starting (fun i => wp_handleEvent (task i).event)) (fun _ _ _ => Bills.grows)
    (fun _ _ _ _ handled grows faultless billable =>
      (handled faultless ((billable_grows grows).mp billable)).grows grows)

theorem events_records (reached : Reaches D (events db world task) history s) :
    Records task db history s.db ∧ Grows db s.db := by
  obtain ⟨_, chain⟩ := events_chain reached
  refine ⟨chain.invariant ?_ ?_, chain.rel (R := growth) (fun _ _ _ => Bills.grows)⟩
  · exact ⟨fun c member => .inl member, fun e never => absurd never List.not_mem_nil, .nil⟩
  · intro history i writes mid earlier records bills
    exact records.bills (earlier.rel (R := growth) (fun _ _ _ => Bills.grows)) bills

theorem onlyEvents_view {writes : List Write} (only : ∀ w ∈ writes, ∃ e, w = .putSessionEvent e)
    (db : Db) : (engine.applyAll writes db).balanceChanges = db.balanceChanges := by
  induction writes generalizing db with
  | nil => rfl
  | cons w ws ih =>
      obtain ⟨e, rfl⟩ := only w List.mem_cons_self
      exact ih (fun v member => only v (List.mem_cons_of_mem _ member)) _

/-- A handler is rejected when its own event has been billed already. -/
theorem Step.rejected {new : NewBalanceChange} {writes : List Write}
    (paths : s.Paths (fun i => recordsOwn (task i).event) Q)
    (stepped : Step D s i writes s')
    (rejected : (s'.procs i).calls =
      ⟨.sql (.insertBalanceChange new), .error .conflict⟩ :: (s.procs i).calls) :
    Billed (task i).event s.db := by
  obtain ⟨op, next, reply, world, ready, answers, _, _, _, rfl⟩ := stepped.advanced
  have path := paths i
  rw [ready] at path
  simp only [State.advance, Function.update_self] at rejected
  cases (List.cons.inj rejected).1
  obtain ⟨own, only⟩ := path.1 new rfl
  rcases answers with ⟨_, never, _⟩ | ⟨_, env, _, performed⟩
  · cases never
  · rcases Op.perform_sql performed with ⟨_, _, ran⟩ | ⟨_, never⟩
    · obtain ⟨_, _, unanswered⟩ := Op.answer_error ran
      have rows : ((s.procs i).session.view s.db).balanceChanges = s.db.balanceChanges := by
        rw [Proc.session_call ready]
        exact onlyEvents_view only s.db
      change (if (((s.procs i).session.view s.db).balanceChanges.lookup
        new.uniqueRequestId).isNone then _ else _) = _ at unanswered
      rw [rows, own] at unanswered
      cases found : s.db.balanceChanges.lookup (eventRequestId (task i).event) with
      | some c => exact ⟨c, found⟩
      | none =>
          rw [found] at unanswered
          cases unanswered
    · cases never

/-- For any deliveries of events of named sessions, any interleaving and any failures:
a key names at most one balance change and a balance change at most one key; each new
balance change bills a delivery, and no two deliveries that committed one have the same
key; a delivery is rejected only where its own key has been billed, by a delivery of the
same key unless it was there from the start; a redelivery of a billed event changes
nothing; and a billable event's session event and balance change are committed together. -/
theorem billed_at_most_once
    (reached : Reaches (Discipline.any True) (events db world task) history s) :
    (∀ k k' : SessionKey, ∀ c ∈ s.db.balanceChanges, ∀ c' ∈ s.db.balanceChanges,
      c.uniqueRequestId = k.requestId → c'.uniqueRequestId = k'.requestId → (c = c' ↔ k = k')) ∧
    (∀ c ∈ s.db.balanceChanges, c ∈ db.balanceChanges ∨
      ∃ e ∈ history, BillOf (task e.1).event db c) ∧
    history.Pairwise (fun later earlier => Billable (task later.1).event db →
      Billable (task earlier.1).event db → (task later.1).key ≠ (task earlier.1).key) ∧
    ∀ i writes s', Step (Discipline.any True) s i writes s' →
      (∀ new, (s'.procs i).calls =
          ⟨.sql (.insertBalanceChange new), .error .conflict⟩ :: (s.procs i).calls →
        Billed (task i).event s.db ∧ (Billed (task i).event db ∨
          ∃ e ∈ history, (task e.1).key = (task i).key ∧ Billable (task e.1).event db)) ∧
      (Billable (task i).event db → Billed (task i).event s.db → s'.db = s.db) ∧
      (Billable (task i).event db → s'.db ≠ s.db → ¬Billed (task i).event s.db ∧ ∃ e c,
        s'.db.sessionEvents.lookup ((task i).event.sessionId, (task i).event.sessionIndex) = some e ∧
        s'.db.balanceChanges.lookup (task i).key.requestId = some c ∧ ∃ usage model,
          (task i).event.eventData.extractUsage = some usage ∧
          s.db.models.find (task i).event.modelId = some model ∧
          c.content = (BalanceChangeContent.spendToken (spendTokenOf usage model e.id)).toValue) := by
  obtain ⟨records, grows⟩ := events_records reached
  have paths := reached.paths (P := fun i => recordsOwn (task i).event) (Q := fun _ => Forwarded)
    (fun i => path_mono (fun _ _ made => made.1) (fun _ _ forwarded => forwarded)
      (path_handleEvent (task i).event))
  refine ⟨?_, records.rows, records.apart, fun i writes s' stepped => ⟨?_, ?_, ?_⟩⟩
  · intro k k' c member c' member' named named'
    constructor
    · rintro rfl
      exact SessionKey.requestId_injective (named.symm.trans named')
    · rintro rfl
      exact Table.eq_of_index member member' (named.trans named'.symm)
  · intro new rejected
    have billed := Step.rejected paths stepped rejected
    refine ⟨billed, ?_⟩
    obtain ⟨c, found⟩ := billed
    obtain ⟨member, named⟩ := Table.lookup_iff.mp found
    rcases records.rows c member with initial | ⟨e, inside, bill⟩
    · exact .inl ⟨c, Table.lookup_iff.mpr ⟨initial, named⟩⟩
    · obtain ⟨_, _, _, _, _, _, request, _⟩ := id bill
      exact .inr ⟨e, inside, SessionKey.requestId_injective (request.symm.trans named), bill.billable⟩
  · intro billable billed
    cases writes with
    | nil => exact stepped.db
    | cons w ws =>
        have bills := (stepped.guaranteed (events_chain reached).1).1 (List.cons_ne_nil w ws)
        exact absurd billed (Bills.absent bills ((billable_grows grows).mpr billable))
  · intro billable changed
    cases writes with
    | nil => exact absurd stepped.db changed
    | cons w ws =>
        have bills := (stepped.guaranteed (events_chain reached).1).1 (List.cons_ne_nil w ws)
        have billable := (billable_grows grows).mpr billable
        exact ⟨Bills.absent bills billable, Bills.both bills billable⟩

end Runs

def oneModel : Db := { Db.empty with
  models := Table.empty.insert ⟨1, 1, "gpt-4o", "gpt-4o", true, ["chat"], 100000, 1, 2, 1, 1, ""⟩ }

def chatDelivery : Delivery where
  event := ⟨"123e4567-e89b-12d3-a456-426614174000", 1, 1, 1, 1,
    .openai (.createChatCompletionResponse ⟨some ⟨10, 5, 15⟩⟩)⟩
  uuid := by decide +kernel
  nonneg := by decide

/-- One event delivered twice: the second delivery is refused at its balance change. -/
theorem billed_at_most_once_redelivered : ∃ history s,
    Reaches (Discipline.any True) (events oneModel .empty (fun _ : Fin 2 => chatDelivery)) history s ∧
    (∀ i, (s.procs i).Returned) ∧ s.db.balanceChanges.rows.length = 1 ∧
    ∀ c ∈ s.db.balanceChanges, ∃ e ∈ history, BillOf chatDelivery.event oneModel c := by
  obtain ⟨history, s, reached, returned, one⟩ := State.exists_of_play (Discipline.any True)
    (events oneModel .empty (fun _ : Fin 2 => chatDelivery))
    (schedule [0, 1, 0, 1, 0, 1, 0, 0, 0, 1, 0, 1])
    (fun s => (∀ i, (s.procs i).Returned) ∧ s.db.balanceChanges.rows.length = 1) (by decide +kernel)
  obtain ⟨_, rows, _⟩ := billed_at_most_once reached
  refine ⟨history, s, reached, returned, one, fun c member => ?_⟩
  exact (rows c member).resolve_left List.not_mem_nil

end LLMPool.Billing
