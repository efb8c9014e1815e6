import LLMPool.ProxyViews.Anthropic
import LLMPool.Snapshots

/-! The usage of a message stream: the counters follow the events that are received,
and what is traced is what they show at each `MessageStop`. -/
namespace LLMPool.ProxyViews
open Transactions Snapshots

def startTokens : MessageStreamEvent → Option Nat
  | .messageStart message => some message.usage.inputTokens
  | _ => none

def deltaTokens : MessageStreamEvent → Option Nat
  | .messageDelta outputTokens => some outputTokens
  | _ => none

def metered (counters : Nat × Nat) (event : MessageStreamEvent) : Nat × Nat :=
  ((startTokens event).getD counters.1, (deltaTokens event).getD counters.2)

def isStop (event : MessageStreamEvent) : Bool := event = .messageStop

theorem foldl_metered (received : List MessageStreamEvent) (counters : Nat × Nat) :
    received.foldl metered counters =
      (lastReading startTokens counters.1 received, lastReading deltaTokens counters.2 received) := by
  induction received generalizing counters with
  | nil => rfl
  | cons event rest ih => simp only [List.foldl_cons, ih, lastReading_cons, metered]

/-- A stop shows the counters as they are. -/
theorem foldl_metered_stop (received : List MessageStreamEvent) (counters : Nat × Nat) :
    (received ++ [MessageStreamEvent.messageStop]).foldl metered counters =
      (lastReading startTokens counters.1 received, lastReading deltaTokens counters.2 received) := by
  have passed : metered (received.foldl metered counters) .messageStop = received.foldl metered counters := rfl
  rw [List.foldl_append, List.foldl_cons, List.foldl_nil, passed, foldl_metered]

theorem isStop_eq_false {events : List MessageStreamEvent} :
    (∀ event ∈ events, isStop event = false) ↔ .messageStop ∉ events := by
  simp only [isStop, decide_eq_false_iff_not]
  exact ⟨fun apart member => apart _ member rfl, fun absent _ member same => absent (same ▸ member)⟩

def streamDone (counters : Nat × Nat) : EventData :=
  .anthropic (.createMessageStreamResponseDone counters.1 counters.2)

/-- The events of a session for a list of usages, one index after another. -/
def traced (tracer : SessionTracer) : List (Nat × Nat) → List (EventTask EventData)
  | [] => []
  | counters :: rest => tracer.entry (streamDone counters) :: traced tracer.bump rest

/-- The stream traces what the counters show at each stop that it receives. -/
theorem alone_transformSdkStream (env : Env) (m : Solo engine)
    (items : StreamItems MessageStreamEvent) (tracer : SessionTracer) (counters : Nat × Nat) :
    ∃ m', (transformSdkStream counters.1 counters.2 items tracer).alone env m = some ((), m') ∧
      m'.world.events = m.world.events ++
        traced tracer (snapshots metered isStop counters (consumed items)) := by
  induction items generalizing m tracer counters with
  | nil => exact ⟨m, rfl, (List.append_nil _).symm⟩
  | cons item rest ih =>
      cases item with
      | error e => exact ⟨m, rfl, (List.append_nil _).symm⟩
      | ok event =>
          cases event with
          | messageStop =>
              obtain ⟨m', ran, events⟩ := ih ⟨⟨.remote (.pushEvent (tracer.entry (streamDone counters))),
                .ok ()⟩ :: m.calls, m.db, { m.world with
                  events := m.world.events ++ [tracer.entry (streamDone counters)] }⟩ tracer.bump counters
              refine ⟨m', ran, ?_⟩
              simp only [events, List.append_assoc, List.singleton_append]
              rfl
          | messageStart message => exact ih m tracer (metered counters (.messageStart message))
          | messageDelta outputTokens => exact ih m tracer (metered counters (.messageDelta outputTokens))
          | contentBlockStart => exact ih m tracer counters
          | contentBlockDelta => exact ih m tracer counters
          | contentBlockStop => exact ih m tracer counters

def isStreamDone : EventData → Bool
  | .anthropic (.createMessageStreamResponseDone _ _) => true
  | _ => false

/-- The billing events of a session. -/
def closings (sessionId : String) (events : List (EventTask EventData)) : List EventData :=
  (events.filter (fun e => e.sessionId = sessionId ∧ isStreamDone e.eventData)).map (·.eventData)

theorem closings_traced (tracer : SessionTracer) (usages : List (Nat × Nat)) :
    closings tracer.sessionId (traced tracer usages) = usages.map streamDone := by
  induction usages generalizing tracer with
  | nil => rfl
  | cons counters rest ih =>
      have later : closings tracer.sessionId (traced tracer.bump rest) = rest.map streamDone :=
        ih tracer.bump
      rw [traced, closings, List.filter_cons_of_pos (by simp [SessionTracer.entry, streamDone, isStreamDone])]
      rw [List.map_cons, List.map_cons, ← later]
      rfl

/-- One billing event, with the last usage that was received. -/
def BilledOnce (sessionId : String) (received : List MessageStreamEvent)
    (added : List (EventTask EventData)) : Prop :=
  closings sessionId added = [.anthropic (.createMessageStreamResponseDone
    (lastReading startTokens 0 received) (lastReading deltaTokens 0 received))]

instance : Decidable (BilledOnce sessionId received added) :=
  inferInstanceAs (Decidable (closings sessionId added = _))

/-- One stop, and no usage after it that changes the last one. -/
def StopsOnce (received : List MessageStreamEvent) : Prop :=
  ∃ before after, received = before ++ .messageStop :: after ∧ .messageStop ∉ before ∧
    .messageStop ∉ after ∧ lastReading startTokens 0 before = lastReading startTokens 0 received ∧
    lastReading deltaTokens 0 before = lastReading deltaTokens 0 received

theorem snapshots_once (received : List MessageStreamEvent) :
    snapshots metered isStop (0, 0) received =
        [(lastReading startTokens 0 received, lastReading deltaTokens 0 received)] ↔
      StopsOnce received := by
  rw [snapshots_eq_singleton]
  constructor
  · rintro ⟨before, event, after, split, stop, early, late, final⟩
    have stops : event = .messageStop := of_decide_eq_true stop
    subst stops
    rw [foldl_metered_stop, Prod.mk.injEq] at final
    exact ⟨before, after, split, isStop_eq_false.mp early, isStop_eq_false.mp late, final⟩
  · rintro ⟨before, after, split, early, late, sameInput, sameOutput⟩
    refine ⟨before, .messageStop, after, split, rfl, isStop_eq_false.mpr early,
      isStop_eq_false.mpr late, ?_⟩
    rw [foldl_metered_stop, sameInput, sameOutput]

theorem streamDone_injective : Function.Injective streamDone := by
  rintro ⟨_, _⟩ ⟨_, _⟩ ⟨⟩
  rfl

/-- A stream that has been consumed is billed once where it stops once, and last. -/
theorem transformSdkStream_billedOnce_iff (env : Env) (m : Solo engine)
    (items : StreamItems MessageStreamEvent) (tracer : SessionTracer) :
    ∃ m' added, (transformSdkStream 0 0 items tracer).alone env m = some ((), m') ∧
      m'.world.events = m.world.events ++ added ∧
      (BilledOnce tracer.sessionId (consumed items) added ↔ StopsOnce (consumed items)) := by
  obtain ⟨m', ran, events⟩ := alone_transformSdkStream env m items tracer (0, 0)
  refine ⟨m', _, ran, events, ?_⟩
  rw [BilledOnce, closings_traced, ← snapshots_once]
  exact (List.map_injective_iff.mpr streamDone_injective).eq_iff (b := [(_, _)])

/-- A stream that breaks off after its usage was received is not billed. -/
theorem an_interrupted_stream_is_free :
    ¬ ∀ (env : Env) (m m' : Solo engine) (items : StreamItems MessageStreamEvent)
        (tracer : SessionTracer) (added : List (EventTask EventData)),
      (∃ message, .messageStart message ∈ consumed items) →
      (transformSdkStream 0 0 items tracer).alone env m = some ((), m') →
      m'.world.events = m.world.events ++ added →
      BilledOnce tracer.sessionId (consumed items) added := by
  intro billed
  have once := billed (.plain 0 1) ⟨[], .empty, .empty⟩ ⟨[], .empty, .empty⟩
    [.ok (.messageStart ⟨⟨25, 1⟩⟩), .ok .contentBlockDelta, .ok (.messageDelta 15),
      .error .network]
    ⟨"session", 0, 1, 1, 1⟩ [] ⟨_, List.mem_cons_self⟩ rfl rfl
  exact absurd once (by decide)

end LLMPool.ProxyViews
