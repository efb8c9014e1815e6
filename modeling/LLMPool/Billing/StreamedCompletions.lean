import LLMPool.Billing.ReportedCharges

/-! Streamed chat completions in the ledger: every chunk that reports a usage is charged. -/
namespace LLMPool.Billing
open Relational Transactions ProxyViews

section Streams
variable {ι : Type} [DecidableEq ι] {D : Discipline engine} {activity : ι → Activity} {initial : Db} {world : World}
  {history : History engine ι} {s : State engine ι} {i : ι} {context : RequestContext}
  {payload : CreateChatCompletionRequest} {sessions : List String}

theorem chargedTokens_completion (attributable : Attributable activity initial s)
    (reached : Reaches D (.starting initial world (programs activity)) history s)
    (requested : activity i = .request context (.chatCompletions payload))
    (covered : ∀ event ∈ enqueued (s.procs i).calls, event.sessionId ∈ sessions)
    (covers : ∀ sessionId ∈ sessions, (activity i).Opens sessionId)
    (handled : ∀ event ∈ enqueued (s.procs i).calls, HandledEvent activity s event) (settled : AllSettled s.db) :
    chargedTokens sessions s.db = (takenReports (s.procs i).calls).sum := by
  have alone : enqueuedBy s [i] = enqueued (s.procs i).calls := List.flatMap_singleton _ i
  have charged : chargedTokens sessions s.db = _ := attributable.chargedTokens_reports reached (List.nodup_singleton i)
    (fun j member => ⟨context, _, List.mem_singleton.mp member ▸ requested⟩) (alone ▸ covered)
    (fun sessionId member => ⟨i, List.mem_singleton_self i, covers sessionId member⟩) (alone ▸ handled) settled
  rw [charged, List.flatMap_singleton, chargedReports, requested]
  exact congrArg List.sum (pricedReports_routed rfl initial _)

/-- What a completed request has been answered is taken or lost. -/
theorem completion_reports (reached : Reaches D (.starting initial world (programs activity)) history s)
    (requested : activity i = .request context (.chatCompletions payload)) (returned : (s.procs i).Returned) :
    (answeredReports (s.procs i).calls).sum =
      (takenReports (s.procs i).calls).sum + (lostReports (s.procs i).calls).sum := by
  have path : (programs activity i).path Tracks (fun _ later => pendingReports later = []) [] := by
    rw [programs, requested]
    exact reports_discard (RetriedRequest.chatCompletions payload).reports [] rfl
  have accounts := sum_answeredReports (fun call older inside => (reached.follows path inside).1)
  rw [accounts, reached.ends path returned, List.sum_nil, add_zero]

/-- A stream of which no chunk is lost is charged the sum of what its chunks report. -/
theorem chargedTokens_stream (attributable : Attributable activity initial s)
    (reached : Reaches D (.starting initial world (programs activity)) history s)
    (requested : activity i = .request context (.chatCompletions payload))
    (covered : ∀ event ∈ enqueued (s.procs i).calls, event.sessionId ∈ sessions)
    (covers : ∀ sessionId ∈ sessions, (activity i).Opens sessionId)
    (handled : ∀ event ∈ enqueued (s.procs i).calls, HandledEvent activity s event) (settled : AllSettled s.db)
    (returned : (s.procs i).Returned) (kept : lostReports (s.procs i).calls = []) :
    chargedTokens sessions s.db = (answeredReports (s.procs i).calls).sum := by
  rw [chargedTokens_completion attributable reached requested covered covers handled settled,
    completion_reports reached requested returned, kept, List.sum_nil, add_zero]

/-- Whatever the upstream streams, the completion is charged the final usage where the chunks
whose events the queue takes report this in all, and only there. -/
theorem streamed_completion_charged_iff (attributable : Attributable activity initial s)
    (reached : Reaches D (.starting initial world (programs activity)) history s)
    (requested : activity i = .request context (.chatCompletions payload))
    (covered : ∀ event ∈ enqueued (s.procs i).calls, event.sessionId ∈ sessions)
    (covers : ∀ sessionId ∈ sessions, (activity i).Opens sessionId) (final : Int × Int) :
    payload.stream = some true → (∀ event ∈ enqueued (s.procs i).calls, HandledEvent activity s event) →
      AllSettled s.db →
      (chargedTokens sessions s.db = final ↔ (takenReports (s.procs i).calls).sum = final) := by
  intro _ handled settled
  rw [chargedTokens_completion attributable reached requested covered covers handled settled]

end Streams

def chatModel : Db := { Db.empty with
  wallets := Table.empty.insert ⟨1, 1, 100⟩
  upstreams := Table.empty.insert ⟨1, "gpt", "https://a", "", "openai", [], [], "online", ""⟩
  models := Table.empty.insert
    ⟨1, 1, "gpt-4o", "gpt-4o", true, [featureChatCompletions], 100000, 1, 2, 1, 1, ""⟩ }

def chatModelUsed : World := { World.empty with tokenUsage := [(0, 1, 1, 1)] }

/-- The usage is asked for. -/
def streaming : CreateChatCompletionRequest := ⟨"gpt-4o", some true, some ⟨some true⟩⟩

def finalChunk : CreateChatCompletionStreamResponse := ⟨some ⟨10, 5, 15⟩⟩

/-- The stream has a chunk before the final one. -/
def streamAnswer (first : Option CompletionUsage) (serial : Int) : Env := { Env.plain 0 serial with
  answers := fun
    | .createChatStream _ => .ok [.ok ⟨first⟩, .ok finalChunk]
    | _ => .error .network }

def streamEvent (first : Option CompletionUsage) (number : Fin 4) : EventTask EventData :=
  ⟨numberedSessions 0 0, number, 1, 1, 1, .openai (match number with
    | 0 => .createChatCompletionRequest streaming
    | 1 => .createChatCompletionStreamResponse ⟨first⟩
    | 2 => .createChatCompletionStreamResponse finalChunk
    | 3 => .createChatCompletionStreamResponseDone)⟩

def streamed (first : Option CompletionUsage) : Fin 1 ⊕ Fin 4 ⊕ Fin 2 → Activity :=
  scenario (fun _ => .chatCompletions streaming) (streamEvent first)

def streamedStart (first : Option CompletionUsage) : State engine (Fin 1 ⊕ Fin 4 ⊕ Fin 2) :=
  .starting chatModel chatModelUsed (programs (streamed first))

/-- What the run has charged and what the upstream has reported. -/
def StreamedRun (first : Option CompletionUsage) (charged : Int × Int) (reports : List (Int × Int))
    (s : State engine (Fin 1 ⊕ Fin 4 ⊕ Fin 2)) : Prop :=
  PlayedOut (streamEvent first) s ∧ (s.procs (.inl 0)).Returned ∧
    (∀ event ∈ enqueued (s.procs (.inl 0)).calls, event.sessionId ∈ [numberedSessions 0 0]) ∧
    chargedTokens [numberedSessions 0 0] s.db = charged ∧ answeredReports (s.procs (.inl 0)).calls = reports

instance (first : Option CompletionUsage) (charged : Int × Int) (reports : List (Int × Int)) :
    DecidablePred (StreamedRun first charged reports) :=
  fun _ => inferInstanceAs (Decidable (_ ∧ _))

theorem streamed_handled {first : Option CompletionUsage} {s : State engine (Fin 1 ⊕ Fin 4 ⊕ Fin 2)}
    (played : PlayedOut (streamEvent first) s) :
    ∀ event ∈ enqueued (s.procs (.inl 0)).calls, HandledEvent (streamed first) s event := by
  intro event member
  exact played.handled [0] event (List.mem_flatMap.mpr ⟨.inl 0, List.mem_singleton_self _, member⟩)

theorem streamed_covers {first : Option CompletionUsage} :
    ∀ sessionId ∈ [numberedSessions 0 0], (streamed first (.inl 0)).Opens sessionId := by
  intro sessionId member
  cases List.mem_singleton.mp member
  exact ⟨0, rfl⟩

/-- A chunk before the last reports what has been used so far, and both are charged. -/
theorem cumulative_usage_is_added : ∃ history s,
    Reaches (Discipline.any False) (streamedStart (some ⟨10, 2, 12⟩)) history s ∧
    Attributable (streamed (some ⟨10, 2, 12⟩)) chatModel s ∧
    streamed (some ⟨10, 2, 12⟩) (.inl 0) = .request (caller 0) (.chatCompletions streaming) ∧
    streaming.stream = some true ∧ (s.procs (.inl 0)).Returned ∧
    answeredReports (s.procs (.inl 0)).calls = [(10, 2), (10, 5)] ∧
    (∀ event ∈ enqueued (s.procs (.inl 0)).calls, event.sessionId ∈ [numberedSessions 0 0]) ∧
    (∀ event ∈ enqueued (s.procs (.inl 0)).calls, HandledEvent (streamed (some ⟨10, 2, 12⟩)) s event) ∧
    AllSettled s.db ∧ chargedTokens [numberedSessions 0 0] s.db = (20, 7) := by
  obtain ⟨history, s, reached, played, returned, covered, charged, reports⟩ := State.exists_of_play
    (Discipline.any False) (streamedStart (some ⟨10, 2, 12⟩))
    (inOrder (streamAnswer (some ⟨10, 2, 12⟩)) [9, 4, 7, 7, 4, 10, 10])
    (StreamedRun (some ⟨10, 2, 12⟩) (20, 7) [(10, 2), (10, 5)]) (by decide +kernel)
  exact ⟨history, s, reached, played.attributable rfl, rfl, rfl, returned, reports, covered, streamed_handled played,
    played.settled, charged⟩

/-- One chunk reports the usage. -/
theorem streamed_completion_charged_iff_once : ∃ s : State engine (Fin 1 ⊕ Fin 4 ⊕ Fin 2),
    chargedTokens [numberedSessions 0 0] s.db = (10, 5) ∧ (takenReports (s.procs (.inl 0)).calls).sum = (10, 5) ∧
    answeredReports (s.procs (.inl 0)).calls = [(0, 0), (10, 5)] := by
  obtain ⟨history, s, reached, played, returned, covered, charged, reports⟩ := State.exists_of_play
    (Discipline.any False) (streamedStart none)
    (inOrder (streamAnswer none) [9, 4, 4, 7, 4, 10])
    (StreamedRun none (10, 5) [(0, 0), (10, 5)]) (by decide +kernel)
  have exact_when := streamed_completion_charged_iff (played.attributable rfl) reached rfl covered streamed_covers
    (10, 5) rfl (streamed_handled played) played.settled
  exact ⟨s, charged, exact_when.mp charged, reports⟩

end LLMPool.Billing
