import LLMPool.Billing.BilledOnce
import LLMPool.Deployment.Events

/-! Every event is charged once, and for itself: the server's requests never use the key of a session
twice, so that no event stands in another's way. -/
namespace LLMPool.Deployment
open Relational Transactions Billing ProxyViews

/-- Two sessions in which events can have the same request id; two UUIDs have one length, and clash only if
they are the same. -/
def Clash (session session' : String) : Prop :=
  ∃ m n : Int, session ++ ("-" ++ toString m) = session' ++ ("-" ++ toString n)

/-- The sessions that the requests draw do not clash, with each other or with what waits in the queue from
the start. -/
structure Fresh (party : ι → Party) (world : World) : Prop where
  apart : ∀ i j, ∀ uuids ∈ (party i).uuids, ∀ uuids' ∈ (party j).uuids, ∀ a b,
    Clash (uuids.sessions a) (uuids'.sessions b) → i = j ∧ a = b
  older : ∀ event ∈ world.events, ∀ i, ∀ uuids ∈ (party i).uuids, ∀ attempt,
    ¬Clash event.sessionId (uuids.sessions attempt)
  waiting : ∀ event ∈ world.events, ∀ event' ∈ world.events, eventRequestId event = eventRequestId event' → event = event'

section Names

theorem Clash.refl (session : String) : Clash session session := ⟨0, 0, rfl⟩

theorem Clash.symm {session session' : String} (clash : Clash session session') : Clash session' session := by
  obtain ⟨m, n, same⟩ := clash
  exact ⟨n, m, same.symm⟩

/-- The prefixes of the two providers begin with different letters. -/
theorem spendRequestId_rest {provider provider' : Provider} {session session' : String} {m n : Int}
    (same : spendRequestId provider session m = spendRequestId provider' session' n) :
    session ++ ("-" ++ toString m) = session' ++ ("-" ++ toString n) := by
  unfold spendRequestId at same
  cases provider <;> cases provider'
  case openai.openai | anthropic.anthropic => exact (String.append_right_inj _).mp same
  all_goals
    have letters := congrArg (fun t : String => t.toList.head?) same
    simp [requestPrefix] at letters

end Names

section Numbering
variable {hashToken : String → String} {party : Party} {apiKeyHash : String} {request : ApiRequest} {uuids : Uuids}
  {calls : List (Call engine)}

/-- A party that makes no request pushes nothing. -/
theorem numbers_quiet (quiet : party.uuids = none) :
    (party.program hashToken).path Numbers (fun _ _ => True) [] := by
  refine path_mono ?_ (fun _ _ _ => trivial) (party.kind hashToken).conforms
  intro calls op conforms
  cases op with
  | remote c =>
      cases c with
      | pushEvent event =>
          obtain ⟨uuids, member, _⟩ := conforms.answers.session
          cases quiet.symm.trans member
      | _ => trivial
  | _ => trivial

theorem numbers_untraced {op : Op engine} (untraced : ∀ event, op ≠ .remote (.pushEvent event)) : Numbers calls op := by
  cases op with
  | remote c =>
      cases c with
      | pushEvent event => exact absurd rfl (untraced event)
      | _ => trivial
  | _ => trivial

theorem pushes_looks {op : Op engine} (reply : Except Failure op.Reply) (looks : Auth.Looks calls op) :
    pushes (⟨op, reply⟩ :: calls) = pushes calls ∧ Numbers calls op := by
  cases op with
  | remote c =>
      cases c with
      | pushEvent event => exact absurd looks id
      | _ => exact ⟨rfl, trivial⟩
  | _ => exact ⟨rfl, trivial⟩

theorem numbers_handle (distinct : Function.Injective uuids.sessions) (nothing : pushes calls = []) :
    (request.handle (uuids.context accountId apiKeyId)).path Numbers (fun _ _ => True) calls := by
  cases request with
  | proxied request =>
      refine Traces.path distinct request.traces (fun event member => ?_)
      rw [nothing] at member
      cases member
  | deleteResponse responseId =>
      have within : ∀ K, (ApiRequest.handle (uuids.context accountId apiKeyId) (.deleteResponse responseId)).Within
          (tending .eventWorker) K (fun _ => True) := fun K => tends_discard (tends_deleteResponse responseId)
      refine path_mono ?_ (fun _ _ _ => trivial) (path_tending within)
      rintro later op ⟨plain | keeps | ⟨u, call, rfl⟩, _⟩
      · exact numbers_untraced (by rintro event rfl; cases plain)
      · exact numbers_untraced (by rintro event rfl; cases keeps)
      · trivial

theorem numbers_authenticate (distinct : Function.Injective uuids.sessions) :
    (Middlewares.authenticate apiKeyHash
      (fun accountId apiKeyId => request.handle (uuids.context accountId apiKeyId))).path
      Numbers (fun _ _ => True) [] :=
  Auth.path_authenticate (I := fun calls => pushes calls = []) rfl
    (fun _ _ nothing looks => ⟨(pushes_looks (.error .fault) looks).2,
      fun reply => (pushes_looks reply looks).1.trans nothing⟩)
    (fun _ _ _ nothing _ => numbers_handle distinct nothing)

theorem numbers_party (distinct : ∀ uuids ∈ party.uuids, Function.Injective uuids.sessions) :
    (party.program hashToken).path Numbers (fun _ _ => True) [] := by
  cases party with
  | openAI authorization uuids request =>
      refine path_bind.mpr ?_
      unfold Middlewares.authOpenAIApi
      split
      · exact numbers_authenticate (distinct uuids rfl)
      · trivial
  | anthropic xApiKey uuids request =>
      refine path_bind.mpr ?_
      unfold Middlewares.authAnthropicApi
      split
      · exact numbers_authenticate (distinct uuids rfl)
      · trivial
  | _ => exact numbers_quiet rfl

end Numbering

section Runs
variable {ι : Type} [DecidableEq ι] {D : Discipline engine} {hashToken : String → String} {party : ι → Party}
  {db : Db} {world : World} {s : State engine ι} {i j : ι} {event event' : EventTask EventData} {c : BalanceChange}

theorem mem_pushes {calls : List (Call engine)} :
    event ∈ pushes calls ↔ ∃ reply, (⟨.remote (.pushEvent event), reply⟩ : Call engine) ∈ calls := by
  induction calls with
  | nil => simp [pushes]
  | cons call older ih =>
      obtain ⟨op, reply⟩ := call
      cases op with
      | remote c =>
          cases c with
          | pushEvent event' =>
              rw [pushes, List.mem_cons, ih]
              constructor
              · rintro (rfl | ⟨reply', before⟩)
                · exact ⟨reply, List.mem_cons_self⟩
                · exact ⟨reply', List.mem_cons_of_mem _ before⟩
              · rintro ⟨reply', member⟩
                rcases List.mem_cons.mp member with now | before
                · cases now
                  exact .inl rfl
                · exact .inr ⟨reply', before⟩
          | _ => simpa [pushes] using ih
      | _ => simpa [pushes] using ih

/-- The event waited from the start, or a request has traced it. -/
def Traced (world : World) (s : State engine ι) (event : EventTask EventData) : Prop :=
  event ∈ world.events ∨ ∃ i, event ∈ pushes (s.procs i).calls

theorem pushes_numbered (fresh : Fresh party world)
    (reached : Reaches D (deployment hashToken db world party) history s)
    (i : ι) : Numbered EventTask.sessionId EventTask.sessionIndex (pushes (s.procs i).calls) := by
  have distinct : ∀ i, ∀ uuids ∈ (party i).uuids, Function.Injective uuids.sessions := by
    intro i uuids own a b same
    exact (fresh.apart i i uuids own uuids own a b (same ▸ .refl _)).2
  have numbers : (deployment hashToken db world party).Paths (fun _ => Numbers) (fun _ _ => True) :=
    fun i => numbers_party (distinct i)
  exact numbered_pushes (fun _ _ inside => (reached.called numbers i inside).1)

theorem pushed_session (reached : Reaches D (deployment hashToken db world party) history s)
    (pushed : event ∈ pushes (s.procs i).calls) :
    ∃ uuids ∈ (party i).uuids, ∃ attempt, event.sessionId = uuids.sessions attempt := by
  obtain ⟨reply, member⟩ := mem_pushes.mp pushed
  obtain ⟨older, suffix, made, _⟩ := reached.made deployment_conforms i _ member
  exact made.answers.session

/-- In one session the request ids tell the events apart. -/
theorem pushed_unique {made : List (EventTask EventData)}
    (numbered : Numbered EventTask.sessionId EventTask.sessionIndex made) (pushed : event ∈ made)
    (pushed' : event' ∈ made) (session : event.sessionId = event'.sessionId)
    (same : eventRequestId event = eventRequestId event') : event = event' := by
  have rest := spendRequestId_rest same
  rw [session, String.append_right_inj, String.append_right_inj] at rest
  have place := SessionKey.toString_injective (numbered.bounds pushed).1 (numbered.bounds pushed').1 rest
  exact List.inj_on_of_nodup_map numbered.nodup pushed pushed' (Prod.ext session place)

/-- No two events are traced under one request id. -/
theorem Traced.unique (fresh : Fresh party world) (reached : Reaches D (deployment hashToken db world party) history s)
    (traced : Traced world s event) (traced' : Traced world s event')
    (same : eventRequestId event = eventRequestId event') : event = event' := by
  have clash : Clash event.sessionId event'.sessionId := ⟨_, _, spendRequestId_rest same⟩
  rcases traced with waited | ⟨i, pushed⟩ <;> rcases traced' with waited' | ⟨j, pushed'⟩
  · exact fresh.waiting event waited event' waited' same
  · obtain ⟨uuids, own, attempt, drawn⟩ := pushed_session reached pushed'
    exact absurd (drawn ▸ clash) (fresh.older event waited j uuids own attempt)
  · obtain ⟨uuids, own, attempt, drawn⟩ := pushed_session reached pushed
    exact absurd (drawn ▸ clash.symm) (fresh.older event' waited' i uuids own attempt)
  · obtain ⟨uuids, own, a, drawn⟩ := pushed_session reached pushed
    obtain ⟨uuids', own', b, drawn'⟩ := pushed_session reached pushed'
    obtain ⟨rfl, rfl⟩ := fresh.apart i j uuids own uuids' own' a b (drawn ▸ drawn' ▸ clash)
    cases own.symm.trans own'
    exact pushed_unique (pushes_numbered fresh reached i) pushed pushed' (drawn.trans drawn'.symm) same

omit [DecidableEq ι] in
theorem traced_of_owed (owed : event ∈ world.events ∨ ∃ i, ⟨.remote (.pushEvent event), .ok ()⟩ ∈ (s.procs i).calls) :
    Traced world s event := by
  refine owed.imp id ?_
  rintro ⟨i, pushed⟩
  exact ⟨i, mem_pushes.mpr ⟨_, pushed⟩⟩

theorem traced_of_delivered (reached : Reaches D (deployment hashToken db world party) history s)
    (delivered : Delivered event (s.procs i).calls) : Traced world s event :=
  traced_of_owed (reached.arrived eventTasks (.inr ⟨i, delivered⟩))

/-- The request id of the event was taken: by a balance change of before, or by what an administrator asks for. -/
def Taken (party : ι → Party) (db : Db) (event : EventTask EventData) : Prop :=
  (∃ c ∈ db.balanceChanges, c.uniqueRequestId = eventRequestId event) ∨
    ∃ i payload change, (party i).transfers = some (payload, change) ∧ payload.uniqueRequestId = eventRequestId event

/-- The balance change is the one charge for the event, and charges no other. -/
structure ChargedOnce (world : World) (s : State engine ι) (db : Db) (event : EventTask EventData) (c : BalanceChange) :
    Prop where
  member : c ∈ s.db.balanceChanges
  meters : Meters event db c
  only : ∀ c' ∈ s.db.balanceChanges, Meters event db c' → c' = c
  own : ∀ event', Traced world s event' → Meters event' db c → event' = event

/-- In every interleaving of the server and its workers, with any failures, an event that can be billed is
charged exactly once, and for itself, as soon as it has left the queue; unless its request id was taken, or a
worker of it has met a failure of the server. -/
theorem events_are_charged_once (fresh : Fresh party world)
    (reached : Reaches D (deployment hashToken db world party) history s) (billable : Billable event db)
    (owed : event ∈ world.events ∨ ∃ i, ⟨.remote (.pushEvent event), .ok ()⟩ ∈ (s.procs i).calls) :
    event ∈ s.world.events ∨ HandlingFailed D s event ∨ Taken party db event ∨
      ∃ c, ChargedOnce world s db event c := by
  refine (reached.awaited eventTasks owed).imp id ?_
  rintro ⟨i, acknowledged⟩
  refine (acknowledged_recorded reached acknowledged).imp id ?_
  rintro ⟨billed, _⟩
  obtain ⟨c, found⟩ := billed billable
  obtain ⟨member, named⟩ := Table.lookup_iff.mp found
  have traced : Traced world s event := traced_of_owed owed
  rcases recorded reached member with ⟨c₀, initial, _, same⟩ | ⟨j, event', delivered, meters⟩ | ⟨j, transferring⟩
  · exact .inl (.inl ⟨c₀, initial, same.uniqueRequestId.symm.trans named⟩)
  · obtain rfl := traced.unique fresh reached (traced_of_delivered reached delivered)
      (named.symm.trans meters.requestId)
    refine .inr ⟨c, member, meters, fun c' member' meters' => ?_, fun event' traced' meters' => ?_⟩
    · exact Table.eq_of_index member' member (meters'.requestId.trans meters.requestId.symm)
    · exact traced'.unique fresh reached traced (meters'.requestId.symm.trans meters.requestId)
  · obtain ⟨payload, change, asked, _, claimed, _⟩ := transferring
    exact .inl (.inr ⟨j, payload, change, asked, claimed.trans named⟩)

end Runs

section Shop

theorem eq_of_clash {session session' : String} (plain : '-' ∉ session.toList) (plain' : '-' ∉ session'.toList)
    (clash : Clash session session') : session = session' := by
  obtain ⟨m, n, same⟩ := clash
  have heads := congrArg (fun name : String => name.toList.takeWhile (fun c => c ≠ '-')) same
  have whole : ∀ (name rest : String), '-' ∉ name.toList →
      (name ++ ("-" ++ rest)).toList.takeWhile (fun c => c ≠ '-') = name.toList := by
    intro name rest none
    rw [String.toList_append, List.takeWhile_append_of_pos]
    · simp
    · intro c member
      refine decide_eq_true (fun dash => ?_)
      exact none (dash ▸ member)
  exact String.toList_inj.mp ((whole _ _ plain).symm.trans (heads.trans (whole _ _ plain')))

/-- A completion whose attempts draw sessions of their own. -/
def aFreshCompletion : Fin 4 → Party
  | 0 => .openAI (some "Bearer lpx-018f77aa") ⟨lettered.sessions, fun _ => "m", .direct⟩
      (.proxied (.chatCompletions ⟨"gpt-4o", none, none⟩))
  | 1 => .eventWorker
  | 2 => .eventWorker
  | 3 => .balanceChangeWorker

theorem fresh_completion : Fresh aFreshCompletion oneUsage := by
  have requests : ∀ i, ∀ uuids ∈ (aFreshCompletion i).uuids, i = 0 ∧ uuids.sessions = lettered.sessions := by
    intro i uuids own
    unfold aFreshCompletion at own
    split at own <;> cases own
    exact ⟨rfl, rfl⟩
  have plain : ∀ attempt, '-' ∉ (lettered.sessions attempt).toList := by
    intro attempt
    simp [lettered, List.mem_replicate]
  refine ⟨fun i j uuids own uuids' own' a b clash => ?_, nofun, nofun⟩
  obtain ⟨rfl, drawn⟩ := requests i uuids own
  obtain ⟨rfl, drawn'⟩ := requests j uuids' own'
  rw [drawn, drawn'] at clash
  exact ⟨rfl, lettered_injective (eq_of_clash (plain a) (plain b) clash)⟩

/-- The event of its answer. -/
def freshEvent : EventTask EventData :=
  ⟨"", 1, 1, 1, 1, .openai (.createChatCompletionResponse ⟨some ⟨10, 5, 15⟩⟩)⟩

theorem events_are_charged_once_fresh : ∃ history s,
    Reaches (.any False) (deployment id openShop oneUsage aFreshCompletion) history s ∧
      ∃ c, ChargedOnce oneUsage s openShop freshEvent c := by
  obtain ⟨history, s, reached, pushed, handled⟩ := State.exists_of_play (.any False)
    (deployment id openShop oneUsage aFreshCompletion) (inTurns [(0, 11), (1, 6), (2, 9)])
    (fun s => freshEvent ∈ enqueued (s.procs 0).calls ∧ freshEvent ∉ s.world.events) (by decide +kernel)
  have billable : Billable freshEvent openShop := ⟨⟨_, rfl⟩, _, rfl⟩
  rcases events_are_charged_once fresh_completion reached billable (.inr ⟨0, pushed_of_enqueued pushed⟩) with
    waiting | ⟨_, _, _, _, _, faulty, _⟩ | (⟨_, never, _⟩ | ⟨i, payload, change, asked, _⟩) | charged
  · exact absurd waiting handled
  · exact absurd faulty id
  · cases never
  · unfold aFreshCompletion at asked
    split at asked <;> cases asked
  · exact ⟨history, s, reached, charged⟩

end Shop

end LLMPool.Deployment
