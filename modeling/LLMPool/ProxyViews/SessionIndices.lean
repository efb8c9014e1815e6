import LLMPool.ProxyViews.Retries
import LLMPool.ProxyViews.Sessions
import LLMPool.Relational.Numbering

/-! The indices of a session are dense and unique: the events of each are numbered from zero in
the order in which they are traced, whether or not the queue takes them. -/
namespace LLMPool.ProxyViews
open Relational Transactions

/-- The events that the queue has taken, newest first. -/
def enqueued : List (Call engine) → List (EventTask EventData)
  | [] => []
  | ⟨.remote (.pushEvent event), .ok _⟩ :: older => event :: enqueued older
  | _ :: older => enqueued older

/-- What the queue is keyed by. -/
def sessionKey (event : EventTask EventData) : String × Int := (event.sessionId, event.sessionIndex)

/-- The events so far that are traced in a session. -/
abbrev inSession (sessionId : String) (calls : List (Call engine)) : List (EventTask EventData) :=
  keyed EventTask.sessionId sessionId (pushes calls)

/-- A traced event has the number of those that its session has already. -/
def Numbers (calls : List (Call engine)) : Op engine → Prop
  | .remote (.pushEvent event) => event.sessionIndex = (inSession event.sessionId calls).length
  | _ => True

/-- The events so far are those of the attempts so far, and a tracer has counted its own. -/
def Stage.Counts (context : RequestContext) (calls : List (Call engine)) : Stage → Prop
  | .between attempts => ∀ e ∈ pushes calls, ∃ j < attempts, e.sessionId = context.sessions j
  | .tracing attempt tracer => tracer.sessionId = context.sessions attempt ∧
      tracer.sessionIndex = (inSession tracer.sessionId calls).length ∧
      ∀ e ∈ pushes calls, ∃ j < attempt + 1, e.sessionId = context.sessions j

section Paths
variable {context : RequestContext} {calls : List (Call engine)} {stage : Stage} {Q : α → Stage → Prop}

theorem pushes_untraced {op : Op engine} (reply : Except Failure op.Reply) (untraced : Untraced op) :
    pushes (⟨op, reply⟩ :: calls) = pushes calls ∧ Numbers calls op := by
  cases op with
  | remote c =>
      cases c with
      | pushEvent e => exact absurd untraced id
      | _ => exact ⟨rfl, trivial⟩
  | _ => exact ⟨rfl, trivial⟩

theorem Stage.Counts.same {later : List (Call engine)} (counts : stage.Counts context calls)
    (same : pushes later = pushes calls) : stage.Counts context later := by
  cases stage with
  | between attempts => simpa only [Stage.Counts, same] using counts
  | tracing attempt tracer => simpa only [Stage.Counts, inSession, same] using counts

/-- A new attempt has a session that nothing is traced in. -/
theorem Stage.Counts.new {attempts : Nat} (distinct : Function.Injective context.sessions) (modelId : Int)
    (counts : (Stage.between attempts).Counts context calls) :
    (Stage.tracing attempts (.new context attempts modelId)).Counts context calls := by
  refine ⟨rfl, ?_, fun e member => ?_⟩
  · have none : inSession (context.sessions attempts) calls = [] := by
      refine List.eq_nil_iff_forall_not_mem.mpr (fun e member => ?_)
      obtain ⟨inside, same⟩ := mem_keyed.mp member
      obtain ⟨j, before, session⟩ := counts e inside
      have equal := distinct (same.symm.trans session)
      omega
    change (0 : Int) = (inSession (context.sessions attempts) calls).length
    rw [none]
    rfl
  · obtain ⟨j, before, session⟩ := counts e member
    exact ⟨j, by omega, session⟩

theorem Stage.Counts.push {attempt : Nat} {tracer : SessionTracer} (data : EventData) (reply : Except Failure Unit)
    (counts : (Stage.tracing attempt tracer).Counts context calls) :
    (Stage.tracing attempt tracer.bump).Counts context
      (⟨.remote (.pushEvent (tracer.entry data)), reply⟩ :: calls) := by
  obtain ⟨session, counted, earlier⟩ := counts
  refine ⟨session, ?_, fun e member => ?_⟩
  · have more : inSession tracer.sessionId (⟨.remote (.pushEvent (tracer.entry data)), reply⟩ :: calls) =
        tracer.entry data :: inSession tracer.sessionId calls := keyed_cons_self (tracer.entry data)
    change tracer.sessionIndex + 1 = _
    rw [counted]
    exact congrArg (fun events => ((List.length events : Nat) : Int)) more.symm
  · rcases List.mem_cons.mp member with rfl | older
    · exact ⟨attempt, Nat.lt_succ_self _, session⟩
    · exact earlier e older

/-- What traces the next events of its tracers numbers them. -/
theorem Traces.path {p : Action α} (distinct : Function.Injective context.sessions)
    (traces : Traces context Q stage p) (counts : stage.Counts context calls) :
    p.path Numbers (fun _ _ => True) calls := by
  induction traces generalizing calls with
  | done result => trivial
  | untraced made _ ih =>
      exact ⟨(pushes_untraced (.error .fault) made).2,
        fun reply _ => ih reply (counts.same (pushes_untraced reply made).1)⟩
  | push data _ ih => exact ⟨counts.2.1, fun reply _ => ih reply (counts.push data reply)⟩
  | new modelId _ ih => exact ih (counts.new distinct modelId)
  | left _ ih => exact ih counts.2.2

theorem path_numbers (distinct : Function.Injective context.sessions) (request : ProxyRequest) :
    (request.handle context).path Numbers (fun _ _ => True) [] :=
  request.traces.path distinct (fun _ never => absurd never List.not_mem_nil)

/-- Calls that each trace the next event have traced numbered events. -/
theorem numbered_pushes (each : ∀ call older, call :: older <:+ calls → Numbers older call.op) :
    Numbered EventTask.sessionId EventTask.sessionIndex (pushes calls) := by
  induction calls with
  | nil => trivial
  | cons call older ih =>
      have earlier := ih (fun call' older' inside => each call' older' (inside.trans (List.suffix_cons _ _)))
      obtain ⟨op, reply⟩ := call
      cases op with
      | remote c =>
          cases c with
          | pushEvent event => exact ⟨each _ older List.suffix_rfl, earlier⟩
          | _ => exact earlier
      | _ => exact earlier

theorem enqueued_sublist (calls : List (Call engine)) : (enqueued calls).Sublist (pushes calls) := by
  induction calls with
  | nil => exact .slnil
  | cons call older ih =>
      obtain ⟨op, reply⟩ := call
      cases op with
      | remote c =>
          cases c with
          | pushEvent event =>
              cases reply with
              | ok _ => exact ih.cons_cons event
              | error reason => exact ih.cons event
          | _ => exact ih
      | _ => exact ih

end Paths

section Runs
variable {ι : Type} [DecidableEq ι] {D : Discipline engine} {db : Db} {world : World}
  {program : ι → Action Unit} {history : History engine ι} {s : State engine ι} {i j : ι}
  {context other : RequestContext} {request request' : ProxyRequest}

/-- In every run, whatever else runs: the events that a handler has traced in a session are
numbered from zero in their order, no index that was pushed is used again, and the counter is
never past the number of events. -/
theorem session_indices_dense (distinct : Function.Injective context.sessions)
    (reached : Reaches D (.starting db world program) history s)
    (handles : program i = request.handle context) :
    (∀ sessionId, (inSession sessionId (s.procs i).calls).reverse.map EventTask.sessionIndex =
      (List.range (inSession sessionId (s.procs i).calls).length).map Int.ofNat) ∧
    ((pushes (s.procs i).calls).map sessionKey).Nodup ∧ ((enqueued (s.procs i).calls).map sessionKey).Nodup ∧
    ∀ e ∈ pushes (s.procs i).calls, 0 ≤ e.sessionIndex ∧ e.sessionIndex < (pushes (s.procs i).calls).length := by
  have path : (program i).path Numbers (fun _ _ => True) [] := handles ▸ path_numbers distinct request
  have each : ∀ call older, call :: older <:+ (s.procs i).calls → Numbers older call.op :=
    fun _ _ inside => (reached.follows path inside).1
  have numbered := numbered_pushes each
  refine ⟨numbered.indices, numbered.nodup, ?_, fun e member => ?_⟩
  · exact ((enqueued_sublist (s.procs i).calls).map sessionKey).nodup numbered.nodup
  · have bounds := numbered.bounds member
    have most := keyed_length_le EventTask.sessionId e.sessionId (pushes (s.procs i).calls)
    omega

/-- What two requests trace has no session in common, where their UUIDs have none. -/
theorem sessions_apart {reply reply' : Except Failure Unit} (apart : ∀ a b, context.sessions a ≠ other.sessions b)
    (reached : Reaches D (.starting db world program) history s) (handles : program i = request.handle context)
    (handles' : program j = request'.handle other) {e e' : EventTask EventData}
    (traced : (⟨.remote (.pushEvent e), reply⟩ : Call engine) ∈ (s.procs i).calls)
    (traced' : (⟨.remote (.pushEvent e'), reply'⟩ : Call engine) ∈ (s.procs j).calls) :
    e.sessionId ≠ e'.sessionId := by
  have stamped : ∀ {k : ι} {own : RequestContext} {served : ProxyRequest} {event : EventTask EventData}
      {result : Except Failure Unit}, program k = served.handle own →
      (⟨.remote (.pushEvent event), result⟩ : Call engine) ∈ (s.procs k).calls →
      ∃ attempt, event.sessionId = own.sessions attempt := by
    intro k own served event result handled member
    obtain ⟨older, inside⟩ := exists_older member
    have path : (program k).path (fun _ => Stamped own) (fun _ _ => True) [] := handled ▸ served.stamped.made
    exact (reached.follows path inside).1.1
  obtain ⟨a, session⟩ := stamped handles traced
  obtain ⟨b, session'⟩ := stamped handles' traced'
  rw [session, session']
  exact apart a b

end Runs

/-- The session of each attempt has one letter more. -/
def lettered : RequestContext := ⟨1, 1, fun attempt => String.ofList (List.replicate attempt 'u'), fun _ => "m", .direct⟩

theorem lettered_injective : Function.Injective lettered.sessions := by
  intro a b same
  have letters : List.replicate a 'u' = List.replicate b 'u' := String.ofList_injective same
  simpa using congrArg List.length letters

def twoUpstreams : Db := { Db.empty with
  wallets := Table.empty.insert ⟨1, 1, 100⟩
  upstreams := (Table.empty.insert ⟨1, "first", "https://a", "", "openai", [], [], "online", ""⟩).insert
    ⟨2, "second", "https://b", "", "openai", [], [], "online", ""⟩
  models := (Table.empty.insert
    ⟨1, 1, "gpt-4o", "gpt-4o", true, ["chat/completions"], 100000, 1, 2, 1, 1, ""⟩).insert
    ⟨2, 2, "gpt-4o", "gpt-4o", true, ["chat/completions"], 100000, 1, 2, 1, 1, ""⟩ }

/-- Streams answer with two items before they break off. -/
def breakingOff : Env where
  now := 0
  serial := 1
  pick := 0
  expired := false
  answers := fun
    | .createChatStream _ => .ok [.ok ⟨none⟩, .ok ⟨none⟩, .error .network]
    | _ => .error .network

def streamed : State engine Unit := .starting twoUpstreams World.empty
  (fun _ => (ProxyRequest.chatCompletions ⟨"gpt-4o", some true, none⟩).handle lettered)

/-- The first upstream cannot be reached; of the second's stream one push is lost. -/
theorem session_indices_dense_streamed : ∃ history s, Reaches (Discipline.any True) streamed history s ∧
    (s.procs ()).Returned ∧
    (enqueued (s.procs ()).calls).reverse.map sessionKey = [("", 0), ("u", 0), ("u", 2), ("u", 3)] ∧
    (inSession "u" (s.procs ()).calls).reverse.map EventTask.sessionIndex =
      (List.range (inSession "u" (s.procs ()).calls).length).map Int.ofNat := by
  obtain ⟨history, s, reached, returned, keys⟩ := State.exists_of_play (Discipline.any True) streamed
    (List.replicate 6 ((), .run (Env.plain 0 1)) ++ List.replicate 3 ((), .run breakingOff) ++
      [((), .fail), ((), .run breakingOff), ((), .run breakingOff)])
    (fun s => (s.procs ()).Returned ∧
      (enqueued (s.procs ()).calls).reverse.map sessionKey = [("", 0), ("u", 0), ("u", 2), ("u", 3)])
    (by decide +kernel)
  exact ⟨history, s, reached, returned, keys, (session_indices_dense lettered_injective reached rfl).1 "u"⟩

end LLMPool.ProxyViews
