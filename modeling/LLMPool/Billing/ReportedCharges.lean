import LLMPool.Billing.Attribution
import LLMPool.Billing.ServingModel

/-! What requests are charged is what the upstreams have reported to them, where the queue has
taken it and it has a model. -/
namespace LLMPool.Billing
open Relational Transactions ProxyViews

/-- A request that is routed by a model has it; on an object it is the model that has the id of
the object's upstream. -/
def Priceable (served : ProxyRequest) (db : Db) (calls : List (Call engine)) : Prop :=
  served.modelRouted = true ∨ ∃ u ∈ contacted calls, (db.models.find u.id).isSome = true

instance {served : ProxyRequest} {db : Db} {calls : List (Call engine)} : Decidable (Priceable served db calls) :=
  inferInstanceAs (Decidable (_ ∨ _))

/-- The reports that the queue has taken and that have a model, newest first. -/
def pricedReports (served : ProxyRequest) (db : Db) : List (Call engine) → List (Int × Int)
  | [] => []
  | ⟨.remote (.pushEvent _), .ok _⟩ :: older =>
      (if Priceable served db older then (pendingReports older).take 1 else []) ++ pricedReports served db older
  | _ :: older => pricedReports served db older

def chargedReports (activity : ι → Activity) (initial : Db) (s : State engine ι) (i : ι) : List (Int × Int) :=
  match activity i with
  | .request _ served => pricedReports served initial (s.procs i).calls
  | _ => []

/-- Requests that are routed by a model are charged all that the queue has taken. -/
theorem pricedReports_routed {served : ProxyRequest} (routed : served.modelRouted = true) (db : Db)
    (calls : List (Call engine)) : pricedReports served db calls = takenReports calls := by
  induction calls with
  | nil => rfl
  | cons call older ih =>
      obtain ⟨op, reply⟩ := call
      cases op with
      | remote c =>
          cases c with
          | pushEvent event =>
              cases reply with
              | error reason => exact ih
              | ok _ => rw [pricedReports, takenReports, if_pos (.inl routed), ih]
          | _ => exact ih
      | _ => exact ih

section Known
variable {calls : List (Call engine)} {db : Db} {modelId : Int} {u : LLMUpstream}
  (shown : ∀ {stmt : Stmt} {answer : stmt.Answer},
    (⟨.auto stmt, .ok answer⟩ : Call engine) ∈ calls → Shown stmt answer db)

include shown in
theorem served_known (request : ProxyRequest) (served : request.Served calls modelId u) :
    (db.models.find modelId).isSome = true ↔ request.modelRouted = true ∨ (db.models.find u.id).isSome = true := by
  have owned : modelId = u.id → request.modelRouted = false → ((db.models.find modelId).isSome = true ↔
      request.modelRouted = true ∨ (db.models.find u.id).isSome = true) := by
    rintro rfl unrouted
    rw [unrouted, or_iff_right Bool.false_ne_true]
  cases request with
  | chatCompletions | createEmbeddings | generateImages | createResponse | createMessage =>
      obtain ⟨m, known, same, _⟩ := routed_model shown served
      exact iff_of_true (Option.isSome_iff_exists.mpr ⟨m, Table.find_iff.mpr ⟨known, same⟩⟩) (.inl rfl)
  | createBatch | retrieveBatch | cancelBatch | retrieveResponse => exact owned served.1 rfl
  | _ => exact absurd served id

end Known

section Runs
variable {ι : Type} [DecidableEq ι] {D : Discipline engine} {activity : ι → Activity} {initial : Db} {world : World}
  {history : History engine ι} {s : State engine ι} {i : ι} {requests : List ι} {sessions : List String}

/-- A traced event is billed the next report, where that has a model. -/
theorem billed_report {context : RequestContext} {served : ProxyRequest} {event : EventTask EventData}
    {reply : Except Failure Unit} {older : List (Call engine)}
    (reached : Reaches D (.starting initial world (programs activity)) history s)
    (requested : activity i = .request context served)
    (pushed : (⟨.remote (.pushEvent event), reply⟩ : Call engine) :: older <:+ (s.procs i).calls) :
    billedTokens s.db event = (if Priceable served initial older then (pendingReports older).take 1 else []).sum := by
  have handles : programs activity i = served.handle context := by rw [programs, requested, Activity.program]
  have owing : (programs activity i).path Owing (fun _ _ => True) [] := handles ▸ served.owing
  have traced : (programs activity i).path (Traced served.Served) (fun _ _ => True) [] :=
    handles ▸ served.path_handle context
  have next : eventTokens event.eventData = (pendingReports older).headD 0 := (reached.follows owing pushed).1
  have first : ((pendingReports older).take 1).sum = (pendingReports older).headD 0 := by
    cases pendingReports older with
    | nil => rfl
    | cons report rest => simp
  cases used : event.eventData.extractUsage with
  | none =>
      have nothing : (pendingReports older).headD 0 = 0 := by rw [← next, eventTokens, used]
      have unbilled : billedTokens s.db event = 0 := by
        rw [billedTokens, next, nothing, ite_self]
      rw [unbilled]
      split
      · rw [first, nothing]
      · rfl
  | some usage =>
      obtain ⟨u, contacts, serves⟩ := (reached.follows traced pushed).1 (by rw [used]; rfl)
      have seen : ∀ {call : Call engine}, call ∈ older → call ∈ (s.procs i).calls :=
        fun member => pushed.subset (List.mem_cons_of_mem _ member)
      have known := served_known (fun asked => Reaches.shown reached (seen asked)) served serves
      have models : s.db.models = initial.models := (Reaches.grows reached).models
      have priceable : (s.db.models.find event.modelId).isSome = true ↔ Priceable served initial older := by
        rw [known, models, Priceable, contacts]
        simp only [Option.mem_def, Option.some.injEq, exists_eq_left']
      rw [billedTokens, next]
      by_cases model : Priceable served initial older
      · rw [if_pos (priceable.mpr model), if_pos model, first]
      · rw [if_neg (fun known => model (priceable.mp known)), if_neg model]
        rfl

theorem billed_reports {context : RequestContext} {served : ProxyRequest}
    (reached : Reaches D (.starting initial world (programs activity)) history s)
    (requested : activity i = .request context served) :
    ((enqueued (s.procs i).calls).map (billedTokens s.db)).sum =
      (pricedReports served initial (s.procs i).calls).sum := by
  have suffixes : ∀ calls, calls <:+ (s.procs i).calls →
      ((enqueued calls).map (billedTokens s.db)).sum = (pricedReports served initial calls).sum := by
    intro calls inside
    induction calls with
    | nil => rfl
    | cons call older ih =>
        have before := ih ((List.suffix_cons call older).trans inside)
        obtain ⟨op, reply⟩ := call
        cases op with
        | remote c =>
            cases c with
            | pushEvent event =>
                cases reply with
                | error reason => exact before
                | ok _ =>
                    rw [enqueued, pricedReports, List.map_cons, List.sum_cons, List.sum_append, before,
                      billed_report reached requested inside]
            | _ => exact before
        | _ => exact before
  exact suffixes _ List.suffix_rfl

/-- When its events are handled and the charges are settled, the sessions of some requests are
charged what the upstreams have reported to these. -/
theorem Attributable.chargedTokens_reports (attributable : Attributable activity initial s)
    (reached : Reaches D (.starting initial world (programs activity)) history s)
    (once : requests.Nodup) (requested : ∀ i ∈ requests, ∃ context served, activity i = .request context served)
    (covered : ∀ event ∈ enqueuedBy s requests, event.sessionId ∈ sessions)
    (covers : ∀ sessionId ∈ sessions, ∃ i ∈ requests, (activity i).Opens sessionId)
    (handled : ∀ event ∈ enqueuedBy s requests, HandledEvent activity s event) (settled : AllSettled s.db) :
    chargedTokens sessions s.db = (requests.flatMap (chargedReports activity initial s)).sum := by
  rw [attributable.chargedTokens_eq reached once requested covered covers handled settled, enqueuedBy,
    List.map_flatMap, List.flatMap_def, List.flatMap_def, List.sum_flatten, List.sum_flatten, List.map_map,
    List.map_map]
  refine congrArg List.sum (List.map_congr_left (fun i member => ?_))
  obtain ⟨context, served, acts⟩ := requested i member
  change ((enqueued (s.procs i).calls).map (billedTokens s.db)).sum = (chargedReports activity initial s i).sum
  rw [billed_reports reached acts, chargedReports, acts]

end Runs

end LLMPool.Billing
