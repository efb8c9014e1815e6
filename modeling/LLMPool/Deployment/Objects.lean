import LLMPool.Deployment.Upstreams

/-! Files, batches and responses stay with their upstream: the ids that the server sends to an upstream
are those that it has from it. -/
namespace LLMPool.Deployment
open Relational Transactions Billing ProxyViews Upstreams

section Rows
variable {upstreamId : Int} {originalId : String} {kind : ObjectKind} {db : Db} {w : Write}

/-- A row stores the object under the upstream. A row that is marked as deleted stays. -/
def Located (db : Db) (upstreamId : Int) (originalId : String) : ObjectKind → Prop
  | .file => ∃ f ∈ db.fileMetas, f.upstreamId = upstreamId ∧ f.originalFileId = originalId
  | .batch => ∃ b ∈ db.batchMetas, b.upstreamId = upstreamId ∧ b.originalBatchId = originalId
  | .response => ∃ r ∈ db.responseMetas, r.upstreamId = upstreamId ∧ r.originalResponseId = originalId

inductive Locates : Write → Int → String → ObjectKind → Prop
  | file {f : FileMeta} : Locates (.insertFileMeta f) f.upstreamId f.originalFileId .file
  | batch {b : BatchMeta} : Locates (.insertBatchMeta b) b.upstreamId b.originalBatchId .batch
  | response {r : ResponseMeta} : Locates (.insertResponseMeta r) r.upstreamId r.originalResponseId .response

theorem located_apply (located : Located (apply w db) upstreamId originalId kind) :
    Located db upstreamId originalId kind ∨ Locates w upstreamId originalId kind := by
  cases w
  case insertFileMeta =>
    cases kind with
    | file =>
        refine (Table.exists_of_insert located).imp id ?_
        rintro ⟨rfl, rfl⟩
        exact .file
    | batch | response => exact .inl located
  case insertBatchMeta =>
    cases kind with
    | batch =>
        refine (Table.exists_of_insert located).imp id ?_
        rintro ⟨rfl, rfl⟩
        exact .batch
    | file | response => exact .inl located
  case insertResponseMeta =>
    cases kind with
    | response =>
        refine (Table.exists_of_insert located).imp id ?_
        rintro ⟨rfl, rfl⟩
        exact .response
    | file | batch => exact .inl located
  case deleteFile =>
    cases kind with
    | file => exact .inl (Table.exists_of_modify deletedFile_keeps (fun _ same => same) located)
    | batch | response => exact .inl located
  case setBatchStatus _ status =>
    cases kind with
    | batch => exact .inl (Table.exists_of_modify (withBatchStatus_keeps status) (fun _ same => same) located)
    | file | response => exact .inl located
  case deleteResponse =>
    cases kind with
    | response => exact .inl (Table.exists_of_modify deletedResponse_keeps (fun _ same => same) located)
    | file | batch => exact .inl located
  all_goals exact .inl located

theorem Located.grows {db' : Db} (located : Located db upstreamId originalId kind) (grows : Grows db db') :
    Located db' upstreamId originalId kind := by
  cases kind with
  | file =>
      obtain ⟨f, member, rfl, rfl⟩ := located
      obtain ⟨f', found, same⟩ := grows.fileMetas _ f (Table.find_of_mem member)
      exact ⟨f', (Table.find_iff.mp found).1, same.upstreamId, same.originalFileId⟩
  | batch =>
      obtain ⟨b, member, rfl, rfl⟩ := located
      obtain ⟨b', found, same⟩ := grows.batchMetas _ b (Table.find_of_mem member)
      exact ⟨b', (Table.find_iff.mp found).1, same.upstreamId, same.originalBatchId⟩
  | response =>
      obtain ⟨r, member, rfl, rfl⟩ := located
      obtain ⟨r', found, same⟩ := grows.responseMetas _ r (Table.find_of_mem member)
      exact ⟨r', (Table.find_iff.mp found).1, same.upstreamId, same.originalResponseId⟩

/-- The statements that store an object. -/
inductive Stores (upstreamId : Int) (originalId : String) : ObjectKind → Stmt → Prop
  | file {fileId purpose : String} :
      Stores upstreamId originalId .file (.insertFileMeta fileId originalId purpose upstreamId)
  | batch {batchId provider : String} :
      Stores upstreamId originalId .batch (.insertBatchMeta batchId originalId upstreamId provider)
  | response {responseId : String} :
      Stores upstreamId originalId .response (.insertResponseMeta responseId originalId upstreamId)

theorem exec_stores {s : Stmt} {answer : s.Answer} (executed : exec s env db = some answer)
    (wrote : w ∈ writes s answer) (locates : Locates w upstreamId originalId kind) :
    Stores upstreamId originalId kind s := by
  cases s
  case insertFileMeta | insertBatchMeta | insertResponseMeta =>
    simp only [exec, Option.ite_none_right_eq_some, Option.some.injEq] at executed
    obtain ⟨_, rfl⟩ := executed
    obtain rfl := List.mem_singleton.mp wrote
    cases locates
    constructor
  all_goals
    cases locates <;> first
      | simp [writes] at wrote; done
      | cases answer <;> simp [writes] at wrote

end Rows

section Runs
variable {ι : Type} {D : Discipline engine} {hashToken : String → String} {party : ι → Party}
  {db : Db} {world : World} {s : State engine ι} {i : ι} {u : LLMUpstream} {upstreamId : Int}
  {originalId : String} {kind : ObjectKind} {stmt : Stmt} {K : Fact → Prop}

/-- The upstream has answered a call, of whichever request, with the id of the object. -/
def GivenBy (s : State engine ι) (upstreamId : Int) (originalId : String) (kind : ObjectKind) : Prop :=
  ∃ i u call answer, u.id = upstreamId ∧ (kind, originalId) ∈ given call answer ∧
    (⟨.remote (.upstream u call), .ok (.ok answer)⟩ : Call engine) ∈ (s.procs i).calls

theorem stores_tends (stores : Stores upstreamId originalId kind stmt) (tends : Tends p (.auto stmt) K) :
    Gave K upstreamId kind originalId := by
  cases stores <;> exact tends

theorem stores_pooled (stores : Stores upstreamId originalId kind stmt) (tends : Tends p (.sql stmt) K) : False := by
  cases stores <;> exact tends

variable [DecidableEq ι]

theorem gave_given (reached : Reaches D (deployment hashToken db world party) history s)
    (gave : Gave (told (s.procs i).calls) upstreamId kind originalId) : GivenBy s upstreamId originalId kind := by
  obtain ⟨u, here, call, member, tells⟩ := gave
  have same : u.id = upstreamId := here.elim id (fun found => (told_found reached found).1)
  cases tells with
  | given inside => exact ⟨i, u, _, _, same, inside, member⟩

/-- An object is stored under the upstream that has named it, or has been there from the start. -/
theorem objects_were_given (reached : Reaches D (deployment hashToken db world party) history s)
    (located : Located s.db upstreamId originalId kind) :
    Located db upstreamId originalId kind ∨ GivenBy s upstreamId originalId kind := by
  have brought := reached.brought (I := fun rows => Located rows upstreamId originalId kind)
    (W := fun w => Locates w upstreamId originalId kind) (fun _ _ => located_apply) located
  refine brought.imp id ?_
  rintro ⟨i, w, member, locates⟩
  obtain ⟨stmt, answer, inside | inside, wrote⟩ := mem_permanent member
  · obtain ⟨_, _, tends, _, env, rows, executed⟩ := reached.made deployment_tends i _ inside
    exact (stores_pooled (exec_stores executed wrote locates) tends).elim
  · obtain ⟨older, suffix, tends, env, rows, executed⟩ := reached.made deployment_tends i _ inside
    have known : older ⊆ (s.procs i).calls := fun _ earlier => suffix.subset (List.mem_cons_of_mem _ earlier)
    have gave := stores_tends (exec_stores executed wrote locates) tends
    exact gave_given reached (gave.mono (fun _ fact => told_later fact known))

/-- What was read as stored is stored. -/
theorem told_stored (reached : Reaches D (deployment hashToken db world party) history s)
    (known : told (s.procs i).calls (.stored kind upstreamId originalId)) :
    Located s.db upstreamId originalId kind := by
  obtain ⟨call, member, tells⟩ := known
  have earlier : Earlier D (deployment hashToken db world party) s
      (fun middle => Located middle.db upstreamId originalId kind) := by
    cases tells with
    | @file _ f =>
        refine (reached.read_earlier member).mono ?_
        rintro middle ⟨_, executed⟩
        have found := (Option.filter_eq_some_iff.mp (Option.some.inj executed)).1
        exact ⟨f, (Table.lookup_iff.mp found).1, rfl, rfl⟩
    | @batch _ b =>
        refine (reached.read_earlier member).mono ?_
        rintro middle ⟨_, executed⟩
        exact ⟨b, (Table.lookup_iff.mp (Option.some.inj executed)).1, rfl, rfl⟩
    | @response _ r =>
        refine (reached.read_earlier member).mono ?_
        rintro middle ⟨_, executed⟩
        have found := (Option.filter_eq_some_iff.mp (Option.some.inj executed)).1
        exact ⟨r, (Table.lookup_iff.mp found).1, rfl, rfl⟩
  obtain ⟨_, middle, _, _, second, located⟩ := earlier
  exact located.grows (Reaches.grows second)

/-- In every interleaving, with any failures, a call to an upstream names the files, batches and responses
that were stored under that upstream from the start, or that it has itself named in an answer. -/
theorem objects_are_at_their_upstreams (reached : Reaches D (deployment hashToken db world party) history s)
    {call : Call engine} (member : call ∈ (s.procs i).calls) (contacts : call.op = .remote (.upstream u upstreamCall))
    (names : (kind, originalId) ∈ named upstreamCall) :
    Located db u.id originalId kind ∨ GivenBy s u.id originalId kind := by
  obtain ⟨older, suffix, tends, _⟩ := reached.made deployment_tends i call member
  have inside : older ⊆ (s.procs i).calls := fun _ earlier => suffix.subset (List.mem_cons_of_mem _ earlier)
  rw [contacts] at tends
  obtain ⟨upstreamId, found, stored⟩ := tends.2 kind originalId names
  obtain ⟨rfl, _⟩ := told_found reached (told_later found inside)
  exact objects_were_given reached (told_stored reached (told_later stored inside))

end Runs

section Shop

def keepsFiles (serial : Int) : Env := { Env.plain 0 serial with
  answers := fun
    | .createFile _ | .retrieveFile _ => .ok ⟨"file_abc"⟩
    | _ => .error .network }

def contacted (call : Call engine) : Option UpstreamCall :=
  match call.op with
  | .remote (.upstream _ upstreamCall) => some upstreamCall
  | _ => none

theorem upstream_of_contacted {call : Call engine} (contacts : contacted call = some upstreamCall) :
    ∃ u, call.op = .remote (.upstream u upstreamCall) := by
  unfold contacted at contacts
  split at contacts
  · cases contacts
    exact ⟨_, ‹_›⟩
  · cases contacts

/-- An upload, and a request for the file that it has stored. -/
def anUpload : Fin 2 → Party
  | 0 => .openAI (some "Bearer lpx-018f77aa") ⟨fun _ => "s", fun _ => "m", .direct⟩
      (.proxied (.createFileHandler [.file (some "a") none []]))
  | 1 => .openAI (some "Bearer lpx-018f77aa") ⟨fun _ => "s", fun _ => "m", .direct⟩
      (.proxied (.retrieveFileHandler "file-m"))

theorem objects_are_at_their_upstreams_once : ∃ history s,
    Reaches (.any False) (deployment id openShop oneUsage anUpload) history s ∧
    (∃ call ∈ (s.procs 1).calls, contacted call = some (.retrieveFile "file_abc")) ∧
    ∃ upstreamId, GivenBy s upstreamId "file_abc" .file := by
  obtain ⟨history, s, reached, call, member, contacts⟩ := State.exists_of_play (.any False)
    (deployment id openShop oneUsage anUpload)
    ((List.replicate 9 0 ++ List.replicate 6 1 : List (Fin 2)).map (fun i => (i, .run (keepsFiles 1))))
    (fun s => ∃ call ∈ (s.procs 1).calls, contacted call = some (.retrieveFile "file_abc")) (by decide +kernel)
  obtain ⟨u, same⟩ := upstream_of_contacted contacts
  refine ⟨history, s, reached, ⟨call, member, contacts⟩, u.id, ?_⟩
  rcases objects_are_at_their_upstreams reached member same List.mem_cons_self with ⟨f, never, _⟩ | given
  · cases never
  · exact given

end Shop

end LLMPool.Deployment
