import LLMPool.ProxyViews.BatchRequests

/-! The file ids in a batch: the output file's is the pool's, the input and the error file
keep the ids of the upstream. -/
namespace LLMPool.ProxyViews
open Relational Transactions

def StandsFor (files : Table FileMeta) (upstreamId : Int) (fileId reported : String) : Prop :=
  ∃ f, files.lookup fileId = some f ∧ f.deleted = false ∧ f.upstreamId = upstreamId ∧
    f.originalFileId = reported

/-- Each file id in a batch is the pool's for the file that the upstream reported, and the
input file is the one that the client had submitted. -/
structure PoolFileIds (submitted : String) (files : Table FileMeta) (upstreamId : Int)
    (answer batch : Batch) : Prop where
  input : StandsFor files upstreamId batch.inputFileId answer.inputFileId
  submitted : batch.inputFileId = submitted
  output : ∀ fileId, batch.outputFileId = some fileId →
    ∃ reported, answer.outputFileId = some reported ∧ StandsFor files upstreamId fileId reported
  error : ∀ fileId, batch.errorFileId = some fileId →
    ∃ reported, answer.errorFileId = some reported ∧ StandsFor files upstreamId fileId reported

def Unmapped (files : Table FileMeta) (upstreamId : Int) (reported : String) : Prop :=
  ∀ f ∈ files, ¬(f.originalFileId = reported ∧ f.upstreamId = upstreamId ∧ f.deleted = false)

/-- An upstream's id of a file is the pool's as well: a row maps it to itself, or it is the
id that is minted for the output file, which has the same id at the upstream. -/
def SelfMapped (context : RequestContext) (files : Table FileMeta) (upstreamId : Int)
    (output : Option String) (fileId : String) : Prop :=
  StandsFor files upstreamId fileId fileId ∨
    output = some fileId ∧ mintedId "file-" (context.minted 1) = fileId ∧ Unmapped files upstreamId fileId

structure Untranslatable (submitted : String) (context : RequestContext) (files : Table FileMeta)
    (upstreamId : Int) (answer : Batch) : Prop where
  input : SelfMapped context files upstreamId answer.outputFileId answer.inputFileId
  submitted : answer.inputFileId = submitted
  error : ∀ fileId, answer.errorFileId = some fileId →
    SelfMapped context files upstreamId answer.outputFileId fileId

section Wrapping
variable {context : RequestContext} {upstreamId : Int} {files after : Table FileMeta} {reported : Option String}
  {output : Option FileMeta}

theorem Wrapped.standsFor (wrapped : Wrapped context upstreamId files reported output after) :
    ∀ f ∈ output, ∃ original, reported = some original ∧ StandsFor after upstreamId f.fileId original := by
  cases wrapped with
  | absent => exact nofun
  | @reused f stored live here =>
      rintro _ ⟨⟩
      exact ⟨f.originalFileId, rfl, f, Table.lookup_iff.mpr ⟨stored, rfl⟩, live, here, rfl⟩
  | @stored f unmapped minted live here free =>
      rintro _ ⟨⟩
      exact ⟨f.originalFileId, rfl, f, Table.lookup_insert_self free, live, here, rfl⟩

/-- Wrapping a file maps no other id. -/
theorem Wrapped.selfMapped_iff (wrapped : Wrapped context upstreamId files reported output after)
    (fileId : String) :
    StandsFor after upstreamId fileId fileId ↔ SelfMapped context files upstreamId reported fileId := by
  cases wrapped with
  | absent => simp [SelfMapped]
  | @reused f stored live here =>
      have mapped : ¬Unmapped files upstreamId f.originalFileId := fun unmapped =>
        unmapped f stored ⟨rfl, here, live⟩
      constructor
      · exact .inl
      · rintro (before | ⟨same, _, unmapped⟩)
        · exact before
        · cases same
          exact absurd unmapped mapped
  | @stored f unmapped minted live here free =>
      by_cases same : f.fileId = fileId
      · subst same
        have unused : files.lookup f.fileId = none := free.2
        have inserted : (files.insert f).lookup f.fileId = some f := Table.lookup_insert_self free
        constructor
        · rintro ⟨g, found, _, _, original⟩
          cases inserted.symm.trans found
          exact .inr ⟨congrArg some original, minted.symm, original ▸ unmapped⟩
        · rintro (⟨g, found, _⟩ | ⟨original, _, _⟩)
          · cases unused.symm.trans found
          · exact ⟨f, inserted, live, here, Option.some.inj original⟩
      · have kept : (files.insert f).lookup fileId = files.lookup fileId := Table.lookup_insert_ne files same
        simp only [StandsFor, SelfMapped, kept]
        constructor
        · exact .inl
        · rintro (before | ⟨_, again, _⟩)
          · exact before
          · exact absurd (minted.trans again) same

end Wrapping

section Runs
variable {faults : Op engine → Prop} {initial db : Db} {turns : List BatchTurn}

/-- In every run of requests, with arbitrary answers of the upstreams, the file ids of an
OpenAI batch that is returned are the pool's, exactly if the ids of its input and its error
file at the upstream are mapped to themselves and the input file's is the submitted one. -/
theorem batches_speak_pool_file_ids (healthy : ∀ s, ¬faults (.auto s)) (run : BatchRun faults initial turns db) :
    ∀ turn ∈ turns, ∀ batch, turn.value = .openai batch → ∃ answer row,
      reportedBatch turn.after.calls = some answer ∧
      turn.after.db.batchMetas.lookup batch.id = some row ∧
      ∀ submitted, PoolFileIds submitted turn.after.db.fileMetas row.upstreamId answer batch ↔
        Untranslatable submitted turn.index.1 turn.before.fileMetas row.upstreamId answer := by
  intro turn member batch returned
  have handled := run.handled healthy turn member
  rw [returned] at handled
  obtain ⟨answer, row, output, answers, _⟩ := handled
  refine ⟨answer, row, answers.reported, answers.stored, fun submitted => ?_⟩
  have object := answers.object
  have mapped := answers.wrapped.selfMapped_iff
  have input : batch.inputFileId = answer.inputFileId := by rw [object]
  have error : batch.errorFileId = answer.errorFileId := by rw [object]
  constructor
  · intro pool
    refine ⟨(mapped _).mp ?_, input ▸ pool.submitted, fun fileId present => (mapped fileId).mp ?_⟩
    · exact input ▸ pool.input
    · obtain ⟨reported, same, stands⟩ := pool.error fileId (error.trans present)
      obtain rfl := Option.some.inj (present.symm.trans same)
      exact stands
  · intro untranslatable
    refine ⟨?_, input.trans untranslatable.submitted, ?_, ?_⟩
    · rw [input]
      exact (mapped _).mpr untranslatable.input
    · intro fileId present
      rw [object] at present
      obtain ⟨f, wrapped, rfl⟩ := Option.map_eq_some_iff.mp present
      exact answers.wrapped.standsFor f wrapped
    · intro fileId present
      have same : answer.errorFileId = some fileId := error.symm.trans present
      exact ⟨fileId, same, (mapped fileId).mpr (untranslatable.error fileId same)⟩

end Runs

def batchInput (originalFileId : String) : Db := { Db.empty with
  wallets := Table.empty.insert ⟨1, 1, 100⟩
  upstreams := Table.empty.insert ⟨1, "first", "https://a", "", "openai", [], [], "online", ""⟩
  fileMetas := Table.empty.insert ⟨1, "file-1", originalFileId, "batch", 1, false⟩ }

def createOne (inputFileId : String) : List ((RequestContext × BatchCall) × Env × World) :=
  [((⟨1, 1, fun _ => "s", fun _ => "1", .direct⟩, .createBatch ⟨"file-1"⟩),
    ⟨0, 1, 0, false, fun call =>
      match call with
      | .createBatch _ => .ok ⟨"batch_abc", inputFileId, none, none, .validating, none⟩
      | _ => .error .network⟩, World.empty)]

def CreatedFrom (inputFileId : String) (turn : BatchTurn) : Prop :=
  turn.index.2 = .createBatch ⟨"file-1"⟩ ∧
    turn.value = .openai ⟨"batch-1", inputFileId, none, none, .validating, none⟩

instance (inputFileId : String) : DecidablePred (CreatedFrom inputFileId) := by
  unfold CreatedFrom
  infer_instance

/-- A batch is created from `file-1` and returned with the upstream's id, which the pool
does not know. -/
theorem a_batch_speaks_an_upstream_file_id : ∃ turns db,
    BatchRun (fun _ => False) (batchInput "file_abc") turns db ∧
    ∃ turn ∈ turns, CreatedFrom "file_abc" turn ∧ turn.after.db.fileMetas.lookup "file_abc" = none :=
  Sequence.exists_of_script (createOne "file_abc") (fun turns _ => ∃ turn ∈ turns,
    CreatedFrom "file_abc" turn ∧ turn.after.db.fileMetas.lookup "file_abc" = none) .start (by decide +kernel)

theorem batches_speak_pool_file_ids_shared : ∃ turns db,
    BatchRun (fun _ => False) (batchInput "file-1") turns db ∧
    ∃ turn ∈ turns, CreatedFrom "file-1" turn ∧ ∃ answer, reportedBatch turn.after.calls = some answer ∧
      Untranslatable "file-1" turn.index.1 turn.before.fileMetas 1 answer := by
  have ran : ∃ turns db, BatchRun (fun _ => False) (batchInput "file-1") turns db ∧ ∃ turn ∈ turns,
      CreatedFrom "file-1" turn ∧
      turn.after.db.batchMetas.lookup "batch-1" = some ⟨1, "batch-1", "batch_abc", 1, "validating", "openai"⟩ ∧
      turn.after.db.fileMetas.lookup "file-1" = some ⟨1, "file-1", "file-1", "batch", 1, false⟩ ∧
      reportedBatch turn.after.calls = some ⟨"batch_abc", "file-1", none, none, .validating, none⟩ :=
    Sequence.exists_of_script (createOne "file-1") (fun turns _ => ∃ turn ∈ turns, CreatedFrom "file-1" turn ∧
      turn.after.db.batchMetas.lookup "batch-1" = some ⟨1, "batch-1", "batch_abc", 1, "validating", "openai"⟩ ∧
      turn.after.db.fileMetas.lookup "file-1" = some ⟨1, "file-1", "file-1", "batch", 1, false⟩ ∧
      reportedBatch turn.after.calls = some ⟨"batch_abc", "file-1", none, none, .validating, none⟩)
      .start (by decide +kernel)
  obtain ⟨turns, db, run, turn, member, created, stored, file, reported⟩ := ran
  obtain ⟨answer, row, reported', stored', speaks⟩ :=
    batches_speak_pool_file_ids (fun _ => id) run turn member _ created.2
  cases reported.symm.trans reported'
  cases stored.symm.trans stored'
  refine ⟨turns, db, run, turn, member, created, _, reported, (speaks "file-1").mp ⟨?_, rfl, nofun, nofun⟩⟩
  exact ⟨_, file, rfl, rfl, rfl⟩

end LLMPool.ProxyViews
