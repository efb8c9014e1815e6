import LLMPool.ProxyViews.OpenAI
import LLMPool.Transactions.Results

/-! Files that are wrapped concurrently: the mapping of a file is looked up before it is
stored, and in between another call can have stored one. -/
namespace LLMPool.ProxyViews
open Relational Transactions

def SameFile (f g : FileMeta) : Prop := f.originalFileId = g.originalFileId ∧ f.upstreamId = g.upstreamId

/-- The live row of its file that is found. -/
structure Current (db : Db) (f : FileMeta) : Prop where
  stored : f ∈ db.fileMetas
  live : f.deleted = false
  newest : ∀ g ∈ db.fileMetas, g.deleted = false → SameFile g f → g.id ≤ f.id

theorem Current.unique {db : Db} {f g : FileMeta} (first : Current db f) (second : Current db g)
    (same : SameFile f g) : f = g := by
  have key : f.id = g.id := le_antisymm (second.newest f first.stored first.live same)
    (first.newest g second.stored second.live ⟨same.1.symm, same.2.symm⟩)
  exact Table.eq_of_key first.stored second.stored key

/-- Rows are only added, and a row that is added is its file's only live one. -/
structure Mapped (db db' : Db) : Prop where
  kept : ∀ f ∈ db.fileMetas, f ∈ db'.fileMetas
  live : ∀ f ∈ db'.fileMetas, f ∉ db.fileMetas → f.deleted = false
  lone : ∀ f ∈ db'.fileMetas, f ∉ db.fileMetas → ∀ g ∈ db'.fileMetas, g.deleted = false → SameFile g f → g = f

theorem Mapped.refl (db : Db) : Mapped db db :=
  ⟨fun _ member => member, fun _ member other => absurd member other, fun _ member other => absurd member other⟩

theorem Mapped.trans {db db' db'' : Db} (first : Mapped db db') (second : Mapped db' db'') : Mapped db db'' := by
  refine ⟨fun f member => second.kept f (first.kept f member), fun f member new => ?_, fun f member new => ?_⟩
  · by_cases before : f ∈ db'.fileMetas
    · exact first.live f before new
    · exact second.live f member before
  · by_cases before : f ∈ db'.fileMetas
    · intro g inside live same
      by_cases older : g ∈ db'.fileMetas
      · exact first.lone f before new g older live same
      · exact (second.lone g inside older f member (first.live f before new) ⟨same.1.symm, same.2.symm⟩).symm
    · exact second.lone f member before

theorem Current.mapped {db db' : Db} {f : FileMeta} (current : Current db f) (mapped : Mapped db db') :
    Current db' f := by
  refine ⟨mapped.kept f current.stored, current.live, fun g inside live same => ?_⟩
  by_cases older : g ∈ db.fileMetas
  · exact current.newest g older live same
  · have lone := mapped.lone g inside older f (mapped.kept f current.stored) current.live
      ⟨same.1.symm, same.2.symm⟩
    exact le_of_eq (congrArg FileMeta.id lone.symm)

def mapping : Rely engine := ⟨Mapped, Mapped.refl, Mapped.trans⟩

/-- A mapping is stored only while its file still has no live row. -/
def Unwrapped (db : Db) : Op engine → Prop
  | .auto (.insertFileMeta _ originalFileId _ upstreamId) => ∀ f ∈ db.fileMetas.rows, f.deleted = false →
      ¬(f.originalFileId = originalFileId ∧ f.upstreamId = upstreamId)
  | _ => True

def undisturbed (faults : Op engine → Prop) : Discipline engine := ⟨faults, False, fun _ op db => Unwrapped db op⟩

instance (db : Db) (op : Op engine) : Decidable (Unwrapped db op) := by
  rcases op with _ | _ | _ | s | _
  case auto =>
    cases s
    case insertFileMeta => exact inferInstanceAs (Decidable (∀ f ∈ db.fileMetas.rows, _))
    all_goals exact isTrue trivial
  all_goals exact isTrue trivial

instance : (undisturbed (fun _ => False)).Decides where
  faults _ := isFalse id
  serial := isFalse id
  admits _ op db := inferInstanceAs (Decidable (Unwrapped db op))

section Calls
variable {faults : Op engine → Prop} {context : RequestContext} {upstreamId : Int} {calls : List (Call engine)}
  {db : Db}

theorem mapped_insert {f : FileMeta} (free : db.fileMetas.free f) (live : f.deleted = false)
    (unmapped : ∀ g ∈ db.fileMetas, g.deleted = false → ¬SameFile g f) :
    Mapped db { db with fileMetas := db.fileMetas.insert f } ∧
      Current { db with fileMetas := db.fileMetas.insert f } f := by
  have inside : ∀ g, g ∈ db.fileMetas.insert f ↔ g ∈ db.fileMetas ∨ g = f := fun g => Table.mem_insert free
  have lone : ∀ g ∈ db.fileMetas.insert f, g.deleted = false → SameFile g f → g = f := by
    intro g member live same
    rcases (inside g).mp member with older | rfl
    · exact absurd same (unmapped g older live)
    · rfl
  refine ⟨⟨fun g member => (inside g).mpr (.inl member), fun g member new => ?_, fun g member new => ?_⟩,
    (inside f).mpr (.inr rfl), live, fun g member live same => ?_⟩
  · rcases (inside g).mp member with older | rfl
    · exact absurd older new
    · exact live
  · rcases (inside g).mp member with older | rfl
    · exact absurd older new
    · exact lone
  · exact le_of_eq (congrArg FileMeta.id (lone g member live same))

/-- What a call promises of what it returns. -/
def Wraps (fileId : Option String) (upstreamId : Int) (result : Except SqlxError (Option FileMeta)) (db : Db) : Prop :=
  ∀ f, result = .ok (some f) → Current db f ∧ fileId = some f.originalFileId ∧ f.upstreamId = upstreamId

theorem wp_wrapFile (fileId : Option String) :
    (wrapFile context fileId upstreamId).run.wp (undisturbed faults) mapping Mapped
      (fun result _ db => Wraps fileId upstreamId result db) calls db := by
  cases fileId with
  | none => exact fun f never => by cases never
  | some originalFileId =>
      refine wp_run_bind.mpr (wp_queryAuto ?_ (fun _ _ _ f never => by cases never))
      intro db₁ env found between admitted drawn executed
      refine ⟨fun wrote => absurd rfl wrote, ?_⟩
      have newest : Table.topBy FileMeta.id env.pick (db₁.fileMetas.rows.filter (fun f =>
          f.originalFileId = originalFileId ∧ f.upstreamId = upstreamId ∧ f.deleted = false)) = found :=
        Option.some.inj executed
      cases found with
      | some f =>
          obtain ⟨member, largest⟩ := Table.topBy_mem newest
          simp only [List.mem_filter, decide_eq_true_eq] at member largest
          obtain ⟨stored, rfl, rfl, live⟩ := member
          rintro _ ⟨⟩
          exact ⟨⟨stored, live, fun g inside live same => largest g ⟨inside, same.1, same.2, live⟩⟩, rfl, rfl⟩
      | none =>
          refine wp_run_bind.mpr (wp_queryAuto ?_ (fun _ _ _ f never => by cases never))
          intro db₂ env' f between' unmapped drawn' executed'
          simp only [exec] at executed'
          split at executed'
          · rename_i unused
            cases executed'
            simp only [possible, decide_eq_true_eq] at drawn'
            obtain ⟨mapped, current⟩ := mapped_insert (f := ⟨env'.serial, mintedId "file-" (context.minted 1),
              originalFileId, "batch_output", upstreamId, false⟩) ⟨drawn'.2, unused⟩ rfl unmapped
            refine ⟨fun _ => mapped, ?_⟩
            rintro _ ⟨⟩
            exact ⟨current, rfl, rfl⟩
          · cases executed'

end Calls

/-- A call of `wrap_file`, with the UUIDs that are drawn for it. -/
structure WrapCall where
  context : RequestContext
  fileId : Option String
  upstreamId : Int

def WrapCall.program (call : WrapCall) : Action (Except SqlxError (Option FileMeta)) :=
  (wrapFile call.context call.fileId call.upstreamId).run

section Runs
variable {ι : Type}

def wrapping (db : Db) (world : World) (call : ι → WrapCall) : State engine ι :=
  .starting db world (fun i => (call i).program >>= fun _ => pure ())

def WrappedAs (call : ι → WrapCall) (s : State engine ι) (i : ι) (f : FileMeta) : Prop :=
  (s.procs i).Returned ∧ (call i).program.Returns (s.procs i).calls.reverse (.ok (some f))

/-- Of the rows that the calls have stored one is live for each file, and calls with the same
arguments return the same id. -/
structure OneIdPerFile (call : ι → WrapCall) (db : Db) (s : State engine ι) : Prop where
  rows : ∀ f ∈ s.db.fileMetas, ∀ g ∈ s.db.fileMetas, f ∉ db.fileMetas → g ∉ db.fileMetas →
    f.deleted = false → g.deleted = false → SameFile f g → f = g
  replies : ∀ i j f g, (call i).fileId = (call j).fileId → (call i).upstreamId = (call j).upstreamId →
    WrappedAs call s i f → WrappedAs call s j g → f.fileId = g.fileId

variable [DecidableEq ι]

/-- In every interleaving in which no call stores a mapping that another has stored since it
looked for one, each file has one id. -/
theorem wrapFile_oneIdPerFile (call : ι → WrapCall) (faults : Op engine → Prop) (db : Db) (world : World)
    (history : History engine ι) (s : State engine ι)
    (reached : Reaches (undisturbed faults) (wrapping db world call) history s) : OneIdPerFile call db s := by
  have each : ∀ i, (call i).program.wp (undisturbed faults) mapping mapping.rel
      (fun value _ db => Wraps (call i).fileId (call i).upstreamId value db) [] db :=
    fun i => wp_wrapFile (call i).fileId
  have stays : ∀ i value db db', Wraps (call i).fileId (call i).upstreamId value db → mapping.rel db db' →
      Wraps (call i).fileId (call i).upstreamId value db' :=
    fun i value db db' wraps mapped f returned =>
      ⟨(wraps f returned).1.mapped mapped, (wraps f returned).2⟩
  obtain ⟨mapped, returned⟩ := Reaches.returned each stays reached
  constructor
  · intro f stored g stored' new _ live live' same
    exact (mapped.lone f stored new g stored' live' ⟨same.1.symm, same.2.symm⟩).symm
  · rintro i j f g files upstreams ⟨ended, returns⟩ ⟨ended', returns'⟩
    obtain ⟨current, file, upstream⟩ := returned i _ ended returns f rfl
    obtain ⟨current', file', upstream'⟩ := returned j _ ended' returns' g rfl
    have originals : f.originalFileId = g.originalFileId :=
      Option.some.inj (file.symm.trans (files.trans file'))
    exact congrArg FileMeta.fileId
      (current.unique current' ⟨originals, upstream.trans (upstreams.trans upstream'.symm)⟩)

end Runs

/-- Two calls for one file of an upstream. -/
def twoCalls (i : Fin 2) : WrapCall :=
  ⟨⟨1, 1, fun _ => "s", fun _ => if i.val = 0 then "a" else "b", .direct⟩, some "f1", 1⟩

/-- Both look for the mapping before either stores one. -/
theorem one_file_has_two_ids :
    ¬ ∀ (call : Fin 2 → WrapCall) (db : Db) (world : World) (history : History engine (Fin 2))
        (s : State engine (Fin 2)), Reaches (.any False) (wrapping db world call) history s →
      OneIdPerFile call db s := by
  intro one
  have ran : ∃ history s, Reaches (.any False) (wrapping Db.empty World.empty twoCalls) history s ∧
      s.db.fileMetas.rows = [⟨3, "file-a", "f1", "batch_output", 1, false⟩,
        ⟨4, "file-b", "f1", "batch_output", 1, false⟩] :=
    State.exists_of_play (.any False) _ (schedule [0, 1, 0, 1]) (fun s => s.db.fileMetas.rows =
      [⟨3, "file-a", "f1", "batch_output", 1, false⟩, ⟨4, "file-b", "f1", "batch_output", 1, false⟩])
      (by decide +kernel)
  obtain ⟨history, s, reached, rows⟩ := ran
  have stored : ∀ f, f ∈ s.db.fileMetas ↔ f = ⟨3, "file-a", "f1", "batch_output", 1, false⟩ ∨
      f = ⟨4, "file-b", "f1", "batch_output", 1, false⟩ := by
    intro f
    rw [Table.mem_def, rows, List.mem_cons, List.mem_singleton]
  have same := (one twoCalls Db.empty World.empty history s reached).rows _ ((stored _).mpr (.inl rfl)) _
    ((stored _).mpr (.inr rfl)) (List.not_mem_nil) (List.not_mem_nil) rfl rfl ⟨rfl, rfl⟩
  exact absurd same (by decide)

/-- The second call finds what the first has stored. -/
theorem wrapFile_oneIdPerFile_inTurn : ∃ history s,
    Reaches (undisturbed (fun _ => False)) (wrapping Db.empty World.empty twoCalls) history s ∧
      (∀ i, (s.procs i).Returned) ∧ OneIdPerFile twoCalls Db.empty s := by
  have ran : ∃ history s,
      Reaches (undisturbed (fun _ => False)) (wrapping Db.empty World.empty twoCalls) history s ∧
        ∀ i, (s.procs i).Returned :=
    State.exists_of_play (undisturbed (fun _ => False)) _ (schedule [0, 0, 1])
      (fun s => ∀ i, (s.procs i).Returned) (by decide +kernel)
  obtain ⟨history, s, reached, returned⟩ := ran
  exact ⟨history, s, reached, returned,
    wrapFile_oneIdPerFile twoCalls (fun _ => False) Db.empty World.empty history s reached⟩

end LLMPool.ProxyViews
