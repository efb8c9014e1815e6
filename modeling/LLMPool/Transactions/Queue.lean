import LLMPool.Transactions.Interleaving

/-! Queues that deliver at least once: in every interleaving a task waits from its push
to its acknowledgement, and is delivered only meanwhile. -/
namespace Transactions
variable {E : Engine} {τ ι : Type}

/-- A call to anything but the database, that got its reply. -/
def Call.Answered : Call E → Prop
  | ⟨.remote _, .ok _⟩ => True
  | _ => False

def Call.of (c : E.Remote) (env : E.Env) (world : E.World) : Call E :=
  ⟨.remote c, .ok (E.remote c env world).1⟩

/-- The calls that move a task, and where it waits between them. -/
structure Queue (E : Engine) (τ : Type) where
  waiting : E.World → τ → Prop
  pushed : τ → Call E
  delivered : τ → Call E
  acknowledged : τ → Call E
  answered : ∀ task, (pushed task).Answered ∧ (delivered task).Answered ∧ (acknowledged task).Answered
  arrives : ∀ c env world task, waiting (E.remote c env world).2 task →
    waiting world task ∨ pushed task = .of c env world
  leaves : ∀ c env world task, waiting world task →
    waiting (E.remote c env world).2 task ∨ acknowledged task = .of c env world
  delivers : ∀ c env world task, delivered task = .of c env world → waiting world task
  enqueues : ∀ c env world task, pushed task = .of c env world → waiting (E.remote c env world).2 task

namespace Queue

/-- What a call does to the waiting tasks. -/
structure Moves (q : Queue E τ) (call : Call E) (world world' : E.World) : Prop where
  arrives : ∀ task, q.waiting world' task → q.waiting world task ∨ call = q.pushed task
  leaves : ∀ task, q.waiting world task → q.waiting world' task ∨ call = q.acknowledged task
  delivers : ∀ task, call = q.delivered task → q.waiting world task
  enqueues : ∀ task, call = q.pushed task → q.waiting world' task

variable {q : Queue E τ}

theorem moves_still {call : Call E} {world : E.World} (other : ¬call.Answered) :
    q.Moves call world world where
  arrives _ waiting := .inl waiting
  leaves _ waiting := .inl waiting
  delivers task same := absurd (same ▸ (q.answered task).2.1) other
  enqueues task same := absurd (same ▸ (q.answered task).1) other

theorem moves_of (c : E.Remote) (env : E.Env) (world : E.World) :
    q.Moves (.of c env world) world (E.remote c env world).2 where
  arrives task waiting := (q.arrives c env world task waiting).imp_right Eq.symm
  leaves task waiting := (q.leaves c env world task waiting).imp_right Eq.symm
  delivers task same := q.delivers c env world task same.symm
  enqueues task same := q.enqueues c env world task same.symm

end Queue

section Runs
variable [DecidableEq ι] {D : Discipline E} {s s' : State E ι} {q : Queue E τ} {task : τ}
  {program : ι → Prog E Unit} {db : E.Db} {world : E.World}

/-- A step adds one call to those of its process, and moves the tasks by it. -/
theorem Step.moves (q : Queue E τ) (stepped : Step D s i writes s') :
    ∃ call, q.Moves call s.world s'.world ∧
      ∀ j other, other ∈ (s'.procs j).calls ↔ (j = i ∧ other = call) ∨ other ∈ (s.procs j).calls := by
  obtain ⟨op, next, reply, world, ready, answers, _, _, _, rfl⟩ := stepped.advanced
  refine ⟨⟨op, reply⟩, ?_, fun j other => s.mem_advance_calls⟩
  rcases answers with ⟨_, rfl, rfl⟩ | ⟨_, env, rfl, performed⟩
  · refine Queue.moves_still ?_
    cases op <;> exact id
  · cases op with
    | remote c =>
        cases performed
        exact Queue.moves_of c env s.world
    | begin | sql | commit | auto => exact Queue.moves_still id

/-- A task that waits, or has been delivered, was there from the start or was pushed. -/
theorem Reaches.arrived (q : Queue E τ) (reached : Reaches D (.starting db world program) history s)
    (found : q.waiting s.world task ∨ ∃ i, q.delivered task ∈ (s.procs i).calls) :
    q.waiting world task ∨ ∃ i, q.pushed task ∈ (s.procs i).calls := by
  induction reached with
  | start =>
      rcases found with waiting | ⟨i, never⟩
      · exact .inl waiting
      · cases never
  | @step _ s i _ s' _ stepped ih =>
      obtain ⟨call, moves, calls⟩ := stepped.moves q
      have still : (q.waiting world task ∨ ∃ j, q.pushed task ∈ (s.procs j).calls) →
          q.waiting world task ∨ ∃ j, q.pushed task ∈ (s'.procs j).calls :=
        Or.imp_right (fun ⟨j, pushed⟩ => ⟨j, (calls j _).mpr (.inr pushed)⟩)
      rcases found with waiting | ⟨j, delivered⟩
      · rcases moves.arrives task waiting with before | now
        · exact still (ih (.inl before))
        · exact .inr ⟨i, (calls i _).mpr (.inl ⟨rfl, now.symm⟩)⟩
      · rcases (calls j _).mp delivered with ⟨_, now⟩ | before
        · exact still (ih (.inl (moves.delivers task now.symm)))
        · exact still (ih (.inr ⟨j, before⟩))

/-- A task that was there from the start or was pushed waits until it is acknowledged. -/
theorem Reaches.awaited (q : Queue E τ) (reached : Reaches D (.starting db world program) history s)
    (owed : q.waiting world task ∨ ∃ i, q.pushed task ∈ (s.procs i).calls) :
    q.waiting s.world task ∨ ∃ i, q.acknowledged task ∈ (s.procs i).calls := by
  induction reached with
  | start =>
      rcases owed with waiting | ⟨i, never⟩
      · exact .inl waiting
      · cases never
  | @step _ s i _ s' _ stepped ih =>
      obtain ⟨call, moves, calls⟩ := stepped.moves q
      have still : (q.waiting s.world task ∨ ∃ j, q.acknowledged task ∈ (s.procs j).calls) →
          q.waiting s'.world task ∨ ∃ j, q.acknowledged task ∈ (s'.procs j).calls := by
        rintro (waiting | ⟨j, acknowledged⟩)
        · rcases moves.leaves task waiting with stays | now
          · exact .inl stays
          · exact .inr ⟨i, (calls i _).mpr (.inl ⟨rfl, now.symm⟩)⟩
        · exact .inr ⟨j, (calls j _).mpr (.inr acknowledged)⟩
      rcases owed with initial | ⟨j, pushed⟩
      · exact still (ih (.inl initial))
      · rcases (calls j _).mp pushed with ⟨_, now⟩ | before
        · exact .inl (moves.enqueues task now.symm)
        · exact still (ih (.inr ⟨j, before⟩))

end Runs

end Transactions
