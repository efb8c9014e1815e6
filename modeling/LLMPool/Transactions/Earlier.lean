import LLMPool.Transactions.Paths

/-! What a run has passed through: a process knows of the rows and of the world what was so
in some earlier state. -/
namespace Transactions
variable {E : Engine} {ι : Type} [DecidableEq ι] {D : Discipline E} {initial s s' : State E ι}
  {P P' : State E ι → Prop}

/-- On its way to `s` the run has passed through a state that satisfies `P`. -/
def Earlier (D : Discipline E) (initial s : State E ι) (P : State E ι → Prop) : Prop :=
  ∃ before middle after, Reaches D initial before middle ∧ Reaches D middle after s ∧ P middle

theorem Earlier.now (reached : Reaches D initial history s) (holds : P s) : Earlier D initial s P :=
  ⟨history, s, [], reached, .start, holds⟩

theorem Earlier.later (earlier : Earlier D initial s P) (reached : Reaches D s history s') :
    Earlier D initial s' P := by
  obtain ⟨before, middle, after, first, second, holds⟩ := earlier
  exact ⟨before, middle, _, first, second.trans reached, holds⟩

theorem Earlier.step (earlier : Earlier D initial s P) (stepped : Step D s i writes s') : Earlier D initial s' P :=
  earlier.later (.step .start stepped)

theorem Earlier.mono (earlier : Earlier D initial s P) (weaker : ∀ middle, P middle → P' middle) :
    Earlier D initial s P' := by
  obtain ⟨before, middle, after, first, second, holds⟩ := earlier
  exact ⟨before, middle, after, first, second, weaker middle holds⟩

/-- What no write takes back still holds. -/
theorem Earlier.still {I : E.Db → Prop} (earlier : Earlier D initial s (fun middle => I middle.db))
    (kept : ∀ w db, I db → I (E.apply w db)) : I s.db := by
  obtain ⟨_, middle, _, _, second, holds⟩ := earlier
  have all : ∀ ws db, I db → I (E.applyAll ws db) := by
    intro ws
    induction ws with
    | nil => exact fun _ holds => holds
    | cons w ws ih => exact fun db holds => ih _ (kept w db holds)
  induction second with
  | start => exact holds
  | step _ stepped ih => exact stepped.db ▸ all _ _ ih

variable {program : ι → Prog E Unit} {db : E.Db} {world : E.World} {i : ι}

/-- What only some writes bring about was so from the start, or a process has made such a write permanent. -/
theorem Reaches.brought {I : E.Db → Prop} {W : E.Write → Prop} (apply : ∀ w db, I (E.apply w db) → I db ∨ W w)
    (reached : Reaches D (.starting db world program) history s) (now : I s.db) :
    I db ∨ ∃ i, ∃ w ∈ permanent (s.procs i).calls, W w := by
  have all : ∀ ws db, I (E.applyAll ws db) → I db ∨ ∃ w ∈ ws, W w := by
    intro ws
    induction ws with
    | nil => exact fun _ => .inl
    | cons w ws ih =>
        intro db now
        rcases ih _ now with before | ⟨w', member, brings⟩
        · exact (apply w db before).imp id (fun brings => ⟨w, List.mem_cons_self, brings⟩)
        · exact .inr ⟨w', List.mem_cons_of_mem _ member, brings⟩
  induction reached with
  | start => exact .inl now
  | @step _ s i ws s' _ stepped ih =>
      rw [stepped.db] at now
      obtain ⟨op, next, reply, world', ready, _, _, _, rfl, rfl⟩ := stepped.advanced
      have here : (s.procs i).session = session (s.procs i).calls := by simp only [Proc.session, ready]
      rcases all _ _ now with before | ⟨w, member, brings⟩
      · rcases ih before with initial | ⟨j, w, member, brings⟩
        · exact .inl initial
        · exact .inr ⟨j, w, (State.mem_advance_permanent s).mpr (.inr member), brings⟩
      · exact .inr ⟨i, w, (State.mem_advance_permanent s).mpr (.inl ⟨rfl, here ▸ member⟩), brings⟩

/-- Calls are not forgotten. -/
theorem Reaches.calls_kept (reached : Reaches D s history s') : (s.procs i).calls ⊆ (s'.procs i).calls := by
  induction reached with
  | start => exact List.Subset.refl _
  | step _ stepped ih =>
      obtain ⟨op, next, reply, world, _, _, rfl⟩ := stepped.called
      exact fun call member => (State.mem_advance_calls _).mpr (.inr (ih member))

/-- A statement on the pool was answered in an earlier state. -/
theorem Reaches.read_earlier (reached : Reaches D (.starting db world program) history s) {stmt : E.Stmt}
    {answer : E.Answer stmt} (member : (⟨.auto stmt, .ok answer⟩ : Call E) ∈ (s.procs i).calls) :
    Earlier D (.starting db world program) s (fun middle => ∃ env, E.exec stmt env middle.db = some answer) := by
  obtain ⟨before, middle, after, env, _, first, second, _, executed⟩ := reached.asked member
  exact ⟨before, middle, after, first, second, env, executed⟩

/-- What a statement on the pool has written was there in the state after it. -/
theorem Reaches.written_earlier (reached : Reaches D (.starting db world program) history s) {stmt : E.Stmt}
    {answer : E.Answer stmt} (member : (⟨.auto stmt, .ok answer⟩ : Call E) ∈ (s.procs i).calls) :
    Earlier D (.starting db world program) s (fun after => ∃ env rows, E.possible stmt env rows = true ∧
      E.exec stmt env rows = some answer ∧ after.db = E.applyAll (E.writes stmt answer) rows) := by
  obtain ⟨older, inside⟩ := exists_older member
  obtain ⟨_, middle, _, next, world', later, first, here, second, _, _, answers⟩ := reached.stepped inside
  rcases answers with ⟨_, refused⟩ | ⟨_, env, performed⟩
  · cases refused
  · obtain ⟨drawn, executed⟩ : E.possible stmt env middle.db = true ∧ E.exec stmt env middle.db = some answer :=
      Op.answer_ok performed
    exact ⟨_, _, later, first.step here, second, env, middle.db, drawn, executed, rfl⟩

/-- A call to anything but the database was answered in an earlier state. -/
theorem Reaches.replied_earlier (reached : Reaches D (.starting db world program) history s) {c : E.Remote}
    {reply : E.Reply c} (member : (⟨.remote c, .ok reply⟩ : Call E) ∈ (s.procs i).calls) :
    Earlier D (.starting db world program) s (fun middle => ∃ env, (E.remote c env middle.world).1 = reply) := by
  rcases reached.performed member with ⟨_, refused⟩ | ⟨before, middle, after, env, _, first, second, _, performed⟩
  · cases refused
  · exact ⟨before, middle, after, first, second, env, Except.ok.inj (Option.some.inj performed)⟩

end Transactions
