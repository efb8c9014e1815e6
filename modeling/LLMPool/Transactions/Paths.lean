import LLMPool.Transactions.Interleaving

/-! Facts about every path of a program, whatever its calls are answered: they need
no database, and hold in every interleaving. -/
namespace Transactions
variable {E : Engine} {ι : Type}

/-- A statement is only answered as it would be on some database, and not in a
transaction that has failed. -/
def Op.Sensible (t : Session E) : (op : Op E) → Except Failure op.Reply → Prop
  | .sql s, .ok answer => t.failed = false ∧ ∃ env db, E.exec s env db = some answer
  | .auto s, .ok answer => ∃ env db, E.exec s env db = some answer
  | _, _ => True

theorem Op.sensible_fault (t : Session E) (op : Op E) : op.Sensible t (.error .fault) := by
  cases op <;> trivial

theorem Op.sensible_of_perform {op : Op E} {reply : Except Failure op.Reply}
    (performed : op.perform env t db world = some reply) : op.Sensible t reply := by
  cases op with
  | sql s =>
      rcases perform_sql performed with ⟨_, sound, ran⟩ | ⟨_, rfl⟩
      · cases reply with
        | ok answer => exact ⟨sound, env, _, (answer_ok ran).2⟩
        | error reason => trivial
      · trivial
  | auto s =>
      cases reply with
      | ok answer => exact ⟨env, db, (answer_ok performed).2⟩
      | error reason => trivial
  | begin | commit | remote => trivial

/-- Each call of a program satisfies `P` after the calls before it, and the value
it returns satisfies `Q`. -/
def Prog.path (P : List (Call E) → Op E → Prop) (Q : α → List (Call E) → Prop) :
    Prog E α → List (Call E) → Prop
  | .done value, calls => Q value calls
  | .call op next, calls => P calls op ∧
      ∀ reply, op.Sensible (session calls) reply → (next reply).path P Q (⟨op, reply⟩ :: calls)

/-- No condition on a program's calls. -/
def anyCall (_ : List (Call E)) (_ : Op E) : Prop := True

variable {P : List (Call E) → Op E → Prop} {calls : List (Call E)}

theorem path_bind {Q : β → List (Call E) → Prop} {p : Prog E α} {f : α → Prog E β} :
    (p >>= f).path P Q calls ↔ p.path P (fun value calls => (f value).path P Q calls) calls := by
  change (p.bind f).path P Q calls ↔ _
  induction p generalizing calls with
  | done value => rfl
  | call op next ih =>
      simp only [Prog.bind, Prog.path]
      exact and_congr_right (fun _ => forall₂_congr (fun reply _ => ih reply))

theorem path_run_bind {Q : Except ε β → List (Call E) → Prop} {x : ExceptT ε (Prog E) α}
    {f : α → ExceptT ε (Prog E) β} :
    (x >>= f).run.path P Q calls ↔ x.run.path P (fun result calls =>
      match result with
      | .ok value => (f value).run.path P Q calls
      | .error e => Q (.error e) calls) calls := by
  rw [ExceptT.run_bind, path_bind]
  refine Iff.of_eq (congrArg (fun Q' => x.run.path P Q' calls) ?_)
  funext result calls
  cases result <;> rfl

theorem path_mono {P' : List (Call E) → Op E → Prop} {Q Q' : α → List (Call E) → Prop} {p : Prog E α}
    (made : ∀ calls op, P calls op → P' calls op)
    (result : ∀ value calls, Q value calls → Q' value calls) (h : p.path P Q calls) :
    p.path P' Q' calls := by
  induction p generalizing calls with
  | done value => exact result _ _ h
  | call op next ih =>
      exact ⟨made _ _ h.1, fun reply sensible => ih reply (h.2 reply sensible)⟩

/-- Two fallible parts in sequence meet in an assertion between them. -/
theorem path_seq {M : Except ε α → List (Call E) → Prop} {Q : Except ε β → List (Call E) → Prop}
    {x : ExceptT ε (Prog E) α} {f : α → ExceptT ε (Prog E) β} (first : x.run.path P M calls)
    (rest : ∀ value calls, M (.ok value) calls → (f value).run.path P Q calls)
    (stops : ∀ e calls, M (.error e) calls → Q (.error e) calls) : (x >>= f).run.path P Q calls := by
  rw [path_run_bind]
  refine path_mono (fun _ _ made => made) ?_ first
  rintro (e | value) calls middle
  · exact stops e calls middle
  · exact rest value calls middle

/-- Every path makes some calls. -/
theorem path_any {p : Prog E α} : p.path anyCall (fun _ _ => True) calls := by
  induction p generalizing calls with
  | done value => trivial
  | call op next ih => exact ⟨trivial, fun reply _ => ih reply⟩

theorem path_and {P' : List (Call E) → Op E → Prop} {Q Q' : α → List (Call E) → Prop} {p : Prog E α}
    (h : p.path P Q calls) (h' : p.path P' Q' calls) :
    p.path (fun calls op => P calls op ∧ P' calls op) (fun value calls => Q value calls ∧ Q' value calls)
      calls := by
  induction p generalizing calls with
  | done value => exact ⟨h, h'⟩
  | call op next ih =>
      exact ⟨⟨h.1, h'.1⟩, fun reply sensible => ih reply (h.2 reply sensible) (h'.2 reply sensible)⟩

theorem path_op {Q : Except Failure op.Reply → List (Call E) → Prop} (made : P calls op)
    (answered : ∀ reply, op.Sensible (session calls) reply → Q reply (⟨op, reply⟩ :: calls)) :
    (Prog.op op).path P Q calls :=
  ⟨made, answered⟩

/-- The calls of a program come after those before it. -/
theorem path_extends {Q : α → List (Call E) → Prop} {p : Prog E α} (h : p.path P Q calls) :
    p.path (fun later op => calls <:+ later ∧ P later op) (fun value later => calls <:+ later ∧ Q value later)
      calls := by
  have extends_from : ∀ later, calls <:+ later → p.path P Q later →
      p.path (fun later op => calls <:+ later ∧ P later op)
        (fun value later => calls <:+ later ∧ Q value later) later := by
    clear h
    induction p with
    | done value => exact fun later earlier h => ⟨earlier, h⟩
    | call op next ih =>
        intro later earlier h
        exact ⟨⟨earlier, h.1⟩, fun reply sensible =>
          ih reply _ (earlier.trans (List.suffix_cons _ _)) (h.2 reply sensible)⟩
  exact extends_from calls List.suffix_rfl h

/-- What is known of the calls so far is known of all later ones. -/
theorem path_bind_later {M : α → List (Call E) → Prop} {Q : β → List (Call E) → Prop} {p : Prog E α}
    {f : α → Prog E β} (first : p.path P M calls)
    (rest : ∀ value later, calls <:+ later → M value later → (f value).path P Q later) :
    (p >>= f).path P Q calls := by
  refine path_bind.mpr (path_mono (fun _ _ made => made.2) ?_ (path_extends first))
  exact fun value later reached => rest value later reached.1 reached.2

/-- Every call that a program can make satisfies `P`. -/
def Prog.Only (P : Op E → Prop) : Prog E α → Prop
  | .done _ => True
  | .call op next => P op ∧ ∀ reply, (next reply).Only P

section Only
variable {P : Op E → Prop}

theorem only_bind {p : Prog E α} {f : α → Prog E β} (first : p.Only P) (rest : ∀ value, (f value).Only P) :
    (p >>= f).Only P := by
  change (p.bind f).Only P
  induction p with
  | done value => exact rest value
  | call op next ih => exact ⟨first.1, fun reply => ih reply (first.2 reply)⟩

theorem only_run_bind {x : ExceptT ε (Prog E) α} {f : α → ExceptT ε (Prog E) β}
    (first : x.run.Only P) (rest : ∀ value, (f value).run.Only P) : (x >>= f).run.Only P := by
  rw [ExceptT.run_bind]
  refine only_bind first ?_
  rintro (e | value)
  · trivial
  · exact rest value

theorem Prog.Only.mono {P' : Op E → Prop} {p : Prog E α} (weaker : ∀ op, P op → P' op) (only : p.Only P) :
    p.Only P' := by
  induction p with
  | done value => trivial
  | call op next ih => exact ⟨weaker op only.1, fun reply => ih reply (only.2 reply)⟩

theorem only_op {op : Op E} (allowed : P op) : (Prog.op op).Only P := ⟨allowed, fun _ => trivial⟩

theorem Prog.Only.path {p : Prog E α} (only : p.Only P) (earlier : ∀ call ∈ calls, P call.op) :
    p.path (fun _ _ => True) (fun _ calls => ∀ call ∈ calls, P call.op) calls := by
  induction p generalizing calls with
  | done value => exact earlier
  | call op next ih =>
      refine ⟨trivial, fun reply _ => ih reply (only.2 reply) ?_⟩
      intro call member
      rcases List.mem_cons.mp member with rfl | older
      · exact only.1
      · exact earlier call older

theorem Prog.Only.made {p : Prog E α} (only : p.Only P) :
    p.path (fun _ => P) (fun _ _ => True) calls := by
  induction p generalizing calls with
  | done value => trivial
  | call op next ih => exact ⟨only.1, fun reply _ => ih reply (only.2 reply)⟩

end Only

/-- A call outside of a transaction. -/
def Op.Pooled : Op E → Prop
  | .auto _ | .remote _ => True
  | _ => False

/-- The value that was written last to a column, where each process names the value it
writes there, if any. -/
def lastWritten (column : ι → Option α) (history : History E ι) (initial : α) : α :=
  (history.findSome? (fun e => column e.1)).getD initial

theorem lastWritten_cons {column : ι → Option α} {history : History E ι} {initial : α} :
    lastWritten column ((i, writes) :: history) initial =
      (column i).getD (lastWritten column history initial) := by
  rw [lastWritten, lastWritten, List.findSome?_cons]
  cases column i <;> rfl

theorem lastWritten_of_only {column : ι → Option α} {history : History E ι} {initial : α} {i : ι}
    (each : ∀ j, column j = none ∨ column j = some value) (sets : column i = some value)
    (written : ∃ ws, (i, ws) ∈ history) : lastWritten column history initial = value := by
  induction history with
  | nil => exact absurd written.choose_spec List.not_mem_nil
  | cons e history ih =>
      obtain ⟨j, ws⟩ := e
      rw [lastWritten_cons]
      rcases each j with none | some
      · rw [none, Option.getD_none]
        obtain ⟨ws', member⟩ := written
        rcases List.mem_cons.mp member with now | before
        · cases now
          cases sets.symm.trans none
        · exact ih ⟨ws', before⟩
      · rw [some, Option.getD_some]

section Runs
variable [DecidableEq ι] {D : Discipline E} {Q : ι → List (Call E) → Prop}
  {P : ι → List (Call E) → Op E → Prop} {s s' : State E ι}

/-- The paths of the processes of a state. -/
def State.Paths (P : ι → List (Call E) → Op E → Prop) (Q : ι → List (Call E) → Prop)
    (s : State E ι) : Prop :=
  ∀ i, (s.procs i).prog.path (P i) (fun _ => Q i) (s.procs i).calls

/-- The calls that the processes of a state have made, each after those before it. -/
def State.Made (P : ι → List (Call E) → Op E → Prop) (s : State E ι) : Prop :=
  ∀ i, ∀ call ∈ (s.procs i).calls, ∃ older, call :: older <:+ (s.procs i).calls ∧
    P i older call.op ∧ call.op.Sensible (session older) call.reply

theorem Step.called (stepped : Step D s i writes s') : ∃ op next reply world,
    (s.procs i).prog = .call op next ∧ op.Sensible (session (s.procs i).calls) reply ∧
      s' = s.advance i op next reply world := by
  obtain ⟨op, next, reply, world, ready, answers, _, _, _, rfl⟩ := stepped.advanced
  have here : (s.procs i).session = session (s.procs i).calls := by
    simp only [Proc.session, ready]
  refine ⟨op, next, reply, world, ready, ?_, rfl⟩
  rw [← here]
  rcases answers with ⟨_, rfl, _⟩ | ⟨_, env, _, performed⟩
  · exact op.sensible_fault _
  · exact op.sensible_of_perform performed

theorem Step.paths (paths : s.Paths P Q) (stepped : Step D s i writes s') : s'.Paths P Q := by
  obtain ⟨op, next, reply, world, ready, sensible, rfl⟩ := stepped.called
  intro j
  by_cases here : j = i
  · subst here
    have path := paths j
    rw [ready] at path
    simp only [State.advance, Function.update_self]
    exact path.2 reply sensible
  · simp only [State.advance, Function.update_of_ne here]
    exact paths j

/-- What holds of every path of the programs holds of every process of a run. -/
theorem Reaches.paths (each : s.Paths P Q) (reached : Reaches D s history s') : s'.Paths P Q := by
  induction reached with
  | start => exact each
  | step _ stepped ih => exact stepped.paths ih

theorem exists_older {calls : List (Call E)} {call : Call E} (member : call ∈ calls) :
    ∃ older, call :: older <:+ calls := by
  obtain ⟨newer, older, rfl⟩ := List.append_of_mem member
  exact ⟨older, List.suffix_append _ _⟩

/-- Each call of a process was a step of the run, after exactly the calls before it. -/
theorem Reaches.stepped {program : ι → Prog E Unit}
    (reached : Reaches D (.starting db world program) history s) {i : ι} {call : Call E}
    (inside : call :: older <:+ (s.procs i).calls) :
    ∃ earlier middle writes next world' later, Reaches D (.starting db world program) earlier middle ∧
      Step D middle i writes (middle.advance i call.op next call.reply world') ∧
      Reaches D (middle.advance i call.op next call.reply world') later s ∧
      (middle.procs i).prog = .call call.op next ∧ (middle.procs i).calls = older ∧
      ((D.faults call.op ∧ call.reply = .error .fault) ∨ (D.admits older call.op middle.db ∧
        ∃ env, call.op.perform env (middle.procs i).session middle.db middle.world = some call.reply)) := by
  induction reached with
  | start =>
      obtain ⟨newer, same⟩ := inside
      exact absurd same (by simp [State.starting, Proc.start])
  | @step history s j writes s' reached stepped ih =>
      have last : Reaches D s (History.record [] j writes) s' := .step .start stepped
      obtain ⟨op, next, reply, world', ready, answers, _, _, _, same⟩ := stepped.advanced
      rw [same] at inside
      rcases State.suffix_advance_calls s inside with ⟨rfl, rfl, rfl⟩ | before
      · refine ⟨history, s, writes, next, world', [], reached, same ▸ stepped, same ▸ .start, ready, rfl, ?_⟩
        rcases answers with ⟨faulty, refused, _⟩ | ⟨admitted, env, _, performed⟩
        · exact .inl ⟨faulty, refused⟩
        · exact .inr ⟨admitted, env, performed⟩
      · obtain ⟨earlier, middle, ws, next, world', later, first, here, second, rest⟩ := ih before
        exact ⟨earlier, middle, ws, next, world', _, first, here, second.trans last, rest⟩

/-- Each call of a process was made after exactly the calls before it. -/
theorem Reaches.called {program : ι → Prog E Unit}
    (each : (State.starting db world program).Paths P Q)
    (reached : Reaches D (.starting db world program) history s) (i : ι) {call : Call E}
    (inside : call :: older <:+ (s.procs i).calls) :
    P i older call.op ∧ call.op.Sensible (session older) call.reply := by
  obtain ⟨_, middle, _, next, _, _, first, _, _, ready, before, answers⟩ := reached.stepped inside
  have path := first.paths each i
  have open_session : (middle.procs i).session = session older := by
    simp only [Proc.session, ready, before]
  rw [ready, before] at path
  rw [open_session] at answers
  refine ⟨path.1, ?_⟩
  rcases answers with ⟨_, failed⟩ | ⟨_, env, performed⟩
  · exact failed ▸ call.op.sensible_fault _
  · exact Op.sensible_of_perform performed

theorem Reaches.made {program : ι → Prog E Unit}
    (each : (State.starting db world program).Paths P Q)
    (reached : Reaches D (.starting db world program) history s) : s.Made P := by
  intro i call member
  obtain ⟨older, inside⟩ := exists_older member
  exact ⟨older, inside, reached.called each i inside⟩

/-- The paths of one process, whatever the others do. -/
theorem State.paths_of {P : List (Call E) → Op E → Prop} {Q : List (Call E) → Prop} {program : ι → Prog E Unit}
    {i : ι} {db : E.Db} {world : E.World} (path : (program i).path P (fun _ => Q) []) :
    (State.starting db world program).Paths (fun j calls op => j = i → P calls op)
      (fun j calls => j = i → Q calls) := by
  intro j
  by_cases here : j = i
  · subst here
    exact path_mono (fun _ _ made _ => made) (fun _ _ ended _ => ended) path
  · exact path_mono (fun _ _ _ same => absurd same here) (fun _ _ _ same => absurd same here) path_any

section One
variable {P : List (Call E) → Op E → Prop} {Q : List (Call E) → Prop} {program : ι → Prog E Unit} {i : ι}

theorem Reaches.follows (path : (program i).path P (fun _ => Q) [])
    (reached : Reaches D (.starting db world program) history s) {call : Call E}
    (inside : call :: older <:+ (s.procs i).calls) : P older call.op ∧ call.op.Sensible (session older) call.reply :=
  have called := reached.called (State.paths_of path) i inside
  ⟨called.1 rfl, called.2⟩

theorem Reaches.ends (path : (program i).path P (fun _ => Q) [])
    (reached : Reaches D (.starting db world program) history s) (returned : (s.procs i).Returned) :
    Q (s.procs i).calls := by
  have rest := reached.paths (State.paths_of path) i
  rw [returned] at rest
  exact rest rfl

end One

/-- A call that did not fail got its reply in a state that was passed through. -/
theorem Reaches.performed {program : ι → Prog E Unit}
    (reached : Reaches D (.starting db world program) history s) {i : ι} {call : Call E}
    (member : call ∈ (s.procs i).calls) :
    (D.faults call.op ∧ call.reply = .error .fault) ∨
      ∃ earlier middle later env next, Reaches D (.starting db world program) earlier middle ∧
        Reaches D middle later s ∧ (middle.procs i).prog = .call call.op next ∧
        call.op.perform env (middle.procs i).session middle.db middle.world = some call.reply := by
  obtain ⟨older, inside⟩ := exists_older member
  obtain ⟨earlier, middle, writes, next, world', later, first, here, second, ready, _, answers⟩ :=
    reached.stepped inside
  refine answers.imp id (fun ⟨_, env, performed⟩ => ?_)
  exact ⟨earlier, middle, _, env, next, first, (Reaches.step .start here).trans second, ready, performed⟩

/-- What a statement on the pool answered was so when it ran. -/
theorem Reaches.asked {program : ι → Prog E Unit}
    (reached : Reaches D (.starting db world program) history s) {i : ι} {stmt : E.Stmt}
    {answer : E.Answer stmt} (member : (⟨.auto stmt, .ok answer⟩ : Call E) ∈ (s.procs i).calls) :
    ∃ earlier middle later env next, Reaches D (.starting db world program) earlier middle ∧
      Reaches D middle later s ∧ (middle.procs i).prog = .call (.auto stmt) next ∧
      E.exec stmt env middle.db = some answer := by
  rcases reached.performed member with ⟨_, refused⟩ | ⟨earlier, middle, later, env, next, first, second, ready, ran⟩
  · cases refused
  · exact ⟨earlier, middle, later, env, next, first, second, ready, (Op.answer_ok ran).2⟩

/-- What a statement on the pool has written was there from then on. -/
theorem Reaches.stored {program : ι → Prog E Unit}
    (reached : Reaches D (.starting db world program) history s) {i : ι} {stmt : E.Stmt}
    {answer : E.Answer stmt} (member : (⟨.auto stmt, .ok answer⟩ : Call E) ∈ (s.procs i).calls) :
    ∃ (middle after : State E ι) (later : History E ι) (env : E.Env),
      E.possible stmt env middle.db = true ∧ E.exec stmt env middle.db = some answer ∧
      after.db = E.applyAll (E.writes stmt answer) middle.db ∧ Reaches D after later s := by
  obtain ⟨older, inside⟩ := exists_older member
  obtain ⟨_, middle, _, next, world', later, _, _, second, _, _, answers⟩ := reached.stepped inside
  rcases answers with ⟨_, refused⟩ | ⟨_, env, performed⟩
  · cases refused
  · obtain ⟨drawn, executed⟩ : E.possible stmt env middle.db = true ∧ E.exec stmt env middle.db = some answer :=
      Op.answer_ok performed
    exact ⟨middle, _, later, env, drawn, executed, rfl, second⟩

/-- A process that has made something permanent is in the history. -/
theorem Reaches.recorded {program : ι → Prog E Unit}
    (reached : Reaches D (.starting db world program) history s) (i : ι) :
    permanent (s.procs i).calls = [] ∨ ∃ ws, (i, ws) ∈ history := by
  induction reached with
  | start => exact .inl rfl
  | @step history s j writes s' reached stepped ih =>
      rcases ih with nothing | ⟨ws, before⟩
      · obtain ⟨op, next, reply, world, ready, _, _, _, made, rfl⟩ := stepped.advanced
        by_cases here : i = j
        · subst here
          have calls : (s.procs i).session = session (s.procs i).calls := by
            simp only [Proc.session, ready]
          simp only [State.advance, Function.update_self, permanent, nothing, ← calls, ← made,
            List.nil_append]
          cases writes with
          | nil => exact .inl rfl
          | cons w ws => exact .inr ⟨w :: ws, List.mem_cons_self⟩
        · simp only [State.advance, Function.update_of_ne here, nothing, true_or]
      · refine .inr ⟨ws, ?_⟩
        cases writes with
        | nil => exact before
        | cons => exact List.mem_cons_of_mem _ before

/-- Where no transaction has written, no process has committed anything. -/
theorem Reaches.silent {program : ι → Prog E Unit}
    (reached : Reaches D (.starting db world program) [] s) (i : ι) :
    permanent (s.procs i).calls = [] := by
  rcases reached.recorded i with nothing | ⟨ws, written⟩
  · exact nothing
  · cases written

/-- Where a program's statements run on the pool, a step makes permanent what one of
them has written, on the rows that it has run on. -/
theorem Step.pooled (paths : s.Paths (fun _ _ op => op.Pooled) Q) (stepped : Step D s i writes s') :
    writes = [] ∨ ∃ stmt next env answer, (s.procs i).prog = .call (.auto stmt) next ∧
      D.admits (s.procs i).calls (.auto stmt) s.db ∧ E.possible stmt env s.db = true ∧
      E.exec stmt env s.db = some answer ∧ writes = E.writes stmt answer := by
  obtain ⟨op, next, reply, world, ready, answers, _, _, rfl, _⟩ := stepped.advanced
  have path := paths i
  rw [ready] at path
  cases op with
  | auto stmt =>
      rcases answers with ⟨_, rfl, _⟩ | ⟨admitted, env, _, performed⟩
      · exact .inl rfl
      · cases reply with
        | error reason => exact .inl rfl
        | ok answer =>
            obtain ⟨drawn, executed⟩ := Op.answer_ok performed
            exact .inr ⟨stmt, next, env, answer, ready, admitted, drawn, executed, rfl⟩
  | remote c => exact .inl (Op.commits_remote _ _)
  | begin | sql | commit => exact absurd path.1 id

/-- Where each statement of a process does to a row what the process stands for, the
row is what the processes of the history have made of it, in their order. -/
theorem Reaches.folded (part : E.Db → Option ρ) (effect : ι → ρ → ρ)
    (pooled : ∀ i calls op, P i calls op → op.Pooled)
    (does : ∀ i calls stmt env db answer, P i calls (.auto stmt) → D.admits calls (.auto stmt) db →
      E.exec stmt env db = some answer → E.writes stmt answer ≠ [] →
      part (E.applyAll (E.writes stmt answer) db) = (part db).map (effect i))
    (each : s.Paths P Q) (found : part s.db = some row) (reached : Reaches D s history s') :
    part s'.db = some (history.foldr (fun e => effect e.1) row) := by
  induction reached with
  | start => exact found
  | @step _ _ i writes _ reached stepped ih =>
      have path := reached.paths each
      have calm := fun j => path_mono (pooled j) (fun _ _ ended => ended) (path j)
      rw [stepped.db]
      cases writes with
      | nil => exact ih
      | cons w ws =>
          rcases stepped.pooled calm with empty | ⟨stmt, _, env, answer, ready, admitted, _, executed, wrote⟩
          · cases empty
          · have asked := path i
            rw [ready] at asked
            have done := does i _ stmt env _ answer asked.1 admitted executed
              (wrote ▸ List.cons_ne_nil w ws)
            rw [ih, ← wrote] at done
            exact done

/-- What a statement on the pool has shown of the rows stays known, where no write
takes it back. -/
theorem Reaches.recalled {F : (s : E.Stmt) → E.Answer s → E.Db → Prop} {program : ι → Prog E Unit}
    (learned : ∀ stmt env db answer, E.exec stmt env db = some answer → F stmt answer db)
    (kept : ∀ stmt answer w db, F stmt answer db → F stmt answer (E.apply w db))
    (reached : Reaches D (.starting db world program) history s) {i : ι} {stmt : E.Stmt}
    {answer : E.Answer stmt} (asked : (⟨.auto stmt, .ok answer⟩ : Call E) ∈ (s.procs i).calls) :
    F stmt answer s.db := by
  have keeps : ∀ stmt answer ws db, F stmt answer db → F stmt answer (E.applyAll ws db) := by
    intro stmt answer ws
    induction ws with
    | nil => exact fun _ known => known
    | cons w ws ih => exact fun db known => ih _ (kept stmt answer w db known)
  induction reached generalizing i stmt with
  | start => exact absurd asked List.not_mem_nil
  | @step _ s j _ _ reached stepped ih =>
      obtain ⟨op, next, reply, world, _, answers, _, _, _, rfl⟩ := stepped.advanced
      rcases (State.mem_advance_calls s).mp asked with ⟨_, now⟩ | before
      · cases now
        rcases answers with ⟨_, failed, _⟩ | ⟨_, env, _, performed⟩
        · cases failed
        · exact keeps _ _ _ _ (learned stmt env _ answer (Op.answer_ok performed).2)
      · exact keeps _ _ _ _ (ih before)

/-- The rows satisfy `I`, and no open transaction holds a write that breaks it. -/
structure State.Keeps (I : E.Db → Prop) (W : E.Write → Prop) (s : State E ι) : Prop where
  rows : I s.db
  pending : ∀ i, ∀ w ∈ (session (s.procs i).calls).writes, W w

/-- An invariant of the rows, from what each call of the programs may write. -/
theorem Reaches.kept {I : E.Db → Prop} {W : E.Write → Prop}
    (apply : ∀ w db, W w → I db → I (E.apply w db))
    (permits : ∀ i calls op db reply, P i calls op → D.admits calls op db → I db →
      ∀ w ∈ op.offers reply, W w)
    (each : s.Paths P Q) (start : s.Keeps I W) (reached : Reaches D s history s') :
    s'.Keeps I W := by
  induction reached with
  | start => exact start
  | @step _ s i _ _ reached stepped ih =>
      have path := reached.paths each i
      obtain ⟨op, next, reply, world, ready, answers, _, _, _, rfl⟩ := stepped.advanced
      rw [ready] at path
      have here : (s.procs i).session = session (s.procs i).calls := by
        simp only [Proc.session, ready]
      have offered : ∀ w ∈ op.offers reply, W w := by
        rcases answers with ⟨_, rfl, _⟩ | ⟨admitted, _, _, _⟩
        · cases op <;> exact fun _ never => absurd never List.not_mem_nil
        · exact permits i _ op _ reply path.1 admitted ih.rows
      constructor
      · have committed : ∀ w ∈ op.commits (s.procs i).session reply, W w := by
          intro w member
          rcases Op.mem_commits member with before | now
          · exact ih.pending i w (here ▸ before)
          · exact offered w now
        change I (E.applyAll (op.commits (s.procs i).session reply) s.db)
        generalize op.commits (s.procs i).session reply = ws at committed
        have rows := ih.rows
        generalize s.db = db at rows
        induction ws generalizing db with
        | nil => exact rows
        | cons w ws keep =>
            exact keep (fun v member => committed v (List.mem_cons_of_mem _ member)) _
              (apply w db (committed w List.mem_cons_self) rows)
      · intro j w member
        by_cases own : j = i
        · subst own
          simp only [State.advance, Function.update_self, session] at member
          rcases Op.mem_after member with before | now
          · exact ih.pending j w before
          · exact offered w now
        · simp only [State.advance, Function.update_of_ne own] at member
          exact ih.pending j w member

end Runs
end Transactions
