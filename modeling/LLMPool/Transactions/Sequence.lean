import LLMPool.Transactions.Alone
import LLMPool.Transactions.Paths

/-! Programs that run one after another, each call in an environment of its own, with what
every program has returned. -/
namespace Transactions
variable {E : Engine}

/-- What a call leaves behind. -/
def Solo.after (m : Solo E) (op : Op E) (reply : Except Failure op.Reply) (world : E.World) : Solo E where
  calls := ⟨op, reply⟩ :: m.calls
  db := E.applyAll (op.commits (session m.calls) reply) m.db
  world := world

/-- A program that runs to its end while no other does. -/
inductive Prog.Runs (faults : Op E → Prop) : Prog E α → Solo E → α → Solo E → Prop
  | done {value : α} {m : Solo E} : Runs faults (.done value) m value m
  | call {op : Op E} {next : Except Failure op.Reply → Prog E α} {reply : Except Failure op.Reply}
      {value : α} {m m' : Solo E} (env : E.Env) (performed : op.perform env (session m.calls) m.db m.world = some reply)
      (rest : Runs faults (next reply) (m.after op reply (op.moves env m.world)) value m') :
      Runs faults (.call op next) m value m'
  | fault {op : Op E} {next : Except Failure op.Reply → Prog E α} {value : α} {m m' : Solo E}
      (faulty : faults op) (rest : Runs faults (next (.error .fault)) (m.after op (.error .fault) m.world) value m') :
      Runs faults (.call op next) m value m'

/-- Whatever a program returns that runs by itself satisfies `Q`. -/
def Prog.yields (faults : Op E → Prop) (Q : α → Solo E → Prop) : Prog E α → Solo E → Prop
  | .done value, m => Q value m
  | .call op next, m =>
      (∀ env reply, op.perform env (session m.calls) m.db m.world = some reply →
        (next reply).yields faults Q (m.after op reply (op.moves env m.world))) ∧
      (faults op → (next (.error .fault)).yields faults Q (m.after op (.error .fault) m.world))

section Yields
variable {faults : Op E → Prop} {m m' : Solo E} {Q : α → Solo E → Prop}

theorem Prog.Runs.yields {p : Prog E α} (runs : p.Runs faults m value m') (yields : p.yields faults Q m) :
    Q value m' := by
  induction runs with
  | done => exact yields
  | call env performed _ ih => exact ih (yields.1 env _ performed)
  | fault faulty _ ih => exact ih (yields.2 faulty)

theorem runs_of_alone {env : E.Env} {p : Prog E α} (ran : p.alone env m = some (value, m')) :
    p.Runs faults m value m' := by
  induction p generalizing m with
  | done v =>
      cases ran
      exact .done
  | call op next ih =>
      simp only [Prog.alone, Op.alone] at ran
      split at ran
      · rename_i reply middle answered
        split at answered
        · rename_i reply' performed
          cases answered
          exact .call env performed (ih _ ran)
        · cases answered
      · cases ran

theorem yields_bind {p : Prog E α} {f : α → Prog E β} {Q : β → Solo E → Prop} :
    (p >>= f).yields faults Q m ↔ p.yields faults (fun value m => (f value).yields faults Q m) m := by
  change (p.bind f).yields faults Q m ↔ _
  induction p generalizing m with
  | done value => rfl
  | call op next ih =>
      simp only [Prog.bind, Prog.yields]
      exact and_congr (forall₃_congr (fun _ _ _ => ih _)) (forall_congr' (fun _ => ih _))

theorem yields_run_bind {x : ExceptT ε (Prog E) α} {f : α → ExceptT ε (Prog E) β}
    {Q : Except ε β → Solo E → Prop} :
    (x >>= f).run.yields faults Q m ↔ x.run.yields faults (fun result m =>
      match result with
      | .ok value => (f value).run.yields faults Q m
      | .error e => Q (.error e) m) m := by
  rw [ExceptT.run_bind, yields_bind]
  refine Iff.of_eq (congrArg (fun Q' => x.run.yields faults Q' m) ?_)
  funext result m
  cases result <;> rfl

theorem yields_mono {Q' : α → Solo E → Prop} {p : Prog E α} (weaker : ∀ value m, Q value m → Q' value m)
    (yields : p.yields faults Q m) : p.yields faults Q' m := by
  induction p generalizing m with
  | done value => exact weaker _ _ yields
  | call op next ih =>
      exact ⟨fun env reply performed => ih reply (yields.1 env reply performed),
        fun faulty => ih _ (yields.2 faulty)⟩

theorem yields_any {p : Prog E α} : p.yields faults (fun _ _ => True) m := by
  induction p generalizing m with
  | done value => trivial
  | call op next ih => exact ⟨fun _ reply _ => ih reply, fun _ => ih _⟩

theorem yields_remote {c : E.Remote} {Q : Except Failure (E.Reply c) → Solo E → Prop}
    (answered : ∀ reply world, Q reply (m.after (.remote c) reply world)) : (Prog.remote c).yields faults Q m :=
  ⟨fun _ _ _ => answered _ _, fun _ => answered _ _⟩

theorem yields_auto {s : E.Stmt} {Q : Except Failure (E.Answer s) → Solo E → Prop}
    (answered : ∀ env answer, E.possible s env m.db = true → E.exec s env m.db = some answer →
      Q (.ok answer) ⟨⟨.auto s, .ok answer⟩ :: m.calls, E.applyAll (E.writes s answer) m.db, m.world⟩)
    (refused : (∃ env, E.exec s env m.db = none) →
      Q (.error .conflict) ⟨⟨.auto s, .error .conflict⟩ :: m.calls, m.db, m.world⟩)
    (failed : faults (.auto s) → Q (.error .fault) ⟨⟨.auto s, .error .fault⟩ :: m.calls, m.db, m.world⟩) :
    (Prog.auto s).yields faults Q m := by
  refine ⟨fun env reply performed => ?_, failed⟩
  cases reply with
  | ok answer =>
      obtain ⟨drawn, executed⟩ := Op.answer_ok performed
      exact answered env answer drawn executed
  | error reason =>
      obtain ⟨rfl, _, executed⟩ := Op.answer_error performed
      exact refused ⟨env, executed⟩

theorem yields_begin {Q : Except Failure Unit → Solo E → Prop}
    (opened : Q (.ok ()) ⟨⟨.begin, .ok ()⟩ :: m.calls, m.db, m.world⟩)
    (failed : Q (.error .fault) ⟨⟨.begin, .error .fault⟩ :: m.calls, m.db, m.world⟩) :
    Prog.begin.yields faults Q m := by
  refine ⟨fun env reply performed => ?_, fun _ => failed⟩
  cases performed
  exact opened

theorem yields_sql {s : E.Stmt} {Q : Except Failure (E.Answer s) → Solo E → Prop}
    (answered : ∀ env answer, (session m.calls).failed = false →
      E.possible s env ((session m.calls).view m.db) = true →
      E.exec s env ((session m.calls).view m.db) = some answer →
      Q (.ok answer) ⟨⟨.sql s, .ok answer⟩ :: m.calls, m.db, m.world⟩)
    (refused : ∀ reason, Q (.error reason) ⟨⟨.sql s, .error reason⟩ :: m.calls, m.db, m.world⟩) :
    (Prog.sql s).yields faults Q m := by
  refine ⟨fun env reply performed => ?_, fun _ => refused .fault⟩
  cases reply with
  | error reason => exact refused reason
  | ok answer =>
      rcases Op.perform_sql performed with ⟨_, sound, executed⟩ | ⟨_, never⟩
      · obtain ⟨drawn, executed⟩ := Op.answer_ok executed
        exact answered env answer sound drawn executed
      · cases never

theorem yields_commit {Q : Except Failure Unit → Solo E → Prop}
    (committed : Q (.ok ()) ⟨⟨.commit, .ok ()⟩ :: m.calls,
      if (session m.calls).failed then m.db else (session m.calls).view m.db, m.world⟩)
    (failed : Q (.error .fault) ⟨⟨.commit, .error .fault⟩ :: m.calls, m.db, m.world⟩) :
    Prog.commit.yields faults Q m := by
  refine ⟨fun env reply performed => ?_, fun _ => failed⟩
  cases performed
  have ends : E.applyAll (Op.commits (session m.calls) .commit (.ok ())) m.db =
      if (session m.calls).failed then m.db else (session m.calls).view m.db := by
    simp only [Op.commits]
    split <;> rfl
  simp only [Solo.after, ends, Op.moves]
  exact committed

/-- A call that changes nothing of what is looked at. -/
def Op.Keeps (view : Solo E → γ) (op : Op E) : Prop :=
  ∀ m reply world, view (m.after op reply world) = view m

theorem yields_keeps {view : Solo E → γ} {p : Prog E α} (keeps : p.Only (Op.Keeps view)) :
    p.yields faults (fun _ m' => view m' = view m) m := by
  have from_here : ∀ m', view m' = view m → p.yields faults (fun _ m' => view m' = view m) m' := by
    induction p with
    | done value => exact fun m' same => same
    | call op next ih =>
        intro m' same
        exact ⟨fun env reply _ => ih reply (keeps.2 reply) _ ((keeps.1 m' reply _).trans same),
          fun _ => ih _ (keeps.2 _) _ ((keeps.1 m' _ _).trans same)⟩
  exact from_here m rfl

/-- After a part that changes nothing of what is looked at. -/
theorem yields_after {view : Solo E → γ} {p : Prog E α} {f : α → Prog E β} {Q : β → Solo E → Prop}
    (keeps : p.Only (Op.Keeps view))
    (rest : ∀ value m', view m' = view m → (f value).yields faults Q m') : (p >>= f).yields faults Q m :=
  yields_bind.mpr (yields_mono rest (yields_keeps keeps))

end Yields

/-- A program of a sequence: the rows it found, what it returned and what it left. -/
structure Turned (E : Engine) (ι α : Type) where
  index : ι
  before : E.Db
  value : α
  after : Solo E

/-- Programs that ran one after another, newest first; what is kept outside of the
database may change in between. -/
inductive Sequence (faults : Op E → Prop) (program : ι → Prog E α) (initial : E.Db) :
    List (Turned E ι α) → E.Db → Prop
  | start : Sequence faults program initial [] initial
  | turn (earlier : Sequence faults program initial turns db) (world : E.World) (i : ι)
      (ran : (program i).Runs faults ⟨[], db, world⟩ value m) :
      Sequence faults program initial (⟨i, db, value, m⟩ :: turns) m.db

section Sequences
variable {faults : Op E → Prop} {program : ι → Prog E α} {initial db : E.Db} {turns : List (Turned E ι α)}

/-- What every program brings about holds of each of its turns. -/
theorem Sequence.each {P : Turned E ι α → Prop}
    (each : ∀ i db world, (program i).yields faults (fun value m => P ⟨i, db, value, m⟩) ⟨[], db, world⟩)
    (sequence : Sequence faults program initial turns db) : ∀ turn ∈ turns, P turn := by
  induction sequence with
  | start => exact fun turn never => absurd never List.not_mem_nil
  | turn earlier world i ran ih =>
      intro turn member
      rcases List.mem_cons.mp member with rfl | before
      · exact ran.yields (each i _ world)
      · exact ih turn before

/-- The programs of a script, each in an environment and a world of its own. -/
def Prog.script (program : ι → Prog E α) :
    List (ι × E.Env × E.World) → List (Turned E ι α) → E.Db → Option (List (Turned E ι α) × E.Db)
  | [], turns, db => some (turns, db)
  | (i, env, world) :: rest, turns, db =>
      match (program i).alone env ⟨[], db, world⟩ with
      | some (value, m) => Prog.script program rest (⟨i, db, value, m⟩ :: turns) m.db
      | none => none

theorem Sequence.exists_of_script (steps : List (ι × E.Env × E.World))
    (P : List (Turned E ι α) → E.Db → Prop) [∀ turns db, Decidable (P turns db)]
    (earlier : Sequence faults program initial turns db)
    (played : (Prog.script program steps turns db).any (fun last => decide (P last.1 last.2)) = true) :
    ∃ turns db, Sequence faults program initial turns db ∧ P turns db := by
  induction steps generalizing turns db with
  | nil => exact ⟨turns, db, earlier, of_decide_eq_true played⟩
  | cons step rest ih =>
      obtain ⟨i, env, world⟩ := step
      simp only [Prog.script] at played
      split at played
      · rename_i value m ran
        exact ih (.turn earlier world i (runs_of_alone ran)) played
      · cases played

end Sequences

end Transactions
