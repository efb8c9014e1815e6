import LLMPool.Database
import LLMPool.Transactions.Knowledge
import LLMPool.Transactions.Results
import LLMPool.Transactions.Sequence

/-! Fallible database functions, and the rules for their statements. -/
namespace LLMPool
open Transactions

inductive SqlxError where
  | database (reason : Failure)
  | rowNotFound
  deriving DecidableEq

/-- A function that returns `Result<_, sqlx::Error>`; its binds are the `?`s. -/
abbrev Query := ExceptT SqlxError Action

namespace Query

def sql (s : Stmt) : Query s.Answer :=
  ExceptT.mk (do
    match ← Prog.sql (E := engine) s with
    | .ok answer => return .ok answer
    | .error reason => return .error (.database reason))

/-- A statement on the pool, whatever the tables are. -/
def pooled {E : Engine} (s : E.Stmt) : ExceptT SqlxError (Prog E) (E.Answer s) :=
  ExceptT.mk (do
    match ← Prog.auto s with
    | .ok answer => return .ok answer
    | .error reason => return .error (.database reason))

def auto (s : Stmt) : Query s.Answer := pooled (E := engine) s

def fetchOne {E : Engine} (answer : Option α) : ExceptT SqlxError (Prog E) α :=
  match answer with
  | some row => return row
  | none => throw .rowNotFound

end Query

section Rules
variable {D : Discipline engine} {R : Rely engine} {G : Db → Db → Prop}
  {calls : List (Call engine)} {db : Db}

/-- A statement of the transaction under way: it is executed on the rows that its session
sees, or refused. -/
theorem wp_query {s : Stmt} {Q : Except SqlxError s.Answer → List (Call engine) → Db → Prop}
    (answered : ∀ db' env answer, Interferes D R (session calls) db db' →
      D.admits calls (.sql s) db' → (session calls).failed = false →
      possible s env ((session calls).view db') = true →
      exec s env ((session calls).view db') = some answer →
      Q (.ok answer) (⟨.sql s, .ok answer⟩ :: calls) db')
    (refused : ∀ db' reason, Interferes D R (session calls) db db' → Refused D calls db' s reason →
      Q (.error (.database reason)) (⟨.sql s, .error reason⟩ :: calls) db') :
    (Query.sql s).run.wp D R G Q calls db := by
  simp only [Query.sql, ExceptT.run_mk]
  rw [wp_bind]
  exact wp_sql answered refused

/-- A statement of its own: what it writes is there when it is answered, and has to be
guaranteed. -/
theorem wp_queryAuto {s : Stmt} {Q : Except SqlxError s.Answer → List (Call engine) → Db → Prop}
    (answered : ∀ db' env answer, Interferes D R (session calls) db db' →
      D.admits calls (.auto s) db' → possible s env db' = true → exec s env db' = some answer →
      (writes s answer ≠ [] → G db' (engine.applyAll (writes s answer) db')) ∧
        Q (.ok answer) (⟨.auto s, .ok answer⟩ :: calls) (engine.applyAll (writes s answer) db'))
    (refused : ∀ db' reason, Interferes D R (session calls) db db' →
      Q (.error (.database reason)) (⟨.auto s, .error reason⟩ :: calls) db') :
    (Query.auto s).run.wp D R G Q calls db := by
  simp only [Query.auto, Query.pooled, ExceptT.run_mk]
  rw [wp_bind]
  exact wp_auto answered (fun db' reason between _ _ => refused db' reason between)

theorem wp_fetchOne {answer : Option α} {Q : Except SqlxError α → List (Call engine) → Db → Prop}
    (found : ∀ row, answer = some row → Q (.ok row) calls db)
    (missing : answer = none → Q (.error .rowNotFound) calls db) :
    (Query.fetchOne answer).run.wp D R G Q calls db := by
  cases answer with
  | none => exact missing rfl
  | some row => exact found row rfl

/-- A statement of a transaction under way is refused by a fault or by a unique index. -/
theorem refused_cases (running : (session calls).isOpen = true) (sound : (session calls).failed = false)
    (refused : Refused D calls db s reason) :
    D.faults (.sql s) ∨ D.admits calls (.sql s) db ∧ ∃ env, exec s env ((session calls).view db) = none := by
  cases reason with
  | fault => exact .inl refused
  | conflict =>
      obtain ⟨admitted, _, env, _, executed⟩ := refused
      exact .inr ⟨admitted, env, executed⟩
  | aborted => exact absurd ⟨running, sound⟩ refused

end Rules

section Paths
variable {P : List (Call engine) → Op engine → Prop} {calls : List (Call engine)}

/-- Along a path a statement is answered as some database would answer it. -/
theorem path_query {s : Stmt} {Q : Except SqlxError s.Answer → List (Call engine) → Prop}
    (made : P calls (.sql s)) (answered : ∀ answer, (session calls).failed = false →
      (∃ env db, exec s env db = some answer) → Q (.ok answer) (⟨.sql s, .ok answer⟩ :: calls))
    (refused : ∀ reason, Q (.error (.database reason)) (⟨.sql s, .error reason⟩ :: calls)) :
    (Query.sql s).run.path P Q calls := by
  simp only [Query.sql, ExceptT.run_mk]
  refine path_bind.mpr (path_op made ?_)
  rintro (reason | answer) sensible
  · exact refused reason
  · exact answered answer sensible.1 sensible.2

theorem path_pooled {E : Engine} {P : List (Call E) → Op E → Prop} {calls : List (Call E)} {s : E.Stmt}
    {Q : Except SqlxError (E.Answer s) → List (Call E) → Prop} (made : P calls (.auto s))
    (answered : ∀ answer, (∃ env db, E.exec s env db = some answer) →
      Q (.ok answer) (⟨.auto s, .ok answer⟩ :: calls))
    (refused : ∀ reason, Q (.error (.database reason)) (⟨.auto s, .error reason⟩ :: calls)) :
    (Query.pooled s).run.path P Q calls := by
  simp only [Query.pooled, ExceptT.run_mk]
  refine path_bind.mpr (path_op made ?_)
  rintro (reason | answer) sensible
  · exact refused reason
  · exact answered answer sensible

theorem path_queryAuto {s : Stmt} {Q : Except SqlxError s.Answer → List (Call engine) → Prop}
    (made : P calls (.auto s)) (answered : ∀ answer, (∃ env db, exec s env db = some answer) →
      Q (.ok answer) (⟨.auto s, .ok answer⟩ :: calls))
    (refused : ∀ reason, Q (.error (.database reason)) (⟨.auto s, .error reason⟩ :: calls)) :
    (Query.auto s).run.path P Q calls :=
  path_pooled (E := engine) made answered refused

theorem path_fetchOne {E : Engine} {P : List (Call E) → Op E → Prop} {calls : List (Call E)}
    {answer : Option α} {Q : Except SqlxError α → List (Call E) → Prop}
    (either : ∀ result, Q result calls) : (Query.fetchOne answer).run.path P Q calls := by
  cases answer <;> exact either _

end Paths

section Yields
variable {E : Engine} {faults : Op E → Prop} {m : Solo E}

/-- With no other process, a statement is answered on the rows as they are; only faults and
unique indexes refuse it. -/
theorem yields_pooled {s : E.Stmt} {Q : Except SqlxError (E.Answer s) → Solo E → Prop}
    (answered : ∀ env answer, E.possible s env m.db = true → E.exec s env m.db = some answer →
      Q (.ok answer) ⟨⟨.auto s, .ok answer⟩ :: m.calls, E.applyAll (E.writes s answer) m.db, m.world⟩)
    (refused : (∃ env, E.exec s env m.db = none) →
      Q (.error (.database .conflict)) ⟨⟨.auto s, .error .conflict⟩ :: m.calls, m.db, m.world⟩)
    (failed : faults (.auto s) →
      Q (.error (.database .fault)) ⟨⟨.auto s, .error .fault⟩ :: m.calls, m.db, m.world⟩) :
    (Query.pooled s).run.yields faults Q m := by
  simp only [Query.pooled, ExceptT.run_mk]
  exact yields_bind.mpr (yields_auto answered refused failed)

theorem yields_query {faults : Op engine → Prop} {m : Solo engine} {s : Stmt}
    {Q : Except SqlxError s.Answer → Solo engine → Prop}
    (answered : ∀ env answer, (session m.calls).failed = false →
      possible s env ((session m.calls).view m.db) = true → exec s env ((session m.calls).view m.db) = some answer →
      Q (.ok answer) ⟨⟨.sql s, .ok answer⟩ :: m.calls, m.db, m.world⟩)
    (refused : ∀ reason, Q (.error (.database reason)) ⟨⟨.sql s, .error reason⟩ :: m.calls, m.db, m.world⟩) :
    (Query.sql s).run.yields faults Q m := by
  simp only [Query.sql, ExceptT.run_mk]
  exact yields_bind.mpr (yields_sql answered refused)

end Yields

section Returns

/-- A statement that was answered is the only call of its query. -/
theorem returns_pooled {E : Engine} {s : E.Stmt} {answer : E.Answer s} {calls : List (Call E)}
    (returns : (Query.pooled s).run.Returns calls (.ok answer)) : calls = [⟨.auto s, .ok answer⟩] := by
  simp only [Query.pooled, ExceptT.run_mk] at returns
  obtain ⟨result, first, second, rfl, asked, returns⟩ := returns.bind
  rw [asked.single]
  cases result <;> cases returns
  rfl

theorem returns_queryAuto {s : Stmt} {answer : s.Answer} {calls : List (Call engine)}
    (returns : (Query.auto s).run.Returns calls (.ok answer)) : calls = [⟨.auto s, .ok answer⟩] :=
  returns_pooled (E := engine) returns

theorem returns_fetchOne {E : Engine} {answer : Option α} {row : α} {calls : List (Call E)}
    (returns : (Query.fetchOne answer).run.Returns calls (.ok row)) : answer = some row ∧ calls = [] := by
  cases answer <;> cases returns
  exact ⟨rfl, rfl⟩

end Returns

section Only

theorem only_pooled {E : Engine} {P : Op E → Prop} {s : E.Stmt} (allowed : P (.auto s)) :
    (Query.pooled s).run.Only P := by
  refine only_bind (only_op allowed) ?_
  rintro (reason | answer) <;> trivial

theorem only_queryAuto {P : Op engine → Prop} {s : Stmt} (allowed : P (.auto s)) :
    (Query.auto s).run.Only P :=
  only_pooled (E := engine) allowed

theorem only_fetchOne {E : Engine} {P : Op E → Prop} (answer : Option α) :
    (Query.fetchOne answer).run.Only P := by
  cases answer <;> trivial

end Only

section Within
variable {κ : Type} {J : Knowledge engine κ} {K : κ → Prop}

/-- What an answer tells is known to the rest of the function. -/
theorem within_queryAuto {s : Stmt} {Q : Except SqlxError s.Answer → Prop} (needs : J.needs (.auto s) K)
    (answered : ∀ answer, (∀ fact, J.tells ⟨.auto s, .ok answer⟩ fact → K fact) → Q (.ok answer))
    (failed : ∀ reason, Q (.error (.database reason))) : (Query.auto s).run.Within J K Q := by
  refine within_bind (within_op (Q := fun reply => ∀ fact, J.tells ⟨.auto s, reply⟩ fact → K fact) needs
    (fun _ told => told)) ?_
  rintro (reason | answer) told
  · exact failed reason
  · exact answered answer told

theorem within_fetchOne {answer : Option α} {Q : Except SqlxError α → Prop}
    (found : ∀ row, answer = some row → Q (.ok row)) (missing : Q (.error .rowNotFound)) :
    (Query.fetchOne answer : Query α).run.Within J K Q := by
  cases answer with
  | none => exact missing
  | some row => exact found row rfl

end Within

section Alone
variable {env : Env} {m : Solo engine}

theorem alone_queryAuto {s : Stmt} {answer : s.Answer} (drawn : possible s env m.db = true)
    (executed : exec s env m.db = some answer) :
    (Query.auto s).run.alone env m = some (.ok answer,
      (⟨⟨.auto s, .ok answer⟩ :: m.calls, engine.applyAll (writes s answer) m.db, m.world⟩ :
        Solo engine)) := by
  have answered : (Op.auto (E := engine) s).alone env m = some (.ok answer,
      ⟨⟨.auto s, .ok answer⟩ :: m.calls, engine.applyAll (writes s answer) m.db, m.world⟩) := by
    simp only [Op.alone, Op.perform, Op.answer, drawn, executed, if_true]
    rfl
  have first : (Prog.auto (E := engine) s).alone env m = some (.ok answer,
      ⟨⟨.auto s, .ok answer⟩ :: m.calls, engine.applyAll (writes s answer) m.db, m.world⟩) := by
    simp only [Prog.auto, Prog.op, Prog.alone, answered]
  simp only [Query.auto, Query.pooled, ExceptT.run_mk]
  exact alone_then first

/-- A statement that reads leaves the rows as they are. -/
theorem alone_read {s : Stmt} {answer : s.Answer} (drawn : possible s env m.db = true)
    (executed : exec s env m.db = some answer) (reads : writes s answer = []) :
    (Query.auto s).run.alone env m = some (.ok answer,
      (⟨⟨.auto s, .ok answer⟩ :: m.calls, m.db, m.world⟩ : Solo engine)) := by
  rw [alone_queryAuto drawn executed, reads]
  rfl

theorem ends_queryAuto {s : Stmt} {Q : Except SqlxError s.Answer → Solo engine → Prop}
    (answered : ∀ answer, possible s env m.db = true → exec s env m.db = some answer →
      Q (.ok answer)
        ⟨⟨.auto s, .ok answer⟩ :: m.calls, engine.applyAll (writes s answer) m.db, m.world⟩)
    (refused : possible s env m.db = true → exec s env m.db = none →
      Q (.error (.database .conflict)) ⟨⟨.auto s, .error .conflict⟩ :: m.calls, m.db, m.world⟩) :
    (Query.auto s).run.ends env Q m := by
  cases drawn : possible s env m.db with
  | false =>
      intro value m' ran
      have nothing : (Op.auto (E := engine) s).alone env m = none := by
        simp only [Op.alone, Op.perform, Op.answer, drawn, Bool.false_eq_true, if_false]
      simp only [Query.auto, Query.pooled, ExceptT.run_mk, alone_bind, Prog.auto, Prog.op, Prog.alone, nothing,
        Option.bind_none, reduceCtorEq] at ran
  | true =>
      intro value m' ran
      cases executed : exec s env m.db with
      | some answer =>
          rw [alone_queryAuto drawn executed] at ran
          cases ran
          exact answered answer drawn executed
      | none =>
          have conflict : (Op.auto (E := engine) s).alone env m = some (.error .conflict,
              ⟨⟨.auto s, .error .conflict⟩ :: m.calls, m.db, m.world⟩) := by
            simp only [Op.alone, Op.perform, Op.answer, drawn, executed, if_true]
            rfl
          simp only [Query.auto, Query.pooled, ExceptT.run_mk, alone_bind, Prog.auto, Prog.op, Prog.alone,
            conflict, Option.bind_some] at ran
          cases ran
          exact refused drawn executed

theorem ends_read {s : Stmt} {answer : s.Answer} {Q : Except SqlxError s.Answer → Solo engine → Prop}
    (drawn : possible s env m.db = true) (executed : exec s env m.db = some answer)
    (reads : writes s answer = [])
    (answered : Q (.ok answer) ⟨⟨.auto s, .ok answer⟩ :: m.calls, m.db, m.world⟩) :
    (Query.auto s).run.ends env Q m := by
  intro value m' ran
  rw [alone_read drawn executed reads] at ran
  cases ran
  exact answered

theorem ends_fetchOne {answer : Option α} {Q : Except SqlxError α → Solo engine → Prop}
    (found : ∀ row, answer = some row → Q (.ok row) m)
    (missing : answer = none → Q (.error .rowNotFound) m) :
    (Query.fetchOne answer).run.ends env Q m := by
  rintro value m' ran
  cases answer <;> cases ran
  · exact missing rfl
  · exact found _ rfl

end Alone

end LLMPool
