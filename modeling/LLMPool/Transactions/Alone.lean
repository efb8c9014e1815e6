import LLMPool.Transactions.Interleaving

/-! Programs that run by themselves: what one process of an interleaving does while
no other is scheduled. -/
namespace Transactions
variable {E : Engine}

/-- What a program that runs by itself has done, and what it sees. -/
structure Solo (E : Engine) where
  calls : List (Call E)
  db : E.Db
  world : E.World

def Op.alone (env : E.Env) (op : Op E) (m : Solo E) : Option (Except Failure op.Reply × Solo E) :=
  match op.perform env (session m.calls) m.db m.world with
  | some reply => some (reply, {
      calls := ⟨op, reply⟩ :: m.calls
      db := E.applyAll (op.commits (session m.calls) reply) m.db
      world := op.moves env m.world })
  | none => none

def Prog.alone (env : E.Env) : Prog E α → Solo E → Option (α × Solo E)
  | .done value, m => some (value, m)
  | .call op next, m =>
      match op.alone env m with
      | some (reply, m') => (next reply).alone env m'
      | none => none

variable {env : E.Env} {m m' : Solo E}

theorem Op.alone_calls {op : Op E} {reply : Except Failure op.Reply} (answered : op.alone env m = some (reply, m')) :
    m'.calls = ⟨op, reply⟩ :: m.calls := by
  simp only [Op.alone] at answered
  split at answered
  · cases answered
    rfl
  · cases answered

theorem alone_bind {p : Prog E α} {f : α → Prog E β} :
    (p >>= f).alone env m = (p.alone env m).bind (fun (value, m') => (f value).alone env m') := by
  change (p.bind f).alone env m = _
  induction p generalizing m with
  | done value => rfl
  | call op next ih =>
      simp only [Prog.bind, Prog.alone]
      split
      · exact ih _
      · rfl

theorem alone_then {p : Prog E α} {f : α → Prog E β} (first : p.alone env m = some (value, m')) :
    (p >>= f).alone env m = (f value).alone env m' := by
  rw [alone_bind, first]
  rfl

theorem alone_remote {c : E.Remote} {f : Except Failure (E.Reply c) → Prog E α} :
    (Prog.remote c >>= f).alone env m = (f (.ok (E.remote c env m.world).1)).alone env {
      calls := ⟨.remote c, .ok (E.remote c env m.world).1⟩ :: m.calls
      db := m.db
      world := (E.remote c env m.world).2 } := rfl

/-- Whatever a program that runs by itself returns satisfies `Q`. -/
def Prog.ends (env : E.Env) (Q : α → Solo E → Prop) (p : Prog E α) (m : Solo E) : Prop :=
  ∀ value m', p.alone env m = some (value, m') → Q value m'

theorem ends_pure {Q : α → Solo E → Prop} (result : Q value m) :
    (pure value : Prog E α).ends env Q m := by
  rintro _ _ ⟨⟩
  exact result

theorem ends_bind {Q : β → Solo E → Prop} {p : Prog E α} {f : α → Prog E β}
    (first : p.ends env (fun value m => (f value).ends env Q m) m) : (p >>= f).ends env Q m := by
  intro value m' ran
  rw [alone_bind] at ran
  obtain ⟨⟨middle, m₁⟩, before, after⟩ := Option.bind_eq_some_iff.mp ran
  exact first middle m₁ before value m' after

theorem ends_run_bind {Q : Except ε β → Solo E → Prop} {x : ExceptT ε (Prog E) α}
    {f : α → ExceptT ε (Prog E) β} (first : x.run.ends env (fun result m =>
      match result with
      | .ok value => (f value).run.ends env Q m
      | .error e => Q (.error e) m) m) : (x >>= f).run.ends env Q m := by
  rw [ExceptT.run_bind]
  refine ends_bind ?_
  rintro (e | value) m' ran
  · exact ends_pure (first _ m' ran)
  · exact first _ m' ran

theorem ends_remote {c : E.Remote} {Q : Except Failure (E.Reply c) → Solo E → Prop}
    (answered : Q (.ok (E.remote c env m.world).1) {
      calls := ⟨.remote c, .ok (E.remote c env m.world).1⟩ :: m.calls
      db := m.db
      world := (E.remote c env m.world).2 }) : (Prog.remote c).ends env Q m := by
  rintro _ _ ⟨⟩
  exact answered

/-- Programs that run one after another, each on the rows and in the world that the one
before has left; in between the world may drift. -/
inductive Serial (admits : ι → E.Db → E.World → Prop) (drifts : E.World → E.World → Prop)
    (program : ι → Prog E α) (initial : E.Db) (first : E.World) : E.Db → E.World → Prop
  | start : Serial admits drifts program initial first initial first
  | ran {env : E.Env} {m : Solo E} (i : ι) (earlier : Serial admits drifts program initial first db world)
      (admitted : admits i db world)
      (ran : (program i).alone env ⟨[], db, world⟩ = some (value, m)) :
      Serial admits drifts program initial first m.db m.world
  | drifted (earlier : Serial admits drifts program initial first db world)
      (drift : drifts world world') : Serial admits drifts program initial first db world'

theorem Serial.invariant {admits : ι → E.Db → E.World → Prop} {drifts : E.World → E.World → Prop}
    {program : ι → Prog E α} {I : E.Db → E.World → Prop}
    (serial : Serial admits drifts program initial first db world) (start : I initial first)
    (keeps : ∀ i db world env, admits i db world → I db world →
      (program i).ends env (fun _ m => I m.db m.world) ⟨[], db, world⟩)
    (still : ∀ db world world', drifts world world' → I db world → I db world') : I db world := by
  induction serial with
  | start => exact start
  | ran i _ admitted ran ih => exact keeps i _ _ _ admitted ih _ _ ran
  | drifted _ drift ih => exact still _ _ _ drift ih

/-- The programs of a script, one after another. -/
def Prog.inTurn (program : ι → Prog E α) : List (ι × E.Env) → E.Db → E.World → Option (E.Db × E.World)
  | [], db, world => some (db, world)
  | (i, env) :: rest, db, world =>
      match (program i).alone env ⟨[], db, world⟩ with
      | some (_, m) => inTurn program rest m.db m.world
      | none => none

/-- A script that ends in rows and a world of a given kind is a serial history to them. -/
theorem Serial.exists_of_inTurn {admits : ι → E.Db → E.World → Prop}
    {drifts : E.World → E.World → Prop} {program : ι → Prog E α} (script : List (ι × E.Env))
    (P : E.Db → E.World → Prop) [∀ db world, Decidable (P db world)]
    (earlier : Serial admits drifts program initial first db world)
    (admitted : ∀ step ∈ script, ∀ db world, admits step.1 db world)
    (played : (Prog.inTurn program script db world).any (fun last => decide (P last.1 last.2)) = true) :
    ∃ db' world', Serial admits drifts program initial first db' world' ∧ P db' world' := by
  induction script generalizing db world with
  | nil => exact ⟨db, world, earlier, of_decide_eq_true played⟩
  | cons step rest ih =>
      obtain ⟨i, env⟩ := step
      simp only [Prog.inTurn] at played
      split at played
      · rename_i value m ran
        exact ih (.ran i earlier (admitted _ List.mem_cons_self _ _) ran)
          (fun step member => admitted step (List.mem_cons_of_mem _ member)) played
      · cases played

end Transactions
