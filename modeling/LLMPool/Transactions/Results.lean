import LLMPool.Transactions.Alone
import LLMPool.Transactions.Contract

/-! What programs return, as their calls tell it: how a bind returns, what the other programs
keep of a value, and runs in which one program after another returns. -/
namespace Transactions
variable {E : Engine}

/-- A program returns a value when its calls, the first one first, are answered so. -/
inductive Prog.Returns : Prog E α → List (Call E) → α → Prop
  | done {value : α} : Returns (.done value) [] value
  | call {op : Op E} {next : Except Failure op.Reply → Prog E α} {reply : Except Failure op.Reply}
      {calls : List (Call E)} {value : α} (rest : Returns (next reply) calls value) :
      Returns (.call op next) (⟨op, reply⟩ :: calls) value

theorem Prog.Returns.unique {p : Prog E α} {calls : List (Call E)} (first : p.Returns calls value)
    (second : p.Returns calls value') : value = value' := by
  induction first with
  | done =>
      cases second
      rfl
  | call _ ih =>
      cases second with
      | call rest => exact ih rest

section Parts
variable {calls : List (Call E)}

theorem Prog.Returns.pure (returns : (pure v : Prog E α).Returns calls value) : value = v ∧ calls = [] := by
  cases returns
  exact ⟨rfl, rfl⟩

theorem Prog.Returns.single {op : Op E} {reply : Except Failure op.Reply}
    (returns : (Prog.op op).Returns calls reply) : calls = [⟨op, reply⟩] := by
  cases returns with
  | call rest =>
      cases rest
      rfl

/-- A bind returns when its parts do, on one part of the calls each. -/
theorem Prog.Returns.bind {p : Prog E α} {f : α → Prog E β} (returns : (p >>= f).Returns calls value) :
    ∃ middle first second, calls = first ++ second ∧ p.Returns first middle ∧ (f middle).Returns second value := by
  change (p.bind f).Returns calls value at returns
  induction p generalizing calls with
  | done middle => exact ⟨middle, [], calls, rfl, .done, returns⟩
  | call op next ih =>
      cases returns with
      | call rest =>
          obtain ⟨middle, first, second, rfl, before, after⟩ := ih _ rest
          exact ⟨middle, _, second, rfl, .call before, after⟩

theorem Prog.Returns.run_bind {x : ExceptT ε (Prog E) α} {f : α → ExceptT ε (Prog E) β}
    (returns : (x >>= f).run.Returns calls (.ok value)) :
    ∃ middle first second, calls = first ++ second ∧ x.run.Returns first (.ok middle) ∧
      (f middle).run.Returns second (.ok value) := by
  rw [ExceptT.run_bind] at returns
  obtain ⟨result, first, second, rfl, before, after⟩ := returns.bind
  cases result with
  | error e => cases after
  | ok middle => exact ⟨middle, first, second, rfl, before, after⟩

end Parts

section Rules
variable {D : Discipline E} {R : Rely E} {G : E.Db → E.Db → Prop} {db : E.Db}

/-- What a program returns is what its calls tell. -/
theorem wp_returns {Q : α → List (Call E) → E.Db → Prop} {p : Prog E α} (h : p.wp D R G Q [] db) :
    p.wp D R G (fun value calls db => Q value calls db ∧ p.Returns calls.reverse value) [] db := by
  have from_here : ∀ calls, p.wp D R G Q calls db → p.wp D R G (fun value later db => Q value later db ∧
      ∃ newer, later = newer ++ calls ∧ p.Returns newer.reverse value) calls db := by
    clear h
    induction p generalizing db with
    | done value => exact fun calls h => ⟨h, [], rfl, .done⟩
    | call op next ih =>
        intro calls h db' between reply answers
        obtain ⟨commits, rest⟩ := h db' between reply answers
        refine ⟨commits, wp_mono (fun _ _ kept => kept) ?_ (ih reply _ rest)⟩
        rintro value later db ⟨result, newer, rfl, returns⟩
        refine ⟨result, newer ++ [⟨op, reply⟩], by simp, ?_⟩
        rw [List.reverse_append]
        exact .call returns
  refine wp_mono (fun _ _ kept => kept) ?_ (from_here [] h)
  rintro value calls db ⟨result, newer, rfl, returns⟩
  rw [List.append_nil] at result ⊢
  exact ⟨result, returns⟩

end Rules

/-- A process that has returned a value. -/
def State.ReturnedAs (program : ι → Prog E α) (s : State E ι) (i : ι) (value : α) : Prop :=
  (s.procs i).Returned ∧ (program i).Returns (s.procs i).calls.reverse value

section Runs
variable {ι : Type} [DecidableEq ι] {D : Discipline E} {R : Rely E} {db : E.Db} {s : State E ι}

/-- In every interleaving of programs that keep to the rely, what was proved of a returned
value and its calls holds at the end, where the rely keeps it. -/
theorem Reaches.answered {program : ι → Prog E α} {Q : ι → α → List (Call E) → E.Db → Prop}
    (each : ∀ i, (program i).wp D R R.rel (Q i) [] db)
    (stays : ∀ i value calls db db', Q i value calls db → R.rel db db' → Q i value calls db')
    (reached : Reaches D (.starting db world (fun i => program i >>= fun _ => pure ())) history s) :
    R.rel db s.db ∧ ∀ i value, s.ReturnedAs program i value → Q i value (s.procs i).calls s.db := by
  have verified : Verified D R (fun _ => R.rel)
      (fun i calls db => ∀ value, (program i).Returns calls.reverse value → Q i value calls db)
      (.starting db world (fun i => program i >>= fun _ => pure ())) := by
    refine .starting (fun i => wp_bind.mpr (wp_mono (fun _ _ kept => kept) ?_ (wp_returns (each i))))
    rintro value calls db ⟨result, returns⟩ value' returns'
    exact returns.unique returns' ▸ result
  obtain ⟨verified, chain⟩ := reached.chain verified (fun _ _ _ kept => kept)
    (fun i _ db db' holds kept value returns => stays i value _ db db' (holds value returns) kept)
  refine ⟨chain.rel (fun _ _ _ kept => kept), ?_⟩
  rintro i value ⟨returned, returns⟩
  have holds := verified.holds i
  rw [show (s.procs i).prog = .done () from returned] at holds
  exact holds value returns

theorem Reaches.returned {program : ι → Prog E α} {Q : ι → α → E.Db → Prop}
    (each : ∀ i, (program i).wp D R R.rel (fun value _ db => Q i value db) [] db)
    (stays : ∀ i value db db', Q i value db → R.rel db db' → Q i value db')
    (reached : Reaches D (.starting db world (fun i => program i >>= fun _ => pure ())) history s) :
    R.rel db s.db ∧ ∀ i value, (s.procs i).Returned → (program i).Returns (s.procs i).calls.reverse value →
      Q i value s.db := by
  obtain ⟨kept, answered⟩ := Reaches.answered each (fun i value _ => stays i value) reached
  exact ⟨kept, fun i value returned returns => answered i value ⟨returned, returns⟩⟩

end Runs

section Turns
variable {ι : Type} {D : Discipline E} {m m' : Solo E}

/-- A program that runs by itself, each of its calls admitted. -/
def Prog.turn (D : Discipline E) [D.Decides] (env : E.Env) : Prog E α → Solo E → Option (α × Solo E)
  | .done value, m => some (value, m)
  | .call op next, m =>
      if D.admits m.calls op m.db then
        match op.alone env m with
        | some (reply, m') => (next reply).turn D env m'
        | none => none
      else none

/-- A process that holds no transaction open. -/
def Proc.Quiet (p : Proc E) : Prop := p.session = .idle

theorem Proc.quiet_start (prog : Prog E Unit) : (Proc.start prog).Quiet := by
  cases prog <;> rfl

variable [DecidableEq ι]

/-- The state in which one process has come as far as this. -/
def Solo.within (m : Solo E) (procs : ι → Proc E) (i : ι) (prog : Prog E Unit) : State E ι :=
  ⟨m.db, m.world, Function.update procs i ⟨prog, m.calls⟩⟩

theorem Solo.step {procs : ι → Proc E} {i : ι} {env : E.Env} {op : Op E} {reply : Except Failure op.Reply}
    {next : Except Failure op.Reply → Prog E Unit} (quiet : ∀ j, j ≠ i → (procs j).Quiet)
    (admitted : D.admits m.calls op m.db) (answered : op.alone env m = some (reply, m')) :
    ∃ writes, Step D (m.within procs i (.call op next)) i writes (m'.within procs i (next reply)) := by
  simp only [Op.alone] at answered
  split at answered
  · rename_i reply performed
    cases answered
    have idle : ∀ j, j ≠ i → ((m.within procs i (.call op next)).procs j).session = .idle := by
      intro j other
      simp only [Solo.within, Function.update_of_ne other]
      exact quiet j other
    have here : (m.within procs i (.call op next)).procs i = ⟨.call op next, m.calls⟩ := Function.update_self ..
    have stepped := Step.run (D := D) (s := m.within procs i (.call op next)) (i := i) op next env reply
      (congrArg Proc.prog here) (by rw [here]; exact admitted)
      (fun _ j other => by rw [idle j other]; rfl) (by rw [here]; exact performed)
      (fun j other l _ => by rw [idle j other]; exact List.not_mem_nil)
    have after : (m.within procs i (.call op next)).advance i op next reply (op.moves env m.world) =
        Solo.within ⟨⟨op, reply⟩ :: m.calls, E.applyAll (op.commits (session m.calls) reply) m.db,
          op.moves env m.world⟩ procs i (next reply) := by
      simp only [State.advance, Solo.within, Function.update_self, Function.update_idem, Proc.session]
    exact ⟨_, after ▸ stepped⟩
  · cases answered

/-- A turn of a process is a run in which no other makes a call. -/
theorem Solo.reaches (procs : ι → Proc E) (i : ι) {env : E.Env} [D.Decides] {p : Prog E α}
    (quiet : ∀ j, j ≠ i → (procs j).Quiet) (ran : p.turn D env m = some (value, m')) :
    ∃ history newer, Reaches D (m.within procs i (p >>= fun _ => pure ())) history (m'.within procs i (.done ())) ∧
      m'.calls = newer ++ m.calls ∧ p.Returns newer.reverse value := by
  induction p generalizing m with
  | done value =>
      cases ran
      exact ⟨[], [], .start, rfl, .done⟩
  | call op next ih =>
      simp only [Prog.turn] at ran
      split at ran
      · rename_i admitted
        split at ran
        · rename_i reply middle answered
          obtain ⟨history, newer, reached, calls, returns⟩ := ih reply ran
          have first : ∃ writes, Step D (m.within procs i (.call op (fun reply => next reply >>= fun _ => pure ())))
              i writes (middle.within procs i (next reply >>= fun _ => pure ())) :=
            Solo.step quiet admitted answered
          obtain ⟨writes, stepped⟩ := first
          have added : middle.calls = ⟨op, reply⟩ :: m.calls := Op.alone_calls answered
          refine ⟨_, newer ++ [⟨op, reply⟩], (Reaches.step .start stepped).trans reached, ?_, ?_⟩
          · rw [calls, added, List.append_assoc]
            rfl
          · rw [List.reverse_append]
            exact .call returns
        · cases ran
      · cases ran

/-- The programs of a script, one after another, each in an environment of its own. -/
def State.inTurn (D : Discipline E) [D.Decides] (program : ι → Prog E α) :
    List (ι × E.Env) → State E ι → Option (List (ι × α) × State E ι)
  | [], s => some ([], s)
  | (i, env) :: rest, s =>
      match (program i).turn D env ⟨[], s.db, s.world⟩ with
      | some (value, m) =>
          (inTurn D program rest (m.within s.procs i (.done ()))).map
            (fun last => ((i, value) :: last.1, last.2))
      | none => none

theorem State.reaches_inTurn [D.Decides] {program : ι → Prog E α} {script : List (ι × E.Env)} {s s' : State E ι}
    (once : (script.map Prod.fst).Nodup) (quiet : ∀ i, (s.procs i).Quiet)
    (fresh : ∀ i ∈ script.map Prod.fst, s.procs i = .start (program i >>= fun _ => pure ()))
    (ran : s.inTurn D program script = some (values, s')) :
    ∃ history, Reaches D s history s' ∧ (∀ j, j ∉ script.map Prod.fst → s'.procs j = s.procs j) ∧
      ∀ entry ∈ values, s'.ReturnedAs program entry.1 entry.2 := by
  induction script generalizing s values with
  | nil =>
      cases ran
      exact ⟨[], .start, fun _ _ => rfl, fun _ never => absurd never List.not_mem_nil⟩
  | cons step rest ih =>
      obtain ⟨i, env⟩ := step
      obtain ⟨apart, once⟩ := List.nodup_cons.mp once
      simp only [State.inTurn] at ran
      split at ran
      · rename_i value m turned
        obtain ⟨⟨values', last⟩, ran', same⟩ := Option.map_eq_some_iff.mp ran
        cases same
        have here : s.procs i = .start (program i >>= fun _ => pure ()) := fresh i List.mem_cons_self
        have begins : (⟨[], s.db, s.world⟩ : Solo E).within s.procs i (program i >>= fun _ => pure ()) = s := by
          have unchanged : Function.update s.procs i ⟨program i >>= fun _ => pure (), []⟩ = s.procs :=
            (congrArg (Function.update s.procs i) here.symm).trans (Function.update_eq_self i s.procs)
          simp only [Solo.within, unchanged]
        obtain ⟨history, newer, first, calls, returns⟩ :=
          Solo.reaches s.procs i (fun j _ => quiet j) turned
        rw [begins] at first
        rw [List.append_nil] at calls
        have elsewhere : ∀ j, j ≠ i → (m.within s.procs i (.done ())).procs j = s.procs j :=
          fun j other => Function.update_of_ne other ..
        have ended : (m.within s.procs i (.done ())).procs i = ⟨.done (), m.calls⟩ := Function.update_self ..
        obtain ⟨later, second, others, answered⟩ := ih once
          (fun j => by
            by_cases same : j = i
            · rw [same, ended]
              rfl
            · rw [elsewhere j same]
              exact quiet j)
          (fun j member => by
            rw [elsewhere j (ne_of_mem_of_not_mem member apart)]
            exact fresh j (List.mem_cons_of_mem _ member)) ran'
        refine ⟨_, first.trans second, fun j absent => ?_, fun entry member => ?_⟩
        · obtain ⟨other, absent⟩ := not_or.mp (mt List.mem_cons.mpr absent)
          exact (others j absent).trans (elsewhere j other)
        · rcases List.mem_cons.mp member with rfl | member
          · have kept := (others i apart).trans ended
            exact ⟨congrArg Proc.prog kept, by rw [kept, calls]; exact returns⟩
          · exact answered entry member
      · cases ran

/-- A script whose programs return values of a given kind is a run in which they do. -/
theorem State.exists_of_inTurn (D : Discipline E) [D.Decides] (program : ι → Prog E α) (db : E.Db) (world : E.World)
    (script : List (ι × E.Env)) (P : List (ι × α) → State E ι → Prop) [∀ values s, Decidable (P values s)]
    (once : (script.map Prod.fst).Nodup)
    (played : ((State.starting db world (fun i => program i >>= fun _ => pure ())).inTurn D program script).any
      (fun last => decide (P last.1 last.2)) = true) :
    ∃ history s values, Reaches D (.starting db world (fun i => program i >>= fun _ => pure ())) history s ∧
      P values s ∧ ∀ entry ∈ values, s.ReturnedAs program entry.1 entry.2 := by
  obtain ⟨⟨values, s⟩, ran, holds⟩ := Option.any_eq_true _ _ |>.mp played
  obtain ⟨history, reached, _, answered⟩ :=
    State.reaches_inTurn once (fun i => Proc.quiet_start _) (fun i _ => rfl) ran
  exact ⟨history, s, values, reached, of_decide_eq_true holds, answered⟩

end Turns

end Transactions
