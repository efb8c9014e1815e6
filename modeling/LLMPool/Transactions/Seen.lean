import LLMPool.Transactions.Contract
import LLMPool.Transactions.Earlier

/-! What a transaction commits: a row that it has locked and does not touch again is committed as
the transaction saw it when it took the lock, whatever runs beside it. -/
namespace Transactions
variable {E : Engine} {ι : Type} {l : E.Lock}

/-- What a write does to what a lock guards depends on the rows that it touches, and on no other. -/
def Engine.Local (E : Engine) : Prop := ∀ (w : E.Write) (l : E.Lock) (db db' : E.Db),
  (∀ l' ∈ E.touches w, E.same l' db db') → E.same l db db' → E.same l (E.apply w db) (E.apply w db')

theorem Engine.Local.applyAll (isLocal : E.Local) {ws : List E.Write} {db db' : E.Db}
    (touched : ∀ w ∈ ws, ∀ l' ∈ E.touches w, E.same l' db db') (agrees : E.same l db db') :
    E.same l (E.applyAll ws db) (E.applyAll ws db') := by
  induction ws generalizing db db' with
  | nil => exact agrees
  | cons w ws ih =>
      have first := touched w List.mem_cons_self
      refine ih ?_ (isLocal w l db db' first agrees)
      exact fun v member l' at_l' => isLocal w l' db db' first (touched v (List.mem_cons_of_mem _ member) l' at_l')

/-- A statement of a transaction that does not write to what the lock guards. -/
def Spares (l : E.Lock) (call : Call E) : Prop :=
  ∃ (s : E.Stmt) (reply : Except Failure (E.Answer s)), call = ⟨.sql s, reply⟩ ∧
    ∀ answer, reply = .ok answer → ∀ w ∈ E.writes s answer, l ∉ E.touches w

section Sessions
variable {stmt : E.Stmt} {answer : E.Answer stmt} {later older : List (Call E)}

theorem held_of_spared (spared : ∀ call ∈ later, Spares l call) (taken : l ∈ E.locks stmt answer) :
    l ∈ (session (later ++ ⟨.sql stmt, .ok answer⟩ :: older)).held := by
  induction later with
  | nil => exact List.mem_append_right _ taken
  | cons call later ih =>
      have held := ih (fun c member => spared c (List.mem_cons_of_mem _ member))
      obtain ⟨s, reply, rfl, _⟩ := spared call List.mem_cons_self
      cases reply with
      | error reason => exact held
      | ok answer => exact List.mem_append_left _ held

end Sessions

section Runs
variable [DecidableEq ι] {D : Discipline E} {program : ι → Prog E Unit} {db : E.Db} {world : E.World}
  {s : State E ι} {i : ι} {stmt : E.Stmt} {answer : E.Answer stmt} {later older : List (Call E)} {K : E.Db → Prop}

/-- What an open transaction has seen of a row that it has locked is still what it sees. -/
theorem Reaches.sees (isLocal : E.Local) (reached : Reaches D (.starting db world program) history s)
    (stable : ∀ db db', E.same l db db' → K db → K db')
    (shows : ∀ env rows, E.possible stmt env rows = true → E.exec stmt env rows = some answer →
      K (E.applyAll (E.writes stmt answer) rows))
    (taken : l ∈ E.locks stmt answer) (ready : (s.procs i).prog = .call op next)
    (calls : (s.procs i).calls = later ++ ⟨.sql stmt, .ok answer⟩ :: older)
    (spared : ∀ call ∈ later, Spares l call) (sound : (session (s.procs i).calls).failed = false) :
    K ((session (s.procs i).calls).view s.db) := by
  induction reached generalizing later op next with
  | start => simp [State.starting, Proc.start] at calls
  | @step _ s j ws s' reached stepped ih =>
      have verified := reached.verified (R := .anything) (fun _ _ => trivial)
      by_cases own : j = i
      · subst own
        obtain ⟨op', next', reply, world', ready', answers, _, _, _, rfl⟩ := stepped.advanced
        have here := Proc.session_call ready'
        simp only [State.advance, Function.update_self] at calls sound ⊢
        cases later with
        | nil =>
            obtain ⟨same, rest⟩ := List.cons.inj calls
            cases same
            rcases answers with ⟨_, refused, _⟩ | ⟨_, env, _, performed⟩
            · cases refused
            rcases Op.perform_sql performed with ⟨_, _, ran⟩ | ⟨_, refused⟩
            · obtain ⟨drawn, executed⟩ := Op.answer_ok ran
              rw [here] at drawn executed
              change K (E.applyAll ((session (s.procs j).calls).writes ++ E.writes stmt answer) s.db)
              rw [Engine.applyAll_append]
              exact shows env _ drawn executed
            · cases refused
        | cons call later =>
            obtain ⟨same, rest⟩ := List.cons.inj calls
            obtain ⟨stmt', reply', rfl, apart⟩ := spared call List.mem_cons_self
            cases same
            cases reply' with
            | error reason => exact absurd sound Bool.noConfusion
            | ok answer' =>
                have before := ih ready' rest (fun c member => spared c (List.mem_cons_of_mem _ member)) sound
                change K (E.applyAll ((session (s.procs j).calls).writes ++ E.writes stmt' answer') s.db)
                rw [Engine.applyAll_append]
                exact stable _ _ (Engine.applyAll_same _ _ (apart answer' rfl)) before
      · have other := Ne.symm own
        have still : s'.procs i = s.procs i := by
          obtain ⟨_, _, _, _, _, _, _, _, _, rfl⟩ := stepped.advanced
          exact advance_other s other
        rw [still] at calls ready sound ⊢
        have between := stepped.interferes (j := i) verified (fun _ _ _ _ => trivial) (fun _ => trivial) other
        have running := Proc.session_call ready
        rw [running] at between
        have locked : ∀ w ∈ (session (s.procs i).calls).writes, ∀ l' ∈ E.touches w, E.same l' s.db s'.db := by
          intro w member l' touched
          exact between.same l' (running ▸ verified.locked i w (running.symm ▸ member) l' touched)
        have held : l ∈ (session (s.procs i).calls).held := calls ▸ held_of_spared spared taken
        exact stable _ _ (isLocal.applyAll locked (between.same l held)) (ih ready calls spared sound)

/-- What a transaction has seen of a row that it has locked is what it has committed. -/
theorem Reaches.commits_seen (isLocal : E.Local) (reached : Reaches D (.starting db world program) history s)
    (stable : ∀ db db', E.same l db db' → K db → K db')
    (shows : ∀ env rows, E.possible stmt env rows = true → E.exec stmt env rows = some answer →
      K (E.applyAll (E.writes stmt answer) rows))
    (taken : l ∈ E.locks stmt answer) (spared : ∀ call ∈ later, Spares l call)
    (sound : (session (later ++ ⟨.sql stmt, .ok answer⟩ :: older)).failed = false)
    (inside : ⟨.commit, .ok ()⟩ :: (later ++ ⟨.sql stmt, .ok answer⟩ :: older) <:+ (s.procs i).calls) :
    Earlier D (.starting db world program) s (fun after => K after.db) := by
  obtain ⟨_, middle, _, next, world', after, first, here, second, ready, calls, _⟩ := reached.stepped inside
  refine ⟨_, _, after, first.step here, second, ?_⟩
  have running := Proc.session_call ready
  have seen := first.sees isLocal stable shows taken ready calls spared (calls.symm ▸ sound)
  simp only [State.advance, Op.commits, running, calls, sound, Bool.false_eq_true, if_false]
  exact calls ▸ seen

/-- What a transaction that has written nothing was told, the committed rows told it. -/
theorem Reaches.seen_earlier (reached : Reaches D (.starting db world program) history s)
    (unwritten : (session older).writes = []) (inside : ⟨.sql stmt, .ok answer⟩ :: older <:+ (s.procs i).calls) :
    Earlier D (.starting db world program) s (fun middle => ∃ env, E.exec stmt env middle.db = some answer) := by
  obtain ⟨_, middle, _, next, world', after, first, here, second, ready, calls, answers⟩ := reached.stepped inside
  rcases answers with ⟨_, refused⟩ | ⟨_, env, performed⟩
  · cases refused
  rcases Op.perform_sql performed with ⟨_, _, ran⟩ | ⟨_, refused⟩
  · refine ⟨_, middle, _, first, (Reaches.step .start here).trans second, env, ?_⟩
    have executed := (Op.answer_ok ran).2
    rwa [Proc.session_call ready, calls, Session.view, unwritten, Engine.applyAll_nil] at executed
  · cases refused

end Runs

end Transactions
