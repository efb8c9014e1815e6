import LLMPool.Transactions.Paths

/-! Verify one program at a time against what the others may do meanwhile. Every
run of verified programs is then a chain of their atomic guarantees. -/
namespace Transactions
variable {E : Engine} {ι : Type}

/-- What any process may do to the committed rows, over any number of steps. -/
structure Rely (E : Engine) where
  rel : E.Db → E.Db → Prop
  refl : ∀ db, rel db db
  trans : ∀ {first second third}, rel first second → rel second third → rel first third

def Rely.anything : Rely E := ⟨fun _ _ => True, fun _ => trivial, fun _ _ => trivial⟩

/-- What the other processes can have done between two calls of a program: they
keep to the rely, and off the rows that its open transaction has locked. -/
structure Interferes (D : Discipline E) (R : Rely E) (t : Session E) (db db' : E.Db) : Prop where
  rel : R.rel db db'
  same : ∀ l ∈ t.held, E.same l db db'
  alone : D.serial → t.isOpen = true → db' = db

variable {D : Discipline E} {R : Rely E} {t : Session E}

theorem Interferes.refl (db : E.Db) : Interferes D R t db db :=
  ⟨R.refl db, fun l _ => E.same_refl l db, fun _ _ => rfl⟩

theorem Interferes.trans (first : Interferes D R t db middle) (second : Interferes D R t middle db') :
    Interferes D R t db db' where
  rel := R.trans first.rel second.rel
  same l held := E.same_trans l _ _ _ (first.same l held) (second.same l held)
  alone serial running := (second.alone serial running).trans (first.alone serial running)

def Op.Answers (D : Discipline E) (calls : List (Call E)) (db : E.Db) (op : Op E)
    (reply : Except Failure op.Reply) : Prop :=
  D.faults op ∧ reply = .error .fault ∨
    D.admits calls op db ∧ ∃ env world, op.perform env (session calls) db world = some reply

/-- The weakest precondition of a program that has made `calls` already: whatever
interferes and whatever is answered, each commit keeps the guarantee `G` and the
value returned satisfies `Q`. -/
def Prog.wp (D : Discipline E) (R : Rely E) (G : E.Db → E.Db → Prop)
    (Q : α → List (Call E) → E.Db → Prop) : Prog E α → List (Call E) → E.Db → Prop
  | .done value, calls, db => Q value calls db
  | .call op next, calls, db => ∀ db', Interferes D R (session calls) db db' →
      ∀ reply, op.Answers D calls db' reply →
        (op.commits (session calls) reply ≠ [] →
          G db' (E.applyAll (op.commits (session calls) reply) db')) ∧
        (next reply).wp D R G Q (⟨op, reply⟩ :: calls)
          (E.applyAll (op.commits (session calls) reply) db')

section Rules
variable {G : E.Db → E.Db → Prop} {calls : List (Call E)} {db : E.Db}

theorem wp_bind {Q : β → List (Call E) → E.Db → Prop} {p : Prog E α} {f : α → Prog E β} :
    (p >>= f).wp D R G Q calls db ↔
      p.wp D R G (fun value calls db => (f value).wp D R G Q calls db) calls db := by
  change (p.bind f).wp D R G Q calls db ↔ _
  induction p generalizing calls db with
  | done value => rfl
  | call op next ih =>
      simp only [Prog.bind, Prog.wp]
      constructor
      · intro h db' between reply answers
        exact ⟨(h db' between reply answers).1, (ih reply).mp (h db' between reply answers).2⟩
      · intro h db' between reply answers
        exact ⟨(h db' between reply answers).1, (ih reply).mpr (h db' between reply answers).2⟩

theorem wp_run_pure {Q : Except ε α → List (Call E) → E.Db → Prop} :
    (pure value : ExceptT ε (Prog E) α).run.wp D R G Q calls db ↔ Q (.ok value) calls db := Iff.rfl

theorem wp_run_bind {Q : Except ε β → List (Call E) → E.Db → Prop} {x : ExceptT ε (Prog E) α}
    {f : α → ExceptT ε (Prog E) β} :
    (x >>= f).run.wp D R G Q calls db ↔ x.run.wp D R G (fun result calls db =>
      match result with
      | .ok value => (f value).run.wp D R G Q calls db
      | .error e => Q (.error e) calls db) calls db := by
  rw [ExceptT.run_bind, wp_bind]
  refine Iff.of_eq (congrArg (fun Q' => x.run.wp D R G Q' calls db) ?_)
  funext result calls db
  cases result <;> rfl

theorem wp_mono {Q Q' : α → List (Call E) → E.Db → Prop} {G' : E.Db → E.Db → Prop} {p : Prog E α}
    (guarantee : ∀ db db', G db db' → G' db db')
    (result : ∀ value calls db, Q value calls db → Q' value calls db)
    (h : p.wp D R G Q calls db) : p.wp D R G' Q' calls db := by
  induction p generalizing calls db with
  | done value => exact result _ _ _ h
  | call op next ih =>
      intro db' between reply answers
      obtain ⟨commits, rest⟩ := h db' between reply answers
      exact ⟨fun wrote => guarantee _ _ (commits wrote), ih reply rest⟩

/-- A program about which nothing is proved, where every write is within the rely. -/
theorem wp_any {p : Prog E α} (within : ∀ writes db, R.rel db (E.applyAll writes db)) :
    p.wp D R R.rel (fun _ _ _ => True) calls db := by
  induction p generalizing calls db with
  | done value => trivial
  | call op next ih => exact fun db' _ reply _ => ⟨fun _ => within _ db', ih reply⟩

/-- Two fallible parts in sequence meet in an assertion between them. -/
theorem wp_seq {M : Except ε α → List (Call E) → E.Db → Prop}
    {Q : Except ε β → List (Call E) → E.Db → Prop} {x : ExceptT ε (Prog E) α}
    {f : α → ExceptT ε (Prog E) β} (first : x.run.wp D R G M calls db)
    (rest : ∀ value calls db, M (.ok value) calls db → (f value).run.wp D R G Q calls db)
    (failed : ∀ e calls db, M (.error e) calls db → Q (.error e) calls db) :
    (x >>= f).run.wp D R G Q calls db := by
  rw [wp_run_bind]
  refine wp_mono (fun _ _ => id) ?_ first
  rintro (e | value) calls db middle
  · exact failed e calls db middle
  · exact rest value calls db middle

/-- What is proved of a program's next call holds whatever interferes before it. -/
theorem wp_stable {Q : α → List (Call E) → E.Db → Prop}
    (h : (Prog.call op next).wp D R G Q calls db) (between : Interferes D R (session calls) db db') :
    (Prog.call op next).wp D R G Q calls db' :=
  fun db'' later => h db'' (between.trans later)

theorem wp_begin {Q : Except Failure Unit → List (Call E) → E.Db → Prop}
    (opened : ∀ db', Interferes D R (session calls) db db' → Q (.ok ()) (⟨.begin, .ok ()⟩ :: calls) db')
    (failed : ∀ db', D.faults .begin → Interferes D R (session calls) db db' →
      Q (.error .fault) (⟨.begin, .error .fault⟩ :: calls) db') :
    Prog.begin.wp D R G Q calls db := by
  intro db' between reply answers
  refine ⟨fun wrote => absurd (by cases reply <;> rfl) wrote, ?_⟩
  obtain ⟨faulty, rfl⟩ | ⟨_, _, _, performed⟩ := answers
  · exact failed db' faulty between
  · cases performed
    exact opened db' between

/-- Why a statement in this session answers with an error. -/
def Refused (D : Discipline E) (calls : List (Call E)) (db : E.Db) (s : E.Stmt) : Failure → Prop
  | .fault => D.faults (.sql s)
  | .conflict => D.admits calls (.sql s) db ∧ (session calls).failed = false ∧
      ∃ env, E.possible s env ((session calls).view db) = true ∧
        E.exec s env ((session calls).view db) = none
  | .aborted => ¬((session calls).isOpen = true ∧ (session calls).failed = false)

theorem wp_sql {s : E.Stmt} {Q : Except Failure (E.Answer s) → List (Call E) → E.Db → Prop}
    (answered : ∀ db' env answer, Interferes D R (session calls) db db' →
      D.admits calls (.sql s) db' → (session calls).failed = false →
      E.possible s env ((session calls).view db') = true →
      E.exec s env ((session calls).view db') = some answer →
      Q (.ok answer) (⟨.sql s, .ok answer⟩ :: calls) db')
    (refused : ∀ db' reason, Interferes D R (session calls) db db' → Refused D calls db' s reason →
      Q (.error reason) (⟨.sql s, .error reason⟩ :: calls) db') :
    (Prog.sql s).wp D R G Q calls db := by
  intro db' between reply answers
  have silent : Op.commits (session calls) (.sql s) reply = [] := by cases reply <;> rfl
  rw [silent]
  refine ⟨fun wrote => absurd rfl wrote, ?_⟩
  simp only [Engine.applyAll_nil]
  obtain ⟨faulty, rfl⟩ | ⟨admitted, env, _, performed⟩ := answers
  · exact refused db' .fault between faulty
  · rcases Op.perform_sql performed with ⟨_, sound, ran⟩ | ⟨stopped, rfl⟩
    · cases reply with
      | ok answer =>
          obtain ⟨possible, executed⟩ := Op.answer_ok ran
          exact answered db' env answer between admitted sound possible executed
      | error reason =>
          obtain ⟨rfl, possible, executed⟩ := Op.answer_error ran
          exact refused db' .conflict between ⟨admitted, sound, env, possible, executed⟩
    · exact refused db' .aborted between stopped

/-- A commit makes the transaction's writes permanent, unless a statement failed in it. -/
theorem wp_commit {Q : Except Failure Unit → List (Call E) → E.Db → Prop}
    (committed : ∀ db', Interferes D R (session calls) db db' → D.admits calls .commit db' →
      (session calls).failed = false →
      ((session calls).writes ≠ [] → G db' ((session calls).view db')) ∧
        Q (.ok ()) (⟨.commit, .ok ()⟩ :: calls) ((session calls).view db'))
    (rolledBack : ∀ db', Interferes D R (session calls) db db' → (session calls).failed = true →
      Q (.ok ()) (⟨.commit, .ok ()⟩ :: calls) db')
    (failed : ∀ db', D.faults .commit → Interferes D R (session calls) db db' →
      Q (.error .fault) (⟨.commit, .error .fault⟩ :: calls) db') :
    Prog.commit.wp D R G Q calls db := by
  intro db' between reply answers
  obtain ⟨faulty, rfl⟩ | ⟨admitted, _, _, performed⟩ := answers
  · exact ⟨fun wrote => absurd rfl wrote, failed db' faulty between⟩
  · cases performed
    cases sound : (session calls).failed with
    | false =>
        have all : Op.commits (session calls) .commit (.ok ()) = (session calls).writes := by
          simp only [Op.commits, sound, Bool.false_eq_true, if_false]
        rw [all]
        exact committed db' between admitted sound
    | true =>
        have none : Op.commits (session calls) .commit (.ok ()) = [] := by
          simp only [Op.commits, sound, if_true]
        rw [none]
        exact ⟨fun wrote => absurd rfl wrote, rolledBack db' between sound⟩

theorem wp_autoAdmitted {s : E.Stmt} {Q : Except Failure (E.Answer s) → List (Call E) → E.Db → Prop}
    (answered : ∀ db' env answer, Interferes D R (session calls) db db' →
      D.admits calls (.auto s) db' → E.possible s env db' = true → E.exec s env db' = some answer →
      (E.writes s answer ≠ [] → G db' (E.applyAll (E.writes s answer) db')) ∧
        Q (.ok answer) (⟨.auto s, .ok answer⟩ :: calls) (E.applyAll (E.writes s answer) db'))
    (conflict : ∀ db' env, Interferes D R (session calls) db db' → D.admits calls (.auto s) db' →
      E.possible s env db' = true → E.exec s env db' = none →
      Q (.error .conflict) (⟨.auto s, .error .conflict⟩ :: calls) db')
    (failed : ∀ db', D.faults (.auto s) → Interferes D R (session calls) db db' →
      Q (.error .fault) (⟨.auto s, .error .fault⟩ :: calls) db') :
    (Prog.auto s).wp D R G Q calls db := by
  intro db' between reply answers
  obtain ⟨faulty, rfl⟩ | ⟨admitted, env, _, ran⟩ := answers
  · exact ⟨fun wrote => absurd rfl wrote, failed db' faulty between⟩
  · cases reply with
    | ok answer =>
        obtain ⟨possible, executed⟩ := Op.answer_ok ran
        exact answered db' env answer between admitted possible executed
    | error reason =>
        obtain ⟨rfl, possible, executed⟩ := Op.answer_error ran
        exact ⟨fun wrote => absurd rfl wrote, conflict db' env between admitted possible executed⟩

theorem wp_auto {s : E.Stmt} {Q : Except Failure (E.Answer s) → List (Call E) → E.Db → Prop}
    (answered : ∀ db' env answer, Interferes D R (session calls) db db' →
      D.admits calls (.auto s) db' → E.possible s env db' = true → E.exec s env db' = some answer →
      (E.writes s answer ≠ [] → G db' (E.applyAll (E.writes s answer) db')) ∧
        Q (.ok answer) (⟨.auto s, .ok answer⟩ :: calls) (E.applyAll (E.writes s answer) db'))
    (refused : ∀ db' reason, Interferes D R (session calls) db db' →
      (reason = .fault → D.faults (.auto s)) →
      (reason = .conflict → ∃ env, E.possible s env db' = true ∧ E.exec s env db' = none) →
      Q (.error reason) (⟨.auto s, .error reason⟩ :: calls) db') :
    (Prog.auto s).wp D R G Q calls db :=
  wp_autoAdmitted answered
    (fun db' env between _ possible executed =>
      refused db' .conflict between nofun (fun _ => ⟨env, possible, executed⟩))
    (fun db' faulty between => refused db' .fault between (fun _ => faulty) nofun)

theorem wp_remote {c : E.Remote} {Q : Except Failure (E.Reply c) → List (Call E) → E.Db → Prop}
    (answered : ∀ db' env world, Interferes D R (session calls) db db' →
      D.admits calls (.remote c) db' →
      Q (.ok (E.remote c env world).1) (⟨.remote c, .ok (E.remote c env world).1⟩ :: calls) db')
    (failed : ∀ db', D.faults (.remote c) → Interferes D R (session calls) db db' →
      Q (.error .fault) (⟨.remote c, .error .fault⟩ :: calls) db') :
    (Prog.remote c).wp D R G Q calls db := by
  intro db' between reply answers
  refine ⟨fun wrote => absurd (by cases reply <;> rfl) wrote, ?_⟩
  obtain ⟨faulty, rfl⟩ | ⟨admitted, env, world, performed⟩ := answers
  · exact failed db' faulty between
  · cases performed
    exact answered db' env world between admitted

theorem Op.Answers.sensible {op : Op E} {reply : Except Failure op.Reply}
    (answers : op.Answers D calls db reply) : op.Sensible (session calls) reply := by
  rcases answers with ⟨_, rfl⟩ | ⟨_, _, _, performed⟩
  · exact Op.sensible_fault _ _
  · exact Op.sensible_of_perform performed

/-- A program whose every call keeps to the guarantee by itself. -/
theorem wp_of_path {P : List (Call E) → Op E → Prop} {Q : α → List (Call E) → Prop} {p : Prog E α}
    (keeps : ∀ calls db op reply, P calls op → op.Answers D calls db reply →
      op.commits (session calls) reply ≠ [] → G db (E.applyAll (op.commits (session calls) reply) db))
    (path : p.path P Q calls) : p.wp D R G (fun value calls _ => Q value calls) calls db := by
  induction p generalizing calls db with
  | done value => exact path
  | call op next ih =>
      intro db' _ reply answers
      exact ⟨keeps calls db' op reply path.1 answers, ih reply (path.2 reply answers.sensible)⟩

end Rules

/-- The committed rows after the guaranteed writes of a history. -/
inductive Chain (G : ι → E.Db → E.Db → Prop) (db : E.Db) : History E ι → E.Db → Prop
  | nil : Chain G db [] db
  | cons (earlier : Chain G db history db') (step : G i db' (E.applyAll (w :: ws) db')) :
      Chain G db ((i, w :: ws) :: history) (E.applyAll (w :: ws) db')

/-- An induction over a chain: what every guarantee keeps holds of every chain. -/
theorem Chain.invariant {G : ι → E.Db → E.Db → Prop} {I : History E ι → E.Db → Prop}
    (chain : Chain G db history db') (initial : I [] db)
    (preserved : ∀ history i writes mid, Chain G db history mid → I history mid →
      G i mid (E.applyAll writes mid) → I ((i, writes) :: history) (E.applyAll writes mid)) :
    I history db' := by
  induction chain with
  | nil => exact initial
  | cons earlier step ih => exact preserved _ _ _ _ earlier ih step

theorem Chain.rel {G : ι → E.Db → E.Db → Prop} (chain : Chain G db history db')
    (keeps : ∀ i db db', G i db db' → R.rel db db') : R.rel db db' :=
  chain.invariant (I := fun _ => R.rel db) (R.refl db)
    (fun _ i _ _ _ ih step => R.trans ih (keeps i _ _ step))

/-- The state of a run of verified programs: no row lock is held twice, each open
transaction has locked what it wrote, and what was proved of each program holds of
what is left of it. -/
structure Verified (D : Discipline E) (R : Rely E) (G : ι → E.Db → E.Db → Prop)
    (Q : ι → List (Call E) → E.Db → Prop) (s : State E ι) : Prop where
  apart : ∀ i j, i ≠ j → ∀ l ∈ (s.procs i).session.held, l ∉ (s.procs j).session.held
  locked : ∀ i, ∀ w ∈ (s.procs i).session.writes, ∀ l ∈ E.touches w, l ∈ (s.procs i).session.held
  holds : ∀ i, (s.procs i).prog.wp D R (G i) (fun _ => Q i) (s.procs i).calls s.db

variable {G : ι → E.Db → E.Db → Prop} {Q : ι → List (Call E) → E.Db → Prop}

theorem Verified.starting {program : ι → Prog E Unit}
    (each : ∀ i, (program i).wp D R (G i) (fun _ => Q i) [] db) :
    Verified D R G Q (State.starting db world program) := by
  have idle : ∀ i, ((State.starting db world program).procs i).session = .idle := by
    intro i
    simp only [State.starting, Proc.start, Proc.session]
    split <;> rfl
  refine ⟨?_, ?_, each⟩ <;> simp [idle, Session.idle]

theorem Session.after_locked {call : Call E} (locked : ∀ w ∈ t.writes, ∀ l ∈ E.touches w, l ∈ t.held) :
    ∀ w ∈ (t.after call).writes, ∀ l ∈ E.touches w, l ∈ (t.after call).held := by
  intro w member l touched
  obtain ⟨op, reply⟩ := call
  cases op <;> cases reply <;>
    simp only [Session.after, Session.idle, List.not_mem_nil, List.mem_append] at member ⊢
  case sql.ok s answer =>
    rcases member with older | newer
    · exact .inl (locked w older l touched)
    · exact .inr (E.covered s answer w newer l touched)
  all_goals exact locked w member l touched

theorem Session.after_held {op : Op E} {reply : Except Failure op.Reply}
    (held : l ∈ (t.after ⟨op, reply⟩).held) : l ∈ t.held ∨ l ∈ op.takes reply := by
  cases op <;> cases reply <;>
    simp only [Session.after, Session.idle, List.not_mem_nil, List.mem_append, Op.takes] at held ⊢
  case sql.ok => exact held
  all_goals exact .inl held

/-- A call's permanent writes are to rows it has locked or now locks. -/
theorem Op.commits_locked {op : Op E} {reply : Except Failure op.Reply}
    (locked : ∀ w ∈ t.writes, ∀ l ∈ E.touches w, l ∈ t.held) :
    ∀ w ∈ op.commits t reply, ∀ l ∈ E.touches w, l ∈ t.held ∨ l ∈ op.takes reply := by
  intro w member l touched
  cases op <;> cases reply <;> simp only [Op.commits, List.not_mem_nil] at member
  case commit.ok =>
    split at member
    · cases member
    · exact .inl (locked w member l touched)
  case auto.ok s answer => exact .inr (E.covered s answer w member l touched)

variable [DecidableEq ι] {s s' : State E ι} {i : ι}

theorem Proc.session_call {p : Proc E} (ready : p.prog = .call op next) :
    p.session = Transactions.session p.calls := by
  simp only [Proc.session, ready]

theorem advance_session (s : State E ι) (reply : Except Failure op.Reply) (world : E.World)
    (ready : (s.procs i).prog = .call op next) :
    ((s.advance i op next reply world).procs i).session = .idle ∨
      ((s.advance i op next reply world).procs i).session = (s.procs i).session.after ⟨op, reply⟩ := by
  rw [Proc.session_call ready]
  simp only [State.advance, Function.update_self, Proc.session]
  split
  · exact .inl rfl
  · exact .inr rfl

theorem advance_other (s : State E ι) (other : j ≠ i) :
    (s.advance i op next reply world).procs j = s.procs j := by
  simp only [State.advance, Function.update_of_ne other]

/-- What a step does to the rows is, to every other process, interference. -/
theorem Step.interferes (verified : Verified D R G Q s) (stepped : Step D s i writes s')
    (keeps : ∀ i db db', G i db db' → R.rel db db') (guaranteed : writes ≠ [] → G i s.db s'.db)
    (other : j ≠ i) : Interferes D R (s.procs j).session s.db s'.db := by
  obtain ⟨op, next, reply, world, ready, _, alone, free, rfl, rfl⟩ := stepped.advanced
  refine ⟨?_, ?_, ?_⟩
  · by_cases wrote : op.commits (s.procs i).session reply = []
    · simpa only [State.advance, wrote, Engine.applyAll_nil] using R.refl s.db
    · exact keeps i _ _ (guaranteed wrote)
  · intro l held
    apply E.applyAll_same
    intro w member touched
    rcases Op.commits_locked (verified.locked i) w member l touched with mine | taken
    · exact verified.apart j i other l held mine
    · exact free j other l taken held
  · intro serial running
    have idle := alone serial j other
    rw [running] at idle
    cases idle

theorem Step.guaranteed (verified : Verified D R G Q s) (stepped : Step D s i writes s') :
    (writes ≠ [] → G i s.db s'.db) ∧
      (s'.procs i).prog.wp D R (G i) (fun _ => Q i) (s'.procs i).calls s'.db := by
  obtain ⟨op, next, reply, world, ready, answers, _, _, rfl, rfl⟩ := stepped.advanced
  have holds := verified.holds i
  have here := Proc.session_call ready
  rw [ready] at holds
  have both := holds s.db (.refl s.db) reply (by
    rcases answers with ⟨faulty, rfl, _⟩ | ⟨admitted, env, _, performed⟩
    · exact .inl ⟨faulty, rfl⟩
    · exact .inr ⟨admitted, env, s.world, here ▸ performed⟩)
  rw [← here] at both
  simpa only [State.advance, Function.update_self] using both

theorem Step.verified (verified : Verified D R G Q s) (stepped : Step D s i writes s')
    (keeps : ∀ i db db', G i db db' → R.rel db db')
    (stays : ∀ i calls db db', Q i calls db → R.rel db db' → Q i calls db') :
    Verified D R G Q s' := by
  obtain ⟨guaranteed, own⟩ := stepped.guaranteed verified
  have interferes := fun j other => stepped.interferes (j := j) verified keeps guaranteed other
  obtain ⟨op, next, reply, world, ready, _, _, free, rfl, rfl⟩ := stepped.advanced
  have session := advance_session s reply world ready
  have mine : ∀ l ∈ ((s.advance i op next reply world).procs i).session.held,
      l ∈ (s.procs i).session.held ∨ l ∈ op.takes reply := by
    intro l held
    rcases session with same | same <;> rw [same] at held
    · cases held
    · exact Session.after_held held
  refine ⟨?_, ?_, ?_⟩
  · intro j k different l held
    by_cases first : j = i
    · subst first
      rw [advance_other s different.symm]
      rcases mine l held with older | newer
      · exact verified.apart j k different l older
      · exact free k different.symm l newer
    · rw [advance_other s first] at held
      by_cases second : k = i
      · subst second
        intro again
        rcases mine l again with older | newer
        · exact verified.apart j k different l held older
        · exact free j first l newer held
      · rw [advance_other s second]
        exact verified.apart j k different l held
  · intro j
    by_cases own : j = i
    · subst own
      rcases session with same | same <;> rw [same]
      · simp [Session.idle]
      · exact Session.after_locked (verified.locked j)
    · rw [advance_other s own]
      exact verified.locked j
  · intro j
    by_cases same : j = i
    · subst same
      exact own
    · have holds := verified.holds j
      have between := interferes j same
      rw [advance_other s same]
      cases rest : (s.procs j).prog with
      | done value =>
          rw [rest] at holds
          exact stays j _ _ _ holds between.rel
      | call op next =>
          rw [rest] at holds
          exact wp_stable holds (Proc.session_call rest ▸ between)

/-- Any interleaving of verified programs does to the rows what a chain of their
guarantees does, one guarantee for each transaction that wrote. -/
theorem Reaches.chain (initial : Verified D R G Q s) (reached : Reaches D s history s')
    (keeps : ∀ i db db', G i db db' → R.rel db db')
    (stays : ∀ i calls db db', Q i calls db → R.rel db db' → Q i calls db') :
    Verified D R G Q s' ∧ Chain G s.db history s'.db := by
  induction reached with
  | start => exact ⟨initial, .nil⟩
  | @step history _ _ writes _ _ stepped ih =>
      obtain ⟨verified, chain⟩ := ih
      refine ⟨stepped.verified verified keeps stays, ?_⟩
      have guaranteed := (stepped.guaranteed verified).1
      have after := stepped.db
      cases writes with
      | nil =>
          rw [after]
          exact chain
      | cons w ws =>
          rw [after] at guaranteed ⊢
          exact .cons chain (guaranteed (List.cons_ne_nil w ws))

/-- In every run each process keeps off what the others have locked. -/
theorem Reaches.verified {program : ι → Prog E Unit}
    (within : ∀ writes db, R.rel db (E.applyAll writes db))
    (reached : Reaches D (.starting db world program) history s) :
    Verified D R (fun _ => R.rel) (fun _ _ _ => True) s :=
  (reached.chain (.starting (fun _ => wp_any within)) (fun _ _ _ kept => kept)
    (fun _ _ _ _ _ _ => trivial)).1

end Transactions
