import LLMPool.Transactions.Contract

/-! Programs that keep an invariant of the rows: what each of them reads then satisfies it
too, and every interleaving of such programs keeps it. -/
namespace Transactions
variable {E : Engine}

/-- The other programs keep the invariant. -/
def Rely.keeping (I : E.Db → Prop) : Rely E where
  rel db db' := I db → I db'
  refl _ holds := holds
  trans first second holds := second (first holds)

/-- A program keeps the invariant, and returns what satisfies `Q`. -/
def Prog.keeps (D : Discipline E) (I : E.Db → Prop) (Q : α → Prop) (p : Prog E α) : Prop :=
  ∀ calls db, I db → p.wp D (.keeping I) (Rely.keeping I).rel (fun value _ db => I db ∧ Q value) calls db

section Rules
variable {D : Discipline E} {I : E.Db → Prop}

theorem keeps_pure {Q : α → Prop} (result : Q value) : (pure value : Prog E α).keeps D I Q :=
  fun _ _ holds => ⟨holds, result⟩

theorem keeps_bind {M : α → Prop} {Q : β → Prop} {p : Prog E α} {f : α → Prog E β} (first : p.keeps D I M)
    (rest : ∀ value, M value → (f value).keeps D I Q) : (p >>= f).keeps D I Q := by
  intro calls db holds
  rw [wp_bind]
  exact wp_mono (fun _ _ kept => kept) (fun value calls db ⟨holds, middle⟩ => rest value middle calls db holds)
    (first calls db holds)

theorem keeps_run_bind {M : α → Prop} {Q : Except ε β → Prop} {x : ExceptT ε (Prog E) α}
    {f : α → ExceptT ε (Prog E) β}
    (first : x.run.keeps D I (fun result => ∀ value, result = .ok value → M value))
    (rest : ∀ value, M value → (f value).run.keeps D I Q) (failed : ∀ e, Q (.error e)) :
    (x >>= f).run.keeps D I Q := by
  rw [ExceptT.run_bind]
  refine keeps_bind first ?_
  rintro (e | value) middle
  · exact keeps_pure (failed e)
  · exact rest value (middle value rfl)

theorem keeps_auto {s : E.Stmt} {Q : Except Failure (E.Answer s) → Prop}
    (answered : ∀ env db answer, I db → E.exec s env db = some answer →
      I (E.applyAll (E.writes s answer) db) ∧ Q (.ok answer))
    (refused : ∀ reason, Q (.error reason)) : (Prog.auto s).keeps D I Q := by
  intro calls db holds
  refine wp_auto ?_ ?_
  · intro db' env answer between _ _ executed
    have after := answered env db' answer (between.rel holds) executed
    exact ⟨fun _ _ => after.1, after⟩
  · intro db' reason between _ _
    exact ⟨between.rel holds, refused reason⟩

theorem keeps_remote {c : E.Remote} {Q : Except Failure (E.Reply c) → Prop} (any : ∀ reply, Q reply) :
    (Prog.remote c).keeps D I Q := by
  intro calls db holds
  refine wp_remote ?_ ?_
  · intro db' env world between _
    exact ⟨between.rel holds, any _⟩
  · intro db' _ between
    exact ⟨between.rel holds, any _⟩

end Rules

variable {D : Discipline E} {I : E.Db → Prop} {ι : Type} [DecidableEq ι] {s : State E ι}

/-- An invariant that every program keeps holds in every state of every interleaving. -/
theorem Reaches.keeps {program : ι → Prog E Unit}
    (each : ∀ i, (program i).keeps D I (fun _ => True)) (initial : I db)
    (reached : Reaches D (.starting db world program) history s) : I s.db := by
  have verified : Verified D (.keeping I) (fun _ => (Rely.keeping I).rel) (fun _ _ _ => True)
      (.starting db world program) :=
    .starting (fun i => wp_mono (fun _ _ kept => kept) (fun _ _ _ _ => trivial) (each i [] db initial))
  obtain ⟨_, chain⟩ := reached.chain verified (fun _ _ _ kept => kept) (fun _ _ _ _ _ _ => trivial)
  exact chain.rel (R := Rely.keeping I) (fun _ _ _ kept => kept) initial

end Transactions
