import LLMPool.Transactions.Contract
import Mathlib.Data.DFinsupp.WellFounded
import Mathlib.SetTheory.Ordinal.Family

/-! Programs that lock in the order of a rank. No interleaving of them is ever stuck, and
each one can be run to its end without a failure. -/
namespace Transactions
variable {E : Engine} {ι : Type}

/-- Each lock that the call takes is held already, or ranks above all that are held. -/
def Op.Climbs (rank : E.Lock → Nat) (t : Session E) (op : Op E) : Prop :=
  ∀ reply, op.Sensible t reply → ∀ l ∈ op.takes reply, l ∈ t.held ∨ ∀ l' ∈ t.held, rank l' < rank l

/-- Every call of the program takes its locks in the order of the rank. -/
def Prog.Climbs (rank : E.Lock → Nat) (p : Prog E α) : Prop :=
  p.path (fun calls op => op.Climbs rank (session calls)) (fun _ _ => True) []

section Rules
variable {rank : E.Lock → Nat} {t : Session E} {op : Op E}

theorem Op.climbs_of_idle (idle : t.held = []) : op.Climbs rank t := by
  intro reply _ l _
  simp only [idle, List.not_mem_nil, false_implies, implies_true, or_true]

/-- A call that takes no locks, or holds those it takes. -/
theorem Op.climbs_of_held (holds : ∀ reply, op.Sensible t reply → ∀ l ∈ op.takes reply, l ∈ t.held) :
    op.Climbs rank t :=
  fun reply sensible l taken => .inl (holds reply sensible l taken)

/-- What is held ranks below what is taken. -/
theorem Op.climbs_of_below (bound : Nat) (below : ∀ l ∈ t.held, rank l < bound)
    (above : ∀ reply, op.Sensible t reply → ∀ l ∈ op.takes reply, bound ≤ rank l) : op.Climbs rank t :=
  fun reply sensible l taken => .inr (fun l' held => (below l' held).trans_le (above reply sensible l taken))

/-- Outside of transactions nothing is held. -/
theorem path_climbs_of_pooled {Q : α → List (Call E) → Prop} {p : Prog E α} {calls : List (Call E)}
    (pooled : p.path (fun _ op => op.Pooled) Q calls) (idle : (session calls).held = []) :
    p.path (fun calls op => op.Climbs rank (session calls)) (fun _ later => (session later).held = []) calls := by
  induction p generalizing calls with
  | done value => exact idle
  | call op next ih =>
      refine ⟨Op.climbs_of_idle idle, fun reply sensible => ih reply (pooled.2 reply sensible) ?_⟩
      have outside := pooled.1
      cases op with
      | auto s => cases reply <;> exact idle
      | remote c => cases reply <;> exact idle
      | begin | sql | commit => exact absurd outside id

theorem Prog.climbs_of_pooled {Q : α → List (Call E) → Prop} {p : Prog E α}
    (pooled : p.path (fun _ op => op.Pooled) Q []) : p.Climbs rank :=
  path_mono (fun _ _ climbs => climbs) (fun _ _ _ => trivial) (path_climbs_of_pooled pooled rfl)

end Rules

section Height

/-- How many calls a program can still make, counted in ordinals: it may branch on
infinitely many replies. -/
noncomputable def Prog.height : Prog E α → Ordinal.{0}
  | .done _ => 0
  | .call _ next => ⨆ reply, (next reply).height + 1

theorem Prog.height_next (op : Op E) (next : Except Failure op.Reply → Prog E α) (reply) :
    (next reply).height < (Prog.call op next).height :=
  Ordinal.lt_iSup_add_one (fun reply => (next reply).height) reply

variable [DecidableEq ι] {D : Discipline E} {s s' : State E ι}

theorem Step.height (stepped : Step D s i writes s') :
    (fun j => (s'.procs j).prog.height) < (fun j => (s.procs j).prog.height) := by
  obtain ⟨op, next, reply, world, ready, _, _, _, _, rfl⟩ := stepped.advanced
  have decreases : ((s.advance i op next reply world).procs i).prog.height < (s.procs i).prog.height := by
    simp only [State.advance, Function.update_self, ready]
    exact Prog.height_next op next reply
  refine Pi.lt_def.mpr ⟨fun j => ?_, i, decreases⟩
  by_cases own : j = i
  · subst own
    exact decreases.le
  · simp only [State.advance, Function.update_of_ne own, le_refl]

/-- Whatever the scheduler does, finitely many programs make finitely many steps. -/
theorem steps_wellFounded [Finite ι] (D : Discipline E) :
    WellFounded (fun s' s : State E ι => ∃ i writes, Step D s i writes s') :=
  Subrelation.wf (fun {_ _} ⟨_, _, stepped⟩ => stepped.height)
    (InvImage.wf (fun (s : State E ι) j => (s.procs j).prog.height) wellFounded_lt)

end Height

section Runs
variable [DecidableEq ι] {D : Discipline E} {rank : E.Lock → Nat} {top : Nat} {s s' : State E ι}

/-- Each statement can be executed in some environment. -/
def Draws (E : Engine) : Prop := ∀ (st : E.Stmt) (db : E.Db), ∃ env, E.possible st env db = true

theorem Op.performs [Nonempty E.Env] (draws : Draws E) (t : Session E) (db : E.Db) (world : E.World) (op : Op E) :
    ∃ env reply, op.perform env t db world = some reply := by
  obtain ⟨any⟩ := ‹Nonempty E.Env›
  have answers : ∀ (st : E.Stmt) db, ∃ env reply, Op.answer st env db = some reply := by
    intro st db
    obtain ⟨env, drawn⟩ := draws st db
    refine ⟨env, ?_⟩
    rw [Op.answer, if_pos drawn]
    cases E.exec st env db <;> exact ⟨_, rfl⟩
  cases op with
  | begin | commit | remote => exact ⟨any, _, rfl⟩
  | auto st => exact answers st db
  | sql st =>
      simp only [Op.perform]
      split
      · exact answers st _
      · exact ⟨any, _, rfl⟩

/-- A state of programs that lock in order, where no lock is held twice. -/
structure Ranked (rank : E.Lock → Nat) (s : State E ι) : Prop where
  climbs : s.Paths (fun _ calls op => op.Climbs rank (session calls)) (fun _ _ => True)
  apart : ∀ i j, i ≠ j → ∀ l ∈ (s.procs i).session.held, l ∉ (s.procs j).session.held
  locked : ∀ i, ∀ w ∈ (s.procs i).session.writes, ∀ l ∈ E.touches w, l ∈ (s.procs i).session.held

omit [DecidableEq ι] in
theorem Ranked.starting {program : ι → Prog E Unit} (climbs : ∀ i, (program i).Climbs rank) :
    Ranked rank (.starting db world program) := by
  have verified : Verified (.any False) .anything (fun _ => Rely.anything.rel) (fun _ _ _ => True)
      (State.starting db world program) := .starting (fun _ => wp_any (fun _ _ => trivial))
  exact ⟨climbs, verified.apart, verified.locked⟩

theorem Ranked.step (ranked : Ranked rank s) (stepped : Step D s i writes s') : Ranked rank s' := by
  have here : Verified D .anything (fun _ => Rely.anything.rel) (fun _ _ _ => True) s :=
    ⟨ranked.apart, ranked.locked, fun _ => wp_any (fun _ _ => trivial)⟩
  have there := stepped.verified here (fun _ _ _ kept => kept) (fun _ _ _ _ _ _ => trivial)
  exact ⟨stepped.paths ranked.climbs, there.apart, there.locked⟩

theorem Reaches.ranked (ranked : Ranked rank s) (reached : Reaches D s history s') : Ranked rank s' := by
  induction reached with
  | start => exact ranked
  | step _ stepped ih => exact ih.step stepped

/-- The next call of a process is made, or waits for a lock of another process that ranks above
all that its own process holds. -/
theorem Ranked.runs_or_waits [Nonempty E.Env] (ranked : Ranked rank s) (draws : Draws E)
    (running : ¬(s.procs i).Returned) :
    (∃ writes s', Step (.any False) s i writes s') ∨
      ∃ j l, l ∈ (s.procs j).session.held ∧ ∀ l' ∈ (s.procs i).session.held, rank l' < rank l := by
  cases ready : (s.procs i).prog with
  | done value => exact absurd ready running
  | call op next =>
      have here := Proc.session_call ready
      obtain ⟨env, reply, performed⟩ := op.performs draws (s.procs i).session s.db s.world
      by_cases free : s.Free i (op.takes reply)
      · exact .inl ⟨_, _, .run op next env reply ready trivial False.elim performed free⟩
      · unfold State.Free at free
        push Not at free
        obtain ⟨j, other, l, taken, held⟩ := free
        have climbs := ranked.climbs i
        rw [ready] at climbs
        rw [here] at performed
        rcases climbs.1 reply (Op.sensible_of_perform performed) l taken with own | above
        · exact absurd held (ranked.apart i j other.symm l (here ▸ own))
        · exact .inr ⟨j, l, held, here ▸ above⟩

/-- Where a lock is held, some process can go on: along the waits the ranks rise. -/
theorem Ranked.goes_on [Nonempty E.Env] (ranked : Ranked rank s) (draws : Draws E) (bounded : ∀ l, rank l ≤ top)
    (held : l ∈ (s.procs j).session.held) : ∃ i writes s', Step (.any False) s i writes s' := by
  induction distance : top - rank l using Nat.strong_induction_on generalizing j l with
  | _ distance ih =>
      have running : ¬(s.procs j).Returned := by
        intro returned
        simp only [Proc.session, show (s.procs j).prog = .done () from returned] at held
        cases held
      rcases ranked.runs_or_waits draws running with stepped | ⟨k, l', other, above⟩
      · exact ⟨j, stepped⟩
      · have higher := above l held
        exact ih (top - rank l') (by have := bounded l'; omega) other rfl

/-- No state is a deadlock: where a process has not returned, some process makes its next call. -/
theorem Ranked.progress [Nonempty E.Env] (ranked : Ranked rank s) (draws : Draws E) (bounded : ∀ l, rank l ≤ top) :
    (∀ i, (s.procs i).Returned) ∨ ∃ i writes s', Step (.any False) s i writes s' := by
  by_cases ended : ∀ i, (s.procs i).Returned
  · exact .inl ended
  · obtain ⟨i, running⟩ := not_forall.mp ended
    rcases ranked.runs_or_waits draws running with stepped | ⟨j, l, held, _⟩
    · exact .inr ⟨i, stepped⟩
    · exact .inr (ranked.goes_on draws bounded held)

/-- Finitely many programs that lock in order can be run to their ends without a failure. -/
theorem Ranked.completes [Finite ι] [Nonempty E.Env] (ranked : Ranked rank s) (draws : Draws E)
    (bounded : ∀ l, rank l ≤ top) :
    ∃ history s', Reaches (.any False) s history s' ∧ ∀ i, (s'.procs i).Returned := by
  have accessible := (steps_wellFounded (.any False)).apply s
  induction accessible with
  | intro s _ ih =>
      rcases ranked.progress draws bounded with ended | ⟨i, writes, middle, stepped⟩
      · exact ⟨[], s, .start, ended⟩
      · obtain ⟨history, s', rest, ended⟩ := ih middle ⟨i, writes, stepped⟩ (ranked.step stepped)
        exact ⟨_, s', (Reaches.step .start stepped).trans rest, ended⟩

end Runs
end Transactions
