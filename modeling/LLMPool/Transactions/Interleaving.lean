import LLMPool.Transactions.Program
import Mathlib.Data.Fintype.Basic
import Mathlib.Data.Fintype.Pi

/-! Interleaved programs under READ COMMITTED. A statement sees what is committed
when it runs and what its own transaction wrote, and waits for row locks. -/
namespace Transactions
variable {E : Engine} {ι : Type}

structure Proc (E : Engine) where
  prog : Prog E Unit
  calls : List (Call E)

namespace Proc

def start (prog : Prog E Unit) : Proc E := ⟨prog, []⟩

/-- A program that has returned has dropped the transaction it left open. -/
def session (p : Proc E) : Session E :=
  match p.prog with
  | .done _ => .idle
  | .call _ _ => Transactions.session p.calls

def Returned (p : Proc E) : Prop := p.prog = .done ()

instance (p : Proc E) : Decidable p.Returned :=
  match ready : p.prog with
  | .done () => isTrue ready
  | .call _ _ => isFalse (fun returned => nomatch ready.symm.trans returned)

end Proc

structure State (E : Engine) (ι : Type) where
  db : E.Db
  world : E.World
  procs : ι → Proc E

/-- What a set of runs allows: the calls that may fail, whether transactions run
one at a time, and when a program with these calls behind it may make a call. -/
structure Discipline (E : Engine) where
  faults : Op E → Prop
  serial : Prop
  admits : List (Call E) → Op E → E.Db → Prop

/-- Any interleaving, with any call failing or none. -/
def Discipline.any (faults : Prop) : Discipline E := ⟨fun _ => faults, False, fun _ _ _ => True⟩

/-- The writes made permanent by each process, newest first. -/
abbrev History (E : Engine) (ι : Type) := List (ι × List E.Write)

def History.record (history : History E ι) (i : ι) (writes : List E.Write) : History E ι :=
  match writes with
  | [] => history
  | _ :: _ => (i, writes) :: history

namespace State

def Free (s : State E ι) (i : ι) (locks : List E.Lock) : Prop :=
  ∀ j, j ≠ i → ∀ l ∈ locks, l ∉ (s.procs j).session.held

def Alone (s : State E ι) (i : ι) : Prop := ∀ j, j ≠ i → (s.procs j).session.isOpen = false

def starting (db : E.Db) (world : E.World) (program : ι → Prog E Unit) : State E ι :=
  ⟨db, world, fun i => .start (program i)⟩

variable [DecidableEq ι]

def advance (s : State E ι) (i : ι) (op : Op E) (next : Except Failure op.Reply → Prog E Unit)
    (reply : Except Failure op.Reply) (world : E.World) : State E ι where
  db := E.applyAll (op.commits (s.procs i).session reply) s.db
  world := world
  procs := Function.update s.procs i ⟨next reply, ⟨op, reply⟩ :: (s.procs i).calls⟩

end State

section Steps
variable [DecidableEq ι]

/-- Process `i` makes its next call; the index lists the writes this makes permanent. -/
inductive Step (D : Discipline E) (s : State E ι) (i : ι) : List E.Write → State E ι → Prop
  | run (op : Op E) (next : Except Failure op.Reply → Prog E Unit) (env : E.Env)
      (reply : Except Failure op.Reply)
      (ready : (s.procs i).prog = .call op next)
      (admitted : D.admits (s.procs i).calls op s.db)
      (alone : D.serial → s.Alone i)
      (performed : op.perform env (s.procs i).session s.db s.world = some reply)
      (free : s.Free i (op.takes reply)) :
      Step D s i (op.commits (s.procs i).session reply)
        (s.advance i op next reply (op.moves env s.world))
  | fault (op : Op E) (next : Except Failure op.Reply → Prog E Unit)
      (ready : (s.procs i).prog = .call op next)
      (faulty : D.faults op)
      (alone : D.serial → s.Alone i) :
      Step D s i [] (s.advance i op next (.error .fault) s.world)

inductive Reaches (D : Discipline E) (initial : State E ι) : History E ι → State E ι → Prop
  | start : Reaches D initial [] initial
  | step (reached : Reaches D initial history s) (stepped : Step D s i writes s') :
      Reaches D initial (history.record i writes) s'

variable {D : Discipline E} {s s' initial middle : State E ι} {i : ι}

theorem Op.commits_fault (t : Session E) (op : Op E) : op.commits t (.error .fault) = [] := by
  cases op <;> rfl

theorem Op.takes_fault (op : Op E) : op.takes (.error .fault) = [] := by
  cases op <;> rfl

/-- Both kinds of step at once: the program's next call gets a reply. -/
theorem Step.advanced (stepped : Step D s i writes s') :
    ∃ op next reply world, (s.procs i).prog = .call op next ∧
      ((D.faults op ∧ reply = .error .fault ∧ world = s.world) ∨
        (D.admits (s.procs i).calls op s.db ∧ ∃ env, world = op.moves env s.world ∧
          op.perform env (s.procs i).session s.db s.world = some reply)) ∧
      (D.serial → s.Alone i) ∧ s.Free i (op.takes reply) ∧
      writes = op.commits (s.procs i).session reply ∧ s' = s.advance i op next reply world := by
  cases stepped with
  | run op next env reply ready admitted alone performed free =>
      exact ⟨op, next, reply, _, ready, .inr ⟨admitted, env, rfl, performed⟩, alone, free, rfl, rfl⟩
  | fault op next ready faulty alone =>
      refine ⟨op, next, .error .fault, s.world, ready, .inl ⟨faulty, rfl, rfl⟩, alone, ?_,
        (op.commits_fault _).symm, rfl⟩
      simp only [State.Free, op.takes_fault, List.not_mem_nil, false_implies, implies_true]

theorem Step.db (stepped : Step D s i writes s') : s'.db = E.applyAll writes s.db := by
  obtain ⟨op, next, reply, world, _, _, _, _, rfl, rfl⟩ := stepped.advanced
  rfl

theorem State.mem_advance_calls {call : Call E} {world : E.World} (s : State E ι) :
    call ∈ ((s.advance i op next reply world).procs j).calls ↔
      (j = i ∧ call = ⟨op, reply⟩) ∨ call ∈ (s.procs j).calls := by
  by_cases here : j = i
  · subst here
    simp only [State.advance, Function.update_self, List.mem_cons, true_and]
  · simp only [State.advance, Function.update_of_ne here, here, false_and, false_or]

theorem State.suffix_advance_calls {call : Call E} {older : List (Call E)} {reply : Except Failure op.Reply}
    {world : E.World} (s : State E ι) (inside : call :: older <:+ ((s.advance i op next reply world).procs j).calls) :
    (j = i ∧ call = ⟨op, reply⟩ ∧ older = (s.procs i).calls) ∨ call :: older <:+ (s.procs j).calls := by
  by_cases here : j = i
  · subst here
    simp only [State.advance, Function.update_self] at inside
    rcases List.suffix_cons_iff.mp inside with now | before
    · exact .inl ⟨rfl, List.cons.inj now⟩
    · exact .inr before
  · simp only [State.advance, Function.update_of_ne here] at inside
    exact .inr inside

theorem State.mem_advance_permanent {w : E.Write} {world : E.World} (s : State E ι) :
    w ∈ permanent ((s.advance i op next reply world).procs j).calls ↔
      (j = i ∧ w ∈ op.commits (Transactions.session (s.procs i).calls) reply) ∨
        w ∈ permanent (s.procs j).calls := by
  by_cases here : j = i
  · subst here
    simp only [State.advance, Function.update_self, permanent, List.mem_append, true_and]
    exact or_comm
  · simp only [State.advance, Function.update_of_ne here, here, false_and, false_or]

theorem Reaches.trans (first : Reaches D initial earlier middle)
    (second : Reaches D middle later s) : Reaches D initial (later ++ earlier) s := by
  induction second with
  | start => exact first
  | @step history _ _ writes _ _ stepped ih =>
      have next := Reaches.step ih stepped
      cases writes <;> exact next

/-- Where there are no locks and every statement can draw what it needs, no program is stuck. -/
theorem State.steps [IsEmpty E.Lock] (draws : ∀ st db, ∃ env, E.possible st env db = true)
    (drawn : E.Env) (s : State E ι) (i : ι) : (s.procs i).Returned ∨ ∃ writes s', Step (.any False) s i writes s' := by
  cases ready : (s.procs i).prog with
  | done value => exact .inl ready
  | call op next =>
      have performs : ∃ env reply, op.perform env (s.procs i).session s.db s.world = some reply := by
        have answers : ∀ (st : E.Stmt) db, ∃ env reply, Op.answer st env db = some reply := by
          intro st db
          obtain ⟨env, possible⟩ := draws st db
          refine ⟨env, ?_⟩
          rw [Op.answer, if_pos possible]
          cases E.exec st env db <;> exact ⟨_, rfl⟩
        cases op with
        | begin => exact ⟨drawn, _, rfl⟩
        | commit => exact ⟨drawn, _, rfl⟩
        | remote c => exact ⟨drawn, _, rfl⟩
        | auto st => exact answers st s.db
        | sql st =>
            simp only [Op.perform]
            split
            · exact answers st _
            · exact ⟨drawn, _, rfl⟩
      obtain ⟨env, reply, performed⟩ := performs
      exact .inr ⟨_, _, .run op next env reply ready trivial False.elim performed (fun _ _ l => isEmptyElim l)⟩

end Steps

/-- A discipline whose permissions can be evaluated. -/
class Discipline.Decides (D : Discipline E) where
  faults : ∀ op, Decidable (D.faults op)
  serial : Decidable D.serial
  admits : ∀ calls op db, Decidable (D.admits calls op db)

instance {D : Discipline E} [D.Decides] (op : Op E) : Decidable (D.faults op) :=
  Discipline.Decides.faults op

instance {D : Discipline E} [D.Decides] : Decidable D.serial := Discipline.Decides.serial

instance {D : Discipline E} [D.Decides] (calls : List (Call E)) (op : Op E) (db : E.Db) :
    Decidable (D.admits calls op db) :=
  Discipline.Decides.admits calls op db

instance [Decidable faults] : (Discipline.any faults : Discipline E).Decides where
  faults _ := inferInstanceAs (Decidable faults)
  serial := inferInstanceAs (Decidable False)
  admits _ _ _ := inferInstanceAs (Decidable True)

inductive Turn (E : Engine) where
  | run (env : E.Env)
  | fail

section Execution
variable [DecidableEq ι] [Fintype ι] [DecidableEq E.Lock] {D : Discipline E} [D.Decides]
  {s s' : State E ι} {i : ι} {turn : Turn E}

instance (s : State E ι) (i : ι) (locks : List E.Lock) : Decidable (s.Free i locks) := by
  unfold State.Free
  infer_instance

instance (s : State E ι) (i : ι) : Decidable (s.Alone i) := by
  unfold State.Alone
  infer_instance

/-- A scheduler that picks the process and what its call meets. -/
def State.take (D : Discipline E) [D.Decides] (s : State E ι) (i : ι) : Turn E → Option (State E ι)
  | .run env =>
      match (s.procs i).prog with
      | .done _ => none
      | .call op next =>
          match op.perform env (s.procs i).session s.db s.world with
          | none => none
          | some reply =>
              if D.admits (s.procs i).calls op s.db ∧ (D.serial → s.Alone i) ∧
                  s.Free i (op.takes reply) then
                some (s.advance i op next reply (op.moves env s.world))
              else none
  | .fail =>
      match (s.procs i).prog with
      | .done _ => none
      | .call op next =>
          if D.faults op ∧ (D.serial → s.Alone i) then
            some (s.advance i op next (.error .fault) s.world)
          else none

def State.play (D : Discipline E) [D.Decides] (s : State E ι) :
    List (ι × Turn E) → Option (State E ι)
  | [] => some s
  | (i, turn) :: rest => (s.take D i turn).bind (fun s' => s'.play D rest)

theorem State.step_of_take (taken : s.take D i turn = some s') :
    ∃ writes, Step D s i writes s' := by
  cases turn with
  | run env =>
      simp only [State.take] at taken
      split at taken
      · cases taken
      · rename_i op next ready
        split at taken
        · cases taken
        · rename_i reply performed
          split at taken
          · rename_i permitted
            obtain ⟨admitted, alone, free⟩ := permitted
            cases taken
            exact ⟨_, .run op next env reply ready admitted alone performed free⟩
          · cases taken
  | fail =>
      simp only [State.take] at taken
      split at taken
      · cases taken
      · rename_i op next ready
        split at taken
        · rename_i permitted
          cases taken
          exact ⟨_, .fault op next ready permitted.1 permitted.2⟩
        · cases taken

theorem State.reaches_of_play {script : List (ι × Turn E)} (played : s.play D script = some s') :
    ∃ history, Reaches D s history s' := by
  induction script generalizing s with
  | nil =>
      cases played
      exact ⟨[], .start⟩
  | cons entry rest ih =>
      obtain ⟨i, turn⟩ := entry
      obtain ⟨middle, taken, played⟩ := Option.bind_eq_some_iff.mp played
      obtain ⟨writes, stepped⟩ := step_of_take taken
      obtain ⟨history, reached⟩ := ih played
      exact ⟨_, (Reaches.step .start stepped).trans reached⟩

/-- A schedule that ends in a state of a given kind is a run to such a state. -/
theorem State.exists_of_play (D : Discipline E) [D.Decides] (s : State E ι)
    (script : List (ι × Turn E)) (P : State E ι → Prop) [DecidablePred P]
    (played : (s.play D script).any (fun s' => decide (P s')) = true) :
    ∃ history s', Reaches D s history s' ∧ P s' := by
  cases final : s.play D script with
  | none =>
      rw [final] at played
      cases played
  | some s' =>
      rw [final] at played
      obtain ⟨history, reached⟩ := reaches_of_play final
      exact ⟨history, s', reached, of_decide_eq_true played⟩

end Execution
end Transactions
